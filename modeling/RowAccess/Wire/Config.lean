import RowAccess.Config.Build
import RowAccess.Config.Load
import RowAccess.Wire.Token

/-!
Contract: the JSON forms of configurations and of what they set up.

Owns:
- the readers of configurations and of worlds that a configuration sets up.
- the forms of configurations and of their errors.
-/

namespace RowAccess.Wire

/-- A JSON value as a configuration, accepted unless that is left out. -/
def configOfJson (unchecked : Bool) (json : Json) : Except ConfigError AccessConfig :=
  match AccessConfig.read .json (SourceValue.ofJson json) with
  | none => .error .parse
  | some config => if unchecked then .ok config else config.accept

def config (json : Json) : Decoded (Except ConfigError AccessConfig) := do
  match field? "toml" json with
  | some form => return AccessConfig.ofText (← repeatedText form)
  | none =>
      return configOfJson (flagField "unchecked" json) ((json.field? "json").getD .null)

/-- The path of a file that can be read. -/
def scratchPath : String := Location.join workDirectory "config.toml"

def byte (json : Json) : Decoded UInt8 := do return (← count json).toUInt8

/-- A configuration loaded from a path, or from a file with given content. -/
def loadedConfig (json : Json) : Decoded (Except ConfigError AccessConfig) := do
  match field? "content" json, field? "bytes" json, field? "path" json with
  | some form, _, _ =>
      return AccessConfig.ofPath scratchPath (some (← repeatedText form).toUTF8)
  | none, some form, _ =>
      return AccessConfig.ofPath scratchPath
        (some (ByteArray.mk (← (← list form).mapM byte).toArray))
  | none, none, some form => return AccessConfig.ofPath (← repeatedText form) none
  | none, none, none => return .error .unreadable

def encodeConfigError : ConfigError → Json
  | .parse => Json.ofFields [("error", .string "Parse")]
  | .unreadable | .auditFile => Json.ofFields [("error", .string "Io")]
  | .invalid defect =>
      Json.ofFields
        [("error", .string "Invalid"), ("message", .string ("invalid config: " ++ defect.message))]
  | .database error =>
      if isEngineText error then Json.ofFields [("error", .string "Io")]
      else
        Json.ofFields
          [("error", .string "Io"),
           ("message", .string ("config io error: " ++ error.databaseMessage))]

def storeKindLabel : CredentialStoreKind → String
  | .memory => "Memory"
  | .database => "Sqlite"

def auditTargetLabel : AuditTarget → String
  | .stderr => "Stderr"
  | .file => "File"
  | .discard => "None"

def encodeTokenSettings (settings : TokenSettings) : Json :=
  Json.ofFields
    [("scheme", .string settings.scheme),
     ("header", .string settings.header),
     ("max_header_bytes", Json.integer settings.maxHeaderBytes)]

def encodeCredentialSettings (settings : CredentialSettings) : Json :=
  Json.ofFields
    [("type", .string (storeKindLabel settings.kind)),
     ("path", Json.ofOption .string settings.path),
     ("busy_timeout_ms", Json.integer settings.busyTimeoutMs),
     ("journal_mode", .string settings.journalMode.name),
     ("sync_mode", .string settings.syncMode.name)]

def encodeDatabaseSettings (settings : DatabaseSettings) : Json :=
  Json.ofFields
    [("path", .string settings.path),
     ("busy_timeout_ms", Json.integer settings.busyTimeoutMs),
     ("journal_mode", .string settings.journalMode.name),
     ("sync_mode", .string settings.syncMode.name)]

def encodeAuditSettings (settings : AuditSettings) : Json :=
  Json.ofFields
    [("sink", .string (auditTargetLabel settings.target)),
     ("path", Json.ofOption .string settings.path)]

/-- The path of each asked scope, where a resource has relation scopes. -/
def encodeRelationScopes (asked : List String) (scopes : RelationScopes) : Json :=
  Json.ofFields (asked.map (fun name =>
    (name, Json.ofOption encodePath (scopes.path? ⟨name⟩))))

/-- A resource and the scopes that are asked for. -/
def relationQuestion (json : Json) : Decoded (ResourceType × List String) := do
  let (label, scopes) ← pair json
  return (← resource label, ← texts scopes)

def encodeConfig (questions : List (ResourceType × List String)) (config : AccessConfig) : Json :=
  let map := config.permissionMap
  let relations := questions.map (fun question =>
    match config.relationScopes question.1 (RelatedRecord.lookup []) with
    | .error defect => encodeConfigError (.invalid defect)
    | .ok scopes => Json.ofOption (encodeRelationScopes question.2) scopes)
  Json.ofFields
    [("permissions", encodePermissionMap map),
     ("validate", encodeCheck map.validate),
     ("token_auth", encodeTokenSettings config.tokenAuth),
     ("credential_store", encodeCredentialSettings config.credentialStore),
     ("audit", encodeAuditSettings config.audit),
     ("relation_count", Json.integer config.relations.length),
     ("relations", .array relations)]

/-- The answer to an input that asks about a configuration. -/
def describeConfig (json : Json) (outcome : Except ConfigError AccessConfig) : Decoded Json := do
  match outcome with
  | .error error => return encodeConfigError error
  | .ok found =>
      return encodeConfig (← (listField "relations_of" json).mapM relationQuestion) found

/-- A world that a configuration sets up, and where its audit events go. -/
structure ConfiguredWorld where
  world : GateWorld
  sink : AuditSink

/-- Sets up what a configuration says in the working directory. -/
def setUp (clock : Instant) (text : String) : Except ConfigError ConfiguredWorld := do
  let config ← AccessConfig.ofText (text.replace "\x7btmp\x7d" workDirectory)
  let backend ← config.credentialStore.open? (DirectoryTree.around workDirectory)
  let tree :=
    match backend with
    | .memory _ => DirectoryTree.around workDirectory
    | .durable store => store.tree
  let audit ← config.audit.opened? tree
  let settled :=
    match backend, audit with
    | .durable store, some opened => .durable { store with tree := opened.2 }
    | _, _ => backend
  return {
    world :=
      { clock := clock
        backend := settled
        settings := config.tokenAuth.gate
        faults := fun _ _ => none
        directory := workDirectory
        trail := []
        latest := RequestContext.anonymous .get none }
    sink := if audit.isSome then .file else .noop }

/-- The world of an input that gives a configuration. -/
def configuredWorld (json : Json) : Decoded (Option (Except ConfigError ConfiguredWorld)) := do
  match field? "config" json with
  | none => return none
  | some form => return some (setUp (← instantField "now" json) (← repeatedText form))

end RowAccess.Wire
