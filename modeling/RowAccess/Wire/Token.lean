import RowAccess.Token.Program
import RowAccess.Wire.Session

/-!
Contract: the JSON forms of token programs and their results.

The text of a failure that a database engine words itself is not part of a
result; it is null there.

Owns:
- the readers of a gate's settings, faults and steps.
- the forms of the results.
-/

namespace RowAccess.Wire

def gateSettings (json : Json) : Decoded GateSettings := do
  let maxHeaderBytes ← optionalField "max_header_bytes" count json
  return ⟨← textField "scheme" json, maxHeaderBytes.getD GateSettings.standard.maxHeaderBytes⟩

/-- Calls that fail each time they are made. -/
def storeFaults (json : Json) : Decoded StoreFaults := do
  let find ← optionalField "find" storeError json
  let delete ← optionalField "delete" storeError json
  let touch ← optionalField "touch" storeError json
  let load ← optionalField "load" storeError json
  return fun _ call =>
    match call with
    | .find _ => find
    | .delete _ => delete
    | .touch _ _ => touch
    | .load _ => load

def journalMode (json : Json) : Decoded JournalMode := do
  let written ← text json
  expect "journal_mode" (JournalMode.all.find? (fun mode => mode.name = written))

def token (json : Json) : Decoded TokenValue := do return ⟨← repeatedText json⟩

def tokenField (name : String) (json : Json) : Decoded TokenValue := do
  token (← field name json)

def instantField (name : String) (json : Json) : Decoded Instant := do
  instant (← field name json)

def credential (json : Json) : Decoded Credential := do
  return {
    token := ← tokenField "token" json
    owner := ⟨← textField "owner" json⟩
    issuedAt := ← instantField "issued_at" json
    expiresAt := ← instantField "expires_at" json
    lastUsedAt := ← optionalField "last_used_at" instant json }

/-- A value as a cell of a row. -/
def cell : Json → Cell
  | .null => .null
  | .bool value => .integer (if value then 1 else 0)
  | .number value => Cell.ofNumber value
  | .string value => .text value
  | json => .text json.print

def cellField (name : String) (json : Json) : Cell := cell ((json.field? name).getD .null)

def gateStep (json : Json) : Decoded GateStep := do
  let header := optionalField "header" repeatedText json
  match ← textField "do" json with
  | "principal" => return .principal (← principal (← field "principal" json))
  | "credential" => return .credential (← credential json)
  | "set_clock" => return .setClock (← instantField "now" json)
  | "advance" => return .advance (← integer (← field "nanos" json))
  | "request" => return .request (← requestContext json) (← header)
  | "again" => return .again (← header)
  | "parse_header" => return .parseHeader (← header)
  | "settings" => return .settings
  | "find" => return .find (← tokenField "token" json)
  | "delete_token" => return .delete (← tokenField "token" json)
  | "touch" => return .touch (← tokenField "token" json) (← instantField "at" json)
  | "load" => return .load ⟨← textField "id" json⟩
  | "reopen" => return .reopen
  | "open" =>
      let mode ← optionalField "journal_mode" journalMode json
      return .openAt (← repeatedText (← field "name" json)) (mode.getD .wal)
  | "journal_mode" => return .journalMode
  | "raw_principal" =>
      return .writePrincipal (cellField "id" json)
        ⟨cellField "superuser" json, cellField "permissions_json" json⟩
  | "raw_token" =>
      return .writeToken (cellField "token" json)
        { owner := cellField "owner" json
          issuedAt := cellField "issued_at" json
          expiresAt := cellField "expires_at" json
          lastUsedAt := cellField "last_used_at" json }
  | "raw_version" => return .writeVersion (cellField "version" json)
  | "raw_clear_version" => return .clearVersion
  | other => .error (.malformed other)

def gateSteps (json : Json) : Decoded (List GateStep) := (listField "steps" json).mapM gateStep

/-- The directory that databases are kept in. -/
def workDirectory : String := "/tmp/row-access"

/-- A store in memory, or a new database in the directory. -/
def backend (json : Json) : Decoded CredentialBackend := do
  match (textField? "store" json).getD "memory" with
  | "memory" => return .memory MemoryStore.empty
  | "sqlite" =>
      let settings := DatabaseSettings.ofPath (Location.join workDirectory "auth.sqlite")
      match DurableStore.create (DirectoryTree.around workDirectory) settings with
      | .ok store => return .durable store
      | .error error => .error (.malformed error.message)
  | other => .error (.malformed other)

def gateWorld (json : Json) : Decoded GateWorld := do
  let settings ← optionalField "settings" gateSettings json
  let faults ← optionalField "fail" storeFaults json
  return {
    clock := ← instantField "now" json
    backend := ← backend json
    settings := settings.getD GateSettings.standard
    faults := faults.getD (fun _ _ => none)
    directory := workDirectory
    trail := []
    latest := RequestContext.anonymous .get none }

/-- Without faults of its own, an input shows no text of an engine. -/
def hidesEngineText (json : Json) : Bool := (field? "fail" json).isNone

/-- Whether the text of a store error is the engine's own. -/
def isEngineText (error : StoreError) : Bool :=
  match error.kind with
  | .store | .corrupt | .io => true
  | .versionMismatch | .invalid => false

/-- A store error, with its text where it is not hidden. -/
def encodeStoreFailure (hidesText : Bool) (error : StoreError) : Json :=
  Json.ofFields
    [("error", .string error.kind.name),
     ("message",
       if hidesText && isEngineText error then .null else .string error.message)]

/-- An error as the database itself reports it. -/
def encodeDatabaseFailure (error : StoreError) : Json :=
  Json.ofFields
    [("error", .string error.databaseKindName),
     ("mapped", .string error.kind.name),
     ("message", if isEngineText error then .null else .string error.databaseMessage)]

def encodeTokenError (hidesText : Bool) (error : TokenError) : Json :=
  Json.ofFields
    [("error", .string error.code),
     ("message",
       match error with
       | .store cause => encodeStoreFailure hidesText cause
       | _ => .string error.message),
     ("http_status", Json.integer error.httpStatus),
     ("body", error.httpBody)]

def encodeVerdict (hidesText : Bool) : Except TokenError GateVerdict → Json
  | .ok verdict => Json.ofFields [("ok", .string verdict.name)]
  | .error error => encodeTokenError hidesText error

def encodeContext (context : RequestContext) : List (String × Json) :=
  [("principal", encodePrincipal context.principal),
   ("authenticated", .bool context.authenticated),
   ("request_id", Json.ofOption .string context.requestId),
   ("method", .string context.method.name)]

def encodeCredential (now : Instant) (credential : Credential) : Json :=
  Json.ofFields
    [("token", .string credential.token.text),
     ("owner", .string credential.owner.text),
     ("issued_at", encodeInstant credential.issuedAt),
     ("expires_at", encodeInstant credential.expiresAt),
     ("last_used_at", Json.ofOption encodeInstant credential.lastUsedAt),
     ("expired", .bool (credential.isExpired now))]

def encodeGateSettings (settings : GateSettings) : Json :=
  Json.ofFields
    [("scheme", .string settings.scheme),
     ("max_header_bytes", Json.integer settings.maxHeaderBytes)]

def encodeGateStep (hidesText : Bool) : GateStepResult → Json
  | .done => .string "ok"
  | .clock time => encodeInstant time
  | .request outcome context =>
      Json.ofFields
        (("result", encodeVerdict hidesText outcome) ::
          ("csrf_exempt", .bool context.csrfExempt) :: encodeContext context)
  | .token token => Json.ofOption .string (token.map Label.text)
  | .settings settings => encodeGateSettings settings
  | .credential found now => Json.ofOption (encodeCredential now) found
  | .flag value => .bool value
  | .principal found => Json.ofOption encodePrincipal found
  | .storeFailure error => encodeStoreFailure hidesText error
  | .databaseFailure error => encodeDatabaseFailure error
  | .mode mode => .string mode.name
  | .rows count => Json.ofFields [("rows", Json.integer count)]
  | .refused => Json.ofFields [("error", .string "RawSql")]
  | .inapplicable => Json.ofFields [("error", .string "BadInput")]

end RowAccess.Wire
