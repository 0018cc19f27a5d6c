import RowAccess.Config.Basic
import RowAccess.Config.Defect
import RowAccess.Identity.Resource
import RowAccess.Record.Path
import RowAccess.Request.Action
import RowAccess.Text.Blank

/-!
Contract: which configurations are accepted.

The parts are checked in a fixed order and the first defect is reported:
permissions by name, token gate, credential store, audit, relations in order.

Owns:
- the check of each part.
- the reading of a relation's resource, scope and path.
-/

namespace RowAccess

abbrev Checked (α : Type) := Except ConfigDefect α

/-- Requires a condition, which fails as a defect. -/
def demand (condition : Bool) (defect : ConfigDefect) : Checked Unit :=
  if condition then .ok () else .error defect

def isScopeCharacter (character : Char) : Bool := character.isAlphanum || character = '_'

/-- What is wrong with a scope's name, blanks around it aside. -/
def ScopeNameDefect.of? (written : String) : Option ScopeNameDefect :=
  let trimmed := Text.trim written
  if trimmed.isEmpty then some .empty
  else if ConfigLimit.scopeBytes < trimmed.utf8ByteSize then some .tooLong
  else if trimmed.toList.all isScopeCharacter then none
  else some (.malformed trimmed)

namespace GrantSetting

/-- The permission key, without blanks around it. -/
def key (grant : GrantSetting) : PermissionKey := ⟨Text.trim grant.permission⟩

def scopeName (grant : GrantSetting) : Option ScopeName :=
  grant.scope.map (fun scope => ⟨Text.trim scope⟩)

/-- A grant needs a well-formed key, and only the four standard actions can
carry a scope. -/
def check (name : String) (grant : GrantSetting) : Checked Unit :=
  let key := grant.key
  if ConfigLimit.permissionBytes < key.text.utf8ByteSize then .error (.keyTooLong name)
  else
    match key.parts? with
    | none => .error (.keyMalformed name key.text)
    | some parts =>
        match grant.scope with
        | none => .ok ()
        | some scope =>
            match ScopeNameDefect.of? scope with
            | some defect => .error (.grantScope name defect)
            | none =>
                demand (PermissionAction.parse parts.action).crud?.isSome
                  (.scopedCustomAction name key.text)

end GrantSetting

/-- A permission string and its grants. -/
def checkPermissionString (name : String) (grants : List GrantSetting) : Checked Unit := do
  demand (!name.isEmpty && Text.trim name = name) .blankString
  demand (name.utf8ByteSize ≤ ConfigLimit.permissionBytes) (.stringTooLong name)
  demand (grants.length ≤ ConfigLimit.grantsPerString) (.tooManyGrants name)
  grants.forM (fun grant => grant.check name)

def checkPermissions (permissions : OrderedMap String (List GrantSetting)) : Checked Unit := do
  demand (permissions.size ≤ ConfigLimit.permissionStrings) .tooManyStrings
  permissions.entries.forM (fun entry => checkPermissionString entry.1 entry.2)

/-- The characters of header names and schemes. -/
def isTokenCharacter (character : Char) : Bool :=
  character.isAlphanum || "!#$%&'*+-.^_`|~".toList.contains character

namespace TokenSettings

def check (settings : TokenSettings) : Checked Unit := do
  demand (!settings.scheme.isEmpty && settings.scheme.utf8ByteSize ≤ ConfigLimit.schemeBytes)
    .schemeLength
  demand (settings.scheme.toList.all isTokenCharacter) .schemeMalformed
  demand (!settings.header.isEmpty && settings.header.utf8ByteSize ≤ ConfigLimit.headerNameBytes)
    .headerLength
  demand (settings.header.toList.all isTokenCharacter) .headerMalformed
  demand (settings.scheme.utf8ByteSize + 1 < settings.maxHeaderBytes &&
      settings.maxHeaderBytes ≤ ConfigLimit.headerBytes)
    .headerBytes

end TokenSettings

/-- Requires a path to keep the limits of paths. -/
def checkPath (path : String) (defect : Location.PathDefect → ConfigDefect) : Checked Unit :=
  match Location.defect? path with
  | some found => .error (defect found)
  | none => .ok ()

namespace CredentialSettings

def check (settings : CredentialSettings) : Checked Unit :=
  match settings.kind, settings.path with
  | .memory, none => .ok ()
  | .memory, some _ => .error .memoryWithPath
  | .database, none => .error .databaseWithoutPath
  | .database, some path => do
      demand (!(Text.trim path).isEmpty) .storePathEmpty
      checkPath path .storePath
      demand (ConfigLimit.leastTimeoutMs ≤ settings.busyTimeoutMs &&
          settings.busyTimeoutMs ≤ ConfigLimit.greatestTimeoutMs)
        .busyTimeout

end CredentialSettings

namespace AuditSettings

def check (settings : AuditSettings) : Checked Unit :=
  match settings.target, settings.path with
  | .file, none => .error .auditWithoutPath
  | .file, some path => do
      demand (!(Text.trim path).isEmpty) .auditPathEmpty
      checkPath (Text.trim path) .auditPath
  | _, some _ => .error .auditPathUnused
  | _, none => .ok ()

end AuditSettings

/-- A relation with its parts read. -/
structure BoundRelation where
  resource : ResourceType
  scope : ScopeName
  path : FieldPath
deriving DecidableEq, Repr

namespace RelationSetting

/-- Reads a relation's parts, blanks around them aside. -/
def read (relation : RelationSetting) : Checked BoundRelation :=
  match ResourceType.parse? (Text.trim relation.resource) with
  | none => .error (.relationResource relation.resource)
  | some resource =>
      match ScopeNameDefect.of? relation.scope with
      | some defect => .error (.relationScope defect)
      | none =>
          let scope : ScopeName := ⟨Text.trim relation.scope⟩
          if scope = ScopeName.all then .error (.relationBuiltin resource.label)
          else
            match FieldPath.parse? (Text.trim relation.path) with
            | none => .error (.relationPath relation.path)
            | some path => .ok ⟨resource, scope, path⟩

/-- Reads relations in turn, none of which may bind a scope bound already. -/
def checkEach (seen : List (ResourceType × ScopeName)) : List RelationSetting → Checked Unit
  | [] => .ok ()
  | relation :: rest => do
      let bound ← relation.read
      demand (!seen.contains (bound.resource, bound.scope))
        (.relationDuplicate bound.scope.text bound.resource.label)
      checkEach ((bound.resource, bound.scope) :: seen) rest

end RelationSetting

def checkRelations (relations : List RelationSetting) : Checked Unit := do
  demand (relations.length ≤ ConfigLimit.relations) .tooManyRelations
  RelationSetting.checkEach [] relations

namespace AccessConfig

def check (config : AccessConfig) : Checked Unit := do
  checkPermissions config.permissions
  config.tokenAuth.check
  config.credentialStore.check
  config.audit.check
  checkRelations config.relations

end AccessConfig

end RowAccess
