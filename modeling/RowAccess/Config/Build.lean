import RowAccess.Config.Check
import RowAccess.Grant.Map
import RowAccess.Scope.Relation
import RowAccess.Store.Backend
import RowAccess.Token.Header

/-!
Contract: what a configuration sets up.

Owns:
- the permission map, the settings of the gate and the relation scopes.
- the credential store, and the file for audit events.
-/

namespace RowAccess

namespace AccessConfig

/-- The configured grants by permission string, in their order. -/
def grants (config : AccessConfig) : List (String × PermissionGrant) :=
  config.permissions.entries.flatMap (fun entry =>
    entry.2.map (fun grant => (entry.1, ⟨grant.key, grant.scopeName⟩)))

def permissionMap (config : AccessConfig) : PermissionMap := PermissionMap.ofList config.grants

/-- The relations of a resource. A relation of any resource that cannot be
read is an error. -/
def relationsOf (config : AccessConfig) (resource : ResourceType) :
    Checked (List BoundRelation) := do
  let bound ← config.relations.mapM RelationSetting.read
  return bound.filter (fun relation => relation.resource = resource)

/-- The relation scopes of a resource, if it has any. -/
def relationScopes (config : AccessConfig) (resource : ResourceType) (related : RelatedLookup) :
    Checked (Option RelationScopes) := do
  let bound ← config.relationsOf resource
  if bound.isEmpty then return none
  else
    return some
      ⟨OrderedMap.ofList (bound.map (fun relation => (relation.scope, relation.path))), related⟩

end AccessConfig

def TokenSettings.gate (settings : TokenSettings) : GateSettings :=
  ⟨settings.scheme, settings.maxHeaderBytes⟩

namespace CredentialSettings

/-- Opens the configured store among the given directories and files. -/
def open? (settings : CredentialSettings) (tree : StoredTree) :
    Except ConfigError CredentialBackend :=
  match settings.kind, settings.path with
  | .memory, _ => .ok (.memory MemoryStore.empty)
  | .database, none => .error (.invalid .databaseWithoutPath)
  | .database, some path =>
      match DurableStore.create tree
          ⟨path, settings.busyTimeoutMs, settings.journalMode, settings.syncMode⟩ with
      | .ok store => .ok (.durable store)
      | .error error => .error (.database error)

end CredentialSettings

namespace AuditSettings

/-- Opens a file of lines at a path, if its directory exists and its name is one
that a file can have. -/
def openLines (path : String) (tree : StoredTree) : Option StoredTree :=
  if (Location.defect? path).isNone && Location.namesFile path && Location.canLookUp path then
    (tree.locate? (Location.components path)).bind (fun location =>
      tree.openFile .lines location)
  else none

/-- The path that audit events are appended to, if there is one, and the files
with that one opened. -/
def opened? (settings : AuditSettings) (tree : StoredTree) :
    Except ConfigError (Option (String × StoredTree)) :=
  match settings.target, settings.path with
  | .file, none => .error (.invalid .auditWithoutPath)
  | .file, some path =>
      match openLines path tree with
      | some next => .ok (some (path, next))
      | none => .error .auditFile
  | _, _ => .ok none

end AuditSettings

end RowAccess
