import RowAccess.Store.Durable

/-!
Contract: what can be wrong with a configuration.

Owns:
- the limits that a configuration has to keep.
- the defects and their texts, and the failures to load a configuration.
-/

namespace RowAccess

namespace ConfigLimit

def fileBytes : Nat := 1024 * 1024
def permissionStrings : Nat := 1024
def grantsPerString : Nat := 256
def permissionBytes : Nat := 256
def scopeBytes : Nat := 128
def schemeBytes : Nat := 64
def headerNameBytes : Nat := 128
def headerBytes : Nat := 64 * 1024
def relations : Nat := 256
def leastTimeoutMs : Nat := 10
def greatestTimeoutMs : Nat := 60000

end ConfigLimit

/-- What is wrong with the name of a scope. -/
inductive ScopeNameDefect where
  | empty
  | tooLong
  | malformed (trimmed : String)
deriving DecidableEq, Repr

def ScopeNameDefect.message (place : String) : ScopeNameDefect → String
  | .empty => place ++ " must be non-empty"
  | .tooLong => place ++ " exceeds " ++ toString ConfigLimit.scopeBytes ++ " characters"
  | .malformed trimmed =>
      place ++ " `" ++ trimmed ++ "` must contain only letters, digits, and underscores"

inductive ConfigDefect where
  | fileTooLarge
  | fileNotUtf8
  | configPath (defect : Location.PathDefect)
  | tooManyStrings
  | blankString
  | stringTooLong (name : String)
  | tooManyGrants (name : String)
  | keyTooLong (name : String)
  | keyMalformed (name key : String)
  | grantScope (name : String) (defect : ScopeNameDefect)
  | scopedCustomAction (name key : String)
  | schemeLength
  | schemeMalformed
  | headerLength
  | headerMalformed
  | headerBytes
  | memoryWithPath
  | databaseWithoutPath
  | storePathEmpty
  | storePath (defect : Location.PathDefect)
  | busyTimeout
  | auditWithoutPath
  | auditPathUnused
  | auditPathEmpty
  | auditPath (defect : Location.PathDefect)
  | tooManyRelations
  | relationResource (written : String)
  | relationScope (defect : ScopeNameDefect)
  | relationBuiltin (resource : String)
  | relationPath (written : String)
  | relationDuplicate (scope resource : String)
deriving DecidableEq, Repr

namespace ConfigDefect

def message : ConfigDefect → String
  | .fileTooLarge => "config file exceeds size limit"
  | .fileNotUtf8 => "config file must be utf-8"
  | .configPath .tooLong => "config path exceeds max length"
  | .configPath .componentTooLong => "config path component too long"
  | .tooManyStrings =>
      "permissions exceeds max entries (" ++ toString ConfigLimit.permissionStrings ++ ")"
  | .blankString => "permission strings must be non-empty without surrounding whitespace"
  | .stringTooLong name => "permission string " ++ name ++ " too long"
  | .tooManyGrants name =>
      "permissions." ++ name ++ " exceeds max grants (" ++
        toString ConfigLimit.grantsPerString ++ ")"
  | .keyTooLong name => "permissions." ++ name ++ ": permission key too long"
  | .keyMalformed name key =>
      "permissions." ++ name ++ ": invalid permission key `" ++ key ++
        "`, expected app.action_model"
  | .grantScope name defect => defect.message ("permissions." ++ name ++ ".scope")
  | .scopedCustomAction name key =>
      "permissions." ++ name ++ ": custom action `" ++ key ++ "` cannot carry a scope"
  | .schemeLength =>
      "token_auth.scheme must be 1 to " ++ toString ConfigLimit.schemeBytes ++ " characters"
  | .schemeMalformed => "token_auth.scheme must be a single token without whitespace"
  | .headerLength =>
      "token_auth.header must be 1 to " ++ toString ConfigLimit.headerNameBytes ++ " characters"
  | .headerMalformed => "token_auth.header must be a valid header name"
  | .headerBytes =>
      "token_auth.max_header_bytes must exceed the scheme length and be at most " ++
        toString ConfigLimit.headerBytes
  | .memoryWithPath => "memory credential_store must not set path"
  | .databaseWithoutPath => "sqlite credential_store requires path"
  | .storePathEmpty => "credential_store path must be non-empty"
  | .storePath .tooLong => "credential_store path exceeds max length"
  | .storePath .componentTooLong => "credential_store path component too long"
  | .busyTimeout =>
      "credential_store.busy_timeout_ms must be between " ++
        toString ConfigLimit.leastTimeoutMs ++ " and " ++
        toString ConfigLimit.greatestTimeoutMs ++ " milliseconds"
  | .auditWithoutPath => "file audit sink requires path"
  | .auditPathUnused => "audit.path is only valid for the file sink"
  | .auditPathEmpty => "audit.path must be non-empty"
  | .auditPath .tooLong => "audit.path exceeds max length"
  | .auditPath .componentTooLong => "audit.path path component too long"
  | .tooManyRelations =>
      "relations exceeds max entries (" ++ toString ConfigLimit.relations ++ ")"
  | .relationResource written =>
      "relations: invalid resource `" ++ written ++ "`, expected app.model"
  | .relationScope defect => defect.message "relations.scope"
  | .relationBuiltin resource =>
      "relations: scope `all` is builtin and cannot be bound on " ++ resource
  | .relationPath written => "relations: invalid path `" ++ written ++ "`"
  | .relationDuplicate scope resource =>
      "relations: duplicate scope " ++ scope ++ " on " ++ resource

end ConfigDefect

/-- Why there is no configuration, or nothing can be built from one. -/
inductive ConfigError where
  | parse
  | invalid (defect : ConfigDefect)
  | unreadable
  | database (error : StoreError)
  | auditFile
deriving DecidableEq, Repr

end RowAccess
