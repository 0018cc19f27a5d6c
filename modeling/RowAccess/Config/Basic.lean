import RowAccess.Ordered.Map
import RowAccess.Ordered.Set
import RowAccess.Store.Settings

/-!
Contract: the configuration of access control.

Texts are kept as they were written; blanks around them are removed where they
are used.

Owns:
- the settings of permissions, token gate, credential store, audit and
  relations, and their standard values.
-/

namespace RowAccess

/-- A grant of a permission string. -/
structure GrantSetting where
  permission : String
  scope : Option String
deriving DecidableEq, Repr

structure TokenSettings where
  scheme : String
  header : String
  maxHeaderBytes : Nat
deriving DecidableEq, Repr

def TokenSettings.standard : TokenSettings := ⟨"Token", "Authorization", 8192⟩

inductive CredentialStoreKind where
  | memory
  | database
deriving DecidableEq, Repr

structure CredentialSettings where
  kind : CredentialStoreKind
  path : Option String
  busyTimeoutMs : Nat
  journalMode : JournalMode
  syncMode : SyncMode
deriving DecidableEq, Repr

def CredentialSettings.standard : CredentialSettings :=
  ⟨.memory, none, DatabaseSettings.standardBusyTimeoutMs, .wal, .full⟩

inductive AuditTarget where
  | stderr
  | file
  | discard
deriving DecidableEq, Repr

structure AuditSettings where
  target : AuditTarget
  path : Option String
deriving DecidableEq, Repr

def AuditSettings.standard : AuditSettings := ⟨.stderr, none⟩

/-- A scope of a resource that a path of related records defines. -/
structure RelationSetting where
  resource : String
  scope : String
  path : String
deriving DecidableEq, Repr

structure AccessConfig where
  permissions : OrderedMap String (List GrantSetting)
  tokenAuth : TokenSettings
  credentialStore : CredentialSettings
  audit : AuditSettings
  relations : List RelationSetting
deriving DecidableEq, Repr

namespace AccessConfig

def standard : AccessConfig :=
  ⟨OrderedMap.empty, TokenSettings.standard, CredentialSettings.standard,
    AuditSettings.standard, []⟩

instance : Inhabited AccessConfig := ⟨standard⟩

end AccessConfig

end RowAccess
