import RowAccess.Config.Basic
import RowAccess.Config.Source

/-!
Contract: configurations from source values.

Fields that are not known are ignored, and fields that are left out have their
standard values where there are any.

Owns:
- the reading of each part of a configuration.
-/

namespace RowAccess

def GrantSetting.read (format : SourceFormat) (value : SourceValue) : Option GrantSetting := do
  let fields ← value.fields? format ["permission", "scope"]
  let permission ← requiredField "permission" SourceValue.text? fields
  let scope ← standardField "scope" none (SourceValue.optional? SourceValue.text?) fields
  return ⟨permission, scope⟩

/-- Permission strings with their grants. -/
def readPermissions (format : SourceFormat) (value : SourceValue) :
    Option (OrderedMap String (List GrantSetting)) := do
  let entries ← value.table?
  let grants ← entries.mapM (fun entry => do
    let items ← entry.2.list?
    return (entry.1, ← items.mapM (GrantSetting.read format)))
  return OrderedMap.ofList grants

def TokenSettings.read (format : SourceFormat) (value : SourceValue) : Option TokenSettings := do
  let fields ← value.fields? format ["scheme", "header", "max_header_bytes"]
  let standard := TokenSettings.standard
  let scheme ← standardField "scheme" standard.scheme SourceValue.text? fields
  let header ← standardField "header" standard.header SourceValue.text? fields
  let maxHeaderBytes ←
    standardField "max_header_bytes" standard.maxHeaderBytes SourceValue.count? fields
  return ⟨scheme, header, maxHeaderBytes⟩

def JournalMode.read (format : SourceFormat) : SourceValue → Option JournalMode :=
  SourceValue.choice? format JournalMode.name JournalMode.all

def SyncMode.read (format : SourceFormat) : SourceValue → Option SyncMode :=
  SourceValue.choice? format SyncMode.name SyncMode.all

namespace CredentialStoreKind

def name : CredentialStoreKind → String
  | .memory => "memory"
  | .database => "sqlite"

def read (format : SourceFormat) : SourceValue → Option CredentialStoreKind :=
  SourceValue.choice? format name [.memory, .database]

end CredentialStoreKind

def CredentialSettings.read (format : SourceFormat) (value : SourceValue) :
    Option CredentialSettings := do
  let fields ← value.fields? format
    ["type", "path", "busy_timeout_ms", "journal_mode", "sync_mode"]
  let standard := CredentialSettings.standard
  let kind ← standardField "type" standard.kind (CredentialStoreKind.read format) fields
  let path ← standardField "path" none (SourceValue.optional? SourceValue.text?) fields
  let busyTimeoutMs ←
    standardField "busy_timeout_ms" standard.busyTimeoutMs SourceValue.count? fields
  let journalMode ←
    standardField "journal_mode" standard.journalMode (JournalMode.read format) fields
  let syncMode ← standardField "sync_mode" standard.syncMode (SyncMode.read format) fields
  return ⟨kind, path, busyTimeoutMs, journalMode, syncMode⟩

/-- The settings of a database alone, whose path has to be given. -/
def DatabaseSettings.read (format : SourceFormat) (value : SourceValue) :
    Option DatabaseSettings := do
  let fields ← value.fields? format ["path", "busy_timeout_ms", "journal_mode", "sync_mode"]
  let path ← requiredField "path" SourceValue.text? fields
  let standard := DatabaseSettings.ofPath path
  let busyTimeoutMs ←
    standardField "busy_timeout_ms" standard.busyTimeoutMs SourceValue.count? fields
  let journalMode ←
    standardField "journal_mode" standard.journalMode (JournalMode.read format) fields
  let syncMode ← standardField "sync_mode" standard.syncMode (SyncMode.read format) fields
  return ⟨path, busyTimeoutMs, journalMode, syncMode⟩

namespace AuditTarget

def name : AuditTarget → String
  | .stderr => "stderr"
  | .file => "file"
  | .discard => "none"

def read (format : SourceFormat) : SourceValue → Option AuditTarget :=
  SourceValue.choice? format name [.stderr, .file, .discard]

end AuditTarget

def AuditSettings.read (format : SourceFormat) (value : SourceValue) : Option AuditSettings := do
  let fields ← value.fields? format ["sink", "path"]
  let target ← standardField "sink" AuditTarget.stderr (AuditTarget.read format) fields
  let path ← standardField "path" none (SourceValue.optional? SourceValue.text?) fields
  return ⟨target, path⟩

def RelationSetting.ofSource (format : SourceFormat) (value : SourceValue) :
    Option RelationSetting := do
  let fields ← value.fields? format ["resource", "scope", "path"]
  let resource ← requiredField "resource" SourceValue.text? fields
  let scope ← requiredField "scope" SourceValue.text? fields
  let path ← requiredField "path" SourceValue.text? fields
  return ⟨resource, scope, path⟩

def readRelations (format : SourceFormat) (value : SourceValue) :
    Option (List RelationSetting) := do
  let items ← value.list?
  items.mapM (RelationSetting.ofSource format)

def AccessConfig.read (format : SourceFormat) (value : SourceValue) : Option AccessConfig := do
  let fields ← value.fields? format
    ["permissions", "token_auth", "credential_store", "audit", "relations"]
  let permissions ←
    standardField "permissions" OrderedMap.empty (readPermissions format) fields
  let tokenAuth ←
    standardField "token_auth" TokenSettings.standard (TokenSettings.read format) fields
  let credentialStore ←
    standardField "credential_store" CredentialSettings.standard
      (CredentialSettings.read format) fields
  let audit ← standardField "audit" AuditSettings.standard (AuditSettings.read format) fields
  let relations ← standardField "relations" [] (readRelations format) fields
  return ⟨permissions, tokenAuth, credentialStore, audit, relations⟩

end RowAccess
