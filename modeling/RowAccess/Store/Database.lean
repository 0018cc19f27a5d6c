import RowAccess.Json.Printer
import RowAccess.Json.Reader
import RowAccess.Ordered.Map
import RowAccess.Store.Cell
import RowAccess.Store.Credentials
import RowAccess.Store.Timestamp

/-!
Contract: credentials and principals in the tables of a database.

A row is found by its key and decoded when it is read, so a row that others
have written may fail to decode. Instants are stored as integers and the
permissions of a principal as a JSON list of texts. The database carries the
version of its tables.

Owns:
- the rows, their encoding and decoding.
- the operations of a credential store on tables.
- the check of the version, and writes past the store.
-/

namespace RowAccess

structure PrincipalRow where
  superuser : Cell
  permissions : Cell
deriving DecidableEq, Repr

structure TokenRow where
  owner : Cell
  issuedAt : Cell
  expiresAt : Cell
  lastUsedAt : Cell
deriving DecidableEq, Repr

/-- The error of a cell that is not of the type that is read from it. -/
def StoreError.cellType : StoreError := ⟨.store, "invalid column type"⟩

namespace Cell

def readInteger (cell : Cell) : Except StoreError Int :=
  match cell.integer? with
  | some value => .ok value
  | none => .error StoreError.cellType

def readText (cell : Cell) : Except StoreError String :=
  match cell.text? with
  | some value => .ok value
  | none => .error StoreError.cellType

def readInstant (cell : Cell) : Except StoreError Instant := cell.readInteger.bind Timestamp.decode

end Cell

namespace PrincipalRow

def ofPrincipal (principal : Principal) : PrincipalRow where
  superuser := .integer (if principal.superuser then 1 else 0)
  permissions := .text (Json.strings principal.permissions.toList).print

/-- The permissions a stored text lists. -/
def readPermissions (id : PrincipalId) (written : String) :
    Except StoreError (OrderedSet String) :=
  match ((Json.parse? written).bind Json.array?).bind (fun items => items.mapM Json.string?) with
  | some listed => .ok (OrderedSet.ofList listed)
  | none => .error ⟨.corrupt, "permissions for principal " ++ id.text⟩

def decode (id : PrincipalId) (row : PrincipalRow) : Except StoreError Principal := do
  let superuser ← row.superuser.readInteger
  let written ← row.permissions.readText
  let permissions ← readPermissions id written
  return ⟨id, permissions, superuser ≠ 0⟩

end PrincipalRow

namespace TokenRow

def ofCredential (credential : Credential) : Except StoreError TokenRow := do
  let issuedAt ← Timestamp.encode credential.issuedAt
  let expiresAt ← Timestamp.encode credential.expiresAt
  let lastUsedAt ←
    match credential.lastUsedAt with
    | some time => (Timestamp.encode time).map Cell.integer
    | none => .ok .null
  return ⟨.text credential.owner.text, .integer issuedAt, .integer expiresAt, lastUsedAt⟩

def decode (token : TokenValue) (row : TokenRow) : Except StoreError Credential := do
  let owner ← row.owner.readText
  let issuedAt ← row.issuedAt.readInstant
  let expiresAt ← row.expiresAt.readInstant
  let lastUsedAt ←
    if row.lastUsedAt.isNull then .ok none else row.lastUsedAt.readInstant.map some
  return ⟨token, ⟨owner⟩, issuedAt, expiresAt, lastUsedAt⟩

end TokenRow

structure Database where
  principals : OrderedMap PrincipalId PrincipalRow
  tokens : OrderedMap TokenValue TokenRow
  version : Option Cell
deriving DecidableEq, Repr

namespace Database

def currentVersion : Int := 1

/-- A database without rows. -/
def empty : Database := ⟨OrderedMap.empty, OrderedMap.empty, some (.integer currentVersion)⟩

instance : Inhabited Database := ⟨empty⟩

def insertPrincipal (principal : Principal) (database : Database) : Database :=
  { database with
    principals := database.principals.insert principal.id (PrincipalRow.ofPrincipal principal) }

def insertCredential (credential : Credential) (database : Database) :
    Except StoreError Unit × Database :=
  match TokenRow.ofCredential credential with
  | .ok row =>
      (.ok (), { database with tokens := database.tokens.insert credential.token row })
  | .error error => (.error error, database)

def find (token : TokenValue) (database : Database) : Except StoreError (Option Credential) :=
  match database.tokens.find? token with
  | some row => (row.decode token).map some
  | none => .ok none

def load (id : PrincipalId) (database : Database) : Except StoreError (Option Principal) :=
  match database.principals.find? id with
  | some row => (row.decode id).map some
  | none => .ok none

/-- Sets the time of last use; a token without a row is left alone. -/
def touch (token : TokenValue) (time : Instant) (database : Database) :
    Except StoreError Unit × Database :=
  match Timestamp.encode time with
  | .error error => (.error error, database)
  | .ok nanos =>
      match database.tokens.find? token with
      | some row =>
          (.ok (),
            { database with
              tokens := database.tokens.insert token { row with lastUsedAt := .integer nanos } })
      | none => (.ok (), database)

def delete (token : TokenValue) (database : Database) : Database :=
  { database with tokens := database.tokens.erase token }

instance : CredentialStore Database where
  find token database := (database.find token, database)
  deleteIfExists token database := (.ok (database.tokens.contains token), database.delete token)
  touch := touch
  load id database := (database.load id, database)

/-- Requires tables of the current version. A file without tables is given empty ones,
and tables without a version are given the current one. -/
def claim : Option Database → Except StoreError Database
  | none => .ok empty
  | some database =>
      match database.version with
      | none => .ok { database with version := some (.integer currentVersion) }
      | some cell =>
          match cell.readInteger with
          | .error error => .error error
          | .ok found =>
              if found = currentVersion then .ok database
              else
                .error ⟨.versionMismatch, "unsupported schema version: " ++ toString found⟩

/-- Replaces a principal's row, unless a cell that must not be null is. -/
def writePrincipal (id : Cell) (row : PrincipalRow) (database : Database) : Option Database :=
  let stored : PrincipalRow := ⟨row.superuser.inNumberColumn, row.permissions.inTextColumn⟩
  if stored.superuser.isNull || stored.permissions.isNull then none
  else
    match id.inTextColumn.text? with
    | some key => some { database with principals := database.principals.insert ⟨key⟩ stored }
    | none => some database

/-- Replaces a token's row, unless a cell that must not be null is. -/
def writeToken (token : Cell) (row : TokenRow) (database : Database) : Option Database :=
  let stored : TokenRow :=
    { owner := row.owner.inTextColumn
      issuedAt := row.issuedAt.inNumberColumn
      expiresAt := row.expiresAt.inNumberColumn
      lastUsedAt := row.lastUsedAt.inNumberColumn }
  if stored.owner.isNull || stored.issuedAt.isNull || stored.expiresAt.isNull then none
  else
    match token.inTextColumn.text? with
    | some key => some { database with tokens := database.tokens.insert ⟨key⟩ stored }
    | none => some database

/-- Overwrites the version where there is one, and counts the rows. -/
def writeVersion (cell : Cell) (database : Database) : Option (Nat × Database) :=
  match database.version with
  | none => some (0, database)
  | some _ =>
      if cell.isNull then none
      else some (1, { database with version := some cell.inNumberColumn })

/-- Removes the version, and counts the rows. -/
def clearVersion (database : Database) : Nat × Database :=
  (database.version.toList.length, { database with version := none })

end Database

end RowAccess
