import RowAccess.Store.Connection

/-!
Contract: a credential database in use.

A store works on the tables that its file holds, those of earlier stores
included. From its first use of a file in the mode of the write-ahead log on, a
store holds the log, and the file cannot leave that mode. Other connections to the
file find the same rows; what they need of the file may fail, and then nothing is
changed in the rows.

Owns:
- the store's hold on its file, and the connections beside it.
- the operations of the store.
- the texts of a database's own errors.
-/

namespace RowAccess

namespace StoreError

/-- The name of an error's kind where a database itself reports it. -/
def databaseKindName (error : StoreError) : String :=
  match error.kind with
  | .store => "Db"
  | kind => kind.name

/-- The text of an error where a database itself reports it. -/
def databaseMessage (error : StoreError) : String :=
  (match error.kind with
    | .store => "sqlite store db error: "
    | .io => "sqlite store io error: "
    | .corrupt => "sqlite store corruption: "
    | .versionMismatch => "sqlite store version mismatch: "
    | .invalid => "sqlite store invalid data: ") ++ error.detail

end StoreError

/-- A database in use: its settings, its tables, and the directories and files around
it. -/
structure DurableStore where
  settings : DatabaseSettings
  database : Database
  tree : StoredTree
deriving DecidableEq, Repr

namespace DurableStore

def location (store : DurableStore) : List String := Location.ofPath store.settings.path

/-- The mode the store's file is in. -/
def mode (store : DurableStore) : JournalMode :=
  if store.tree.isLogged store.location then .wal else .delete

/-- Replaces the tables, in the store and in its file. -/
def save (database : Database) (store : DurableStore) : DurableStore :=
  { store with database := database, tree := store.tree.keep store.location database }

/-- Makes the file ready for an operation of the store, which takes hold of the
log if the file is in that mode. -/
def reach (store : DurableStore) : Except StoreError FileAccess × DurableStore :=
  let location := store.location
  if store.tree.isHeld location then (.ok .full, store)
  else if store.tree.isShut location then
    (.error StoredFile.unopened, { store with tree := store.tree.clearShut location })
  else
    let played := store.tree.clear .journal location
    match store.mode with
    | .delete => (.ok .full, { store with tree := played })
    | .wal =>
        if store.tree.blocks .index location then
          let made := played.engageUnindexed location .wal .wal (played.tables? location)
          (made.1, { store with tree := made.2 })
        else (.ok .full, { store with tree := played.attach location })

/-- Opens the store's file for one connection more. -/
def connect (mode : JournalMode) (store : DurableStore) :
    Except StoreError FileAccess × DurableStore :=
  let made := store.tree.connect store.location mode
  (made.1, { store with tree := made.2 })

/-- Opens the store's own file once more in a mode, and lets go of it. -/
def openSame (mode : JournalMode) (store : DurableStore) :
    Except StoreError Unit × DurableStore :=
  match store.tree.openTables store.location mode with
  | (.error error, next) => (.error error, { store with tree := next })
  | (.ok database, next) => (.ok (), { store with database := database, tree := next })

/-- Opens a database with the tables that its file holds, and creates the file where
it is missing. A database in memory needs no file and begins without rows. -/
def create (tree : StoredTree) (settings : DatabaseSettings) : Except StoreError DurableStore :=
  if settings.isInMemory then .ok ⟨settings, Database.empty, tree⟩
  else
    let location := Location.ofPath settings.path
    match tree.createDatabase settings.path with
    | (.error error, _) => .error error
    | (.ok _, made) =>
        match made.connect location settings.journalMode with
        | (.error error, _) => .error error
        | (.ok access, opened) =>
            match (opened.settle location access).claim location access with
            | (.error error, _) => .error error
            | (.ok database, next) => .ok ⟨settings, database, next⟩

/-- Opens the store's file again with its own settings, and goes on with that. A
database in memory begins anew. -/
def reopen (store : DurableStore) : Except StoreError Unit × DurableStore :=
  if store.settings.isInMemory then (.ok (), { store with database := Database.empty })
  else
    match store.openSame store.settings.journalMode with
    | (.error error, next) => (.error error, next)
    | (.ok _, next) => (.ok (), next.reach.2)

/-- Opens a database at any path and lets go of it. -/
def openAt (path : String) (mode : JournalMode) (store : DurableStore) :
    Except StoreError Unit × DurableStore :=
  let opened := store.tree.createDatabase path
  let next := { store with tree := opened.2 }
  match opened.1 with
  | .error error => (.error error, next)
  | .ok _ =>
      let location := Location.ofPath path
      if location = next.location then next.openSame mode
      else
        let made := next.tree.openTables location mode
        (made.1.map (fun _ => ()), { next with tree := made.2 })

/-- Performs an operation on the database, once the file is ready for it. -/
def perform {α : Type} (needed : FileAccess)
    (operation : Database → Except StoreError α × Database) (store : DurableStore) :
    Except StoreError α × DurableStore :=
  match store.reach with
  | (.error error, next) => (.error error, next)
  | (.ok access, next) =>
      if access = .readOnly ∧ needed = .full then (.error StoredFile.unwritable, next)
      else
        let made := operation next.database
        (made.1, next.save made.2)

/-- Writes past the store through a connection of its own. Nothing is written
where it cannot have one, or where the write is refused. -/
def writePast {α : Type} (write : Database → Option (α × Database)) (store : DurableStore) :
    Option α × DurableStore :=
  match store.connect store.mode with
  | (.ok .full, next) =>
      match write next.database with
      | some written => (some written.1, next.save written.2)
      | none => (none, next)
  | (_, next) => (none, next)

/-- The mode that a connection of its own finds the file in. -/
def findMode (store : DurableStore) : Option JournalMode × DurableStore :=
  match store.connect store.mode with
  | (.ok _, next) => (some store.mode, next)
  | (.error _, next) => (none, next)

def insertPrincipal (principal : Principal) :
    DurableStore → Except StoreError Unit × DurableStore :=
  perform .full (fun database => (.ok (), database.insertPrincipal principal))

/-- Stores a credential whose instants can be stored. -/
def insertCredential (credential : Credential) (store : DurableStore) :
    Except StoreError Unit × DurableStore :=
  match TokenRow.ofCredential credential with
  | .error error => (.error error, store)
  | .ok _ => store.perform .full (fun database => database.insertCredential credential)

/-- Sets the time of last use, if it can be stored. -/
def touch (token : TokenValue) (time : Instant) (store : DurableStore) :
    Except StoreError Unit × DurableStore :=
  match Timestamp.encode time with
  | .error error => (.error error, store)
  | .ok _ => store.perform .full (CredentialStore.touch token time)

instance : CredentialStore DurableStore where
  find token := perform .readOnly (CredentialStore.find token)
  deleteIfExists token := perform .full (CredentialStore.deleteIfExists token)
  touch := touch
  load owner := perform .readOnly (CredentialStore.load owner)

end DurableStore

end RowAccess
