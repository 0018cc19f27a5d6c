import RowAccess.Store.Files

/-!
Contract: connections to the databases in files.

A connection opens a file in a mode and requires tables of the current version. A
file keeps the tables it has; one without tables is given empty ones. What is
changed through a connection is in the file from then on.

Owns:
- the hold on the log of a database.
- connecting to a file, the tables found there and their replacement.
-/

namespace RowAccess.DirectoryTree

/-- Whether a store holds the log of a database. -/
def isHeld (location : List String) (tree : StoredTree) : Bool :=
  match tree.fileAt? (Companion.log.beside location) with
  | some (.companion _) => true
  | _ => false

/-- Takes hold of the log of a database and of its index. -/
def attach (location : List String) (tree : StoredTree) : StoredTree :=
  ((tree.putFile location (.database .wal (tree.tables? location))).putFile
    (Companion.log.beside location) (.companion false)).putFile
      (Companion.index.beside location) (.companion true)

/-- Replaces the tables of a database. A change is written to the log, if that is
held. -/
def keep (location : List String) (database : Database) (tree : StoredTree) : StoredTree :=
  match tree.fileAt? location with
  | some (.database mode tables) =>
      if tables = some database then tree
      else
        let kept := tree.putFile location (.database mode (some database))
        if tree.isHeld location then
          kept.putFile (Companion.log.beside location) (.companion true)
        else kept
  | _ => tree

/-- Opens the file of a database for one connection more. A journal beside a file
whose log is held would have to be played back, which the hold prevents. -/
def connect (location : List String) (mode : JournalMode) (tree : StoredTree) :
    Except StoreError FileAccess × StoredTree :=
  let journal := Companion.journal.beside location
  if !tree.isHeld location then tree.engage location mode
  else if tree.isDirectory journal then (.error StoredFile.unopened, tree)
  else if (tree.fileAt? journal).any StoredFile.isFilled || mode = .delete then
    (.error StoredFile.locked, tree)
  else (.ok .full, tree)

/-- Takes hold of the log of a database that was opened, if the database is in that
mode and may be written. -/
def settle (location : List String) (access : FileAccess) (tree : StoredTree) : StoredTree :=
  if access = .full && tree.isLogged location && !tree.isHeld location then tree.attach location
  else tree

/-- The tables of a database that was opened, which have to be of the current
version. -/
def claim (location : List String) (access : FileAccess) (tree : StoredTree) :
    Except StoreError Database × StoredTree :=
  match Database.claim (tree.tables? location) with
  | .error error => (.error error, tree)
  | .ok database =>
      if access = .readOnly ∧ tree.tables? location ≠ some database then
        (.error StoredFile.unwritable, tree)
      else (.ok database, tree.keep location database)

/-- Opens a database in a mode and finds its tables. -/
def openTables (location : List String) (mode : JournalMode) (tree : StoredTree) :
    Except StoreError Database × StoredTree :=
  match tree.connect location mode with
  | (.error error, next) => (.error error, next)
  | (.ok access, next) => next.claim location access

end RowAccess.DirectoryTree
