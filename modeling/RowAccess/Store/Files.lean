import RowAccess.Location.Tree
import RowAccess.Store.Database
import RowAccess.Store.Settings

/-!
Contract: the files that databases are kept in.

The file of a database holds its tables; what lies in its log counts as in the
file. Beside a database lie its journal, or its log and the index of the log, as
long as they are in use. Opening a database checks its path, creates the
directories above it and sets the mode of the file. What is created on the way
stays, even if a later part fails.

Owns:
- the kinds of files, and the names of the files beside a database.
- the tables that a file holds.
- the checks and effects of opening a database's file.
-/

namespace RowAccess

/-- What a file holds: a database in a mode, with its tables once there are any;
the log or index of a database in use, which may not be written yet; or lines of
text. -/
inductive StoredFile where
  | database (mode : JournalMode) (tables : Option Database)
  | companion (isWritten : Bool)
  | lines
deriving DecidableEq, Repr

abbrev StoredTree := DirectoryTree StoredFile

/-- The files beside a database. -/
inductive Companion where
  | journal
  | log
  | index
deriving DecidableEq, Repr

namespace Companion

def ending : Companion → String
  | journal => "-journal"
  | log => "-wal"
  | index => "-shm"

/-- Where the file belongs that lies beside a database. -/
def beside (companion : Companion) (location : List String) : List String :=
  Location.parent location ++
    (location.getLast?.toList.map (fun name => name ++ companion.ending))

end Companion

namespace StoredFile

/-- The bytes by which a journal's name is longer than its database's. -/
def journalBytes : Nat := 8

/-- The longest path, journals included, that the engine opens. -/
def maxEngineBytes : Nat := 512

/-- The bytes of a location's text, a stroke before each name. -/
def locationBytes (location : List String) : Nat :=
  location.foldr
    (fun name total => (if name = "/" then 0 else name.utf8ByteSize + 1) + total) 0

/-- Follows a component as long as the engine can name the location. -/
def nameStep (reached : Option (List String)) (component : String) : Option (List String) :=
  (reached.map (fun location => Location.follow location component)).filter
    (fun location => decide (locationBytes location < maxEngineBytes))

/-- Whether the engine can name a database and its journal: neither they nor a
location on the way may be too long. -/
def canName (path : String) : Bool :=
  ((Location.components path).foldl nameStep (some [])).any (fun location =>
    locationBytes location + journalBytes ≤ maxEngineBytes)

/-- Whether a name is short enough for the name of its journal. -/
def canNameJournal (path : String) : Bool :=
  (Location.components path).getLast?.all (fun name =>
    name.utf8ByteSize + journalBytes ≤ Location.maxComponentBytes)

/-- The error of the engine where it cannot open a file. -/
def unopened : StoreError := ⟨.store, "unable to open database file"⟩

/-- The error of the engine where another connection is in the way. -/
def locked : StoreError := ⟨.store, "database is locked"⟩

/-- The error of the engine where it would have to write but may only read. -/
def unwritable : StoreError := ⟨.store, "attempt to write a readonly database"⟩

/-- Whether the file has content that the engine takes notice of. -/
def isFilled : StoredFile → Bool
  | .database _ tables => tables.isSome
  | .companion isWritten => isWritten
  | .lines => true

/-- A file that nothing was written to. -/
def blank : StoredFile := .database .delete none

end StoredFile

/-- What a connection to a database may do. -/
inductive FileAccess where
  | readOnly
  | full
deriving DecidableEq, Repr

namespace DirectoryTree

/-- The tables of the database at a location, if it has any. -/
def tables? (location : List String) (tree : StoredTree) : Option Database :=
  match tree.fileAt? location with
  | some (.database _ tables) => tables
  | _ => none

def checkPath (tree : StoredTree) (path : String) : Except StoreError Unit :=
  match Location.defect? path with
  | some .tooLong => .error ⟨.invalid, "store path exceeds length limit"⟩
  | some .componentTooLong => .error ⟨.invalid, "store path contains an overlong component"⟩
  | none =>
      if Location.canLookUp path && !path.isEmpty &&
          tree.leadsToDirectory (Location.components path) then
        .error ⟨.invalid, "store path must be a file, not a directory"⟩
      else .ok ()

/-- Creates the file of a database where it is missing, and the directories above
it. A new file counts as one in the mode of the journal. -/
def createDatabase (tree : StoredTree) (path : String) : Except StoreError Unit × StoredTree :=
  match tree.checkPath path with
  | .error error => (.error error, tree)
  | .ok _ =>
      let components := Location.components path
      if components.isEmpty || components = ["/"] then
        (.error ⟨.io, "store path missing parent directory"⟩, tree)
      else if (Location.parent components).any Location.hasNull then
        (.error ⟨.io, "file name contained an unexpected null character"⟩, tree)
      else
        let made := tree.createDirectories (Location.parent components)
        if !made.1 then (.error ⟨.io, "file exists"⟩, made.2)
        else if Location.hasNull path || !StoredFile.canName path then
          (.error StoredFile.unopened, made.2)
        else
          match made.2.openFile StoredFile.blank (Location.ofPath path) with
          | none => (.error StoredFile.unopened, made.2)
          | some opened =>
              if StoredFile.canNameJournal path then (.ok (), opened)
              else (.error StoredFile.unopened, opened)

/-- Whether a directory lies where a file beside a database belongs. -/
def blocks (companion : Companion) (location : List String) (tree : StoredTree) : Bool :=
  tree.isDirectory (companion.beside location)

/-- Removes a file beside a database. -/
def clear (companion : Companion) (location : List String) (tree : StoredTree) : StoredTree :=
  tree.removeFile (companion.beside location)

/-- Whether a database can be opened at all: no directory lies in place of its
journal or its log. -/
def isShut (location : List String) (tree : StoredTree) : Bool :=
  tree.blocks .journal location || tree.blocks .log location

/-- Whether a log lies beside a database that has tables. -/
def hasLog (location : List String) (tree : StoredTree) : Bool :=
  match tree.fileAt? location with
  | some (.database _ (some _)) =>
      (tree.fileAt? (Companion.log.beside location)).any StoredFile.isFilled
  | _ => false

/-- Whether a database is in the mode of the log: its file says so, or a log lies
beside it. -/
def isLogged (location : List String) (tree : StoredTree) : Bool :=
  tree.hasLog location ||
    match tree.fileAt? location with
    | some (.database mode _) => mode = .wal
    | _ => false

/-- Leaves a blank log beside a database, if there is none. -/
def leaveLog (location : List String) (tree : StoredTree) : StoredTree :=
  let log := Companion.log.beside location
  if tree.isFile log then tree else tree.putFile log StoredFile.blank

/-- Opens a database in the mode of the log while a directory lies in place of the
index. It may be read if it has tables and its log is blank, but it can neither
be written nor leave that mode. -/
def engageUnindexed (location : List String) (mode header : JournalMode)
    (tables : Option Database) (tree : StoredTree) : Except StoreError FileAccess × StoredTree :=
  let left := tree.leaveLog location
  if mode = .delete || tree.hasLog location then (.error StoredFile.unopened, left)
  else
    let after := if tree.isLogged location then header else .wal
    (if tables.isSome then .ok .readOnly else .error StoredFile.unwritable,
      left.putFile location (.database after tables))

/-- What trying to open a database that is shut removes beside it: a journal, or
the log of a database without tables. -/
def clearShut (location : List String) (tree : StoredTree) : StoredTree :=
  if !tree.blocks .journal location then tree.clear .journal location
  else
    match tree.fileAt? location with
    | some (.database _ none) => tree.clear .log location
    | _ => tree

/-- Opens a database that nothing else uses, in a mode. A log beside it counts as
that mode already, so that the file does not change. Files in place of the
journal, the log and the index make way. -/
def engage (location : List String) (mode : JournalMode) (tree : StoredTree) :
    Except StoreError FileAccess × StoredTree :=
  if tree.isShut location then (.error StoredFile.unopened, tree.clearShut location)
  else
    match tree.fileAt? location with
    | some (.database header tables) =>
        let played := tree.clear .journal location
        let logged := tree.isLogged location
        let after := if logged ∧ mode = .wal then header else mode
        let opened := (played.putFile location (.database after tables)).clear .log location
        if !logged && mode = .delete then (.ok .full, opened)
        else if tree.blocks .index location then
          played.engageUnindexed location mode header tables
        else (.ok .full, opened.clear .index location)
    | some (.companion false) => (.ok .full, tree)
    | _ => (.error StoredFile.unopened, tree)

end DirectoryTree

end RowAccess
