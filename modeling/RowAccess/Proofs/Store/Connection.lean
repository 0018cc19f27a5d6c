import RowAccess.Proofs.Store.Opening
import RowAccess.Store.Connection

/-!
Contract: what a connection to a database finds and leaves in its tree.

The tables that a connection finds are those of the file, once they are of the
current version. Taking hold of a log leaves the tables as they are. Replacing the
tables changes the file and, where a store holds it, the log; no hold is lost.

Owns:
- the hold on a log, taken and kept.
- the file after its tables were replaced.
- tables that are found.
-/

namespace RowAccess

theorem Database.claim_of_current {database : Database}
    (current : database.version = some (.integer currentVersion)) :
    claim (some database) = .ok database := by
  unfold claim
  simp [current, Cell.readInteger, Cell.integer?]

namespace DirectoryTree

variable {tree : StoredTree} {location : List String} {database : Database}

/-! ## The hold on the log -/

theorem Idle.isHeld (idle : Idle tree) (location : List String) : tree.isHeld location = false := by
  unfold DirectoryTree.isHeld
  split
  next isWritten found => exact absurd found (idle _ isWritten)
  next => rfl

theorem isHeld_of_noLog (noLog : tree.fileAt? (Companion.log.beside location) = none) :
    tree.isHeld location = false := by
  rw [isHeld, noLog]

theorem isHeld_of_companion {isWritten : Bool}
    (log : tree.fileAt? (Companion.log.beside location) = some (.companion isWritten)) :
    tree.isHeld location = true := by
  rw [isHeld, log]

theorem isHeld_attach (tree : StoredTree) (named : location ≠ []) :
    (tree.attach location).isHeld location = true := by
  have logIndex : Companion.log.beside location ≠ Companion.index.beside location :=
    Companion.beside_ne_beside (by decide) named
  have log : (tree.attach location).fileAt? (Companion.log.beside location) =
      some (.companion false) := by
    rw [attach, fileAt?_putFile, if_neg logIndex, fileAt?_putFile_self]
  exact isHeld_of_companion log

theorem fileAt?_attach (tree : StoredTree) (named : location ≠ []) :
    (tree.attach location).fileAt? location = some (.database .wal (tree.tables? location)) := by
  rw [attach, fileAt?_putFile, if_neg (Companion.beside_ne .index named).symm, fileAt?_putFile,
    if_neg (Companion.beside_ne .log named).symm, fileAt?_putFile_self]

theorem fileAt?_attach_journal (tree : StoredTree) (named : location ≠ []) :
    (tree.attach location).fileAt? (Companion.journal.beside location) =
      tree.fileAt? (Companion.journal.beside location) := by
  have journalIndex : Companion.journal.beside location ≠ Companion.index.beside location :=
    Companion.beside_ne_beside (by decide) named
  rw [attach, fileAt?_putFile, if_neg journalIndex, fileAt?_putFile,
    if_neg (Companion.journal_ne_log named), fileAt?_putFile,
    if_neg (Companion.beside_ne .journal named)]

/-- A file in the mode of the log settles by taking hold of it, one in the other mode as it
is. -/
theorem settle_of_database {mode : JournalMode} {tables : Option Database}
    (file : tree.fileAt? location = some (.database mode tables))
    (noLog : tree.fileAt? (Companion.log.beside location) = none) :
    tree.settle location .full = if mode = .wal then tree.attach location else tree := by
  rw [settle, isLogged_of_database file noLog, isHeld_of_noLog noLog]
  simp

/-- Taking hold of the log of a file that was opened leaves its tables. -/
theorem tables?_settle (named : location ≠ []) (access : FileAccess) :
    (tree.settle location access).tables? location = tree.tables? location := by
  unfold settle
  split
  next => exact tables?_of_database (tree.fileAt?_attach named)
  next => rfl

theorem isDirectory_settle (tree : StoredTree) (location : List String) (access : FileAccess)
    (place : List String) :
    (tree.settle location access).isDirectory place = tree.isDirectory place := by
  unfold settle
  split <;> rfl

/-! ## Replaced tables -/

theorem isDirectory_keep (tree : StoredTree) (location : List String) (database : Database)
    (place : List String) :
    (tree.keep location database).isDirectory place = tree.isDirectory place := by
  unfold keep
  dsimp only
  split
  next =>
    split
    next => rfl
    split
    next => rfl
    next => rfl
  next => rfl

theorem fileAt?_keep {mode : JournalMode} {tables : Option Database} (named : location ≠ [])
    (file : tree.fileAt? location = some (.database mode tables)) (database : Database) :
    (tree.keep location database).fileAt? location = some (.database mode (some database)) := by
  unfold keep
  rw [file]
  dsimp only
  split
  next same => rw [file, same]
  split
  next => rw [fileAt?_putFile, if_neg (Companion.beside_ne .log named).symm, fileAt?_putFile_self]
  next => exact fileAt?_putFile_self ..

/-- Nothing is written but the file, and the log where it is held. -/
theorem fileAt?_keep_elsewhere {place : List String} (elsewhere : place ≠ location)
    (unlogged : place = Companion.log.beside location → tree.isHeld location = false)
    (database : Database) :
    (tree.keep location database).fileAt? place = tree.fileAt? place := by
  unfold keep
  dsimp only
  split
  next =>
    split
    next => rfl
    split
    next held =>
      have notLog : place ≠ Companion.log.beside location := by
        intro isLog
        rw [unlogged isLog] at held
        cases held
      rw [fileAt?_putFile, if_neg notLog, fileAt?_putFile, if_neg elsewhere]
    next => rw [fileAt?_putFile, if_neg elsewhere]
  next => rfl

theorem fileAt?_keep_journal (tree : StoredTree) (named : location ≠ []) (database : Database) :
    (tree.keep location database).fileAt? (Companion.journal.beside location) =
      tree.fileAt? (Companion.journal.beside location) :=
  fileAt?_keep_elsewhere (Companion.beside_ne .journal named)
    (fun isLog => absurd isLog (Companion.journal_ne_log named)) database

theorem fileAt?_keep_log (named : location ≠ []) (notHeld : tree.isHeld location = false)
    (database : Database) :
    (tree.keep location database).fileAt? (Companion.log.beside location) =
      tree.fileAt? (Companion.log.beside location) :=
  fileAt?_keep_elsewhere (Companion.beside_ne .log named) (fun _ => notHeld) database

theorem isHeld_keep (held : tree.isHeld location = true) (database : Database) :
    (tree.keep location database).isHeld location = true := by
  unfold keep
  dsimp only
  split
  next =>
    split
    next => exact held
    next => exact isHeld_of_companion (fileAt?_putFile_self ..)
  next => exact held

/-! ## Tables that are found -/

theorem claim_eq_ok {access : FileAccess} {next : StoredTree}
    (claimed : tree.claim location access = (.ok database, next)) :
    Database.claim (tree.tables? location) = .ok database ∧ next = tree.keep location database := by
  unfold claim at claimed
  split at claimed
  next => cases claimed
  next found current =>
    split at claimed
    next => cases claimed
    next =>
      cases claimed
      exact ⟨current, rfl⟩

/-- Tables of the current version are found as they are, and nothing is written. -/
theorem claim_of_current (stored : tree.tables? location = some database)
    (current : database.version = some (.integer Database.currentVersion)) (access : FileAccess) :
    tree.claim location access = (.ok database, tree) := by
  obtain ⟨mode, file⟩ := exists_database_of_tables? stored
  have kept : tree.keep location database = tree := by
    unfold keep
    rw [file]
    exact if_pos rfl
  unfold claim
  rw [stored, Database.claim_of_current current]
  simp [kept]

end DirectoryTree

end RowAccess
