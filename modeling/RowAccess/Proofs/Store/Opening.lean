import RowAccess.Store.Files

/-!
Contract: what opening the file of a database leaves in its tree.

A file that was opened keeps its tables. It lies in the mode of the log, or in that
of the journal without a log beside it. Its journal has been played back, and no
directory is in the way of its journal or its log.

Owns:
- look-ups in a tree after changes, and the places of companions.
- opened files.
- trees in which no database is in use, and new files in them.
-/

namespace RowAccess

namespace DirectoryTree

variable {content : Type}

theorem fileAt?_removeFile (tree : DirectoryTree content) (location place : List String) :
    (tree.removeFile location).fileAt? place =
      if place = location then none else tree.fileAt? place := by
  simp only [removeFile, fileAt?, List.find?_filter]
  by_cases same : place = location
  · subst same
    simp
  · simp only [same, if_false]
    congr 2
    funext file
    by_cases hit : file.1 = place
    · simp [hit, same]
    · simp [hit]

theorem fileAt?_putFile (tree : DirectoryTree content) (location place : List String)
    (value : content) :
    (tree.putFile location value).fileAt? place =
      if place = location then some value else tree.fileAt? place := by
  by_cases same : place = location
  · rw [same, fileAt?_putFile_self, if_pos rfl]
  · have other : ¬ location = place := fun equal => same equal.symm
    have kept := tree.fileAt?_removeFile location place
    rw [if_neg same] at kept ⊢
    rw [← kept]
    simp [putFile, fileAt?, other]

end DirectoryTree

/-! ## Companions -/

namespace Companion

theorem beside_concat (companion : Companion) (above : List String) (name : String) :
    companion.beside (above ++ [name]) = above ++ [name ++ companion.ending] := by
  simp [beside, Location.parent]

theorem beside_ne (companion : Companion) {location : List String} (named : location ≠ []) :
    companion.beside location ≠ location := by
  rw [← List.dropLast_concat_getLast named, beside_concat]
  intro same
  have longer := congrArg String.length (List.singleton_inj.1 (List.append_cancel_left same))
  cases companion <;> simp [ending, String.length_append] at longer

theorem beside_ne_beside {left right : Companion} (different : left ≠ right)
    {location : List String} (named : location ≠ []) :
    left.beside location ≠ right.beside location := by
  rw [← List.dropLast_concat_getLast named, beside_concat, beside_concat]
  intro same
  have texts := congrArg String.toList (List.singleton_inj.1 (List.append_cancel_left same))
  rw [String.toList_append, String.toList_append] at texts
  have endings := String.toList_inj.1 (List.append_cancel_left texts)
  revert endings
  cases left <;> cases right <;> first | exact absurd rfl different | decide

theorem journal_ne_log {location : List String} (named : location ≠ []) :
    journal.beside location ≠ log.beside location :=
  beside_ne_beside (by decide) named

end Companion

/-! ## Modes of files -/

namespace DirectoryTree

variable {tree : StoredTree} {location : List String}

theorem fileAt?_clear (companion : Companion) (place : List String) :
    (tree.clear companion location).fileAt? place =
      if place = companion.beside location then none else tree.fileAt? place :=
  tree.fileAt?_removeFile (companion.beside location) place

/-- Only directories shut a database. -/
theorem isShut_of_isDirectory {other : StoredTree}
    (same : ∀ place, other.isDirectory place = tree.isDirectory place) (location : List String) :
    other.isShut location = tree.isShut location := by
  simp only [isShut, blocks, same]

theorem isDirectory_leaveLog (tree : StoredTree) (location place : List String) :
    (tree.leaveLog location).isDirectory place = tree.isDirectory place := by
  unfold leaveLog
  dsimp only
  split <;> rfl

theorem fileAt?_leaveLog {place : List String} (elsewhere : place ≠ Companion.log.beside location) :
    (tree.leaveLog location).fileAt? place = tree.fileAt? place := by
  unfold leaveLog
  dsimp only
  split
  next => rfl
  next => rw [fileAt?_putFile, if_neg elsewhere]

/-- A database without a log beside it is in the mode that its file says. -/
theorem isLogged_of_database {mode : JournalMode} {tables : Option Database}
    (file : tree.fileAt? location = some (.database mode tables))
    (noLog : tree.fileAt? (Companion.log.beside location) = none) :
    tree.isLogged location = decide (mode = .wal) := by
  cases tables <;> simp [isLogged, hasLog, file, noLog]

theorem isLogged_of_wal {tables : Option Database}
    (file : tree.fileAt? location = some (.database .wal tables)) :
    tree.isLogged location = true := by
  simp [isLogged, file]

theorem tables?_of_database {mode : JournalMode} {tables : Option Database}
    (file : tree.fileAt? location = some (.database mode tables)) :
    tree.tables? location = tables := by
  rw [tables?, file]

theorem exists_database_of_tables? {database : Database}
    (found : tree.tables? location = some database) :
    ∃ mode, tree.fileAt? location = some (.database mode (some database)) := by
  unfold tables? at found
  split at found
  next mode tables file =>
    cases found
    exact ⟨mode, file⟩
  next => cases found

/-! ## Opened files -/

/-- What a connection leaves that opens a file with its tables. The file may stay in the
mode of the journal although the log was asked for, where it can still go over. Only
tables in the mode of the log can be opened without being written. -/
structure Opened (mode : JournalMode) (tables : Option Database) (access : FileAccess)
    (location : List String) (tree : StoredTree) : Prop where
  notShut : tree.isShut location = false
  played : tree.fileAt? (Companion.journal.beside location) = none
  file : ∃ header, tree.fileAt? location = some (.database header tables) ∧
    (header = .wal → mode = .wal)
  noLog : access = .full → tree.fileAt? (Companion.log.beside location) = none
  index : access = .full → mode = .wal → tree.blocks .index location = false
  readOnly : access = .readOnly →
    mode = .wal ∧ tables.isSome = true ∧ tree.blocks .index location = true

variable {tables : Option Database}

theorem Opened.clearIndex {mode : JournalMode} {access : FileAccess}
    (opened : Opened mode tables access location tree) (named : location ≠ []) :
    Opened mode tables access location (tree.clear .index location) := by
  have kept : ∀ place, place ≠ Companion.index.beside location →
      (tree.clear .index location).fileAt? place = tree.fileAt? place := by
    intro place elsewhere
    rw [fileAt?_clear, if_neg elsewhere]
  have notIndex : Companion.journal ≠ .index ∧ Companion.log ≠ .index := by decide
  have journal := kept _ (Companion.beside_ne_beside notIndex.1 named)
  have log := kept _ (Companion.beside_ne_beside notIndex.2 named)
  have file := kept location (Companion.beside_ne .index named).symm
  refine ⟨opened.notShut, journal.trans opened.played, ?_, ?_, opened.index, opened.readOnly⟩
  · rw [file]
    exact opened.file
  · rw [log]
    exact opened.noLog

/-- A file that was played back and written in a mode, with its log removed. -/
theorem opened_rewritten {mode after : JournalMode} (named : location ≠ [])
    (notShut : tree.isShut location = false) (isWal : after = .wal → mode = .wal)
    (index : mode = .wal → tree.blocks .index location = false) :
    Opened mode tables .full location
      (((tree.clear .journal location).putFile location (.database after tables)).clear .log
        location) := by
  have journalPlace := Companion.beside_ne .journal named
  have logPlace := Companion.beside_ne .log named
  refine ⟨notShut, ?_, ⟨after, ?_, isWal⟩, fun _ => ?_, fun _ => index,
    fun isReadOnly => nomatch isReadOnly⟩
  · simp [fileAt?_clear, fileAt?_putFile, journalPlace]
  · simp [fileAt?_clear, logPlace.symm]
  · simp [fileAt?_clear]

theorem opened_engageUnindexed {mode header : JournalMode} {access : FileAccess}
    {after : StoredTree} (named : location ≠ []) (notShut : tree.isShut location = false)
    (played : tree.fileAt? (Companion.journal.beside location) = none)
    (blocked : tree.blocks .index location = true)
    (engaged : tree.engageUnindexed location mode header tables = (.ok access, after)) :
    Opened mode tables access location after := by
  have journalPlace := Companion.beside_ne .journal named
  have journalLog := Companion.journal_ne_log named
  unfold engageUnindexed at engaged
  split at engaged
  next => cases engaged
  next allowed =>
    obtain ⟨notDelete, noLog⟩ : ¬ mode = .delete ∧ tree.hasLog location = false := by
      simpa using allowed
    have isWal : mode = .wal := by
      cases mode with
      | wal => rfl
      | delete => exact absurd rfl notDelete
    cases tables with
    | none => cases engaged
    | some database =>
        cases engaged
        have directories := tree.isDirectory_leaveLog location
        refine ⟨(isShut_of_isDirectory directories location).trans notShut, ?_,
          ⟨_, fileAt?_putFile_self .., fun _ => isWal⟩,
          (fun isFull => nomatch isFull), (fun isFull => nomatch isFull),
          fun _ => ⟨isWal, rfl, (directories _).trans blocked⟩⟩
        rw [fileAt?_putFile, if_neg journalPlace, fileAt?_leaveLog journalLog, played]

theorem opened_engage {mode header : JournalMode} {access : FileAccess} {after : StoredTree}
    (named : location ≠ [])
    (file : tree.fileAt? location = some (.database header tables))
    (engaged : tree.engage location mode = (.ok access, after)) :
    Opened mode tables access location after := by
  unfold engage at engaged
  split at engaged
  next => cases engaged
  next unshut =>
    have notShut : tree.isShut location = false := by simpa using unshut
    rw [file] at engaged
    dsimp only at engaged
    split at engaged
    next direct =>
      obtain ⟨_, isDelete⟩ : tree.isLogged location = false ∧ mode = .delete := by
        simpa using direct
      subst isDelete
      cases engaged
      refine opened_rewritten named notShut (fun isWal => ?_) (fun isWal => nomatch isWal)
      split at isWal
      next both => exact both.2
      next => exact isWal
    split at engaged
    next blocked =>
      have cleared : (tree.clear .journal location).isShut location = false := notShut
      have played : (tree.clear .journal location).fileAt?
          (Companion.journal.beside location) = none := by
        rw [fileAt?_clear, if_pos rfl]
      exact opened_engageUnindexed named cleared played blocked engaged
    next unblocked =>
      have index : tree.blocks .index location = false := by simpa using unblocked
      cases engaged
      refine (opened_rewritten named notShut (fun isWal => ?_) (fun _ => index)).clearIndex named
      split at isWal
      next both => exact both.2
      next => exact isWal

end DirectoryTree

/-! ## New files -/

namespace DirectoryTree

variable {tree : StoredTree}

/-- Whether no database of a tree is in use. -/
def Idle (tree : StoredTree) : Prop :=
  ∀ place isWritten, tree.fileAt? place ≠ some (.companion isWritten)

theorem files_createEach (tree : StoredTree) (locations : List (List String)) :
    (tree.createEach locations).2.files = tree.files := by
  induction locations generalizing tree with
  | nil => rfl
  | cons head tail inductionHypothesis =>
      simp only [createEach]
      split
      next => rfl
      split
      next => exact inductionHypothesis tree
      next => exact inductionHypothesis _

theorem tables?_of_files {other : StoredTree} (same : other.files = tree.files)
    (location : List String) : other.tables? location = tree.tables? location := by
  simp only [tables?, fileAt?, same]

/-- A file is opened as it is, or it is new and without tables. -/
theorem Idle.openFile {location : List String} {opened : StoredTree} (idle : Idle tree)
    (found : tree.openFile StoredFile.blank location = some opened) :
    Idle opened ∧ location ≠ [] ∧ opened.tables? location = tree.tables? location := by
  unfold DirectoryTree.openFile at found
  split at found
  next => cases found
  next notDirectory =>
    have named : location ≠ [] := by
      rintro rfl
      exact notDirectory rfl
    split at found
    next =>
      cases found
      exact ⟨idle, named, rfl⟩
    next notFile =>
      have missing : tree.fileAt? location = none := by
        simpa [isFile] using notFile
      split at found
      next =>
        cases found
        refine ⟨fun place isWritten => ?_, named, ?_⟩
        · rw [fileAt?_putFile]
          split
          next => exact fun isBlank => nomatch isBlank
          next => exact idle place isWritten
        · have blank := tree.fileAt?_putFile_self location StoredFile.blank
          rw [tables?_of_database blank, tables?, missing]
      next => cases found

theorem Idle.createDatabase {path : String} {made : StoredTree} (idle : Idle tree)
    (created : tree.createDatabase path = (.ok (), made)) :
    Idle made ∧ Location.ofPath path ≠ [] ∧
      made.tables? (Location.ofPath path) = tree.tables? (Location.ofPath path) := by
  unfold DirectoryTree.createDatabase at created
  dsimp only at created
  split at created
  next => cases created
  split at created
  next => cases created
  split at created
  next => cases created
  split at created
  next => cases created
  split at created
  next => cases created
  split at created
  next => cases created
  next opened found =>
    split at created
    next =>
      cases created
      have same := files_createEach tree
        ((Location.lineage (Location.parent (Location.components path))).map Location.resolve)
      have stillIdle : Idle (tree.createDirectories
          (Location.parent (Location.components path))).2 := by
        intro place isWritten
        simp only [fileAt?, createDirectories, same]
        exact idle place isWritten
      obtain ⟨openedIdle, named, kept⟩ := stillIdle.openFile found
      exact ⟨openedIdle, named, kept.trans (tables?_of_files same _)⟩
    next => cases created

/-- Only a database can be opened where none is in use. -/
theorem exists_database_of_engage {location : List String} {mode : JournalMode}
    {access : FileAccess} {after : StoredTree} (idle : Idle tree)
    (engaged : tree.engage location mode = (.ok access, after)) :
    ∃ header tables, tree.fileAt? location = some (.database header tables) := by
  unfold engage at engaged
  split at engaged
  next => cases engaged
  split at engaged
  next header tables found => exact ⟨header, tables, found⟩
  next found => exact absurd found (idle location false)
  next => cases engaged

end DirectoryTree

end RowAccess
