import RowAccess.Proofs.Store.Connection
import RowAccess.Store.Durable

/-!
Contract: a database in use stays in service.

A store works on the tables of its file. It either holds the log of the file or has
the file to itself in the mode of the journal. In both cases every operation reaches
the tables and none loses the service, opening the file again included. A store that
is opened finds the tables that its file held, and is in service if no database in
its tree was in use and it may write.

Owns:
- the two kinds of service, kept by operations and by opening again.
- the tables and the service of a store that is opened.
-/

namespace RowAccess

namespace DurableStore

/-- Where the log and the journal of the store's file belong. -/
def log (store : DurableStore) : List String := Companion.log.beside store.location

def journal (store : DurableStore) : List String := Companion.journal.beside store.location

/-- A store that holds its log, with no journal in the way. -/
structure Held (store : DurableStore) : Prop where
  stored : store.tree.tables? store.location = some store.database
  log : store.tree.isHeld store.location = true
  journal : store.tree.isDirectory store.journal = false
  unplayed : (store.tree.fileAt? store.journal).any StoredFile.isFilled = false
  mode : store.settings.journalMode = .wal

/-- A store whose file is in the mode of the journal, and could go over to the log if
its settings ask for that. -/
structure Free (store : DurableStore) : Prop where
  file : store.tree.fileAt? store.location = some (.database .delete (some store.database))
  noLog : store.tree.fileAt? store.log = none
  notShut : store.tree.isShut store.location = false
  index : store.settings.journalMode = .wal → store.tree.blocks .index store.location = false

/-- Whether every operation of the store reaches its tables. -/
structure InService (store : DurableStore) : Prop where
  named : store.location ≠ []
  kind : store.Held ∨ store.Free

variable {store : DurableStore} {database : Database} {tree : StoredTree}

theorem Free.notHeld (free : store.Free) : store.tree.isHeld store.location = false :=
  DirectoryTree.isHeld_of_noLog free.noLog

/-- The file of a store in service holds the tables that the store works on. -/
theorem InService.stored (service : store.InService) :
    store.tree.tables? store.location = some store.database := by
  rcases service.kind with held | free
  · exact held.stored
  · exact DirectoryTree.tables?_of_database free.file

/-! ## Reaching the tables -/

/-- A change of the tree that leaves the hold on the log, and the journal. -/
theorem Held.retree (held : store.Held)
    (stored : tree.tables? store.location = some database)
    (directories : ∀ place, tree.isDirectory place = store.tree.isDirectory place)
    (log : tree.isHeld store.location = true)
    (journal : tree.fileAt? store.journal = store.tree.fileAt? store.journal) :
    Held ⟨store.settings, database, tree⟩ where
  stored := stored
  log := log
  journal := (directories store.journal).trans held.journal
  unplayed := by
    show (tree.fileAt? store.journal).any StoredFile.isFilled = false
    rw [journal]
    exact held.unplayed
  mode := held.mode

/-- A change of the tree that leaves the file in its mode, and no log beside it. -/
theorem Free.retree (free : store.Free)
    (file : tree.fileAt? store.location = some (.database .delete (some database)))
    (directories : ∀ place, tree.isDirectory place = store.tree.isDirectory place)
    (log : tree.fileAt? store.log = store.tree.fileAt? store.log) :
    Free ⟨store.settings, database, tree⟩ where
  file := file
  noLog := log.trans free.noLog
  notShut := (DirectoryTree.isShut_of_isDirectory directories store.location).trans free.notShut
  index isWal := (directories _).trans (free.index isWal)

theorem InService.reach (service : store.InService) :
    ∃ tree, store.reach = (.ok .full, { store with tree := tree }) ∧
      InService { store with tree := tree } := by
  rcases service.kind with held | free
  · refine ⟨store.tree, ?_, service.named, Or.inl held⟩
    rw [DurableStore.reach, if_pos held.log]
  · have mode : store.mode = .delete := by
      rw [DurableStore.mode, DirectoryTree.isLogged_of_database free.file free.noLog]
      rfl
    refine ⟨store.tree.clear .journal store.location, ?_, service.named, Or.inr ?_⟩
    · simp [DurableStore.reach, free.notHeld, free.notShut, mode]
    · refine free.retree ?_ (fun _ => rfl) ?_
      · rw [DirectoryTree.fileAt?_clear, if_neg (Companion.beside_ne .journal service.named).symm,
          free.file]
      · rw [DirectoryTree.fileAt?_clear]
        exact if_neg (Companion.journal_ne_log service.named).symm

theorem InService.save (service : store.InService) (database : Database) :
    (store.save database).InService := by
  have named := service.named
  have directories := store.tree.isDirectory_keep store.location database
  refine ⟨named, ?_⟩
  rcases service.kind with held | free
  · obtain ⟨mode, file⟩ := DirectoryTree.exists_database_of_tables? held.stored
    have kept := DirectoryTree.fileAt?_keep named file database
    exact Or.inl (held.retree (DirectoryTree.tables?_of_database kept) directories
      (DirectoryTree.isHeld_keep held.log database)
      (store.tree.fileAt?_keep_journal named database))
  · exact Or.inr (free.retree (DirectoryTree.fileAt?_keep named free.file database) directories
      (DirectoryTree.fileAt?_keep_log named free.notHeld database))

/-- An operation of a store in service is the operation on its tables. -/
theorem InService.perform (service : store.InService) {α : Type} (needed : FileAccess)
    (operation : Database → Except StoreError α × Database) :
    ∃ tree, store.perform needed operation =
        ((operation store.database).1, ⟨store.settings, (operation store.database).2, tree⟩) ∧
      InService ⟨store.settings, (operation store.database).2, tree⟩ := by
  obtain ⟨reached, ready, inService⟩ := service.reach
  have saved := inService.save (operation store.database).2
  refine ⟨_, ?_, saved⟩
  unfold DurableStore.perform
  rw [ready]
  rfl

/-! ## Opening the file -/

/-- A store that took hold of its log after its file was opened. -/
theorem held_of_opened (opened : StoredTree) (isWal : store.settings.journalMode = .wal)
    (notShut : opened.isShut store.location = false)
    (played : opened.fileAt? store.journal = none)
    (stored : store.tree.tables? store.location = some store.database)
    (log : store.tree.isHeld store.location = true)
    (directories : ∀ place, store.tree.isDirectory place = opened.isDirectory place)
    (journal : store.tree.fileAt? store.journal = opened.fileAt? store.journal) : store.Held where
  stored := stored
  log := log
  journal := by
    simp only [DirectoryTree.isShut, Bool.or_eq_false_iff] at notShut
    exact (directories store.journal).trans notShut.1
  unplayed := by
    rw [journal, played]
    rfl
  mode := isWal

/-- A file in the mode of the log is reached by taking hold of the log. -/
theorem reach_of_logged (store : DurableStore) (named : store.location ≠ [])
    (isWal : store.settings.journalMode = .wal)
    (notShut : store.tree.isShut store.location = false)
    (file : store.tree.fileAt? store.location = some (.database .wal (some store.database)))
    (noLog : store.tree.fileAt? store.log = none)
    (index : store.tree.blocks .index store.location = false) :
    ∃ tree, store.reach.2 = { store with tree := tree } ∧
      InService { store with tree := tree } := by
  have mode : store.mode = .wal := by
    rw [DurableStore.mode, DirectoryTree.isLogged_of_wal file]
    rfl
  let played := store.tree.clear .journal store.location
  have cleared : played.fileAt? store.journal = none := by
    rw [DirectoryTree.fileAt?_clear]
    exact if_pos rfl
  have kept : played.fileAt? store.location = some (.database .wal (some store.database)) := by
    rw [DirectoryTree.fileAt?_clear, if_neg (Companion.beside_ne .journal named).symm, file]
  have attached := played.fileAt?_attach named
  rw [DirectoryTree.tables?_of_database kept] at attached
  have held : Held { store with tree := played.attach store.location } :=
    held_of_opened played isWal notShut cleared (DirectoryTree.tables?_of_database attached)
      (played.isHeld_attach named) (fun _ => rfl) (played.fileAt?_attach_journal named)
  refine ⟨played.attach store.location, ?_, named, Or.inl held⟩
  simp only [DurableStore.reach, DirectoryTree.isHeld_of_noLog noLog, notShut, mode, index,
    Bool.false_eq_true, if_false]
  rfl

theorem Held.connect (held : store.Held) :
    store.tree.connect store.location store.settings.journalMode = (.ok .full, store.tree) := by
  unfold DirectoryTree.connect
  have journal := held.journal
  have unplayed := held.unplayed
  unfold DurableStore.journal at journal unplayed
  simp [held.log, journal, unplayed, held.mode]

/-- A database that no store holds is opened like any other. -/
theorem connect_of_notHeld {location : List String} (notHeld : tree.isHeld location = false)
    (mode : JournalMode) : tree.connect location mode = tree.engage location mode := by
  simp [DirectoryTree.connect, notHeld]

/-- A file in the mode of the journal opens in the mode of the settings. -/
theorem Free.engage (free : store.Free) :
    ∃ after, store.tree.engage store.location store.settings.journalMode = (.ok .full, after) := by
  have unlogged : store.tree.isLogged store.location = false :=
    DirectoryTree.isLogged_of_database free.file free.noLog
  unfold DirectoryTree.engage
  simp only [free.notShut, Bool.false_eq_true, if_false, free.file, unlogged, Bool.not_false,
    Bool.true_and, decide_eq_true_eq]
  cases mode : store.settings.journalMode with
  | delete => exact ⟨_, rfl⟩
  | wal =>
      simp only [free.index mode, reduceCtorEq, Bool.false_eq_true, if_false]
      exact ⟨_, rfl⟩

/-- A file opened again, once its tables are found as they were. -/
theorem reopen_of_connect (inFile : store.settings.isInMemory = false) {access : FileAccess}
    (connected : store.tree.connect store.location store.settings.journalMode =
      (.ok access, tree))
    (stored : tree.tables? store.location = some store.database)
    (current : store.database.version = some (.integer Database.currentVersion)) :
    store.reopen = (.ok (), (DurableStore.reach { store with tree := tree }).2) := by
  unfold DurableStore.reopen DurableStore.openSame DirectoryTree.openTables
  rw [connected]
  dsimp only
  rw [DirectoryTree.claim_of_current stored current, inFile]
  rfl

/-- Opening the file again keeps a store in service, and its tables as they are. -/
theorem InService.reopen (service : store.InService) (inFile : store.settings.isInMemory = false)
    (current : store.database.version = some (.integer Database.currentVersion)) :
    ∃ tree, store.reopen = (.ok (), { store with tree := tree }) ∧
      InService { store with tree := tree } := by
  have named := service.named
  rcases service.kind with held | free
  · obtain ⟨tree, ready, inService⟩ := service.reach
    refine ⟨tree, ?_, inService⟩
    rw [reopen_of_connect inFile held.connect held.stored current, ready]
  · obtain ⟨tree, engaged⟩ := free.engage
    have opened := DirectoryTree.opened_engage named free.file engaged
    have connected := (connect_of_notHeld free.notHeld store.settings.journalMode).trans engaged
    obtain ⟨header, file, isWal⟩ := opened.file
    have stored := DirectoryTree.tables?_of_database file
    have again := reopen_of_connect inFile connected stored current
    cases header with
    | wal =>
        obtain ⟨reached, ready, inService⟩ := reach_of_logged { store with tree := tree } named
          (isWal rfl) opened.notShut file (opened.noLog rfl) (opened.index rfl (isWal rfl))
        refine ⟨reached, ?_, inService⟩
        rw [again, ready]
    | delete =>
        have inService : InService { store with tree := tree } :=
          ⟨named, Or.inr ⟨file, opened.noLog rfl, opened.notShut, opened.index rfl⟩⟩
        obtain ⟨reached, ready, stillInService⟩ := inService.reach
        refine ⟨reached, ?_, stillInService⟩
        rw [again, ready]

/-! ## Stores that are opened -/

/-- A store is opened by creating its file, connecting to it, taking hold of its log and
finding its tables. -/
theorem create_eq_ok {settings : DatabaseSettings} (inFile : settings.isInMemory = false)
    (created : create tree settings = .ok store) :
    store.settings = settings ∧
    ∃ made access opened, tree.createDatabase settings.path = (.ok (), made) ∧
      made.connect store.location settings.journalMode = (.ok access, opened) ∧
      (opened.settle store.location access).claim store.location access =
        (.ok store.database, store.tree) := by
  unfold create at created
  simp only [inFile, Bool.false_eq_true, if_false] at created
  split at created
  next => cases created
  next made createdFile =>
    split at created
    next => cases created
    next access opened connected =>
      split at created
      next => cases created
      next database next claimed =>
        cases created
        exact ⟨rfl, made, access, opened, createdFile, connected, claimed⟩

/-- A store that is opened works on the tables that its file held, or on empty ones if
the file was new. It is in service where no database was in use and nothing keeps tables
in the mode of the log from being written. -/
theorem create_inService {settings : DatabaseSettings} (idle : DirectoryTree.Idle tree)
    (inFile : settings.isInMemory = false) (created : create tree settings = .ok store)
    (writable : settings.journalMode = .wal →
      (tree.tables? (Location.ofPath settings.path)).isSome = true →
        store.tree.blocks .index store.location = false) :
    store.InService ∧ store.settings = settings ∧
      Database.claim (tree.tables? (Location.ofPath settings.path)) = .ok store.database := by
  obtain ⟨sameSettings, made, access, opened, createdFile, connected, claimed⟩ :=
    create_eq_ok inFile created
  subst sameSettings
  obtain ⟨stillIdle, isNamed, sameTables⟩ := idle.createDatabase createdFile
  have named : store.location ≠ [] := isNamed
  rw [connect_of_notHeld (stillIdle.isHeld store.location)] at connected
  obtain ⟨header, tables, found⟩ := DirectoryTree.exists_database_of_engage stillIdle connected
  have isTables : tree.tables? (Location.ofPath store.settings.path) = tables :=
    sameTables.symm.trans (DirectoryTree.tables?_of_database found)
  rw [isTables] at writable ⊢
  have afterwards := DirectoryTree.opened_engage named found connected
  obtain ⟨current, kept⟩ := DirectoryTree.claim_eq_ok claimed
  have directories : ∀ place, store.tree.isDirectory place = opened.isDirectory place := by
    intro place
    rw [kept, DirectoryTree.isDirectory_keep, DirectoryTree.isDirectory_settle]
  have isFull : access = .full := by
    cases access with
    | full => rfl
    | readOnly =>
        obtain ⟨isWal, isSome, blocked⟩ := afterwards.readOnly rfl
        have unblocked := (directories _).symm.trans (writable isWal isSome)
        exact absurd (blocked.symm.trans unblocked) (by decide)
  subst isFull
  have noLog := afterwards.noLog rfl
  obtain ⟨mode, file, isWal⟩ := afterwards.file
  have settled := DirectoryTree.settle_of_database file noLog
  rw [DirectoryTree.tables?_settle named, DirectoryTree.tables?_of_database file] at current
  refine ⟨⟨named, ?_⟩, rfl, current⟩
  cases mode with
  | wal =>
      rw [settled, if_pos rfl] at kept
      have replaced := DirectoryTree.fileAt?_keep named (opened.fileAt?_attach named) store.database
      have log := DirectoryTree.isHeld_keep (opened.isHeld_attach named) store.database
      have journal := (opened.attach store.location).fileAt?_keep_journal named store.database
      rw [← kept] at replaced log journal
      exact Or.inl (held_of_opened opened (isWal rfl) afterwards.notShut afterwards.played
        (DirectoryTree.tables?_of_database replaced) log directories
        (journal.trans (opened.fileAt?_attach_journal named)))
  | delete =>
      rw [settled, if_neg (by decide)] at kept
      have replaced := DirectoryTree.fileAt?_keep named file store.database
      have log := DirectoryTree.fileAt?_keep_log named (DirectoryTree.isHeld_of_noLog noLog)
        store.database
      rw [← kept] at replaced log
      have notShut := DirectoryTree.isShut_of_isDirectory directories store.location
      exact Or.inr
        { file := replaced
          noLog := log.trans noLog
          notShut := notShut.trans afterwards.notShut
          index := fun isWal => (directories _).trans (afterwards.index rfl isWal) }

end DurableStore

end RowAccess
