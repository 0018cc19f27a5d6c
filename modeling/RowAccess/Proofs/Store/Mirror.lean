import RowAccess.Proofs.Store.Rows
import RowAccess.Proofs.Store.Service
import RowAccess.Store.Backend

/-!
Contract: a store on a file mirrors a store in memory.

The database holds the rows of what the store in memory holds, and the store on
the file stays in service. Then both answer every operation alike, up to the
offsets of instants, and mirror each other afterwards; the file keeps what the
store in memory holds, for stores that are opened later. What has an instant that
cannot be stored is rejected before anything is written.

Owns:
- files that keep what a store in memory holds, and the stores opened on them.
- mirroring, kept by every operation and by opening the file again.
- the rejection of instants that cannot be stored.
-/

namespace RowAccess

/-- Whether the file of a database keeps what a store in memory holds. A file without
tables keeps nothing, and neither does one that is not there yet. -/
def DirectoryTree.Keeps (tree : StoredTree) (location : List String) (memory : MemoryStore) :
    Prop :=
  ∃ database, Database.claim (tree.tables? location) = .ok database ∧ database.Holds memory

theorem DirectoryTree.keeps_of_missing {tree : StoredTree} {location : List String}
    (missing : tree.fileAt? location = none) : tree.Keeps location MemoryStore.empty := by
  refine ⟨Database.empty, ?_, Database.holds_empty⟩
  rw [tables?, missing]
  rfl

/-- Whether a store on a file holds what a store in memory holds. -/
structure DurableStore.Mirrors (durable : DurableStore) (memory : MemoryStore) : Prop where
  inFile : durable.settings.isInMemory = false
  inService : durable.InService
  holds : durable.database.Holds memory

namespace DurableStore

/-- A store opened on a file goes on with what the file keeps. -/
theorem mirrors_of_create {tree : StoredTree} {settings : DatabaseSettings} {durable : DurableStore}
    {memory : MemoryStore} (idle : DirectoryTree.Idle tree) (inFile : settings.isInMemory = false)
    (created : create tree settings = .ok durable)
    (keeps : tree.Keeps (Location.ofPath settings.path) memory)
    (writable : settings.journalMode = .wal →
      (tree.tables? (Location.ofPath settings.path)).isSome = true →
        durable.tree.blocks .index durable.location = false) : durable.Mirrors memory := by
  obtain ⟨inService, sameSettings, found⟩ := create_inService idle inFile created writable
  obtain ⟨database, current, holds⟩ := keeps
  refine ⟨?_, inService, ?_⟩
  · rw [sameSettings]
    exact inFile
  · rw [Except.ok.inj (found.symm.trans current)]
    exact holds

variable {durable : DurableStore} {memory : MemoryStore}

namespace Mirrors

/-- An operation on the database that answers, on a store that mirrors. -/
theorem perform (mirrors : durable.Mirrors memory) {α : Type} (needed : FileAccess)
    {operation : Database → Except StoreError α × Database} {answer : α} {after : MemoryStore}
    (answers : (operation durable.database).1 = .ok answer)
    (holds : (operation durable.database).2.Holds after) :
    ∃ next, durable.perform needed operation = (.ok answer, next) ∧ next.Mirrors after := by
  obtain ⟨tree, performed, inService⟩ := mirrors.inService.perform needed operation
  rw [answers] at performed
  exact ⟨_, performed, mirrors.inFile, inService, holds⟩

theorem keeps (mirrors : durable.Mirrors memory) :
    durable.tree.Keeps durable.location memory := by
  refine ⟨durable.database, ?_, mirrors.holds⟩
  rw [mirrors.inService.stored]
  exact Database.claim_of_current mirrors.holds.version

theorem find (mirrors : durable.Mirrors memory) (token : TokenValue) :
    ∃ next, CredentialStore.find token durable =
        (.ok ((memory.credentials.find? token).map Credential.utc), next) ∧
      next.Mirrors memory :=
  mirrors.perform .readOnly (mirrors.holds.find token) mirrors.holds

theorem load (mirrors : durable.Mirrors memory) (id : PrincipalId) :
    ∃ next, CredentialStore.load id durable = (.ok (memory.principals.find? id), next) ∧
      next.Mirrors memory :=
  mirrors.perform .readOnly (mirrors.holds.load id) mirrors.holds

theorem delete (mirrors : durable.Mirrors memory) (token : TokenValue) :
    ∃ next, CredentialStore.deleteIfExists token durable =
        (.ok (memory.credentials.contains token), next) ∧
      next.Mirrors (memory.delete token) :=
  mirrors.perform .full (congrArg Except.ok (mirrors.holds.contains token))
    (mirrors.holds.delete token)

theorem touch (mirrors : durable.Mirrors memory) (token : TokenValue) {time : Instant}
    (inRange : Timestamp.InRange time.nanos) :
    ∃ next, CredentialStore.touch token time durable = (.ok (), next) ∧
      next.Mirrors (memory.touch token time) := by
  obtain ⟨answers, holds⟩ := mirrors.holds.touch token inRange
  show ∃ next, DurableStore.touch token time durable = _ ∧ _
  unfold DurableStore.touch
  rw [Timestamp.encode_of_inRange inRange]
  exact mirrors.perform .full answers holds

theorem insertPrincipal (mirrors : durable.Mirrors memory) (principal : Principal) :
    ∃ next, durable.insertPrincipal principal = (.ok (), next) ∧
      next.Mirrors (memory.insertPrincipal principal) :=
  mirrors.perform .full rfl (mirrors.holds.insertPrincipal principal)

theorem insertCredential (mirrors : durable.Mirrors memory) {credential : Credential}
    (storable : credential.Storable) :
    ∃ next, durable.insertCredential credential = (.ok (), next) ∧
      next.Mirrors (memory.insertCredential credential) := by
  have row := TokenRow.ofCredential_of_storable storable
  unfold DurableStore.insertCredential
  rw [row]
  refine mirrors.perform .full ?_ ?_
  · simp only [Database.insertCredential, row]
  · simp only [Database.insertCredential, row]
    exact mirrors.holds.insertCredential storable

theorem reopen (mirrors : durable.Mirrors memory) :
    ∃ next, durable.reopen = (.ok (), next) ∧ next.Mirrors memory := by
  obtain ⟨tree, opened, inService⟩ :=
    mirrors.inService.reopen mirrors.inFile mirrors.holds.version
  exact ⟨_, opened, mirrors.inFile, inService, mirrors.holds⟩

end Mirrors

/-! ## Rejected instants -/

theorem insertCredential_of_not_storable (durable : DurableStore) {credential : Credential}
    (beyond : ¬ credential.Storable) :
    durable.insertCredential credential = (.error Timestamp.outOfRange, durable) := by
  unfold DurableStore.insertCredential
  rw [TokenRow.ofCredential_of_not_storable beyond]

theorem touch_of_not_inRange (durable : DurableStore) (token : TokenValue) {time : Instant}
    (beyond : ¬ Timestamp.InRange time.nanos) :
    CredentialStore.touch token time durable = (.error Timestamp.outOfRange, durable) := by
  show DurableStore.touch token time durable = _
  unfold DurableStore.touch
  rw [Timestamp.encode_of_not_inRange beyond]

end DurableStore

end RowAccess
