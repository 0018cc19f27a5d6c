import Mathlib.Logic.Function.Basic
import RowAccess.Store.Memory

/-!
Contract: what the calls on a store do, whatever the store is made of.

A store shows a credential for some tokens and a principal for some
identifiers. A call that fails leaves what the store shows as it is. One that
answers takes its answer from there, and changes at most the credential of its
own token.

Owns:
- the laws of the calls on credentials and of those on principals.
- that stores in memory and watched stores keep them.
-/

namespace RowAccess

/-- A credential that was used at a time. -/
def Credential.used (time : Instant) (credential : Credential) : Credential :=
  { credential with lastUsedAt := some time }

/-- What a call does to one view of a store: it fails and changes nothing in it,
or it answers as described and leaves the view given. -/
structure Performs {σ ρ α : Type} (view : σ → ρ) (before : σ) (made : Except StoreError α × σ)
    (Answers : α → Prop) (after : ρ) : Prop where
  failed : ∀ error, made.1 = .error error → view made.2 = view before
  answered : ∀ answer, made.1 = .ok answer → Answers answer ∧ view made.2 = after

namespace Performs

variable {σ ρ α : Type} {view : σ → ρ} {before : σ} {Answers : α → Prop} {after : ρ}

/-- A call that always answers. -/
theorem ofAnswer {made : σ} {answer : α} (answers : Answers answer) (leaves : view made = after) :
    Performs view before (.ok answer, made) Answers after where
  failed _ failure := nomatch failure
  answered _ answered := ⟨Except.ok.inj answered ▸ answers, leaves⟩

theorem kept_or_answered {made : Except StoreError α × σ}
    (performed : Performs view before made Answers after) :
    view made.2 = view before ∨ ∃ answer, made.1 = .ok answer ∧ view made.2 = after := by
  cases answer : made.1 with
  | error error => exact Or.inl (performed.failed error answer)
  | ok value => exact Or.inr ⟨value, rfl, (performed.answered value answer).2⟩

/-- A call that only reads changes nothing, whether it fails or answers. -/
theorem kept {made : Except StoreError α × σ}
    (performed : Performs view before made Answers (view before)) :
    view made.2 = view before := by
  rcases performed.kept_or_answered with same | ⟨_, _, same⟩
  · exact same
  · exact same

end Performs

/-- The credentials a store shows, and what the calls do to them. -/
class CredentialLaws (σ : Type) [CredentialStore σ] where
  stored : σ → TokenValue → Option Credential
  find_performs : ∀ token store,
    Performs stored store (CredentialStore.find token store)
      (fun found => found = stored store token) (stored store)
  delete_performs : ∀ token store,
    Performs stored store (CredentialStore.deleteIfExists token store)
      (fun existed => existed = (stored store token).isSome)
      (Function.update (stored store) token none)
  touch_performs : ∀ token time store,
    Performs stored store (CredentialStore.touch token time store) (fun _ => True)
      (Function.update (stored store) token ((stored store token).map (Credential.used time)))
  stored_load : ∀ owner store, stored (CredentialStore.load owner store).2 = stored store

/-- The principals a store shows, which no call changes. -/
class DirectoryLaws (σ : Type) [CredentialStore σ] where
  known : σ → PrincipalId → Option Principal
  load_performs : ∀ owner store,
    Performs known store (CredentialStore.load owner store)
      (fun found => found = known store owner) (known store)
  known_find : ∀ token store, known (CredentialStore.find token store).2 = known store
  known_delete : ∀ token store,
    known (CredentialStore.deleteIfExists token store).2 = known store
  known_touch : ∀ token time store,
    known (CredentialStore.touch token time store).2 = known store

/-! ## Watched stores -/

namespace WatchedStore

variable {σ : Type}

/-- A call that fails on its way does nothing, so a watched call does no more than
the call itself. -/
theorem performs_call {ρ α : Type} {view : σ → ρ} {kind : StoreCall}
    {perform : σ → Except StoreError α × σ} {watched : WatchedStore σ} {Answers : α → Prop}
    {after : ρ} (performed : Performs view watched.store (perform watched.store) Answers after) :
    Performs (fun current => view current.store) watched (call kind perform watched) Answers
      after := by
  unfold call
  cases watched.faults watched.calls kind with
  | some fault => exact ⟨fun _ _ => rfl, fun _ answered => nomatch answered⟩
  | none => exact ⟨performed.failed, performed.answered⟩

theorem view_call {ρ α : Type} {view : σ → ρ} {kind : StoreCall}
    {perform : σ → Except StoreError α × σ} {watched : WatchedStore σ}
    (kept : view (perform watched.store).2 = view watched.store) :
    view (call kind perform watched).2.store = view watched.store := by
  unfold call
  cases watched.faults watched.calls kind with
  | some fault => rfl
  | none => exact kept

instance [CredentialStore σ] [CredentialLaws σ] : CredentialLaws (WatchedStore σ) where
  stored watched := CredentialLaws.stored watched.store
  find_performs token watched := performs_call (CredentialLaws.find_performs token watched.store)
  delete_performs token watched :=
    performs_call (CredentialLaws.delete_performs token watched.store)
  touch_performs token time watched :=
    performs_call (CredentialLaws.touch_performs token time watched.store)
  stored_load owner watched := view_call (CredentialLaws.stored_load owner watched.store)

instance [CredentialStore σ] [DirectoryLaws σ] : DirectoryLaws (WatchedStore σ) where
  known watched := DirectoryLaws.known watched.store
  load_performs owner watched := performs_call (DirectoryLaws.load_performs owner watched.store)
  known_find token watched := view_call (DirectoryLaws.known_find token watched.store)
  known_delete token watched := view_call (DirectoryLaws.known_delete token watched.store)
  known_touch token time watched := view_call (DirectoryLaws.known_touch token time watched.store)

end WatchedStore

/-! ## Stores in memory -/

namespace MemoryStore

theorem find?_delete (store : MemoryStore) (token : TokenValue) :
    (store.delete token).credentials.find? =
      Function.update store.credentials.find? token none := by
  funext candidate
  show (store.credentials.erase token).find? candidate = _
  rw [OrderedMap.find?_erase, Function.update_apply]

theorem find?_touch (store : MemoryStore) (token : TokenValue) (time : Instant) :
    (store.touch token time).credentials.find? =
      Function.update store.credentials.find? token
        ((store.credentials.find? token).map (Credential.used time)) := by
  unfold touch
  cases present : store.credentials.find? token with
  | some credential =>
      funext candidate
      show (store.credentials.insert token _).find? candidate = _
      rw [OrderedMap.find?_insert, Function.update_apply]
      rfl
  | none =>
      show store.credentials.find? = Function.update store.credentials.find? token none
      rw [← present, Function.update_eq_self]

instance : CredentialLaws MemoryStore where
  stored store := store.credentials.find?
  find_performs _ _ := Performs.ofAnswer rfl rfl
  delete_performs token store := Performs.ofAnswer rfl (store.find?_delete token)
  touch_performs token time store := Performs.ofAnswer trivial (store.find?_touch token time)
  stored_load _ _ := rfl

theorem principals_touch (store : MemoryStore) (token : TokenValue) (time : Instant) :
    (store.touch token time).principals = store.principals := by
  unfold touch
  split <;> rfl

instance : DirectoryLaws MemoryStore where
  known store := store.principals.find?
  load_performs _ _ := Performs.ofAnswer rfl rfl
  known_find _ _ := rfl
  known_delete _ _ := rfl
  known_touch token time store := congrArg OrderedMap.find? (store.principals_touch token time)

end MemoryStore

end RowAccess
