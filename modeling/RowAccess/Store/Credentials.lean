import RowAccess.Identity.Principal
import RowAccess.Store.Error
import RowAccess.Token.Credential

/-!
Contract: what the token gate asks of a store of credentials and principals.

Each operation is one atomic call: it answers or fails, and leaves the store
as it is after the call.

Owns:
- the interface of stores.
- stores whose calls are watched and may fail before they reach the store.
-/

namespace RowAccess

class CredentialStore (σ : Type) where
  find : TokenValue → σ → Except StoreError (Option Credential) × σ
  deleteIfExists : TokenValue → σ → Except StoreError Bool × σ
  touch : TokenValue → Instant → σ → Except StoreError Unit × σ
  load : PrincipalId → σ → Except StoreError (Option Principal) × σ

inductive StoreCall where
  | find (token : TokenValue)
  | delete (token : TokenValue)
  | touch (token : TokenValue) (time : Instant)
  | load (owner : PrincipalId)
deriving DecidableEq, Repr

/-- Which call fails, given the calls made before it. -/
abbrev StoreFaults := List StoreCall → StoreCall → Option StoreError

/-- A store, the calls made so far and the faults of the way to it. -/
structure WatchedStore (σ : Type) where
  store : σ
  calls : List StoreCall
  faults : StoreFaults

namespace WatchedStore

variable {σ : Type}

def watch (faults : StoreFaults) (store : σ) : WatchedStore σ := ⟨store, [], faults⟩

/-- Makes a call: it is remembered, and fails without effect or is performed. -/
def call {α : Type} (kind : StoreCall) (perform : σ → Except StoreError α × σ)
    (watched : WatchedStore σ) : Except StoreError α × WatchedStore σ :=
  let remembered := { watched with calls := watched.calls ++ [kind] }
  match watched.faults watched.calls kind with
  | some error => (.error error, remembered)
  | none =>
      let made := perform watched.store
      (made.1, { remembered with store := made.2 })

instance [CredentialStore σ] : CredentialStore (WatchedStore σ) where
  find token := call (.find token) (CredentialStore.find token)
  deleteIfExists token := call (.delete token) (CredentialStore.deleteIfExists token)
  touch token time := call (.touch token time) (CredentialStore.touch token time)
  load owner := call (.load owner) (CredentialStore.load owner)

end WatchedStore

end RowAccess
