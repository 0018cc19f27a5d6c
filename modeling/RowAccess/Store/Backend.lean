import RowAccess.Store.Durable
import RowAccess.Store.Memory

/-!
Contract: a credential store of either kind.

Owns:
- the choice between memory and a database, and the operations on both.
-/

namespace RowAccess

inductive CredentialBackend where
  | memory (store : MemoryStore)
  | durable (store : DurableStore)
deriving DecidableEq, Repr

namespace CredentialBackend

def mapMemory {α : Type} (made : α × MemoryStore) : α × CredentialBackend :=
  (made.1, .memory made.2)

def mapDurable {α : Type} (made : α × DurableStore) : α × CredentialBackend :=
  (made.1, .durable made.2)

instance : CredentialStore CredentialBackend where
  find token
    | .memory store => mapMemory (CredentialStore.find token store)
    | .durable store => mapDurable (CredentialStore.find token store)
  deleteIfExists token
    | .memory store => mapMemory (CredentialStore.deleteIfExists token store)
    | .durable store => mapDurable (CredentialStore.deleteIfExists token store)
  touch token time
    | .memory store => mapMemory (CredentialStore.touch token time store)
    | .durable store => mapDurable (CredentialStore.touch token time store)
  load owner
    | .memory store => mapMemory (CredentialStore.load owner store)
    | .durable store => mapDurable (CredentialStore.load owner store)

def insertPrincipal (principal : Principal) :
    CredentialBackend → Except StoreError Unit × CredentialBackend
  | .memory store => (.ok (), .memory (store.insertPrincipal principal))
  | .durable store => mapDurable (store.insertPrincipal principal)

def insertCredential (credential : Credential) :
    CredentialBackend → Except StoreError Unit × CredentialBackend
  | .memory store => (.ok (), .memory (store.insertCredential credential))
  | .durable store => mapDurable (store.insertCredential credential)

end CredentialBackend

end RowAccess
