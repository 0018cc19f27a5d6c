import RowAccess.Ordered.Map
import RowAccess.Store.Credentials

/-!
Contract: credentials and principals held in memory.

Insertion replaces what has the same token or identifier. No operation fails;
touching an unknown token does nothing.
-/

namespace RowAccess

structure MemoryStore where
  credentials : OrderedMap TokenValue Credential
  principals : OrderedMap PrincipalId Principal
deriving DecidableEq, Repr

namespace MemoryStore

def empty : MemoryStore := ⟨OrderedMap.empty, OrderedMap.empty⟩

instance : Inhabited MemoryStore := ⟨empty⟩

def insertCredential (credential : Credential) (store : MemoryStore) : MemoryStore :=
  { store with credentials := store.credentials.insert credential.token credential }

def insertPrincipal (principal : Principal) (store : MemoryStore) : MemoryStore :=
  { store with principals := store.principals.insert principal.id principal }

def touch (token : TokenValue) (time : Instant) (store : MemoryStore) : MemoryStore :=
  match store.credentials.find? token with
  | some credential =>
      { store with
        credentials :=
          store.credentials.insert token { credential with lastUsedAt := some time } }
  | none => store

def delete (token : TokenValue) (store : MemoryStore) : MemoryStore :=
  { store with credentials := store.credentials.erase token }

instance : CredentialStore MemoryStore where
  find token store := (.ok (store.credentials.find? token), store)
  deleteIfExists token store := (.ok (store.credentials.contains token), store.delete token)
  touch token time store := (.ok (), store.touch token time)
  load owner store := (.ok (store.principals.find? owner), store)

end MemoryStore

end RowAccess
