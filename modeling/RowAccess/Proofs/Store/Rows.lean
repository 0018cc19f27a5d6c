import RowAccess.Proofs.Json.Texts
import RowAccess.Proofs.Ordered.Set
import RowAccess.Store.Database
import RowAccess.Store.Memory

/-!
Contract: the rows of a database hold what a store in memory holds.

A principal is read back from its row as it was. A credential can be stored if
its instants can be, and is read back with them in UTC; otherwise nothing is
stored. So operations on tables answer like those on a store in memory, up to
the offsets of instants, and leave rows for what that store then holds.

Owns:
- instants and credentials in UTC, and which credentials can be stored.
- the round trips of rows.
- databases that hold the entries of a store in memory, kept by every operation.
-/

namespace RowAccess

/-- The same instant in UTC. -/
def Instant.utc (instant : Instant) : Instant := Instant.ofNanosUtc instant.nanos

/-- The same credential with its instants in UTC. -/
def Credential.utc (credential : Credential) : Credential :=
  { credential with
    issuedAt := credential.issuedAt.utc
    expiresAt := credential.expiresAt.utc
    lastUsedAt := credential.lastUsedAt.map Instant.utc }

/-- Whether the instants of a credential can be stored. -/
structure Credential.Storable (credential : Credential) : Prop where
  issuedAt : Timestamp.InRange credential.issuedAt.nanos
  expiresAt : Timestamp.InRange credential.expiresAt.nanos
  lastUsedAt : ∀ time, credential.lastUsedAt = some time → Timestamp.InRange time.nanos

instance (credential : Credential) : Decidable credential.Storable :=
  decidable_of_iff
    (Timestamp.InRange credential.issuedAt.nanos ∧ Timestamp.InRange credential.expiresAt.nanos ∧
      ∀ time ∈ credential.lastUsedAt, Timestamp.InRange time.nanos)
    ⟨fun each => ⟨each.1, each.2.1, each.2.2⟩,
      fun storable => ⟨storable.issuedAt, storable.expiresAt, storable.lastUsedAt⟩⟩

/-! ## Instants -/

namespace Timestamp

/-- The error of an instant that cannot be stored. -/
def outOfRange : StoreError := ⟨.invalid, "timestamp out of range"⟩

theorem encode_of_inRange {instant : Instant} (inRange : InRange instant.nanos) :
    encode instant = .ok instant.nanos := by
  rw [encode, if_pos inRange]

theorem encode_of_not_inRange {instant : Instant} (beyond : ¬ InRange instant.nanos) :
    encode instant = .error outOfRange := by
  rw [encode, if_neg beyond, outOfRange]

theorem representable_of_inRange {nanos : Int} (inRange : InRange nanos) :
    Representable nanos := by
  have least : leastSecond * Instant.nanosPerSecond ≤ -Int.pow 2 63 := by decide
  have greatest : Int.pow 2 63 ≤ endSecond * Instant.nanosPerSecond := by decide
  exact ⟨Int.le_trans least inRange.1, Int.lt_of_lt_of_le inRange.2 greatest⟩

theorem decode_of_inRange {instant : Instant} (inRange : InRange instant.nanos) :
    decode instant.nanos = .ok instant.utc := by
  rw [decode, if_pos (representable_of_inRange inRange), Instant.utc]

end Timestamp

/-! ## Rows -/

namespace TokenRow

/-- The row of a credential that can be stored. -/
def exact (credential : Credential) : TokenRow where
  owner := .text credential.owner.text
  issuedAt := .integer credential.issuedAt.nanos
  expiresAt := .integer credential.expiresAt.nanos
  lastUsedAt := (credential.lastUsedAt.map (fun time => Cell.integer time.nanos)).getD .null

theorem ofCredential_of_storable {credential : Credential} (storable : credential.Storable) :
    ofCredential credential = .ok (exact credential) := by
  have used := storable.lastUsedAt
  simp only [ofCredential, Timestamp.encode_of_inRange storable.issuedAt,
    Timestamp.encode_of_inRange storable.expiresAt, exact]
  cases lastUsed : credential.lastUsedAt with
  | none => rfl
  | some time =>
      simp only [Timestamp.encode_of_inRange (used time lastUsed)]
      rfl

theorem ofCredential_of_not_storable {credential : Credential}
    (beyond : ¬ credential.Storable) :
    ofCredential credential = .error Timestamp.outOfRange := by
  obtain ⟨token, owner, issuedAt, expiresAt, lastUsedAt⟩ := credential
  unfold ofCredential
  by_cases issued : Timestamp.InRange issuedAt.nanos
  · simp only [Timestamp.encode_of_inRange issued]
    by_cases expires : Timestamp.InRange expiresAt.nanos
    · simp only [Timestamp.encode_of_inRange expires]
      cases lastUsedAt with
      | none => exact (beyond ⟨issued, expires, fun _ used => nomatch used⟩).elim
      | some time =>
          have used : ¬ Timestamp.InRange time.nanos := by
            intro used
            refine beyond ⟨issued, expires, fun other isUsed => ?_⟩
            cases isUsed
            exact used
          simp only [Timestamp.encode_of_not_inRange used]
          rfl
    · simp only [Timestamp.encode_of_not_inRange expires]
      rfl
  · simp only [Timestamp.encode_of_not_inRange issued]
    rfl

theorem decode_exact {credential : Credential} (storable : credential.Storable) :
    (exact credential).decode credential.token = .ok credential.utc := by
  have read : ∀ {instant : Instant}, Timestamp.InRange instant.nanos →
      (Cell.integer instant.nanos).readInstant = .ok instant.utc :=
    fun inRange => Timestamp.decode_of_inRange inRange
  obtain ⟨issued, expires, used⟩ := storable
  obtain ⟨token, owner, issuedAt, expiresAt, lastUsedAt⟩ := credential
  simp only [decode, exact, read issued, read expires, Credential.utc]
  cases lastUsedAt with
  | none => rfl
  | some time =>
      simp only [Option.map_some, Option.getD_some, Cell.isNull, read (used time rfl)]
      rfl

end TokenRow

theorem PrincipalRow.decode_ofPrincipal (principal : Principal) :
    (PrincipalRow.ofPrincipal principal).decode principal.id = .ok principal := by
  have permissions : readPermissions principal.id
      (Json.strings principal.permissions.toList).print = .ok principal.permissions := by
    have listed : ((Json.parse? (Json.strings principal.permissions.toList).print).bind
        Json.array?).bind (fun items => items.mapM Json.string?) =
          some principal.permissions.toList := by
      rw [Json.parse?_print_strings]
      exact Json.mapM_string?_map_string _
    unfold readPermissions
    rw [listed]
    exact congrArg Except.ok principal.permissions.ofList_toList
  obtain ⟨id, listed, superuser⟩ := principal
  simp only [ofPrincipal, decode, Cell.readInteger, Cell.readText, Cell.integer?, Cell.text?]
  simp only [bind, Except.bind, permissions]
  cases superuser <;> rfl

/-! ## Tables -/

/-- Whether the rows of a database are those of the entries of a store in memory,
and its tables are of the version in use. -/
structure Database.Holds (database : Database) (memory : MemoryStore) : Prop where
  tokens : ∀ token,
    database.tokens.find? token = (memory.credentials.find? token).map TokenRow.exact
  principals : ∀ id,
    database.principals.find? id = (memory.principals.find? id).map PrincipalRow.ofPrincipal
  storable : ∀ token credential, memory.credentials.find? token = some credential →
    credential.token = token ∧ credential.Storable
  named : ∀ id principal, memory.principals.find? id = some principal → principal.id = id
  version : database.version = some (.integer Database.currentVersion)

namespace Database

theorem holds_empty : Database.empty.Holds MemoryStore.empty where
  tokens _ := rfl
  principals _ := rfl
  storable _ _ found := nomatch found
  named _ _ found := nomatch found
  version := rfl

namespace Holds

variable {database : Database} {memory : MemoryStore}

theorem find (holds : database.Holds memory) (token : TokenValue) :
    database.find token = .ok ((memory.credentials.find? token).map Credential.utc) := by
  unfold Database.find
  rw [holds.tokens]
  cases found : memory.credentials.find? token with
  | none => rfl
  | some credential =>
      obtain ⟨named, storable⟩ := holds.storable token credential found
      subst named
      simp only [Option.map_some, TokenRow.decode_exact storable]
      rfl

theorem load (holds : database.Holds memory) (id : PrincipalId) :
    database.load id = .ok (memory.principals.find? id) := by
  unfold Database.load
  rw [holds.principals]
  cases found : memory.principals.find? id with
  | none => rfl
  | some principal =>
      have named := holds.named id principal found
      subst named
      simp only [Option.map_some, PrincipalRow.decode_ofPrincipal]
      rfl

theorem contains (holds : database.Holds memory) (token : TokenValue) :
    database.tokens.contains token = memory.credentials.contains token := by
  unfold OrderedMap.contains
  rw [holds.tokens, Option.isSome_map]

theorem delete (holds : database.Holds memory) (token : TokenValue) :
    (database.delete token).Holds (memory.delete token) where
  tokens candidate := by
    show (database.tokens.erase token).find? candidate = _
    rw [OrderedMap.find?_erase, holds.tokens]
    show _ = ((memory.credentials.erase token).find? candidate).map TokenRow.exact
    rw [OrderedMap.find?_erase]
    split <;> rfl
  principals := holds.principals
  storable candidate credential found := by
    change (memory.credentials.erase token).find? candidate = some credential at found
    rw [OrderedMap.find?_erase] at found
    split at found
    next => cases found
    next => exact holds.storable candidate credential found
  named := holds.named
  version := holds.version

theorem insertCredential (holds : database.Holds memory) {credential : Credential}
    (storable : credential.Storable) :
    Holds { database with
        tokens := database.tokens.insert credential.token (TokenRow.exact credential) }
      (memory.insertCredential credential) where
  tokens candidate := by
    show (database.tokens.insert credential.token _).find? candidate =
      ((memory.credentials.insert credential.token credential).find? candidate).map TokenRow.exact
    rw [OrderedMap.find?_insert, OrderedMap.find?_insert, holds.tokens]
    split <;> rfl
  principals := holds.principals
  storable candidate found present := by
    change (memory.credentials.insert credential.token credential).find? candidate = some found
      at present
    rw [OrderedMap.find?_insert] at present
    split at present
    next same =>
      cases present
      exact ⟨same.symm, storable⟩
    next => exact holds.storable candidate found present
  named := holds.named
  version := holds.version

theorem insertPrincipal (holds : database.Holds memory) (principal : Principal) :
    (database.insertPrincipal principal).Holds (memory.insertPrincipal principal) where
  tokens := holds.tokens
  principals candidate := by
    show (database.principals.insert principal.id _).find? candidate =
      ((memory.principals.insert principal.id principal).find? candidate).map _
    rw [OrderedMap.find?_insert, OrderedMap.find?_insert, holds.principals]
    split <;> rfl
  storable := holds.storable
  named candidate found present := by
    change (memory.principals.insert principal.id principal).find? candidate = some found
      at present
    rw [OrderedMap.find?_insert] at present
    split at present
    next same =>
      cases present
      exact same.symm
    next => exact holds.named candidate found present
  version := holds.version

/-- Touching a token is inserting the credential it has then. -/
theorem touch (holds : database.Holds memory) (token : TokenValue) {time : Instant}
    (inRange : Timestamp.InRange time.nanos) :
    (database.touch token time).1 = .ok () ∧
      (database.touch token time).2.Holds (memory.touch token time) := by
  unfold Database.touch MemoryStore.touch
  rw [Timestamp.encode_of_inRange inRange]
  dsimp only
  rw [holds.tokens]
  cases found : memory.credentials.find? token with
  | none => exact ⟨rfl, holds⟩
  | some credential =>
      obtain ⟨named, storable⟩ := holds.storable token credential found
      subst named
      have touched : Credential.Storable { credential with lastUsedAt := some time } := by
        refine ⟨storable.issuedAt, storable.expiresAt, fun other used => ?_⟩
        cases used
        exact inRange
      exact ⟨rfl, holds.insertCredential touched⟩

end Holds

end Database

end RowAccess
