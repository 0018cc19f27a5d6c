import RowAccess.Collection.Basic
import RowAccess.Proofs.Filter.Materialization
import RowAccess.Proofs.Ordered.Set

/-!
Contract: what a subset selects from a collection.

A union selects what some member selects, and it resolves where every member
does. A flattened union is resolved as the plain one is, and keys that are known
without running a query are those it resolves to.

Owns:
- resolution of lists of subsets, of unions and of flattened unions.
- agreement of the keys that are known locally with the resolved ones.
-/

namespace RowAccess.Collection

variable {collection : Collection}

/-- Whether a subset can be resolved in the collection. -/
def Resolves (collection : Collection) (subset : Subset) : Prop :=
  ∃ keys, collection.resolve subset = .ok keys

/-- Whether a subset resolves to keys that hold the given one. -/
def Selects (collection : Collection) (subset : Subset) (key : RecordKey) : Prop :=
  ∃ keys, collection.resolve subset = .ok keys ∧ key ∈ keys.toList

theorem selects_iff_of_resolve {subset : Subset} {keys : KeySet} {key : RecordKey}
    (resolved : collection.resolve subset = .ok keys) :
    collection.Selects subset key ↔ key ∈ keys.toList := by
  constructor
  · rintro ⟨other, found, member⟩
    rw [resolved] at found
    cases found
    exact member
  · exact fun member => ⟨keys, resolved, member⟩

/-! ## Lists of subsets -/

theorem resolveAll_cons_of_ok {subset : Subset} {keys : KeySet} (collected : KeySet)
    (rest : List Subset) (resolved : collection.resolve subset = .ok keys) :
    collection.resolveAll collected (subset :: rest) =
      collection.resolveAll (collected.union keys) rest := by
  simp only [resolveAll, resolved]

theorem resolveAll_cons_of_error {subset : Subset} {error : StoreError} (collected : KeySet)
    (rest : List Subset) (failed : collection.resolve subset = .error error) :
    collection.resolveAll collected (subset :: rest) = .error error := by
  simp only [resolveAll, failed]

theorem resolveAll_isOk_iff {subsets : List Subset} (collected : KeySet) :
    (∃ keys, collection.resolveAll collected subsets = .ok keys) ↔
      ∀ subset ∈ subsets, collection.Resolves subset := by
  induction subsets generalizing collected with
  | nil => simp [resolveAll]
  | cons subset rest inductionHypothesis =>
      rw [List.forall_mem_cons]
      cases resolved : collection.resolve subset with
      | error error =>
          rw [resolveAll_cons_of_error collected rest resolved]
          simp [Resolves, resolved]
      | ok keys =>
          rw [resolveAll_cons_of_ok collected rest resolved, inductionHypothesis]
          exact ⟨fun others => ⟨⟨keys, resolved⟩, others⟩, And.right⟩

theorem mem_resolveAll {subsets : List Subset} {collected keys : KeySet} {key : RecordKey}
    (resolved : collection.resolveAll collected subsets = .ok keys) :
    key ∈ keys.toList ↔
      key ∈ collected.toList ∨ ∃ subset ∈ subsets, collection.Selects subset key := by
  induction subsets generalizing collected with
  | nil =>
      simp only [resolveAll] at resolved
      cases resolved
      simp
  | cons subset rest inductionHypothesis =>
      cases found : collection.resolve subset with
      | error error =>
          rw [resolveAll_cons_of_error collected rest found] at resolved
          cases resolved
      | ok part =>
          rw [resolveAll_cons_of_ok collected rest found] at resolved
          rw [inductionHypothesis resolved, OrderedSet.mem_union, List.exists_mem_cons_iff,
            selects_iff_of_resolve found, or_assoc]

/-! ## Unions -/

theorem resolve_union (members : List Subset) :
    collection.resolve (.union members) =
      collection.resolveAll OrderedSet.empty members := by
  simp only [resolve]

theorem resolves_union_iff {members : List Subset} :
    collection.Resolves (.union members) ↔
      ∀ member ∈ members, collection.Resolves member := by
  unfold Resolves
  rw [resolve_union]
  exact resolveAll_isOk_iff OrderedSet.empty

theorem selects_union_iff {members : List Subset} {key : RecordKey}
    (resolves : collection.Resolves (.union members)) :
    collection.Selects (.union members) key ↔
      ∃ member ∈ members, collection.Selects member key := by
  obtain ⟨keys, resolved⟩ := resolves
  rw [selects_iff_of_resolve resolved]
  rw [resolve_union] at resolved
  rw [mem_resolveAll resolved]
  simp [OrderedSet.empty]

/-! ## Flattened unions -/

/-- The keys that are collected already are added to what a list resolves to. -/
theorem resolveAll_eq_map (collected : KeySet) (subsets : List Subset) :
    collection.resolveAll collected subsets =
      (collection.resolveAll OrderedSet.empty subsets).map collected.union := by
  induction subsets generalizing collected with
  | nil => simp only [resolveAll, Except.map, OrderedSet.union_empty]
  | cons subset rest inductionHypothesis =>
      cases resolved : collection.resolve subset with
      | error error =>
          rw [resolveAll_cons_of_error _ rest resolved, resolveAll_cons_of_error _ rest resolved]
          rfl
      | ok keys =>
          rw [resolveAll_cons_of_ok _ rest resolved, resolveAll_cons_of_ok _ rest resolved,
            OrderedSet.empty_union, inductionHypothesis (collected.union keys),
            inductionHypothesis keys]
          cases collection.resolveAll OrderedSet.empty rest with
          | error error => rfl
          | ok others => simp only [Except.map, OrderedSet.union_assoc]

theorem resolveAll_append (collected : KeySet) (first second : List Subset) :
    collection.resolveAll collected (first ++ second) =
      (collection.resolveAll collected first).bind (fun keys =>
        collection.resolveAll keys second) := by
  induction first generalizing collected with
  | nil => simp only [List.nil_append, resolveAll, Except.bind]
  | cons subset rest inductionHypothesis =>
      rw [List.cons_append]
      cases resolved : collection.resolve subset with
      | error error =>
          rw [resolveAll_cons_of_error _ _ resolved, resolveAll_cons_of_error _ _ resolved]
          rfl
      | ok keys =>
          rw [resolveAll_cons_of_ok _ _ resolved, resolveAll_cons_of_ok _ _ resolved,
            inductionHypothesis]

/-- The members a subset contributes to a union resolve to what the subset does. -/
theorem resolveAll_members (collected : KeySet) (subset : Subset) :
    collection.resolveAll collected subset.members =
      (collection.resolve subset).map collected.union := by
  have single : ∀ plain : Subset, collection.resolveAll collected [plain] =
      (collection.resolve plain).map collected.union := by
    intro plain
    cases resolved : collection.resolve plain with
    | error error =>
        rw [resolveAll_cons_of_error _ _ resolved]
        rfl
    | ok keys =>
        rw [resolveAll_cons_of_ok _ _ resolved]
        simp only [resolveAll, Except.map]
  cases subset with
  | query query => exact single _
  | explicit keys => exact single _
  | union nested =>
      rw [resolve_union]
      exact resolveAll_eq_map collected nested

theorem resolveAll_flatMap_members (collected : KeySet) (subsets : List Subset) :
    collection.resolveAll collected (subsets.flatMap Subset.members) =
      collection.resolveAll collected subsets := by
  induction subsets generalizing collected with
  | nil => rfl
  | cons subset rest inductionHypothesis =>
      rw [List.flatMap_cons, resolveAll_append, resolveAll_members]
      cases resolved : collection.resolve subset with
      | error error =>
          rw [resolveAll_cons_of_error _ rest resolved]
          rfl
      | ok keys =>
          rw [resolveAll_cons_of_ok _ rest resolved]
          exact inductionHypothesis (collected.union keys)

/-- A flattened union is resolved as the plain union is, failures included. -/
theorem resolve_unionOf (subsets : List Subset) :
    collection.resolve (Subset.unionOf subsets) = collection.resolve (.union subsets) := by
  rw [resolve_union, ← resolveAll_flatMap_members]
  unfold Subset.unionOf
  split
  next isEmpty =>
    rw [isEmpty]
    simp only [resolve, resolveAll]
  next single isSingle =>
    rw [isSingle, resolveAll_eq_map]
    cases resolved : collection.resolve single with
    | error error =>
        rw [resolveAll_cons_of_error _ _ resolved]
        rfl
    | ok keys =>
        rw [resolveAll_cons_of_ok _ _ resolved]
        simp only [resolveAll, Except.map, OrderedSet.empty_union]
  next => exact resolve_union _

theorem resolves_unionOf_iff {subsets : List Subset} :
    collection.Resolves (Subset.unionOf subsets) ↔
      ∀ subset ∈ subsets, collection.Resolves subset := by
  rw [← resolves_union_iff]
  unfold Resolves
  rw [resolve_unionOf]

theorem selects_unionOf_iff {subsets : List Subset} {key : RecordKey}
    (resolves : collection.Resolves (Subset.unionOf subsets)) :
    collection.Selects (Subset.unionOf subsets) key ↔
      ∃ subset ∈ subsets, collection.Selects subset key := by
  have plain : collection.Resolves (.union subsets) :=
    resolves_union_iff.2 (resolves_unionOf_iff.1 resolves)
  rw [← selects_union_iff plain]
  unfold Selects
  rw [resolve_unionOf]

/-! ## Keys that are known locally -/

mutual

/-- Keys that are known without running a query are the resolved ones. -/
theorem resolve_of_localKeys? {keys : KeySet} :
    ∀ subset : Subset, subset.localKeys? = some keys → collection.resolve subset = .ok keys
  | .explicit own, known => by
      simp only [Subset.localKeys?] at known
      cases known
      simp only [resolve]
  | .query _, known => by
      simp only [Subset.localKeys?] at known
      cases known
  | .union members, known => by
      simp only [Subset.localKeys?] at known
      rw [resolve_union]
      exact resolveAll_of_localKeysOfAll? OrderedSet.empty members known

theorem resolveAll_of_localKeysOfAll? {keys : KeySet} (collected : KeySet) :
    ∀ subsets : List Subset, Subset.localKeysOfAll? collected subsets = some keys →
      collection.resolveAll collected subsets = .ok keys
  | [], known => by
      simp only [Subset.localKeysOfAll?] at known
      cases known
      simp only [resolveAll]
  | subset :: rest, known => by
      simp only [Subset.localKeysOfAll?] at known
      split at known
      next own found =>
        rw [resolveAll_cons_of_ok collected rest (resolve_of_localKeys? subset found)]
        exact resolveAll_of_localKeysOfAll? (collected.union own) rest known
      next => cases known

end

theorem outcome_keysOf (subset : Subset) :
    (Inquiry.keysOf collection.resolve subset).outcome = collection.resolve subset := by
  unfold Inquiry.keysOf
  split
  next keys known => exact (resolve_of_localKeys? subset known).symm
  next => rfl

end RowAccess.Collection
