import Mathlib.Data.List.Sort
import RowAccess.Ordered.Map

/-!
Contract: an ordered map is determined by its look-ups.

Entries bound in turn leave the last value for each key. Binding the entries of
a map that was itself made of a list is the same as binding that list, so what is
collected in one map and then moved into another one might as well have been
bound there at once.

Owns:
- the equality of maps with the same look-ups.
- look-ups after several entries were bound.
- the collection of entries before they are bound.
- maps that hold the entries of a list with one entry for each key.
-/

namespace RowAccess.OrderedMap

variable {κ ν : Type}

/-! ## Lists with one entry for each key -/

theorem find?_eq_none_of_absent [DecidableEq κ] {entries : List (κ × ν)} {key : κ}
    (absent : key ∉ entries.map Prod.fst) :
    entries.find? (fun entry => entry.1 = key) = none := by
  rw [List.find?_eq_none]
  intro entry member atEntry
  apply absent
  rw [← of_decide_eq_true atEntry]
  exact List.mem_map_of_mem member

/-- Where every key has one entry, a key is looked up from either end. -/
theorem find?_reverse_of_nodup [DecidableEq κ] {entries : List (κ × ν)}
    (nodup : (entries.map Prod.fst).Nodup) (key : κ) :
    entries.reverse.find? (fun entry => entry.1 = key) =
      entries.find? (fun entry => entry.1 = key) := by
  induction entries with
  | nil => rfl
  | cons head tail inductionHypothesis =>
      rw [List.map_cons, List.nodup_cons] at nodup
      rw [List.reverse_cons, List.find?_append, inductionHypothesis nodup.2, List.find?_cons,
        List.find?_cons]
      by_cases atHead : head.1 = key
      · have notInTail := find?_eq_none_of_absent (atHead ▸ nodup.1)
        simp [notInTail, atHead]
      · simp [atHead]

theorem mem_iff_find?_of_nodup [DecidableEq κ] {entries : List (κ × ν)}
    (nodup : (entries.map Prod.fst).Nodup) {key : κ} {value : ν} :
    (key, value) ∈ entries ↔
      (entries.find? (fun entry => entry.1 = key)).map Prod.snd = some value := by
  induction entries with
  | nil => simp
  | cons head tail inductionHypothesis =>
      obtain ⟨own, held⟩ := head
      rw [List.map_cons, List.nodup_cons] at nodup
      rw [List.mem_cons, List.find?_cons]
      by_cases atHead : own = key
      · subst atHead
        have notInTail : (own, value) ∉ tail := by
          intro member
          exact nodup.1 (List.mem_map.2 ⟨(own, value), member, rfl⟩)
        simp [notInTail, eq_comm]
      · have tailOnly := inductionHypothesis nodup.2
        simp [atHead, Ne.symm atHead, tailOnly]

variable [Ord κ]

/-! ## The entries of a list -/

/-- Whether the entries of a map are those of a list. -/
def Holds [DecidableEq κ] (map : OrderedMap κ ν) (entries : List (κ × ν)) : Prop :=
  ∀ key value, map.find? key = some value ↔ (key, value) ∈ entries

theorem holds_empty [DecidableEq κ] : (empty : OrderedMap κ ν).Holds [] := by
  intro key value
  rw [find?_empty]
  simp

theorem Holds.contains_iff [DecidableEq κ] {map : OrderedMap κ ν} {entries : List (κ × ν)}
    {key : κ} (holds : map.Holds entries) :
    map.contains key = true ↔ key ∈ entries.map Prod.fst := by
  rw [contains, Option.isSome_iff_exists, List.mem_map]
  constructor
  · rintro ⟨value, found⟩
    exact ⟨(key, value), (holds key value).1 found, rfl⟩
  · rintro ⟨⟨own, value⟩, member, rfl⟩
    exact ⟨value, (holds own value).2 member⟩

/-! ## Maps with the same look-ups -/

theorem nodup_keys [Std.ReflOrd κ] (map : OrderedMap κ ν) : map.keys.Nodup := by
  refine map.increasing.imp (fun below same => ?_)
  rw [same, Std.ReflOrd.compare_self] at below
  cases below

variable [Std.TransOrd κ] [Std.LawfulEqOrd κ]

theorem eq_of_find?_eq [DecidableEq κ] {left right : OrderedMap κ ν}
    (same : ∀ key, left.find? key = right.find? key) : left = right := by
  have permuted : left.entries.Perm right.entries := by
    apply (List.perm_ext_iff_of_nodup left.nodup_keys.of_map right.nodup_keys.of_map).2
    rintro ⟨key, value⟩
    rw [mem_iff_find?_of_nodup left.nodup_keys, mem_iff_find?_of_nodup right.nodup_keys]
    exact Eq.congr_left (same key)
  have listed : left.entries = right.entries := by
    refine List.Perm.eq_of_pairwise ?_ (List.pairwise_map.1 left.increasing)
      (List.pairwise_map.1 right.increasing) permuted
    intro first second _ _ below above
    rw [Std.OrientedCmp.gt_of_lt below] at above
    cases above
  obtain ⟨entries, increasing⟩ := left
  subst listed
  rfl

/-! ## Several entries -/

theorem insertAll_append (map : OrderedMap κ ν) (first second : List (κ × ν)) :
    map.insertAll (first ++ second) = (map.insertAll first).insertAll second :=
  List.foldl_append

/-- The last entry for a key is the one that is found. -/
theorem find?_insertAll [DecidableEq κ] (map : OrderedMap κ ν) (entries : List (κ × ν))
    (key : κ) :
    (map.insertAll entries).find? key =
      ((entries.reverse.find? (fun entry => entry.1 = key)).map Prod.snd).or (map.find? key) := by
  induction entries generalizing map with
  | nil => rfl
  | cons head tail inductionHypothesis =>
      have step : map.insertAll (head :: tail) = (map.insert head.1 head.2).insertAll tail := rfl
      rw [step, inductionHypothesis, find?_insert, List.reverse_cons, List.find?_append]
      cases tail.reverse.find? (fun entry => entry.1 = key) with
      | some entry => rfl
      | none =>
          by_cases atHead : head.1 = key
          · simp [atHead]
          · simp [atHead, Ne.symm atHead]

theorem find?_insertAll_entries [DecidableEq κ] (map other : OrderedMap κ ν) (key : κ) :
    (map.insertAll other.entries).find? key = (other.find? key).or (map.find? key) := by
  rw [find?_insertAll, find?_reverse_of_nodup other.nodup_keys]
  rfl

/-- Entries may be collected in a map of their own before they are bound. -/
theorem insertAll_entries_ofList (map : OrderedMap κ ν) (entries : List (κ × ν)) :
    map.insertAll (ofList entries).entries = map.insertAll entries := by
  classical
  apply eq_of_find?_eq
  intro key
  have collected : (ofList entries).find? key =
      (entries.reverse.find? (fun entry => entry.1 = key)).map Prod.snd := by
    have found := find?_insertAll (empty : OrderedMap κ ν) entries key
    rw [find?_empty, Option.or_none] at found
    exact found
  rw [find?_insertAll_entries, find?_insertAll, collected]

/-! ## One more entry, and another order -/

variable [DecidableEq κ] {map other : OrderedMap κ ν} {entries others : List (κ × ν)} {key : κ}
  {value : ν}

theorem Holds.insert (holds : map.Holds entries) (absent : key ∉ entries.map Prod.fst) :
    (map.insert key value).Holds (entries ++ [(key, value)]) := by
  intro candidate held
  rw [find?_insert, List.mem_append, List.mem_singleton, Prod.mk.injEq]
  by_cases same : candidate = key
  · have notBefore : (candidate, held) ∉ entries := by
      intro member
      exact absent (same ▸ List.mem_map_of_mem member)
    rw [if_pos same, Option.some.injEq]
    constructor
    · intro isValue
      exact Or.inr ⟨same, isValue.symm⟩
    · rintro (before | ⟨_, isValue⟩)
      · exact absurd before notBefore
      · exact isValue.symm
  · rw [if_neg same, holds candidate held]
    constructor
    · exact Or.inl
    · rintro (before | ⟨atKey, _⟩)
      · exact before
      · exact absurd atKey same

/-- The order of the list has no part in the map. -/
theorem Holds.eq_of_perm (holds : map.Holds entries) (otherHolds : other.Holds others)
    (permuted : entries.Perm others) : map = other := by
  apply eq_of_find?_eq
  intro key
  apply Option.ext
  intro value
  rw [holds key value, otherHolds key value, permuted.mem_iff]

end RowAccess.OrderedMap
