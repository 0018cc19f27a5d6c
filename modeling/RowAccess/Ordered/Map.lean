/-!
Contract: finite maps with ordered keys.

A map is its list of entries in strictly increasing key order. Insertion
replaces the value of a key that is present, so every key has one entry.

Owns:
- the map type, look-up, insertion and removal.
- the equations that read a look-up after each of them.

Does not own:
- the order of any particular key type.
-/

namespace RowAccess

/-- Binds a key in a list of entries that increases by key. -/
def insertEntry {κ ν : Type} [Ord κ] (key : κ) (value : ν) : List (κ × ν) → List (κ × ν)
  | [] => [(key, value)]
  | head :: tail =>
      match compare key head.1 with
      | .lt => (key, value) :: head :: tail
      | .eq => (key, value) :: tail
      | .gt => head :: insertEntry key value tail

theorem fst_mem_insertEntry {κ ν : Type} [Ord κ] {key candidate : κ} {value : ν}
    {entries : List (κ × ν)}
    (member : candidate ∈ (insertEntry key value entries).map Prod.fst) :
    candidate = key ∨ candidate ∈ entries.map Prod.fst := by
  induction entries with
  | nil =>
      simp [insertEntry] at member
      exact Or.inl member
  | cons head tail inductionHypothesis =>
      simp only [insertEntry] at member
      split at member
      · simp only [List.map_cons, List.mem_cons] at member ⊢
        exact member
      · simp only [List.map_cons, List.mem_cons] at member ⊢
        rcases member with isNew | inTail
        · exact Or.inl isNew
        · exact Or.inr (Or.inr inTail)
      · simp only [List.map_cons, List.mem_cons] at member ⊢
        rcases member with atHead | rest
        · exact Or.inr (Or.inl atHead)
        · rcases inductionHypothesis rest with isNew | inTail
          · exact Or.inl isNew
          · exact Or.inr (Or.inr inTail)

theorem mem_insertEntry {κ ν : Type} [Ord κ] {key : κ} {value : ν} {entry : κ × ν}
    {entries : List (κ × ν)} (member : entry ∈ insertEntry key value entries) :
    entry = (key, value) ∨ entry ∈ entries := by
  induction entries with
  | nil => exact Or.inl (List.mem_singleton.1 member)
  | cons head tail inductionHypothesis =>
      simp only [insertEntry] at member
      split at member
      · exact List.mem_cons.1 member
      · rcases List.mem_cons.1 member with isNew | inTail
        · exact Or.inl isNew
        · exact Or.inr (List.mem_cons_of_mem head inTail)
      · rcases List.mem_cons.1 member with atHead | rest
        · exact Or.inr (List.mem_cons.2 (Or.inl atHead))
        · rcases inductionHypothesis rest with isNew | inTail
          · exact Or.inl isNew
          · exact Or.inr (List.mem_cons_of_mem head inTail)

theorem pairwise_insertEntry {κ ν : Type} [Ord κ] [Std.TransOrd κ] [Std.LawfulEqOrd κ]
    (key : κ) (value : ν) {entries : List (κ × ν)}
    (increasing :
      (entries.map Prod.fst).Pairwise (fun left right => compare left right = .lt)) :
    ((insertEntry key value entries).map Prod.fst).Pairwise
      (fun left right => compare left right = .lt) := by
  induction entries with
  | nil => simp [insertEntry]
  | cons head tail inductionHypothesis =>
      rw [List.map_cons] at increasing
      have headBelow := (List.pairwise_cons.1 increasing).1
      have tailIncreasing := (List.pairwise_cons.1 increasing).2
      simp only [insertEntry]
      split
      · rename_i below
        simp only [List.map_cons]
        refine List.pairwise_cons.2 ⟨?_, increasing⟩
        intro other member
        rcases List.mem_cons.1 member with atHead | inTail
        · rw [atHead]
          exact below
        · exact Std.TransCmp.lt_trans below (headBelow other inTail)
      · rename_i same
        have keyEq : key = head.1 := Std.LawfulEqOrd.eq_of_compare same
        simp only [List.map_cons]
        rw [keyEq]
        exact increasing
      · rename_i above
        simp only [List.map_cons]
        refine List.pairwise_cons.2 ⟨?_, inductionHypothesis tailIncreasing⟩
        intro other member
        rcases fst_mem_insertEntry member with isNew | inTail
        · rw [isNew]
          exact Std.OrientedCmp.lt_of_gt above
        · exact headBelow other inTail

/-- A finite map, held as its entries in strictly increasing key order. -/
structure OrderedMap (κ ν : Type) [Ord κ] where
  entries : List (κ × ν)
  increasing :
    (entries.map Prod.fst).Pairwise (fun left right => compare left right = .lt)
deriving DecidableEq, Repr

namespace OrderedMap

variable {κ ν : Type} [Ord κ]

def empty : OrderedMap κ ν := ⟨[], List.Pairwise.nil⟩

instance : Inhabited (OrderedMap κ ν) := ⟨empty⟩

instance : EmptyCollection (OrderedMap κ ν) := ⟨empty⟩

def keys (map : OrderedMap κ ν) : List κ := map.entries.map Prod.fst

def values (map : OrderedMap κ ν) : List ν := map.entries.map Prod.snd

def size (map : OrderedMap κ ν) : Nat := map.entries.length

def find? [DecidableEq κ] (map : OrderedMap κ ν) (key : κ) : Option ν :=
  (map.entries.find? (fun entry => entry.1 = key)).map Prod.snd

def contains [DecidableEq κ] (map : OrderedMap κ ν) (key : κ) : Bool :=
  (map.find? key).isSome

def erase [DecidableEq κ] (map : OrderedMap κ ν) (key : κ) : OrderedMap κ ν where
  entries := map.entries.filter (fun entry => entry.1 ≠ key)
  increasing :=
    List.Pairwise.sublist (List.Sublist.map _ List.filter_sublist) map.increasing

theorem find?_empty [DecidableEq κ] (key : κ) :
    (empty : OrderedMap κ ν).find? key = none := rfl

theorem find?_erase [DecidableEq κ] (map : OrderedMap κ ν) (key candidate : κ) :
    (map.erase key).find? candidate =
      if candidate = key then none else map.find? candidate := by
  simp only [find?, erase, List.find?_filter]
  by_cases same : candidate = key
  · subst same
    simp
  · simp only [same, if_false]
    congr 2
    funext entry
    by_cases hit : entry.1 = candidate
    · simp [hit, same]
    · simp [hit]

variable [Std.TransOrd κ] [Std.LawfulEqOrd κ]

def insert (map : OrderedMap κ ν) (key : κ) (value : ν) : OrderedMap κ ν :=
  ⟨insertEntry key value map.entries, pairwise_insertEntry key value map.increasing⟩

/-- Binds entries in turn, so a later entry replaces an earlier one. -/
def insertAll (map : OrderedMap κ ν) (entries : List (κ × ν)) : OrderedMap κ ν :=
  entries.foldl (fun current entry => current.insert entry.1 entry.2) map

def ofList (entries : List (κ × ν)) : OrderedMap κ ν := empty.insertAll entries

theorem find?_insert [DecidableEq κ] (map : OrderedMap κ ν) (key candidate : κ) (value : ν) :
    (map.insert key value).find? candidate =
      if candidate = key then some value else map.find? candidate := by
  obtain ⟨entries, increasing⟩ := map
  simp only [find?, insert]
  clear increasing
  induction entries with
  | nil =>
      by_cases same : candidate = key
      · simp [insertEntry, same]
      · have other : ¬ key = candidate := fun equal => same equal.symm
        simp [insertEntry, same, other]
  | cons head tail inductionHypothesis =>
      simp only [insertEntry]
      by_cases same : candidate = key
      · subst same
        simp only [if_true] at inductionHypothesis ⊢
        split
        · simp
        · simp
        · rename_i above
          have distinct : ¬ head.1 = candidate := by
            intro equal
            rw [equal, Std.ReflOrd.compare_self] at above
            exact absurd above (by decide)
          simpa [List.find?_cons, distinct] using inductionHypothesis
      · have other : ¬ key = candidate := fun equal => same equal.symm
        simp only [same, if_false] at inductionHypothesis ⊢
        split
        · simp [List.find?_cons, other]
        · rename_i equal
          have keyEq : key = head.1 := Std.LawfulEqOrd.eq_of_compare equal
          have headOther : ¬ head.1 = candidate := keyEq ▸ other
          simp [other, headOther]
        · by_cases atHead : head.1 = candidate
          · simp [atHead]
          · simpa [List.find?_cons, atHead] using inductionHypothesis

end OrderedMap

end RowAccess
