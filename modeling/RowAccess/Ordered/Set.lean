/-!
Contract: finite sets of ordered elements.

A set is the strictly increasing list of its elements, so two sets with the
same members are the same value and reading a set out gives its order.

Owns:
- the set type and its insertion, union and membership.

Does not own:
- the order of any particular element type.
-/

namespace RowAccess

/-- Places an element into a strictly increasing list, where it stays single. -/
def insertSorted {α : Type} [Ord α] (element : α) : List α → List α
  | [] => [element]
  | head :: tail =>
      match compare element head with
      | .lt => element :: head :: tail
      | .eq => element :: tail
      | .gt => head :: insertSorted element tail

theorem mem_insertSorted {α : Type} [Ord α] [Std.LawfulEqOrd α]
    {element candidate : α} {elements : List α} :
    candidate ∈ insertSorted element elements ↔
      candidate = element ∨ candidate ∈ elements := by
  induction elements with
  | nil => simp [insertSorted]
  | cons head tail inductionHypothesis =>
      simp only [insertSorted]
      split
      · simp
      · rename_i same
        have headEq : element = head := Std.LawfulEqOrd.eq_of_compare same
        subst headEq
        simp
      · simp only [List.mem_cons, inductionHypothesis]
        constructor
        · rintro (atHead | isNew | inTail)
          · exact Or.inr (Or.inl atHead)
          · exact Or.inl isNew
          · exact Or.inr (Or.inr inTail)
        · rintro (isNew | atHead | inTail)
          · exact Or.inr (Or.inl isNew)
          · exact Or.inl atHead
          · exact Or.inr (Or.inr inTail)

theorem pairwise_insertSorted {α : Type} [Ord α] [Std.TransOrd α] [Std.LawfulEqOrd α]
    (element : α) {elements : List α}
    (increasing : elements.Pairwise (fun left right => compare left right = .lt)) :
    (insertSorted element elements).Pairwise
      (fun left right => compare left right = .lt) := by
  induction elements with
  | nil => simp [insertSorted]
  | cons head tail inductionHypothesis =>
      have headBelow := (List.pairwise_cons.1 increasing).1
      have tailIncreasing := (List.pairwise_cons.1 increasing).2
      simp only [insertSorted]
      split
      · rename_i below
        refine List.pairwise_cons.2 ⟨?_, increasing⟩
        intro other member
        rcases List.mem_cons.1 member with atHead | inTail
        · rw [atHead]
          exact below
        · exact Std.TransCmp.lt_trans below (headBelow other inTail)
      · rename_i same
        have headEq : element = head := Std.LawfulEqOrd.eq_of_compare same
        rw [headEq]
        exact increasing
      · rename_i above
        refine List.pairwise_cons.2 ⟨?_, inductionHypothesis tailIncreasing⟩
        intro other member
        rcases mem_insertSorted.1 member with isNew | inTail
        · rw [isNew]
          exact Std.OrientedCmp.lt_of_gt above
        · exact headBelow other inTail

/-- A finite set, held as its elements in strictly increasing order. -/
structure OrderedSet (α : Type) [Ord α] where
  toList : List α
  increasing : toList.Pairwise (fun left right => compare left right = .lt)
deriving DecidableEq, Repr

namespace OrderedSet

variable {α : Type} [Ord α]

theorem increasing_nil :
    ([] : List α).Pairwise (fun left right => compare left right = .lt) :=
  List.Pairwise.nil

def empty : OrderedSet α := ⟨[], increasing_nil⟩

instance : Inhabited (OrderedSet α) := ⟨empty⟩

instance : EmptyCollection (OrderedSet α) := ⟨empty⟩

def singleton (element : α) : OrderedSet α :=
  ⟨[element], List.pairwise_singleton _ _⟩

def contains [DecidableEq α] (set : OrderedSet α) (element : α) : Bool :=
  decide (element ∈ set.toList)

def isEmpty (set : OrderedSet α) : Bool := set.toList.isEmpty

def size (set : OrderedSet α) : Nat := set.toList.length

variable [Std.TransOrd α] [Std.LawfulEqOrd α]

def insert (set : OrderedSet α) (element : α) : OrderedSet α :=
  ⟨insertSorted element set.toList, pairwise_insertSorted element set.increasing⟩

def insertAll (set : OrderedSet α) (elements : List α) : OrderedSet α :=
  elements.foldl insert set

def ofList (elements : List α) : OrderedSet α := empty.insertAll elements

def union (left right : OrderedSet α) : OrderedSet α := left.insertAll right.toList

theorem mem_insert {set : OrderedSet α} {element candidate : α} :
    candidate ∈ (set.insert element).toList ↔
      candidate = element ∨ candidate ∈ set.toList :=
  mem_insertSorted

theorem mem_insertAll {set : OrderedSet α} {elements : List α} {candidate : α} :
    candidate ∈ (set.insertAll elements).toList ↔
      candidate ∈ set.toList ∨ candidate ∈ elements := by
  induction elements generalizing set with
  | nil => simp [insertAll]
  | cons head tail inductionHypothesis =>
      have step : set.insertAll (head :: tail) = (set.insert head).insertAll tail := rfl
      rw [step, inductionHypothesis, mem_insert, List.mem_cons]
      constructor
      · rintro ((isNew | old) | inTail)
        · exact Or.inr (Or.inl isNew)
        · exact Or.inl old
        · exact Or.inr (Or.inr inTail)
      · rintro (old | isNew | inTail)
        · exact Or.inl (Or.inr old)
        · exact Or.inl (Or.inl isNew)
        · exact Or.inr inTail

theorem mem_ofList {elements : List α} {candidate : α} :
    candidate ∈ (ofList elements).toList ↔ candidate ∈ elements := by
  simp [ofList, mem_insertAll, empty]

theorem mem_union {left right : OrderedSet α} {candidate : α} :
    candidate ∈ (left.union right).toList ↔
      candidate ∈ left.toList ∨ candidate ∈ right.toList :=
  mem_insertAll

end OrderedSet

end RowAccess
