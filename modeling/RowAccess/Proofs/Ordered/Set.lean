import Mathlib.Data.List.Sort
import RowAccess.Ordered.Set

/-!
Contract: an ordered set is determined by its members.

Owns:
- the equality of sets with the same members.
- that a set is made of the list of its elements again.
- union as a monoid.
-/

namespace RowAccess.OrderedSet

theorem nodup {α : Type} [Ord α] [Std.ReflOrd α] (set : OrderedSet α) : set.toList.Nodup := by
  refine set.increasing.imp (fun below same => ?_)
  rw [same, Std.ReflOrd.compare_self] at below
  cases below

variable {α : Type} [Ord α] [Std.TransOrd α] [Std.LawfulEqOrd α]

theorem eq_of_mem_iff {left right : OrderedSet α}
    (same : ∀ element, element ∈ left.toList ↔ element ∈ right.toList) : left = right := by
  have permuted : left.toList.Perm right.toList :=
    (List.perm_ext_iff_of_nodup left.nodup right.nodup).2 same
  have listed : left.toList = right.toList := by
    refine List.Perm.eq_of_pairwise ?_ left.increasing right.increasing permuted
    intro first second _ _ below above
    rw [Std.OrientedCmp.gt_of_lt below] at above
    cases above
  obtain ⟨elements, increasing⟩ := left
  subst listed
  rfl

theorem ofList_toList (set : OrderedSet α) : ofList set.toList = set :=
  eq_of_mem_iff (fun _ => mem_ofList)

theorem empty_union (set : OrderedSet α) : empty.union set = set :=
  ofList_toList set

theorem union_empty (set : OrderedSet α) : set.union empty = set := rfl

theorem union_assoc (first second third : OrderedSet α) :
    (first.union second).union third = first.union (second.union third) := by
  apply eq_of_mem_iff
  intro element
  simp only [mem_union, or_assoc]

end RowAccess.OrderedSet
