import Mathlib.Data.List.Forall2
import RowAccess.Text.Split

/-!
Contract: what the parts of a cut text hold.

The cut at every separator is that of the standard library, so that joining and cutting
undo each other wherever no part holds the separator. A cut at doubled separators
leaves no doubled one in any part, and every other character in some part.

Owns:
- the members of lists that are related one by one, as the parts of two cuts are.
- the cut at the first separator, which is the only one.
- the cut at every separator, and of texts joined with it.
- doubled separators: where they occur, and what a cut at them leaves.
-/

namespace RowAccess.Text

/-- Every member of one of two lists is related to one of the other list. -/
theorem exists_of_forall₂ {α β : Type} {related : α → β → Prop} {lefts : List α}
    {rights : List β} (each : List.Forall₂ related lefts rights) :
    (∀ left ∈ lefts, ∃ right ∈ rights, related left right) ∧
      ∀ right ∈ rights, ∃ left ∈ lefts, related left right := by
  induction each with
  | nil => exact ⟨by simp, by simp⟩
  | cons own _ inductionHypothesis =>
      obtain ⟨onward, back⟩ := inductionHypothesis
      refine ⟨?_, ?_⟩
      · intro left member
        rcases List.mem_cons.1 member with rfl | later
        · exact ⟨_, List.mem_cons_self, own⟩
        · obtain ⟨right, found, isRelated⟩ := onward left later
          exact ⟨right, List.mem_cons_of_mem _ found, isRelated⟩
      · intro right member
        rcases List.mem_cons.1 member with rfl | later
        · exact ⟨_, List.mem_cons_self, own⟩
        · obtain ⟨left, found, isRelated⟩ := back right later
          exact ⟨left, List.mem_cons_of_mem _ found, isRelated⟩

variable {separator other : Char} {text left right part : List Char}

/-! ## Cuts at the first separator -/

/-- There is one way to cut a text at its first separator. -/
theorem eq_of_first_cut {rest : List Char} (leftAbsent : separator ∉ left)
    (partAbsent : separator ∉ part)
    (joined : left ++ separator :: right = part ++ separator :: rest) :
    left = part ∧ right = rest := by
  have cut := congrArg (splitFirst separator) joined
  rw [splitFirst_append leftAbsent, splitFirst_append partAbsent, Option.some.injEq,
    Prod.mk.injEq] at cut
  exact cut

/-! ## Cuts at every separator -/

theorem extendFirst_of_ne_nil {parts : List (List Char)} (nonempty : parts ≠ [])
    (character : Char) : extendFirst character parts = parts.modifyHead (character :: ·) := by
  cases parts with
  | nil => exact absurd rfl nonempty
  | cons part rest => rfl

theorem splitEvery_eq_splitOn (separator : Char) (text : List Char) :
    splitEvery separator text = text.splitOn separator := by
  induction text with
  | nil => rfl
  | cons head tail inductionHypothesis =>
      rw [splitEvery, inductionHypothesis, List.splitOn_cons_eq_if_modifyHead,
        extendFirst_of_ne_nil (List.splitOn_ne_nil separator tail)]
      simp only [beq_iff_eq]

theorem splitEvery_ne_nil (separator : Char) (text : List Char) :
    splitEvery separator text ≠ [] := by
  rw [splitEvery_eq_splitOn]
  exact List.splitOn_ne_nil separator text

/-- Texts joined with a separator are cut where each of them is. -/
theorem splitEvery_intercalate {parts : List (List Char)} (nonempty : parts ≠ []) :
    splitEvery separator ([separator].intercalate parts) =
      parts.flatMap (splitEvery separator) := by
  induction parts with
  | nil => exact absurd rfl nonempty
  | cons first rest inductionHypothesis =>
      rw [List.flatMap_cons]
      cases rest with
      | nil => rw [List.intercalate_singleton, List.flatMap_nil, List.append_nil]
      | cons second others =>
          rw [← inductionHypothesis (List.cons_ne_nil second others),
            List.intercalate_cons_cons, List.append_assoc, List.singleton_append,
            splitEvery_eq_splitOn, List.splitOn_append_cons_self, splitEvery_eq_splitOn,
            splitEvery_eq_splitOn]

theorem not_mem_of_mem_splitEvery (member : part ∈ splitEvery separator text) :
    separator ∉ part := by
  induction text generalizing part with
  | nil => simp_all [splitEvery]
  | cons head tail inductionHypothesis =>
      rw [splitEvery] at member
      split at member
      next =>
        rcases List.mem_cons.1 member with rfl | inTail
        · exact List.not_mem_nil
        · exact inductionHypothesis inTail
      next distinct =>
        cases cut : splitEvery separator tail with
        | nil => exact absurd cut (splitEvery_ne_nil separator tail)
        | cons first rest =>
            rw [cut] at member inductionHypothesis
            rcases List.mem_cons.1 member with rfl | inRest
            · rw [List.mem_cons, not_or]
              exact ⟨fun same => distinct same.symm, inductionHypothesis List.mem_cons_self⟩
            · exact inductionHypothesis (List.mem_cons_of_mem first inRest)

/-! ## Doubled separators -/

theorem hasDoubled_iff : hasDoubled separator text = true ↔ [separator, separator] <:+: text := by
  induction text with
  | nil => simp [hasDoubled]
  | cons first rest inductionHypothesis =>
      rw [List.infix_cons_iff, ← inductionHypothesis]
      cases rest with
      | nil => simp [hasDoubled]
      | cons second others =>
          rw [hasDoubled, Bool.or_eq_true, Bool.and_eq_true, beq_iff_eq, beq_iff_eq,
            List.cons_prefix_cons, List.cons_prefix_cons, and_iff_left List.nil_prefix,
            eq_comm (a := separator), eq_comm (a := separator)]

/-- Another character between two texts makes no doubled separator. -/
theorem hasDoubled_append_cons (distinct : other ≠ separator) :
    hasDoubled separator (left ++ other :: right) =
      (hasDoubled separator left || hasDoubled separator right) := by
  induction left with
  | nil =>
      cases right with
      | nil => simp [hasDoubled]
      | cons head tail => simp [hasDoubled, distinct]
  | cons first rest inductionHypothesis =>
      cases rest with
      | nil =>
          have before : hasDoubled separator (first :: other :: right) =
              hasDoubled separator (other :: right) := by
            simp [hasDoubled, distinct]
          exact before.trans inductionHypothesis
      | cons second others =>
          simp only [List.cons_append, hasDoubled] at inductionHypothesis ⊢
          rw [inductionHypothesis, Bool.or_assoc]

theorem hasDoubled_intercalate (distinct : other ≠ separator) (parts : List (List Char)) :
    hasDoubled separator ([other].intercalate parts) =
      parts.any (hasDoubled separator) := by
  induction parts with
  | nil => rfl
  | cons first rest inductionHypothesis =>
      cases rest with
      | nil => simp
      | cons second others =>
          rw [List.intercalate_cons_cons, List.append_assoc, List.singleton_append,
            hasDoubled_append_cons distinct, inductionHypothesis]
          rfl

/-- A cut at other characters leaves the doubled separators as they are. -/
theorem any_hasDoubled_splitEvery (distinct : other ≠ separator) (text : List Char) :
    (splitEvery other text).any (hasDoubled separator) = hasDoubled separator text := by
  rw [← hasDoubled_intercalate distinct, splitEvery_eq_splitOn, List.intercalate_splitOn]

/-- The first part of a cut begins as the text does, or is empty. -/
theorem splitDoubled_cons (separator head : Char) (tail : List Char) :
    ∃ rest parts, splitDoubled separator (head :: tail) = [] :: parts ∨
      splitDoubled separator (head :: tail) = (head :: rest) :: parts := by
  cases tail with
  | nil => exact ⟨[], [], Or.inr rfl⟩
  | cons second others =>
      rw [splitDoubled]
      split
      next => exact ⟨[], _, Or.inl rfl⟩
      next =>
        cases splitDoubled separator (second :: others) with
        | nil => exact ⟨[], [], Or.inr rfl⟩
        | cons part parts => exact ⟨part, parts, Or.inr rfl⟩

/-- A cut at doubled separators leaves none of them in a part. -/
theorem hasDoubled_of_mem_splitDoubled (member : part ∈ splitDoubled separator text) :
    hasDoubled separator part = false := by
  induction text using splitDoubled.induct separator generalizing part with
  | case1 => simp_all [splitDoubled, hasDoubled]
  | case2 single => simp_all [splitDoubled, hasDoubled]
  | case3 first second tail doubled inductionHypothesis =>
      rw [splitDoubled, if_pos doubled] at member
      rcases List.mem_cons.1 member with rfl | inTail
      · rfl
      · exact inductionHypothesis inTail
  | case4 first second tail notDoubled inductionHypothesis =>
      rw [splitDoubled, if_neg notDoubled] at member
      -- What follows the first character is the next one or another part.
      obtain ⟨rest, parts, cut | cut⟩ := splitDoubled_cons separator second tail
      · rw [cut] at member inductionHypothesis
        rcases List.mem_cons.1 member with rfl | inParts
        · rfl
        · exact inductionHypothesis (List.mem_cons_of_mem _ inParts)
      · rw [cut] at member inductionHypothesis
        rcases List.mem_cons.1 member with rfl | inParts
        · rw [hasDoubled, inductionHypothesis List.mem_cons_self, Bool.or_false]
          simpa using notDoubled
        · exact inductionHypothesis (List.mem_cons_of_mem _ inParts)

theorem exists_mem_extendFirst (character : Char) (parts : List (List Char)) :
    (∃ part ∈ extendFirst character parts, other ∈ part) ↔
      other = character ∨ ∃ part ∈ parts, other ∈ part := by
  cases parts with
  | nil => simp [extendFirst]
  | cons part rest => simp [extendFirst, or_assoc]

/-- A cut at doubled separators keeps all other characters. -/
theorem exists_mem_splitDoubled (distinct : other ≠ separator) :
    (∃ part ∈ splitDoubled separator text, other ∈ part) ↔ other ∈ text := by
  induction text using splitDoubled.induct separator with
  | case1 => simp [splitDoubled]
  | case2 single => simp [splitDoubled]
  | case3 first second tail doubled inductionHypothesis =>
      rw [splitDoubled, if_pos doubled]
      simp [inductionHypothesis, doubled.1, doubled.2, distinct]
  | case4 first second tail notDoubled inductionHypothesis =>
      rw [splitDoubled, if_neg notDoubled, exists_mem_extendFirst, inductionHypothesis]
      exact List.mem_cons.symm

end RowAccess.Text
