import Mathlib.Data.List.TakeWhile
import RowAccess.Proofs.Text.Split
import RowAccess.Text.Blank

/-!
Contract: what blanks around a text change.

A text is what is left of it when it is trimmed, with blanks on both sides. However many
blanks stand around a text, the same is left of it, which is not longer than the text.
A cut at a character that is no blank cuts both where the other is cut, so the parts
differ by blanks around them.

Owns:
- texts with blanks around them.
- what trimming leaves.
- the parts of texts with blanks around them.
-/

namespace RowAccess.Text

/-- Whether a text is another one with blanks in front of it and behind it. -/
def Padded (text inner : List Char) : Prop :=
  ∃ before after, text = before ++ inner ++ after ∧
    (∀ character ∈ before, isBlank character = true) ∧
    ∀ character ∈ after, isBlank character = true

variable {text inner : List Char} {separator : Char}

theorem padded_append {after : List Char} (inner : List Char)
    (blank : ∀ character ∈ after, isBlank character = true) : Padded (inner ++ after) inner :=
  ⟨[], after, rfl, by simp, blank⟩

/-! ## Trimming -/

theorem padded_trim (text : String) : Padded text.toList (trim text).toList := by
  obtain ⟨rest, restEq⟩ : ∃ rest, rest = text.toList.dropWhile isBlank := ⟨_, rfl⟩
  refine ⟨text.toList.takeWhile isBlank, (rest.reverse.takeWhile isBlank).reverse, ?_, ?_, ?_⟩
  · have back : dropEndWhile isBlank rest ++ (rest.reverse.takeWhile isBlank).reverse = rest := by
      rw [dropEndWhile, ← List.reverse_append, List.takeWhile_append_dropWhile,
        List.reverse_reverse]
    rw [trim, ← restEq, String.toList_ofList, List.append_assoc, back, restEq,
      List.takeWhile_append_dropWhile]
  · exact List.all_eq_true.1 List.all_takeWhile
  · intro character member
    rw [List.mem_reverse] at member
    exact List.all_eq_true.1 List.all_takeWhile character member

theorem dropEndWhile_append_of_all {after : List Char}
    (blank : ∀ character ∈ after, isBlank character = true) (text : List Char) :
    dropEndWhile isBlank (text ++ after) = dropEndWhile isBlank text := by
  have reversed : ∀ character ∈ after.reverse, isBlank character = true :=
    fun character member => blank character (List.mem_reverse.1 member)
  rw [dropEndWhile, List.reverse_append, List.dropWhile_append_of_pos reversed, dropEndWhile]

/-- Blanks around a text make no difference to what is left of it. -/
theorem trim_eq_of_padded (padded : Padded text inner) :
    trim (String.ofList text) = trim (String.ofList inner) := by
  obtain ⟨before, after, rfl, beforeBlank, afterBlank⟩ := padded
  rw [trim, trim, String.toList_ofList, String.toList_ofList, List.append_assoc,
    List.dropWhile_append_of_pos beforeBlank, List.dropWhile_append]
  by_cases hollow : (inner.dropWhile isBlank).isEmpty = true
  · have nothing := List.dropWhile_eq_nil_iff.2 afterBlank
    rw [if_pos hollow, nothing, List.isEmpty_iff.1 hollow]
  · rw [if_neg hollow, dropEndWhile_append_of_all afterBlank]

/-- A text that neither begins nor ends with a blank is left as it is. -/
theorem trim_eq_self {text : String}
    (first : ∀ character, text.toList.head? = some character → isBlank character = false)
    (last : ∀ character, text.toList.getLast? = some character → isBlank character = false) :
    trim text = text := by
  obtain ⟨before, after, around, beforeBlank, afterBlank⟩ := padded_trim text
  cases before with
  | cons character rest =>
      have isFirst : text.toList.head? = some character := by
        rw [around]
        rfl
      have blank := beforeBlank character List.mem_cons_self
      rw [first character isFirst] at blank
      cases blank
  | nil =>
      rcases List.eq_nil_or_concat after with rfl | ⟨rest, character, rfl⟩
      · rw [List.nil_append, List.append_nil] at around
        exact (String.toList_injective around).symm
      · have isLast : text.toList.getLast? = some character := by
          rw [around, List.concat_eq_append, ← List.append_assoc, List.getLast?_append]
          rfl
        have blank := afterBlank character (by rw [List.concat_eq_append]; simp)
        rw [last character isLast] at blank
        cases blank

theorem utf8ByteSize_trim_le (text : String) : (trim text).utf8ByteSize ≤ text.utf8ByteSize := by
  obtain ⟨before, after, around, _⟩ := padded_trim text
  have whole : text = String.ofList before ++ trim text ++ String.ofList after := by
    apply String.toList_injective
    rw [around]
    simp
  have size := congrArg String.utf8ByteSize whole
  rw [String.utf8ByteSize_append, String.utf8ByteSize_append] at size
  omega

/-! ## Cuts -/

/-- Blanks behind a text stand behind its last part. -/
theorem splitEvery_append_blanks (solid : isBlank separator = false) {after : List Char}
    (blank : ∀ character ∈ after, isBlank character = true) (text : List Char) :
    List.Forall₂ (fun part bare => ∃ behind, part = bare ++ behind ∧
        ∀ character ∈ behind, isBlank character = true)
      (splitEvery separator (text ++ after)) (splitEvery separator text) := by
  induction text with
  | nil =>
      have absent : separator ∉ after := by
        intro member
        rw [blank separator member] at solid
        cases solid
      rw [List.nil_append, splitEvery_eq_splitOn, List.splitOn_eq_singleton absent]
      exact List.Forall₂.cons ⟨after, rfl, blank⟩ List.Forall₂.nil
  | cons head tail inductionHypothesis =>
      rw [List.cons_append, splitEvery, splitEvery]
      by_cases isSeparator : head = separator
      · rw [if_pos isSeparator, if_pos isSeparator]
        exact List.Forall₂.cons ⟨[], rfl, by simp⟩ inductionHypothesis
      · rw [if_neg isSeparator, if_neg isSeparator]
        generalize splitEvery separator (tail ++ after) = parts at inductionHypothesis ⊢
        generalize splitEvery separator tail = bares at inductionHypothesis ⊢
        cases inductionHypothesis with
        | nil => exact List.Forall₂.cons ⟨[], rfl, by simp⟩ List.Forall₂.nil
        | cons own others =>
            obtain ⟨behind, rfl, behindBlank⟩ := own
            exact List.Forall₂.cons ⟨behind, rfl, behindBlank⟩ others

/-- A text with blanks around it is cut where the text is cut. -/
theorem splitEvery_of_padded (solid : isBlank separator = false) (padded : Padded text inner) :
    List.Forall₂ Padded (splitEvery separator text) (splitEvery separator inner) := by
  obtain ⟨before, after, rfl, beforeBlank, afterBlank⟩ := padded
  induction before with
  | nil =>
      refine (splitEvery_append_blanks solid afterBlank inner).imp ?_
      rintro part bare ⟨behind, rfl, behindBlank⟩
      exact ⟨[], behind, rfl, by simp, behindBlank⟩
  | cons head tail inductionHypothesis =>
      have headBlank := beforeBlank head List.mem_cons_self
      have notSeparator : head ≠ separator := by
        rintro rfl
        rw [headBlank] at solid
        cases solid
      have nonempty := splitEvery_ne_nil separator inner
      have cut := inductionHypothesis
        (fun character member => beforeBlank character (List.mem_cons_of_mem head member))
      rw [List.cons_append, List.cons_append, splitEvery, if_neg notSeparator]
      generalize splitEvery separator (tail ++ inner ++ after) = parts at cut ⊢
      generalize splitEvery separator inner = bares at cut nonempty ⊢
      cases cut with
      | nil => exact absurd rfl nonempty
      | cons own others =>
          obtain ⟨front, behind, rfl, frontBlank, behindBlank⟩ := own
          refine List.Forall₂.cons ⟨head :: front, behind, rfl, ?_, behindBlank⟩ others
          intro character member
          rcases List.mem_cons.1 member with rfl | inFront
          · exact headBlank
          · exact frontBlank character inFront

end RowAccess.Text
