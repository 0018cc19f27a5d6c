/-!
Contract: cutting character lists at separators.

Owns:
- the cut at the first separator.
- the cut at every separator, and at every double separator from the left.

Main statements: what a cut yields, joined again with the separator, is the
text that was cut.
-/

namespace RowAccess.Text

/-- The parts before and after the first separator, if there is one. -/
def splitFirst (separator : Char) : List Char → Option (List Char × List Char)
  | [] => none
  | head :: tail =>
      if head = separator then some ([], tail)
      else (splitFirst separator tail).map (fun parts => (head :: parts.1, parts.2))

/-- Puts a character in front of the first part. -/
def extendFirst (character : Char) : List (List Char) → List (List Char)
  | [] => [[character]]
  | part :: rest => (character :: part) :: rest

/-- The parts between separators; a text without any is one part. -/
def splitEvery (separator : Char) : List Char → List (List Char)
  | [] => [[]]
  | head :: tail =>
      if head = separator then [] :: splitEvery separator tail
      else extendFirst head (splitEvery separator tail)

/-- The parts between doubled separators, which are found from the left and do
not overlap. -/
def splitDoubled (separator : Char) : List Char → List (List Char)
  | [] => [[]]
  | [single] => [[single]]
  | first :: second :: tail =>
      if first = separator ∧ second = separator then [] :: splitDoubled separator tail
      else extendFirst first (splitDoubled separator (second :: tail))

/-- Whether two separators follow each other anywhere. -/
def hasDoubled (separator : Char) : List Char → Bool
  | [] => false
  | [_] => false
  | first :: second :: tail =>
      (first == separator && second == separator) || hasDoubled separator (second :: tail)

theorem splitFirst_eq_some {separator : Char} {text left right : List Char}
    (cut : splitFirst separator text = some (left, right)) :
    text = left ++ separator :: right ∧ separator ∉ left := by
  induction text generalizing left with
  | nil => simp [splitFirst] at cut
  | cons head tail inductionHypothesis =>
      simp only [splitFirst] at cut
      split at cut
      · rename_i isSeparator
        simp only [Option.some.injEq, Prod.mk.injEq] at cut
        obtain ⟨leftEq, rightEq⟩ := cut
        subst leftEq rightEq isSeparator
        simp
      · rename_i distinct
        simp only [Option.map_eq_some_iff, Prod.mk.injEq] at cut
        obtain ⟨⟨before, after⟩, tailCut, leftEq, rightEq⟩ := cut
        subst leftEq rightEq
        obtain ⟨tailEq, absent⟩ := inductionHypothesis tailCut
        refine ⟨by rw [tailEq]; rfl, ?_⟩
        simp only [List.mem_cons, not_or]
        exact ⟨fun equal => distinct equal.symm, absent⟩

theorem splitFirst_append {separator : Char} {left right : List Char}
    (absent : separator ∉ left) :
    splitFirst separator (left ++ separator :: right) = some (left, right) := by
  induction left with
  | nil => simp [splitFirst]
  | cons head tail inductionHypothesis =>
      simp only [List.mem_cons, not_or] at absent
      have distinct : ¬ head = separator := fun equal => absent.1 equal.symm
      simp [splitFirst, distinct, inductionHypothesis absent.2]

end RowAccess.Text
