/-!
Contract: sets of characters as ranges of code points.

Owns:
- membership in a list of inclusive ranges.
-/

namespace RowAccess.Text

/-- Whether a character's code point lies in one of the inclusive ranges. -/
def inRanges (ranges : List (Nat × Nat)) (character : Char) : Bool :=
  ranges.any (fun range =>
    range.1 ≤ character.toNat && character.toNat ≤ range.2)

end RowAccess.Text
