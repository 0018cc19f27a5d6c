import RowAccess.Text.Split

/-!
Contract: relationship paths through embedded records.

A path has at least one segment and none of them is empty. It is read with a
doubled underscore between segments where the text has one, with a point
otherwise, and always written with points.

Owns:
- reading, writing and shortening paths.
-/

namespace RowAccess

structure FieldPath where
  first : String
  below : List String
  filled : ∀ segment ∈ first :: below, segment ≠ ""
deriving DecidableEq

namespace FieldPath

def segments (path : FieldPath) : List String := path.first :: path.below

/-- The path of the segments, unless there is none or one of them is empty. -/
def ofSegments? : List String → Option FieldPath
  | [] => none
  | first :: below =>
      if filled : ∀ segment ∈ first :: below, segment ≠ "" then some ⟨first, below, filled⟩
      else none

/-- The path of one segment. -/
def field? (name : String) : Option FieldPath := ofSegments? [name]

def parse? (text : String) : Option FieldPath :=
  let characters := text.toList
  let parts :=
    if Text.hasDoubled '_' characters then Text.splitDoubled '_' characters
    else Text.splitEvery '.' characters
  ofSegments? (parts.map String.ofList)

/-- The text of a path, with points. -/
def label (path : FieldPath) : String := ".".intercalate path.segments

def length (path : FieldPath) : Nat := path.segments.length

/-- The path below the first segment. -/
def rest? (path : FieldPath) : Option FieldPath := ofSegments? path.below

instance : ToString FieldPath := ⟨label⟩

instance : Repr FieldPath := ⟨fun path _ => path.label⟩

end FieldPath

end RowAccess
