import RowAccess.Record.Basic

/-!
Contract: tests on one field of a record.

Values of different kinds are not ordered, and no ordering test holds of them.
A field that is missing differs from every value and passes no other test.

Owns:
- the conditions and their evaluation.
- the order of JSON values of one kind.
-/

namespace RowAccess

inductive Comparison where
  | ne
  | lt
  | le
  | gt
  | ge
deriving DecidableEq, Repr

namespace Comparison

def label : Comparison → String
  | .ne => "ne"
  | .lt => "lt"
  | .le => "le"
  | .gt => "gt"
  | .ge => "ge"

def parse? (text : String) : Option Comparison :=
  [Comparison.ne, .lt, .le, .gt, .ge].find? (fun comparison => comparison.label = text)

end Comparison

/-- The order of two values of one kind: numbers, texts or truth values. -/
def Json.order? : Json → Json → Option Ordering
  | .number left, .number right => some (left.order right)
  | .string left, .string right => some (compare left right)
  | .bool left, .bool right => some (compare left right)
  | _, _ => none

inductive Condition where
  | notNull (path : FieldPath)
  | equals (path : FieldPath) (expected : Json)
  | compares (path : FieldPath) (comparison : Comparison) (expected : Json)
deriving Repr

namespace Condition

/-- Whether a value that was found passes a comparison. -/
def passes (comparison : Comparison) (actual expected : Json) : Bool :=
  match comparison with
  | .ne => !actual.same expected
  | .lt => actual.order? expected == some .lt
  | .le => actual.order? expected == some .lt || actual.order? expected == some .eq
  | .gt => actual.order? expected == some .gt
  | .ge => actual.order? expected == some .gt || actual.order? expected == some .eq

def holds (condition : Condition) (record : Record) : Bool :=
  match condition with
  | .notNull path => present (record.lookup? path)
  | .equals path expected =>
      match record.lookup? path with
      | some actual => actual.same expected
      | none => false
  | .compares path comparison expected =>
      match record.lookup? path with
      | some actual => passes comparison actual expected
      | none => comparison = .ne

end Condition

end RowAccess
