import RowAccess.Number.Binary64

/-!
Contract: JSON values.

Objects are lists of fields in increasing name order with one field a name, so
two objects that differ in the order of their fields are the same value.
Numbers are integers or binary64 numbers, and an integer never equals a
binary64 number.

Owns:
- the value type, its equality and its accessors.
- the order of numbers.

Does not own:
- text, which `Reader` and `Printer` handle.
-/

namespace RowAccess

inductive Number where
  | integer (value : Int)
  | real (value : Binary64)
deriving DecidableEq, Repr

namespace Number

def sameValue : Number → Number → Bool
  | .integer left, .integer right => left == right
  | .real left, .real right => left.sameValue right
  | _, _ => false

/-- The value as a signed 64-bit integer, if it is one. -/
def signed64? : Number → Option Int
  | .integer value =>
      if -Int.pow 2 63 ≤ value ∧ value < Int.pow 2 63 then some value else none
  | .real _ => none

def toBinary64 : Number → Binary64
  | .integer value => Binary64.ofInt value
  | .real value => value

/-- Two signed 64-bit integers are compared exactly; any other pair is
compared as binary64 numbers. -/
def order (left right : Number) : Ordering :=
  match left.signed64?, right.signed64? with
  | some leftValue, some rightValue => compare leftValue rightValue
  | _, _ => left.toBinary64.order right.toBinary64

end Number

inductive Json where
  | null
  | bool (value : Bool)
  | number (value : Number)
  | string (value : String)
  | array (items : List Json)
  | object (fields : List (String × Json))
deriving Repr, Inhabited

namespace Json

def integer (value : Int) : Json := .number (.integer value)

mutual

def same : Json → Json → Bool
  | .null, .null => true
  | .bool left, .bool right => left == right
  | .number left, .number right => left.sameValue right
  | .string left, .string right => left == right
  | .array left, .array right => sameItems left right
  | .object left, .object right => sameFields left right
  | _, _ => false

def sameItems : List Json → List Json → Bool
  | [], [] => true
  | left :: leftRest, right :: rightRest => same left right && sameItems leftRest rightRest
  | _, _ => false

def sameFields : List (String × Json) → List (String × Json) → Bool
  | [], [] => true
  | left :: leftRest, right :: rightRest =>
      left.1 == right.1 && same left.2 right.2 && sameFields leftRest rightRest
  | _, _ => false

end

def isNull : Json → Bool
  | .null => true
  | _ => false

/-- Binds a name among fields in name order; a bound name gets the new value. -/
def setField (name : String) (value : Json) : List (String × Json) → List (String × Json)
  | [] => [(name, value)]
  | head :: tail =>
      match compare name head.1 with
      | .lt => (name, value) :: head :: tail
      | .eq => (name, value) :: tail
      | .gt => head :: setField name value tail

/-- An object from fields in any order; the last of a repeated name counts. -/
def ofFields (fields : List (String × Json)) : Json :=
  .object (fields.foldl (fun current field => setField field.1 field.2 current) [])

/-- The value of an object's field. -/
def field? (name : String) : Json → Option Json
  | .object fields => (fields.find? (fun field => field.1 = name)).map Prod.snd
  | _ => none

def string? : Json → Option String
  | .string value => some value
  | _ => none

def bool? : Json → Option Bool
  | .bool value => some value
  | _ => none

def integer? : Json → Option Int
  | .number (.integer value) => some value
  | _ => none

def array? : Json → Option (List Json)
  | .array items => some items
  | _ => none

def object? : Json → Option (List (String × Json))
  | .object fields => some fields
  | _ => none

/-- An optional value, absence as null. -/
def ofOption {α : Type} (encode : α → Json) : Option α → Json
  | some value => encode value
  | none => .null

def strings (values : List String) : Json := .array (values.map .string)

end Json

end RowAccess
