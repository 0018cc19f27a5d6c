import RowAccess.Json.Value
import RowAccess.Store.Numeral

/-!
Contract: the cells of stored rows.

A column has an affinity. A cell written to a column of numbers becomes an
integer where its number or its text is one; a cell written to a column of
texts becomes text.

Owns:
- the cell type and what becomes of a cell in a column.
-/

namespace RowAccess

inductive Cell where
  | null
  | integer (value : Int)
  | real (value : Binary64)
  | text (value : String)
deriving DecidableEq, Repr

namespace Cell

def isNull : Cell → Bool
  | .null => true
  | _ => false

/-- Integers are signed and have 64 bits. -/
def fits (value : Int) : Bool := -Int.pow 2 63 ≤ value && value < Int.pow 2 63

/-- A number as a cell: an integer that does not fit is rounded. -/
def ofNumber : Number → Cell
  | .integer value => if fits value then .integer value else .real (Binary64.ofInt value)
  | .real value => .real value

/-- The integer a binary64 number is, well inside the range of integers. -/
def wholeNumber? (value : Binary64) : Option Int :=
  let magnitude := value.units / Binary64.unitsPerOne
  if value.units % Binary64.unitsPerOne = 0 ∧ magnitude < Nat.pow 2 63 - 1 then
    some (if value.negative then -(magnitude : Int) else magnitude)
  else none

/-- The number that a text is: an integer if it is written as one and fits. -/
def numberOfText? (written : String) : Option Cell :=
  (Numeral.Shape.ofText? written).bind (fun shape =>
    if shape.isInteger && fits shape.integer then some (.integer shape.integer)
    else shape.real?.map real)

/-- Turns a number that is whole into an integer. -/
def settled : Cell → Cell
  | .real value => ((wholeNumber? value).map integer).getD (.real value)
  | cell => cell

def inNumberColumn : Cell → Cell
  | .text written => ((numberOfText? written).getD (.text written)).settled
  | cell => cell.settled

def inTextColumn : Cell → Cell
  | .integer value => .text (toString value)
  | .real value => .text (Numeral.text value)
  | cell => cell

def integer? : Cell → Option Int
  | .integer value => some value
  | _ => none

def text? : Cell → Option String
  | .text value => some value
  | _ => none

end Cell

end RowAccess
