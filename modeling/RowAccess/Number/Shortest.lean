import RowAccess.Number.Binary64
import RowAccess.Number.Decimal

/-!
Contract: the shortest decimal that reads back as a binary64 number.

The reals that round to a number form an interval around it, closed exactly
when its significand is even. For one digit, two digits and so on, the value's
two neighbours on the decimal grid are tried; the first grid with a neighbour
in the interval gives the digits, the nearer neighbour first and, on a tie,
the even one.

Owns:
- the interval, the grids and the choice of digits.
- the layout of these digits.
-/

namespace RowAccess.Shortest

/-- Quadrupled units, in which the ends of the rounding interval are whole. -/
structure Interval where
  lower : Nat
  upper : Nat
  closed : Bool
deriving DecidableEq, Repr

/-- The reals that round to a positive magnitude. Below a power of two the
spacing is half of that above it. -/
def Interval.around (units : Nat) : Interval :=
  let step := Binary64.spacing units
  let below := if units = Nat.pow 2 52 * step ∧ 1 < step then step / 2 else step
  { lower := 4 * units - 2 * below
    upper := 4 * units + 2 * step
    closed := (units / step) % 2 == 0 }

/-- Whether `numerator / denominator` units lie in the interval. -/
def Interval.holds (interval : Interval) (numerator denominator : Nat) : Bool :=
  let value := 4 * numerator
  let lower := interval.lower * denominator
  let upper := interval.upper * denominator
  (lower < value && value < upper) ||
    (interval.closed && (value == lower || value == upper))

/-- The power of ten of a positive magnitude's leading digit. -/
def leadingExponent (units : Nat) : Int :=
  if Binary64.unitsPerOne ≤ units then
    ((units / Binary64.unitsPerOne).repr.length : Int) - 1
  else
    match (List.range 330).find? (fun power => Binary64.unitsPerOne ≤ units * Nat.pow 10 power) with
    | some power => -(power : Int)
    | none => -330

/-- A count of steps of `10 ^ exponent`, as a quotient of units. -/
def gridPoint (count : Nat) (exponent : Int) : Nat × Nat :=
  if 0 ≤ exponent then (count * Nat.pow 10 exponent.toNat * Binary64.unitsPerOne, 1)
  else (count * Binary64.unitsPerOne, Nat.pow 10 (-exponent).toNat)

/-- A magnitude divided by `10 ^ exponent`, as a quotient. -/
def inSteps (units : Nat) (exponent : Int) : Nat × Nat :=
  if 0 ≤ exponent then (units, Nat.pow 10 exponent.toNat * Binary64.unitsPerOne)
  else (units * Nat.pow 10 (-exponent).toNat, Binary64.unitsPerOne)

/-- The neighbour on the grid `10 ^ exponent` that reads back, if one does. -/
def onGrid (units : Nat) (exponent : Int) : Option Decimal :=
  let steps := inSteps units exponent
  let interval := Interval.around units
  let nearest := nearestEven steps.1 steps.2
  let below := steps.1 / steps.2
  let other := if nearest = below then below + 1 else below
  [nearest, other].findSome? (fun count =>
    let point := gridPoint count exponent
    if count ≠ 0 ∧ interval.holds point.1 point.2 then some ⟨count, exponent⟩ else none)

/-- Seventeen digits always suffice. -/
def digits (units : Nat) : Decimal :=
  let leading := leadingExponent units
  ((List.range 17).findSome? (fun (count : Nat) => onGrid units (leading - count))).getD
    ⟨(inSteps units (leading - 16)).1 / (inSteps units (leading - 16)).2, leading - 16⟩

/-- Leading exponents from -5 to 15 are written positionally. -/
def layout : DecimalLayout := ⟨-5, 15, false, 1⟩

/-- The text of a number; the sign of zero is kept. -/
def text (number : Binary64) : String :=
  let sign := if number.negative then "-" else ""
  if number.isZero then sign ++ "0.0" else sign ++ layout.text (digits number.units)

end RowAccess.Shortest
