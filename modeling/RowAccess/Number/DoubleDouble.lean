import RowAccess.Number.Binary64
import RowAccess.Number.Decimal

/-!
Contract: numbers of twice the precision of binary64.

A number is the unevaluated sum of two binary64 numbers, the second of which
holds what rounding took from the first. A product is formed from halves of the
significands, whose products are exact; what is lost are the last bits of the
second part. Scaling by powers of ten goes by factors of 10^100, 10^10 and 10.

Owns:
- the pair type, its products and its scaling by powers of ten.
- the digits of a magnitude to a number of places.

Does not own:
- the reading of digits from text, and their layout.
-/

namespace RowAccess

structure DoubleDouble where
  high : Binary64
  low : Binary64
deriving DecidableEq, Repr

namespace Binary64

/-- The bits of a significand that a half leaves out. -/
def halfBits : Nat := 26

/-- The number with the lower half of its significand cleared. -/
def upperHalf (number : Binary64) : Binary64 :=
  let step := spacing number.units * Nat.pow 2 halfBits
  { number with units := number.units / step * step }

/-- The whole ones in a magnitude. -/
def wholePart (number : Binary64) : Nat := number.units / unitsPerOne

/-- Whether a magnitude is above another one. -/
def isAbove (number bound : Binary64) : Bool := bound.units < number.units

end Binary64

namespace DoubleDouble

open Binary64

/-- Beyond this number the parts of a whole number are not told apart. -/
def largestSplit : Nat := 18446744073709549568

/-- A whole number in two parts. -/
def ofNat (value : Nat) : DoubleDouble :=
  let high := ofInt value
  if high.wholePart ≤ largestSplit then ⟨high, ofInt (value - high.wholePart)⟩ else ⟨high, zero⟩

def ofBinary64 (number : Binary64) : DoubleDouble := ⟨number, zero⟩

def value (number : DoubleDouble) : Binary64 := number.high.add number.low

/-- The product; the order of the roundings is fixed. -/
def mul (number factor : DoubleDouble) : DoubleDouble :=
  let leftUpper := number.high.upperHalf
  let leftLower := number.high.sub leftUpper
  let rightUpper := factor.high.upperHalf
  let rightLower := factor.high.sub rightUpper
  let outer := leftUpper.mul rightUpper
  let inner := (leftUpper.mul rightLower).add (leftLower.mul rightUpper)
  let sum := outer.add inner
  let lost := ((outer.sub sum).add inner).add (leftLower.mul rightLower)
  let crossed := (number.high.mul factor.low).add (number.low.mul factor.high)
  let correction := crossed.add lost
  let high := sum.add correction
  ⟨high, (sum.sub high).add correction⟩

/-- The powers of ten by which numbers are scaled: their exponents' magnitudes. -/
inductive Step where
  | hundred
  | ten
  | one
deriving DecidableEq, Repr

namespace Step

def size : Step → Nat
  | hundred => 100
  | ten => 10
  | one => 1

/-- 10 to the size of the step; the second part holds what the first lacks. -/
def up : Step → DoubleDouble
  | hundred => ⟨nearestDecimal false 1 100, nearestDecimal true 15902891109759918046 64⟩
  | ten => ⟨nearestDecimal false 1 10, zero⟩
  | one => ⟨nearestDecimal false 1 1, zero⟩

/-- 10 to the negated size of the step. -/
def down : Step → DoubleDouble
  | hundred => ⟨nearestDecimal false 1 (-100), nearestDecimal true 199918998026028836196 (-137)⟩
  | ten => ⟨nearestDecimal false 1 (-10), nearestDecimal true 36432197315497741579 (-46)⟩
  | one => ⟨nearestDecimal false 1 (-1), nearestDecimal true 55511151231257827021 (-37)⟩

end Step

/-- The product with the `count`-th power of a factor, unless it is too large to
be finite. -/
def timesPower? (factor : DoubleDouble) : Nat → DoubleDouble → Option DoubleDouble
  | 0, number => some number
  | count + 1, number =>
      let product := number.mul factor
      if product.high.units < overflowUnits then timesPower? factor count product else none

/-- The number times a power of ten, unless that is too large to be finite. -/
def scale? (exponent : Int) (number : DoubleDouble) : Option DoubleDouble :=
  let count := exponent.natAbs
  let factor (step : Step) : DoubleDouble := if 0 < exponent then step.up else step.down
  (timesPower? (factor .hundred) (count / 100) number).bind (fun coarse =>
    (timesPower? (factor .ten) (count % 100 / 10) coarse).bind
      (timesPower? (factor .one) (count % 10)))

/-- A number and the power of ten that it was divided by. -/
structure Scaled where
  number : DoubleDouble
  exponent : Int
deriving DecidableEq, Repr

/-- Multiplies by a factor as long as a test holds, at most `fuel` times. -/
def scaleWhile (test : Binary64 → Bool) (factor : DoubleDouble) (change : Int) :
    Nat → Scaled → Scaled
  | 0, scaled => scaled
  | fuel + 1, scaled =>
      if test scaled.number.high then
        scaleWhile test factor change fuel ⟨scaled.number.mul factor, scaled.exponent + change⟩
      else scaled

/-- More than the steps of one size that any finite number needs. -/
def scaleFuel : Nat := 16

/-- The largest number that is brought to digits as it is, times a power of ten. -/
def digitsUpper (exponent : Nat) : Binary64 := nearestDecimal false 9223372036854774784 exponent

/-- The least number that is brought to digits as it is, times a step. -/
def digitsLower : Step → Binary64
  | .hundred => nearestDecimal false 9223372036854774784 (-101)
  | .ten => nearestDecimal false 9223372036854774784 (-11)
  | .one => nearestDecimal false 922337203685477478 0

/-- Brings a positive number to eighteen or nineteen whole digits. -/
def spread (number : Binary64) : Scaled :=
  let start : Scaled := ⟨ofBinary64 number, 0⟩
  if number.isAbove (digitsUpper 0) then
    let shrink (step : Step) (exponent : Nat) : Scaled → Scaled :=
      scaleWhile (fun high => high.isAbove (digitsUpper exponent)) step.down step.size scaleFuel
    shrink .one 0 (shrink .ten 10 (shrink .hundred 100 start))
  else
    let grow (step : Step) : Scaled → Scaled :=
      scaleWhile (fun high => (digitsLower step).isAbove high) step.up (-step.size) scaleFuel
    grow .one (grow .ten (grow .hundred start))

/-- The whole part of a number, part by part. -/
def wholePart (number : DoubleDouble) : Nat :=
  if number.low.negative then number.high.wholePart - number.low.wholePart
  else number.high.wholePart + number.low.wholePart

/-- A quotient rounded to a whole number, a half upwards. -/
def nearestUp (numerator denominator : Nat) : Nat :=
  (2 * numerator + denominator) / (2 * denominator)

/-- The digits of a positive magnitude, rounded to a number of places. -/
def toDecimal (places : Nat) (number : Binary64) : Decimal :=
  let scaled := spread number
  let whole := wholePart scaled.number
  let surplus := whole.repr.length - places
  ⟨nearestUp whole (Nat.pow 10 surplus), scaled.exponent + surplus⟩

end DoubleDouble

end RowAccess
