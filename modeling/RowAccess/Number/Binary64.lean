/-!
Contract: finite binary64 numbers as exact values.

Every finite binary64 number is a whole multiple of 2^-1074, the least
positive one. A number is its sign and that multiple, so comparison is integer
comparison and rounding is one rule on quotients.

Owns:
- the number type, rounding to it, and its order.
- sums, products and the number nearest to a decimal.
- multiplication and division by powers of ten.

Does not own:
- decimal text, which `Shortest` and the readers produce and consume.
-/

namespace RowAccess

/-- A quotient rounded to the nearest whole number, a half to the even one. -/
def nearestEven (numerator denominator : Nat) : Nat :=
  let quotient := numerator / denominator
  let remainder := numerator % denominator
  if 2 * remainder < denominator then quotient
  else if denominator < 2 * remainder then quotient + 1
  else quotient + quotient % 2

/-- A sign and a magnitude in units of 2^-1074. -/
structure Binary64 where
  negative : Bool
  units : Nat
deriving DecidableEq, Repr

namespace Binary64

/-- The number of units in one. -/
def unitsPerOne : Nat := Nat.pow 2 1074

/-- Magnitudes from here on are not finite: 2^1024. -/
def overflowUnits : Nat := Nat.pow 2 2098

/-- The spacing of the numbers around a magnitude: significands have 53 bits. -/
def spacing (units : Nat) : Nat := Nat.pow 2 (units.log2 - 52)

/-- A quotient of units rounded to 53 significant bits, a half to the even
significand. -/
def roundUnits (numerator denominator : Nat) : Nat :=
  let step := spacing (numerator / denominator)
  nearestEven numerator (denominator * step) * step

def zero : Binary64 := ⟨false, 0⟩

def ofInt (value : Int) : Binary64 :=
  ⟨decide (value < 0), roundUnits (value.natAbs * unitsPerOne) 1⟩

/-- The signed number of units; both zeros have none. -/
def signedUnits (number : Binary64) : Int :=
  if number.negative then -(number.units : Int) else number.units

def isZero (number : Binary64) : Bool := number.units == 0

def neg (number : Binary64) : Binary64 := { number with negative := !number.negative }

def abs (number : Binary64) : Binary64 := { number with negative := false }

def order (left right : Binary64) : Ordering :=
  compare left.signedUnits right.signedUnits

/-- Equality of values, where the two zeros are equal. -/
def sameValue (left right : Binary64) : Bool := left.signedUnits == right.signedUnits

/-- The sum, rounded. It is a negative zero only if both numbers are negative. -/
def add (left right : Binary64) : Binary64 :=
  let sum := left.signedUnits + right.signedUnits
  ⟨(left.negative && right.negative) || decide (sum < 0), roundUnits sum.natAbs 1⟩

def sub (left right : Binary64) : Binary64 := left.add right.neg

/-- The product, rounded. -/
def mul (left right : Binary64) : Binary64 :=
  ⟨left.negative != right.negative, roundUnits (left.units * right.units) unitsPerOne⟩

/-- The number nearest to a significand with a decimal exponent. -/
def nearestDecimal (negative : Bool) (significand : Nat) (exponent : Int) : Binary64 :=
  { negative := negative
    units :=
      if 0 ≤ exponent then roundUnits (significand * Nat.pow 10 exponent.toNat * unitsPerOne) 1
      else roundUnits (significand * unitsPerOne) (Nat.pow 10 (-exponent).toNat) }

/-- The largest power of ten a scaling step uses. -/
def largestPower : Nat := 308

/-- A power of ten, rounded, in units. -/
def powerOfTenUnits (exponent : Nat) : Nat := roundUnits (Nat.pow 10 exponent * unitsPerOne) 1

/-- A product with a power of ten, unless it is too large to be finite. -/
def timesPowerOfTen? (number : Binary64) (exponent : Nat) : Option Binary64 :=
  if number.isZero then some number
  else if largestPower < exponent then none
  else
    let units := roundUnits (number.units * powerOfTenUnits exponent) unitsPerOne
    if units < overflowUnits then some { number with units := units } else none

/-- A quotient by a power of ten, in steps of at most `largestPower`. -/
def overPowerOfTen (number : Binary64) (exponent : Nat) : Binary64 :=
  if number.isZero then number
  else if exponent ≤ largestPower then
    { number with units := roundUnits (number.units * unitsPerOne) (powerOfTenUnits exponent) }
  else
    overPowerOfTen
      { number with
        units := roundUnits (number.units * unitsPerOne) (powerOfTenUnits largestPower) }
      (exponent - largestPower)
termination_by exponent
decreasing_by
  have positive : 0 < largestPower := by decide
  omega

/-- The number a whole significand and a decimal exponent describe. -/
def ofDecimal? (negative : Bool) (significand : Nat) (exponent : Int) : Option Binary64 :=
  let rounded : Binary64 := { ofInt significand with negative := negative }
  if 0 ≤ exponent then rounded.timesPowerOfTen? exponent.toNat
  else some (rounded.overPowerOfTen (-exponent).toNat)

end Binary64

end RowAccess
