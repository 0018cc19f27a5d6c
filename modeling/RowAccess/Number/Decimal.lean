/-!
Contract: decimals and their layout as text.

A decimal is laid out positionally or with an exponent, as the power of ten of
its leading digit says. Zeros at the end of its digits are left out.

Owns:
- the decimal type and the records that describe a layout.
- the text of a decimal in a layout.
-/

namespace RowAccess

/-- Decimal digits as a whole number, and the power of ten of the last digit. -/
structure Decimal where
  digits : Nat
  exponent : Int
deriving DecidableEq, Repr

/-- How a decimal's digits are laid out. -/
structure DecimalLayout where
  /-- The leading exponents written positionally. -/
  leastPositional : Int
  greatestPositional : Int
  /-- Whether an integral mantissa keeps `.0` before an exponent. -/
  mantissaKeepsPoint : Bool
  /-- The digits that an exponent has at least. -/
  exponentDigits : Nat
deriving DecidableEq, Repr

namespace Decimal

/-- Leaves out zeros at the end of the digits. -/
def stripZeros : Nat → List Char → List Char
  | 0, text => text
  | count + 1, text =>
      match text.reverse with
      | '0' :: rest => if rest.isEmpty then text else stripZeros count rest.reverse
      | _ => text

/-- A number's digits with zeros in front up to a width. -/
def padded (width value : Nat) : String :=
  let written := value.repr
  String.ofList (List.replicate (width - written.length) '0') ++ written

end Decimal

namespace DecimalLayout

/-- Digits around a point that stands after a count of them; the part behind it
is never empty. -/
def positional (significant : List Char) (whole : Nat) : String :=
  let integral := significant.take whole ++ List.replicate (whole - significant.length) '0'
  let fraction := significant.drop whole
  String.ofList integral ++ "." ++ (if fraction.isEmpty then "0" else String.ofList fraction)

/-- The text of a magnitude from its significant digits and the power of ten
of the first. -/
def magnitude (layout : DecimalLayout) (significant : List Char) (leading : Int) : String :=
  if layout.leastPositional ≤ leading ∧ leading ≤ layout.greatestPositional then
    if leading < 0 then
      "0." ++ String.ofList (List.replicate ((-leading).toNat - 1) '0' ++ significant)
    else positional significant (leading.toNat + 1)
  else
    let mantissa :=
      if significant.length ≤ 1 ∧ !layout.mantissaKeepsPoint then String.ofList significant
      else positional significant 1
    mantissa ++ "e" ++ (if 0 ≤ leading then "+" else "-") ++
      Decimal.padded layout.exponentDigits leading.natAbs

/-- The text of a positive decimal. -/
def text (layout : DecimalLayout) (decimal : Decimal) : String :=
  let written := decimal.digits.repr.toList
  layout.magnitude (Decimal.stripZeros written.length written)
    (decimal.exponent + (written.length : Int) - 1)

end DecimalLayout

end RowAccess
