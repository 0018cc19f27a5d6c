import RowAccess.Number.DoubleDouble

/-!
Contract: numbers as the database writes and reads them.

A number is written with fifteen significant digits. A text is read into a
significand of nineteen or twenty digits and a power of ten, and these are
multiplied in twice the precision of binary64. So the number read is not always
the nearest one.

Owns:
- the texts of numbers with a fraction.
- the grammar of numbers and the value of a text.
-/

namespace RowAccess.Numeral

/-- Leading exponents from -4 to 14 are written positionally; an exponent has at
least two digits. -/
def layout : DecimalLayout := ⟨-4, 14, true, 2⟩

/-- The significant digits that are written. -/
def places : Nat := 15

/-- The text of a number; zero has no sign. -/
def text (number : Binary64) : String :=
  if number.isZero then "0.0"
  else
    (if number.negative then "-" else "") ++ layout.text (DoubleDouble.toDecimal places number.abs)

/-- A decimal that is being read. -/
structure Reading where
  significand : Nat
  exponent : Int
deriving DecidableEq, Repr

namespace Reading

/-- From here on a significand takes no digit more. -/
def fullSignificand : Nat := 1844674407370955160

def isFull (reading : Reading) : Bool := fullSignificand ≤ reading.significand

def digitValue (digit : Char) : Nat := digit.toNat - 48

/-- Takes a digit before the point. One too many only counts. -/
def takeWhole (reading : Reading) (digit : Char) : Reading :=
  if reading.isFull then { reading with exponent := reading.exponent + 1 }
  else { reading with significand := reading.significand * 10 + digitValue digit }

/-- Takes a digit behind the point. One too many is ignored. -/
def takeFraction (reading : Reading) (digit : Char) : Reading :=
  if reading.isFull then reading
  else ⟨reading.significand * 10 + digitValue digit, reading.exponent - 1⟩

def ofDigits (whole fraction : List Char) : Reading :=
  fraction.foldl takeFraction (whole.foldl takeWhole ⟨0, 0⟩)

/-- A significand below this one, times ten, still has 64 bits. -/
def growable : Nat := 1844674407370954956

/-- Moves powers of ten into the significand while it stays small. -/
def grow : Nat → Nat → Reading
  | 0, significand => ⟨significand, 0⟩
  | exponent + 1, significand =>
      if significand < growable then grow exponent (significand * 10)
      else ⟨significand, exponent + 1⟩

/-- Divides powers of ten out of the significand. -/
def shrink : Nat → Nat → Reading
  | 0, significand => ⟨significand, 0⟩
  | exponent + 1, significand =>
      if significand % 10 = 0 then shrink exponent (significand / 10)
      else ⟨significand, -((exponent : Int) + 1)⟩

/-- The same decimal with an exponent near zero. -/
def balance (reading : Reading) : Reading :=
  if 0 ≤ reading.exponent then grow reading.exponent.toNat reading.significand
  else shrink reading.exponent.natAbs reading.significand

/-- The magnitude, unless it is too large to be finite. -/
def value? (reading : Reading) : Option Binary64 :=
  if reading.significand = 0 then some Binary64.zero
  else
    let balanced := reading.balance
    (DoubleDouble.scale? balanced.exponent (DoubleDouble.ofNat balanced.significand)).bind
      (fun scaled =>
        if scaled.value.units < Binary64.overflowUnits then some scaled.value else none)

end Reading

def isSpace (character : Char) : Bool :=
  character = ' ' || (0x09 ≤ character.toNat && character.toNat ≤ 0x0D)

def digitsOf (characters : List Char) : List Char × List Char :=
  (characters.takeWhile Char.isDigit, characters.dropWhile Char.isDigit)

def takeSign : List Char → Bool × List Char
  | '-' :: rest => (true, rest)
  | '+' :: rest => (false, rest)
  | rest => (false, rest)

/-- From here on an exponent takes no digit more. -/
def fullExponent : Nat := 10000

/-- The number that the digits of an exponent stand for. -/
def exponentValue (digits : List Char) : Nat :=
  digits.foldl (fun total digit =>
    if total < fullExponent then total * 10 + Reading.digitValue digit else fullExponent) 0

/-- The exponent at the end of a number's text. -/
def exponent? : List Char → Option Int
  | [] => some 0
  | marker :: rest =>
      if marker = 'e' ∨ marker = 'E' then
        let signed := takeSign rest
        match digitsOf signed.2 with
        | ([], _) => none
        | (digits, []) =>
            some (if signed.1 then -(exponentValue digits : Int) else exponentValue digits)
        | _ => none
      else none

/-- A text that is a number: its sign, its digits on both sides of the point, and
its exponent. A whole number has neither point nor exponent. -/
structure Shape where
  negative : Bool
  whole : List Char
  fraction : List Char
  exponent : Int
  isInteger : Bool
deriving DecidableEq, Repr

namespace Shape

/-- The shape of a text, blanks around it aside. -/
def ofText? (written : String) : Option Shape :=
  let core := (written.toList.dropWhile isSpace).reverse.dropWhile isSpace |>.reverse
  let signed := takeSign core
  let whole := digitsOf signed.2
  match whole.2 with
  | [] => if whole.1.isEmpty then none else some ⟨signed.1, whole.1, [], 0, true⟩
  | '.' :: afterPoint =>
      let fraction := digitsOf afterPoint
      if whole.1.isEmpty && fraction.1.isEmpty then none
      else
        (exponent? fraction.2).map (fun exponent =>
          ⟨signed.1, whole.1, fraction.1, exponent, false⟩)
  | rest =>
      if whole.1.isEmpty then none
      else (exponent? rest).map (fun exponent => ⟨signed.1, whole.1, [], exponent, false⟩)

/-- The integer that the digits before the point are. -/
def integer (shape : Shape) : Int :=
  let magnitude : Int :=
    shape.whole.foldl (fun total digit => total * 10 + Reading.digitValue digit) 0
  if shape.negative then -magnitude else magnitude

/-- The binary64 number, unless it is too large to be finite. -/
def real? (shape : Shape) : Option Binary64 :=
  let reading := Reading.ofDigits shape.whole shape.fraction
  (Reading.value? { reading with exponent := reading.exponent + shape.exponent }).map
    (fun magnitude => { magnitude with negative := shape.negative })

end Shape

end RowAccess.Numeral
