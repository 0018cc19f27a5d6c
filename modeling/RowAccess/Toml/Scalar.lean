import RowAccess.Time.Instant
import RowAccess.Toml.Value

/-!
Contract: words as TOML values.

A word is a truth value, an integer in one of four bases, a number with a
fraction or an exponent, or a point in time. Integers with more than 128 bits
and other numbers that round to infinity are in excess.

Owns:
- the grammar of these words.
-/

namespace RowAccess.Toml

/-- Digits that single underscores may stand between, without them. -/
def digits? (test : Char → Bool) (characters : List Char) : Option (List Char) :=
  let bounded := characters.head?.any test && characters.getLast?.any test
  let clean := characters.all (fun character => test character || character = '_')
  let apart := (characters.zip (characters.drop 1)).all (fun pair =>
    !(pair.1 = '_' && pair.2 = '_'))
  if bounded && clean && apart then
    some (characters.filter (fun character => character ≠ '_'))
  else none

def digitValue (character : Char) : Nat :=
  if character.isDigit then character.toNat - 48
  else if 'a' ≤ character ∧ character ≤ 'f' then character.toNat - 87
  else character.toNat - 55

/-- The number that digits are in a base, or a power of ten beyond every limit
if there are too many of them. -/
def numberOf (base : Nat) (digits : List Char) : Nat :=
  let significant := digits.dropWhile (fun digit => digit = '0')
  if 140 < significant.length then Nat.pow 10 140
  else significant.foldl (fun total digit => total * base + digitValue digit) 0

def isBinaryDigit (character : Char) : Bool := character = '0' || character = '1'

def isOctalDigit (character : Char) : Bool := '0' ≤ character && character ≤ '7'

def isHexDigit (character : Char) : Bool :=
  character.isDigit || ('a' ≤ character && character ≤ 'f') ||
    ('A' ≤ character && character ≤ 'F')

/-- Decimal digits without a superfluous zero in front. -/
def decimal? (characters : List Char) : Option (List Char) :=
  (digits? Char.isDigit characters).filter (fun digits =>
    digits.length = 1 || digits.head? ≠ some '0')

def takeSign : List Char → Bool × List Char
  | '-' :: rest => (true, rest)
  | '+' :: rest => (false, rest)
  | rest => (false, rest)

def integerValue (value : Int) : Value :=
  if -Int.pow 2 127 ≤ value ∧ value < Int.pow 2 128 then .integer value else .excess

def integer? (characters : List Char) : Option Value :=
  let based (base : Nat) (test : Char → Bool) (rest : List Char) : Option Value :=
    (digits? test rest).map (fun digits => integerValue (numberOf base digits))
  match characters with
  | '0' :: 'x' :: rest => based 16 isHexDigit rest
  | '0' :: 'o' :: rest => based 8 isOctalDigit rest
  | '0' :: 'b' :: rest => based 2 isBinaryDigit rest
  | _ =>
      let signed := takeSign characters
      (decimal? signed.2).map (fun digits =>
        let magnitude : Int := numberOf 10 digits
        integerValue (if signed.1 then -magnitude else magnitude))

/-- The exponent that a word ends with. -/
def exponent? : List Char → Option Int
  | [] => some 0
  | marker :: rest =>
      if marker = 'e' ∨ marker = 'E' then
        let signed := takeSign rest
        (digits? Char.isDigit signed.2).map (fun digits =>
          let magnitude : Int := numberOf 10 digits
          if signed.1 then -magnitude else magnitude)
      else none

/-- The number of digits of the least magnitude that rounds to infinity. -/
def overflowDigits : Nat := 309

/-- Half a step above the largest finite binary64 number. -/
def overflowMagnitude : Nat := Nat.pow 2 1024 - Nat.pow 2 970

/-- Whether digits, with a number of them before the point, stay finite. -/
def isFinite (digits : List Char) (point : Int) : Bool :=
  let significant := digits.dropWhile (fun digit => digit = '0')
  let leading := point - (digits.length - significant.length : Nat)
  if significant.isEmpty || leading < overflowDigits then true
  else if (overflowDigits : Int) < leading then false
  else
    let kept := significant.take overflowDigits
    let value := kept.foldl (fun total digit => total * 10 + digitValue digit) 0
    value * Nat.pow 10 (overflowDigits - kept.length) < overflowMagnitude

def isDigitOrUnderscore (character : Char) : Bool := character.isDigit || character = '_'

/-- A decimal with a fraction, an exponent or both, and whether it is finite. -/
def decimalFloat? (characters : List Char) : Option Bool :=
  let whole := characters.takeWhile isDigitOrUnderscore
  let rest := characters.dropWhile isDigitOrUnderscore
  (decimal? whole).bind (fun wholeDigits =>
    match rest with
    | [] => none
    | '.' :: tail =>
        let fraction := tail.takeWhile isDigitOrUnderscore
        (digits? Char.isDigit fraction).bind (fun fractionDigits =>
          (exponent? (tail.dropWhile isDigitOrUnderscore)).map (fun exponent =>
            isFinite (wholeDigits ++ fractionDigits) (wholeDigits.length + exponent)))
    | tail =>
        (exponent? tail).map (fun exponent =>
          isFinite wholeDigits (wholeDigits.length + exponent)))

def float? (characters : List Char) : Option Value :=
  let magnitude := (takeSign characters).2
  if magnitude = ['i', 'n', 'f'] ∨ magnitude = ['n', 'a', 'n'] then
    some (.float (String.ofList characters))
  else
    (decimalFloat? magnitude).map (fun finite =>
      if finite then .float (String.ofList characters) else .excess)

/-- A number of exactly so many digits, and what follows it. -/
def takeNumber (count : Nat) (characters : List Char) : Option (Nat × List Char) :=
  let digits := characters.take count
  if digits.length = count ∧ digits.all Char.isDigit then
    some (numberOf 10 digits, characters.drop count)
  else none

/-- What follows a character that has to come next. -/
def expect (expected : Char) : List Char → Option (List Char)
  | first :: rest => if first = expected then some rest else none
  | [] => none

def daysInMonth (year month : Nat) : Nat :=
  let next : CalendarDate :=
    if month = 12 then ⟨year + 1, 1, 1⟩ else ⟨year, month + 1, 1⟩
  (next.toDays - CalendarDate.toDays ⟨year, month, 1⟩).toNat

/-- What follows a date. -/
def afterDate (characters : List Char) : Option (List Char) := do
  let (year, rest) ← takeNumber 4 characters
  let rest ← expect '-' rest
  let (month, rest) ← takeNumber 2 rest
  let rest ← expect '-' rest
  let (day, rest) ← takeNumber 2 rest
  if 1 ≤ month ∧ month ≤ 12 ∧ 1 ≤ day ∧ day ≤ daysInMonth year month then some rest else none

/-- What follows a fraction of a second, if there is one. -/
def afterFraction : List Char → Option (List Char)
  | '.' :: rest =>
      if (rest.head?.any Char.isDigit) then some (rest.dropWhile Char.isDigit) else none
  | rest => some rest

/-- What follows a time of day, whose seconds may be left out. -/
def afterTime (characters : List Char) : Option (List Char) := do
  let (hour, rest) ← takeNumber 2 characters
  let rest ← expect ':' rest
  let (minute, rest) ← takeNumber 2 rest
  if hour ≤ 23 ∧ minute ≤ 59 then
    match rest with
    | ':' :: tail => do
        let (second, tail) ← takeNumber 2 tail
        if second ≤ 60 then afterFraction tail else none
    | _ => some rest
  else none

/-- Whether what follows a time is an offset of less than a day, or nothing. -/
def isOffset : List Char → Bool
  | [] => true
  | [single] => single = 'Z' || single = 'z'
  | sign :: rest =>
      (sign = '+' || sign = '-') &&
        (do
          let (hours, rest) ← takeNumber 2 rest
          let rest ← expect ':' rest
          let (minutes, rest) ← takeNumber 2 rest
          if rest.isEmpty ∧ hours ≤ 23 ∧ minutes ≤ 59 then some () else none
          : Option Unit).isSome

def isMoment (characters : List Char) : Bool :=
  match afterDate characters with
  | none => afterTime characters = some []
  | some [] => true
  | some (divider :: rest) =>
      (divider = 'T' || divider = 't' || divider = ' ') && (afterTime rest).any isOffset

def moment? (characters : List Char) : Option Value :=
  if isMoment characters then some (.moment (String.ofList characters)) else none

def bool? (characters : List Char) : Option Value :=
  if characters = "true".toList then some (.bool true)
  else if characters = "false".toList then some (.bool false)
  else none

def scalar? (characters : List Char) : Option Value :=
  bool? characters <|> integer? characters <|> float? characters <|> moment? characters

end RowAccess.Toml
