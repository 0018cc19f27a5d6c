import RowAccess.Json.Value

/-!
Contract: reading JSON text.

Text is cut into tokens by one pass over its characters, and the tokens are
assembled by one pass with a stack of open containers. Both passes are plain
recursion on their input. A number keeps as many leading digits as fit an
unsigned 64-bit integer; a literal that is not a 64-bit integer is scaled by a
power of ten into a binary64 number.

Owns:
- the tokens and the two passes.
- the reading of number literals.
-/

namespace RowAccess.Json

/-- The parts of a number literal. -/
structure Literal where
  negative : Bool
  whole : List Nat
  fraction : Option (List Nat)
  exponent : Option Int
deriving Repr

def digit? (character : Char) : Option Nat :=
  if character.isDigit then some (character.toNat - 48) else none

/-- Appends digits while the number fits 64 bits, and counts those appended. -/
def appendDigits (significand taken : Nat) : List Nat → Nat × Nat
  | [] => (significand, taken)
  | digit :: rest =>
      if significand * 10 + digit < Nat.pow 2 64 then
        appendDigits (significand * 10 + digit) (taken + 1) rest
      else (significand, taken)

def natOfDigits (digits : List Nat) : Nat :=
  digits.foldl (fun total digit => total * 10 + digit) 0

/-- Whether a literal without fraction and exponent is a 64-bit integer; a
negative zero is not, since it keeps its sign. -/
def Literal.integer? (literal : Literal) : Option Int :=
  if literal.fraction.isSome || literal.exponent.isSome then none
  else
    let magnitude := natOfDigits literal.whole
    if literal.negative then
      if 0 < magnitude ∧ magnitude ≤ Nat.pow 2 63 then some (-(magnitude : Int)) else none
    else if magnitude < Nat.pow 2 64 then some magnitude else none

def Literal.real? (literal : Literal) : Option Binary64 :=
  let fraction := literal.fraction.getD []
  let whole := appendDigits 0 0 literal.whole
  let dropped := literal.whole.length - whole.2
  let all := appendDigits whole.1 0 fraction
  Binary64.ofDecimal? literal.negative all.1
    ((dropped : Int) - all.2 + literal.exponent.getD 0)

def Literal.number? (literal : Literal) : Option Number :=
  match literal.integer? with
  | some value => some (.integer value)
  | none => literal.real?.map .real

/-- The digits at the front, and what follows them. -/
def spanDigits (characters : List Char) : List Nat × List Char :=
  ((characters.takeWhile Char.isDigit).filterMap digit?, characters.dropWhile Char.isDigit)

/-- The exponent of a literal: none if the text is empty. -/
def readExponent : List Char → Option (Option Int)
  | [] => some none
  | marker :: rest =>
      if marker = 'e' ∨ marker = 'E' then
        let signed :=
          match rest with
          | '-' :: tail => (true, tail)
          | '+' :: tail => (false, tail)
          | tail => (false, tail)
        match spanDigits signed.2 with
        | ([], _) => none
        | (digits, []) =>
            let magnitude : Int := natOfDigits digits
            some (some (if signed.1 then -magnitude else magnitude))
        | _ => none
      else none

/-- Reads a whole number literal; a leading zero stands alone. -/
def readLiteral (characters : List Char) : Option Literal :=
  let signed :=
    match characters with
    | '-' :: tail => (true, tail)
    | tail => (false, tail)
  match spanDigits signed.2 with
  | ([], _) => none
  | (whole, rest) =>
      if whole.head? = some 0 ∧ whole.length ≠ 1 then none
      else
        match rest with
        | '.' :: tail =>
            match spanDigits tail with
            | ([], _) => none
            | (fraction, afterFraction) =>
                (readExponent afterFraction).map (fun exponent =>
                  ⟨signed.1, whole, some fraction, exponent⟩)
        | tail => (readExponent tail).map (fun exponent => ⟨signed.1, whole, none, exponent⟩)

inductive Token where
  | openObject
  | closeObject
  | openArray
  | closeArray
  | colon
  | comma
  | scalar (value : Json)
deriving Repr, Inhabited

/-- What the characters being read belong to; texts are held latest first. -/
inductive Mode where
  | between
  | word (latestFirst : List Char)
  | text (latestFirst : List Char)
  | escaped (latestFirst : List Char)
  | unicode (latestFirst : List Char) (high : Option Nat) (count value : Nat)
  | awaitLow (latestFirst : List Char) (high : Nat)
  | awaitLowUnicode (latestFirst : List Char) (high : Nat)
deriving Repr

def hexValue? (character : Char) : Option Nat :=
  if character.isDigit then some (character.toNat - 48)
  else if 'a' ≤ character ∧ character ≤ 'f' then some (character.toNat - 87)
  else if 'A' ≤ character ∧ character ≤ 'F' then some (character.toNat - 55)
  else none

def simpleEscape? : Char → Option Char
  | '"' => some '"'
  | '\\' => some '\\'
  | '/' => some '/'
  | 'b' => some '\x08'
  | 'f' => some '\x0c'
  | 'n' => some '\n'
  | 'r' => some '\r'
  | 't' => some '\t'
  | _ => none

/-- A word stands for a literal name or a number. -/
def readWord (latestFirst : List Char) : Option Json :=
  let characters := latestFirst.reverse
  match String.ofList characters with
  | "null" => some .null
  | "true" => some (.bool true)
  | "false" => some (.bool false)
  | _ => (readLiteral characters).bind (fun literal => literal.number?.map .number)

def isSpace (character : Char) : Bool :=
  character = ' ' || character = '\n' || character = '\r' || character = '\t'

def punctuation? : Char → Option Token
  | '{' => some .openObject
  | '}' => some .closeObject
  | '[' => some .openArray
  | ']' => some .closeArray
  | ':' => some .colon
  | ',' => some .comma
  | _ => none

/-- One character outside a string, given the tokens so far, latest first. -/
def stepBetween (tokens : List Token) (character : Char) : Mode × List Token :=
  if isSpace character then (.between, tokens)
  else if character = '"' then (.text [], tokens)
  else
    match punctuation? character with
    | some token => (.between, token :: tokens)
    | none => (.word [character], tokens)

/-- A completed hexadecimal escape: a high surrogate waits for a low one. -/
def stepUnicode (latestFirst : List Char) (high : Option Nat) (value : Nat) : Option Mode :=
  match high with
  | some first =>
      if 0xDC00 ≤ value ∧ value ≤ 0xDFFF then
        some (.text (Char.ofNat (0x10000 + (first - 0xD800) * 0x400 + (value - 0xDC00))
          :: latestFirst))
      else none
  | none =>
      if 0xD800 ≤ value ∧ value ≤ 0xDBFF then some (.awaitLow latestFirst value)
      else if 0xDC00 ≤ value ∧ value ≤ 0xDFFF then none
      else some (.text (Char.ofNat value :: latestFirst))

/-- One character in any mode, or nothing where the text is not JSON. -/
def step (tokens : List Token) (mode : Mode) (character : Char) : Option (Mode × List Token) :=
  match mode with
  | .between => some (stepBetween tokens character)
  | .word latestFirst =>
      if isSpace character || (punctuation? character).isSome then
        (readWord latestFirst).map (fun value =>
          stepBetween (.scalar value :: tokens) character)
      else if character = '"' then none
      else some (.word (character :: latestFirst), tokens)
  | .text latestFirst =>
      if character = '"' then
        some (.between, .scalar (.string (String.ofList latestFirst.reverse)) :: tokens)
      else if character = '\\' then some (.escaped latestFirst, tokens)
      else if character.toNat < 0x20 then none
      else some (.text (character :: latestFirst), tokens)
  | .escaped latestFirst =>
      if character = 'u' then some (.unicode latestFirst none 0 0, tokens)
      else (simpleEscape? character).map (fun plain => (.text (plain :: latestFirst), tokens))
  | .unicode latestFirst high count value =>
      (hexValue? character).bind (fun digit =>
        if count = 3 then
          (stepUnicode latestFirst high (value * 16 + digit)).map (fun next => (next, tokens))
        else some (.unicode latestFirst high (count + 1) (value * 16 + digit), tokens))
  | .awaitLow latestFirst high =>
      if character = '\\' then some (.awaitLowUnicode latestFirst high, tokens) else none
  | .awaitLowUnicode latestFirst high =>
      if character = 'u' then some (.unicode latestFirst (some high) 0 0, tokens) else none

/-- The tokens of a text, latest first. -/
def scan (mode : Mode) (tokens : List Token) : List Char → Option (List Token)
  | [] =>
      match mode with
      | .between => some tokens
      | .word latestFirst => (readWord latestFirst).map (fun value => .scalar value :: tokens)
      | _ => none
  | character :: rest =>
      match step tokens mode character with
      | some (nextMode, nextTokens) => scan nextMode nextTokens rest
      | none => none

/-- A container that is not closed yet; items and fields are held latest first. -/
inductive Frame where
  | array (items : List Json)
  | object (fields : List (String × Json))
  | named (fields : List (String × Json)) (name : String)
deriving Repr

/-- What the grammar admits next. -/
inductive Expected where
  | value
  | valueOrClose
  | nameOrClose
  | name
  | colon
  | commaOrClose
  | finish
deriving DecidableEq, Repr

structure Assembly where
  frames : List Frame
  expected : Expected
  result : Option Json
deriving Repr

/-- Puts a finished value where the innermost container expects it. -/
def Assembly.place (assembly : Assembly) (value : Json) : Option Assembly :=
  match assembly.frames with
  | [] => some { frames := [], expected := .finish, result := some value }
  | .array items :: outer =>
      some { frames := .array (value :: items) :: outer, expected := .commaOrClose, result := none }
  | .named fields name :: outer =>
      some
        { frames := .object ((name, value) :: fields) :: outer
          expected := .commaOrClose
          result := none }
  | .object _ :: _ => none

def Assembly.push (assembly : Assembly) (frame : Frame) (expected : Expected) : Assembly :=
  { frames := frame :: assembly.frames, expected := expected, result := none }

/-- Takes one token. -/
def Assembly.step (assembly : Assembly) (token : Token) : Option Assembly :=
  match assembly.expected, token, assembly.frames with
  | .value, .openArray, _ | .valueOrClose, .openArray, _ =>
      some (assembly.push (.array []) .valueOrClose)
  | .value, .openObject, _ | .valueOrClose, .openObject, _ =>
      some (assembly.push (.object []) .nameOrClose)
  | .value, .scalar value, _ | .valueOrClose, .scalar value, _ => assembly.place value
  | .valueOrClose, .closeArray, .array _ :: outer =>
      { assembly with frames := outer }.place (.array [])
  | .nameOrClose, .closeObject, .object _ :: outer =>
      { assembly with frames := outer }.place (.object [])
  | .nameOrClose, .scalar (.string name), .object fields :: outer
  | .name, .scalar (.string name), .object fields :: outer =>
      some { frames := .named fields name :: outer, expected := .colon, result := none }
  | .colon, .colon, _ => some { assembly with expected := .value }
  | .commaOrClose, .comma, .array _ :: _ => some { assembly with expected := .value }
  | .commaOrClose, .comma, .object _ :: _ => some { assembly with expected := .name }
  | .commaOrClose, .closeArray, .array items :: outer =>
      { assembly with frames := outer }.place (.array items.reverse)
  | .commaOrClose, .closeObject, .object fields :: outer =>
      { assembly with frames := outer }.place (ofFields fields.reverse)
  | _, _, _ => none

def assemble (assembly : Assembly) : List Token → Option Json
  | [] => assembly.result
  | token :: rest =>
      match assembly.step token with
      | some next => assemble next rest
      | none => none

/-- Reads one JSON value, which blanks may surround. -/
def parse? (text : String) : Option Json :=
  (scan .between [] text.toList).bind (fun latestFirst =>
    assemble { frames := [], expected := .value, result := none } latestFirst.reverse)

end RowAccess.Json
