import RowAccess.Json.Reader

/-!
Contract: the tokens of TOML text.

The text is cut by one pass over its characters. Comments leave no token;
blanks and line ends do. A run of other characters is a word, whether it is a
key or a value. Strings of one line and of several lines are told apart, since
only the former can be keys.

Owns:
- the tokens and the pass that cuts them.
- the escapes and the folding of lines in strings.
-/

namespace RowAccess.Toml

/-- How a string is written: with escapes or literally, in one line or more. -/
structure StringForm where
  escapes : Bool
  multiline : Bool
deriving DecidableEq, Repr

def StringForm.quote (form : StringForm) : Char := if form.escapes then '"' else '\''

inductive Token where
  | blank (characters : List Char)
  | lineEnd
  | dot
  | equals
  | comma
  | openSquare
  | closeSquare
  | openBrace
  | closeBrace
  | word (characters : List Char)
  | string (multiline : Bool) (text : String)
deriving DecidableEq, Repr

/-- What the characters being read belong to; texts are held latest first. -/
inductive Mode where
  | between
  | carriage
  | comment
  | blank (latestFirst : List Char)
  | word (latestFirst : List Char)
  | opening (escapes : Bool) (quotes : Nat)
  | start (form : StringForm) (carriage : Bool)
  | text (form : StringForm) (quotes : Nat) (latestFirst : List Char)
  | textCarriage (form : StringForm) (latestFirst : List Char)
  | escaped (form : StringForm) (latestFirst : List Char)
  | code (form : StringForm) (digits value : Nat) (latestFirst : List Char)
  | folding (form : StringForm) (broken carriage : Bool) (latestFirst : List Char)
deriving Repr

/-- A mode and the tokens so far, latest first. -/
structure Scan where
  mode : Mode
  tokens : List Token
deriving Repr

namespace Scan

def emit (scan : Scan) (token : Token) : Scan := ⟨.between, token :: scan.tokens⟩

def enter (scan : Scan) (mode : Mode) : Scan := { scan with mode := mode }

end Scan

def isBlank (character : Char) : Bool := character = ' ' || character = '\t'

/-- Control characters other than the tab. -/
def isControl (character : Char) : Bool :=
  (character.toNat < 0x20 && character ≠ '\t') || character.toNat = 0x7F

def punctuation? : Char → Option Token
  | '.' => some .dot
  | '=' => some .equals
  | ',' => some .comma
  | '[' => some .openSquare
  | ']' => some .closeSquare
  | '{' => some .openBrace
  | '}' => some .closeBrace
  | _ => none

/-- Whether a character goes on with a word. -/
def isWordCharacter (character : Char) : Bool :=
  !(isBlank character || character = '\n' || character = '\r' || character = '#' ||
    character = '"' || character = '\'' || (punctuation? character).isSome)

/-- One character that begins something. -/
def scanBetween (scan : Scan) (character : Char) : Scan :=
  if isBlank character then scan.enter (.blank [character])
  else if character = '\n' then scan.emit .lineEnd
  else if character = '\r' then scan.enter .carriage
  else if character = '#' then scan.enter .comment
  else if character = '"' then scan.enter (.opening true 1)
  else if character = '\'' then scan.enter (.opening false 1)
  else
    match punctuation? character with
    | some token => scan.emit token
    | none => scan.enter (.word [character])

def stringToken (form : StringForm) (latestFirst : List Char) : Token :=
  .string form.multiline (String.ofList latestFirst.reverse)

def quotes (form : StringForm) (count : Nat) : List Char := List.replicate count form.quote

/-- One character of a string's text that is not its quote. -/
def scanText (scan : Scan) (form : StringForm) (latestFirst : List Char) (character : Char) :
    Option Scan :=
  if form.escapes ∧ character = '\\' then some (scan.enter (.escaped form latestFirst))
  else if character = '\n' then
    if form.multiline then some (scan.enter (.text form 0 (character :: latestFirst))) else none
  else if character = '\r' then
    if form.multiline then some (scan.enter (.textCarriage form latestFirst)) else none
  else if isControl character then none
  else some (scan.enter (.text form 0 (character :: latestFirst)))

/-- One character of a string. A string of several lines ends with three quotes
in a row, up to two more of which belong to it. -/
def scanString (scan : Scan) (form : StringForm) (pending : Nat) (latestFirst : List Char)
    (character : Char) : Option Scan :=
  if character = form.quote then
    if !form.multiline then some (scan.emit (stringToken form latestFirst))
    else if pending = 4 then some (scan.emit (stringToken form (quotes form 2 ++ latestFirst)))
    else some (scan.enter (.text form (pending + 1) latestFirst))
  else if 3 ≤ pending then
    some (scanBetween
      (scan.emit (stringToken form (quotes form (pending - 3) ++ latestFirst))) character)
  else scanText scan form (quotes form pending ++ latestFirst) character

def simpleEscape? : Char → Option Char
  | 'b' => some '\x08'
  | 't' => some '\t'
  | 'n' => some '\n'
  | 'f' => some '\x0c'
  | 'r' => some '\r'
  | 'e' => some '\x1b'
  | '"' => some '"'
  | '\\' => some '\\'
  | _ => none

/-- The number of hexadecimal digits after an escape letter. -/
def codeDigits? : Char → Option Nat
  | 'x' => some 2
  | 'u' => some 4
  | 'U' => some 8
  | _ => none

/-- One character after a backslash. In a string of several lines a backslash
at a line's end takes the line end and the blanks behind it away. -/
def scanEscape (scan : Scan) (form : StringForm) (latestFirst : List Char) (character : Char) :
    Option Scan :=
  match simpleEscape? character, codeDigits? character with
  | some plain, _ => some (scan.enter (.text form 0 (plain :: latestFirst)))
  | none, some digits => some (scan.enter (.code form digits 0 latestFirst))
  | none, none =>
      if !form.multiline then none
      else if isBlank character then some (scan.enter (.folding form false false latestFirst))
      else if character = '\n' then some (scan.enter (.folding form true false latestFirst))
      else if character = '\r' then some (scan.enter (.folding form false true latestFirst))
      else none

/-- The character with a code point. -/
def ofCode? (value : Nat) : Option Char :=
  if value.isValidChar then some (Char.ofNat value) else none

/-- One character of a numeric escape. -/
def scanCode (scan : Scan) (form : StringForm) (digits value : Nat) (latestFirst : List Char)
    (character : Char) : Option Scan :=
  match Json.hexValue? character with
  | none => none
  | some digit =>
      let next := value * 16 + digit
      if digits ≤ 1 then
        (ofCode? next).map (fun plain => scan.enter (.text form 0 (plain :: latestFirst)))
      else some (scan.enter (.code form (digits - 1) next latestFirst))

/-- One character after a folded line end. -/
def scanFolding (scan : Scan) (form : StringForm) (broken carriage : Bool)
    (latestFirst : List Char) (character : Char) : Option Scan :=
  if character = '\n' then some (scan.enter (.folding form true false latestFirst))
  else if carriage then none
  else if isBlank character then some (scan.enter (.folding form broken false latestFirst))
  else if character = '\r' then some (scan.enter (.folding form broken true latestFirst))
  else if broken then scanString scan form 0 latestFirst character
  else none

/-- One character in any mode, or nothing where the text is not TOML. -/
def scanStep (scan : Scan) (character : Char) : Option Scan :=
  match scan.mode with
  | .between => some (scanBetween scan character)
  | .carriage => if character = '\n' then some (scan.emit .lineEnd) else none
  | .comment =>
      if character = '\n' ∨ character = '\r' then some (scanBetween scan character)
      else if isControl character then none
      else some scan
  | .blank latestFirst =>
      if isBlank character then some (scan.enter (.blank (character :: latestFirst)))
      else some (scanBetween (scan.emit (.blank latestFirst.reverse)) character)
  | .word latestFirst =>
      if isWordCharacter character then some (scan.enter (.word (character :: latestFirst)))
      else some (scanBetween (scan.emit (.word latestFirst.reverse)) character)
  | .opening escapes quotes =>
      let single : StringForm := ⟨escapes, false⟩
      if character = single.quote then
        if quotes = 1 then some (scan.enter (.opening escapes 2))
        else some (scan.enter (.start ⟨escapes, true⟩ false))
      else if quotes = 1 then scanString scan single 0 [] character
      else some (scanBetween (scan.emit (stringToken single [])) character)
  | .start form carriage =>
      if character = '\n' then some (scan.enter (.text form 0 []))
      else if carriage then none
      else if character = '\r' then some (scan.enter (.start form true))
      else scanString scan form 0 [] character
  | .text form pending latestFirst => scanString scan form pending latestFirst character
  | .textCarriage form latestFirst =>
      if character = '\n' then
        some (scan.enter (.text form 0 ('\n' :: '\r' :: latestFirst)))
      else none
  | .escaped form latestFirst => scanEscape scan form latestFirst character
  | .code form digits value latestFirst => scanCode scan form digits value latestFirst character
  | .folding form broken carriage latestFirst =>
      scanFolding scan form broken carriage latestFirst character

/-- The tokens at the end of the text, latest first. -/
def scanEnd (scan : Scan) : Option (List Token) :=
  match scan.mode with
  | .between | .comment => some scan.tokens
  | .blank latestFirst => some (.blank latestFirst.reverse :: scan.tokens)
  | .word latestFirst => some (.word latestFirst.reverse :: scan.tokens)
  | .opening escapes 2 => some (stringToken ⟨escapes, false⟩ [] :: scan.tokens)
  | .text form pending latestFirst =>
      if 3 ≤ pending then
        some (stringToken form (quotes form (pending - 3) ++ latestFirst) :: scan.tokens)
      else none
  | _ => none

def scanAll (scan : Scan) : List Char → Option (List Token)
  | [] => scanEnd scan
  | character :: rest =>
      match scanStep scan character with
      | some next => scanAll next rest
      | none => none

/-- A mark of byte order at the front does not count. -/
def withoutMark : List Char → List Char
  | first :: rest => if first.toNat = 0xFEFF then rest else first :: rest
  | [] => []

def tokens? (text : String) : Option (List Token) :=
  (scanAll ⟨.between, []⟩ (withoutMark text.toList)).map List.reverse

end RowAccess.Toml
