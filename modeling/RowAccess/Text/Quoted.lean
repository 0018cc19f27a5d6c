import RowAccess.Text.Extending
import RowAccess.Text.Invisible

/-!
Contract: texts between quotation marks, for reading by people.

The quotation mark, the backslash and the usual control characters have short
escapes; any other character without a visible form of its own is given by its
code point.

Owns:
- the choice of escapes and the quoted form of a text.
-/

namespace RowAccess.Text.Quoted

/-- A character that a reader could not tell from the text around it. -/
def isHidden (character : Char) : Bool := isInvisible character || isExtending character

/-- The hexadecimal digits of a code point, without zeros in front. -/
def codeText (character : Char) : String :=
  String.ofList (Nat.toDigits 16 character.toNat)

def escape (character : Char) : String :=
  if character = '"' then "\\\""
  else if character = '\\' then "\\\\"
  else if character = '\n' then "\\n"
  else if character = '\r' then "\\r"
  else if character = '\t' then "\\t"
  else if character.toNat = 0 then "\\0"
  else if isHidden character then "\\u\x7b" ++ codeText character ++ "\x7d"
  else character.toString

def quote (text : String) : String :=
  text.foldl (fun written character => written ++ escape character) "\"" ++ "\""

end RowAccess.Text.Quoted
