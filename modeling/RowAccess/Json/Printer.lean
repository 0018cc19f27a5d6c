import RowAccess.Json.Value
import RowAccess.Number.Shortest
import RowAccess.Text.Digest

/-!
Contract: JSON values as text without spaces.

A string escapes the quotation mark, the backslash and the control characters
below U+0020, the five with a letter by that letter and the others by four
hexadecimal digits. Every other character stands for itself. Fields are
written in the order given.
-/

namespace RowAccess.Json

def escape (character : Char) : String :=
  if character = '"' then "\\\""
  else if character = '\\' then "\\\\"
  else if character = '\x08' then "\\b"
  else if character = '\t' then "\\t"
  else if character = '\n' then "\\n"
  else if character = '\x0c' then "\\f"
  else if character = '\r' then "\\r"
  else if character.toNat < 0x20 then
    "\\u00" ++ String.ofList
      [Text.Digest.hexDigit (character.toNat / 16), Text.Digest.hexDigit (character.toNat % 16)]
  else character.toString

def quote (text : String) : String :=
  text.foldl (fun written character => written ++ escape character) "\"" ++ "\""

def printNumber : Number → String
  | .integer value => toString value
  | .real value => Shortest.text value

mutual

def print : Json → String
  | .null => "null"
  | .bool true => "true"
  | .bool false => "false"
  | .number value => printNumber value
  | .string value => quote value
  | .array items => "[" ++ printItems items ++ "]"
  | .object fields => "\x7b" ++ printFields fields ++ "\x7d"

def printItems : List Json → String
  | [] => ""
  | [item] => print item
  | item :: rest => print item ++ "," ++ printItems rest

def printFields : List (String × Json) → String
  | [] => ""
  | [field] => quote field.1 ++ ":" ++ print field.2
  | field :: rest => quote field.1 ++ ":" ++ print field.2 ++ "," ++ printFields rest

end

end RowAccess.Json
