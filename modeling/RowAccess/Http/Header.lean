/-!
Contract: the header fields of a request.

Names are read without regard to ASCII case, and the first field of a name
counts. A value is text only if all its characters are visible ASCII, spaces or
tabs.

Owns:
- the look-up of fields and the reading of their values as text.
-/

namespace RowAccess.Http

abbrev Headers := List (String × String)

def lowerCase (name : String) : String := name.map Char.toLower

namespace Headers

def first? (name : String) (headers : Headers) : Option String :=
  (headers.find? (fun field => lowerCase field.1 = lowerCase name)).map Prod.snd

/-- Whether a character may stand in a value that is text. -/
def isReadable (character : Char) : Bool :=
  (0x20 ≤ character.toNat && character.toNat ≤ 0x7E) || character = '\t'

/-- The value of a field as text. -/
def text? (name : String) (headers : Headers) : Option String :=
  (headers.first? name).filter (fun value => value.toList.all isReadable)

def requestIdName : String := "x-request-id"

def maxRequestIdBytes : Nat := 128

/-- The identifier that a request brings, unless it is empty or too long. -/
def requestId? (headers : Headers) : Option String :=
  (headers.text? requestIdName).filter (fun value =>
    !value.isEmpty && value.utf8ByteSize ≤ maxRequestIdBytes)

end Headers

end RowAccess.Http
