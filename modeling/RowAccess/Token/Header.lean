import RowAccess.Identity.Label

/-!
Contract: the token in an authorization header.

A header carries a token when it is short enough and consists of the scheme,
one space and the token. The token may be empty and may contain spaces.

Owns:
- the settings of the token gate and the reading of a header under them.
-/

namespace RowAccess

structure GateSettings where
  scheme : String
  maxHeaderBytes : Nat
deriving DecidableEq, Repr

namespace GateSettings

def standard : GateSettings := ⟨"Token", 8192⟩

instance : Inhabited GateSettings := ⟨standard⟩

/-- What stands in a header before the token. -/
def lead (settings : GateSettings) : List Char := settings.scheme.toList ++ [' ']

def token? (settings : GateSettings) (header : String) : Option TokenValue :=
  if settings.maxHeaderBytes < header.utf8ByteSize then none
  else (settings.lead.isPrefixOf? header.toList).map (fun rest => ⟨String.ofList rest⟩)

end GateSettings

end RowAccess
