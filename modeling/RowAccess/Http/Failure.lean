import RowAccess.Decision.Error
import RowAccess.Json.Value

/-!
Contract: what a client is told about a failed access decision.

A denial is answered with 403 and its text. Everything else is answered with
500, its code and a fixed text, so that no detail of a configuration or of a
store reaches the client.

Owns:
- the status and the body of an access error.
-/

namespace RowAccess.AccessError

def isDenied (error : AccessError) : Bool := error.kind = .denied

def httpStatus (error : AccessError) : Nat := if error.isDenied then 403 else 500

def httpBody (error : AccessError) : Json :=
  Json.ofFields
    [("code", .string error.code),
     ("message", .string (if error.isDenied then error.message else "Internal server error."))]

end RowAccess.AccessError
