/-!
Contract: TOML values.

Numbers with a fraction or an exponent and points in time are kept as they are
written, since nothing computes with them. A number beyond the limits of its
kind is a value too, but one that cannot be read, not even to be ignored.

Owns:
- the value type.
-/

namespace RowAccess.Toml

inductive Value where
  | text (text : String)
  | integer (value : Int)
  | float (written : String)
  | excess
  | bool (value : Bool)
  | moment (written : String)
  | array (items : List Value)
  | table (entries : List (String × Value))
deriving Repr, Inhabited

end RowAccess.Toml
