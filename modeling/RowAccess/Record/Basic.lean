import RowAccess.Identity.Label
import RowAccess.Json.Value
import RowAccess.Ordered.Map
import RowAccess.Record.Path

/-!
Contract: records as access decisions see them.

A record is a key and named field values; a related record may be embedded as
an object. Proposed values are fields without a key.

Owns:
- the record type, look-up along a path and overlaying of proposed values.
-/

namespace RowAccess

/-- Field values by name. -/
abbrev Fields := OrderedMap String Json

/-- The fields of an object; of a repeated name the first counts, as in a look-up. -/
def Fields.ofObject (fields : List (String × Json)) : Fields := OrderedMap.ofList fields.reverse

structure Record where
  key : RecordKey
  fields : Fields
deriving Repr

namespace Record

def field? (record : Record) (name : String) : Option Json := record.fields.find? name

/-- Follows field names through embedded objects. -/
def descend : Json → List String → Option Json
  | value, [] => some value
  | value, name :: rest => (value.field? name).bind (fun inner => descend inner rest)

/-- The value at the end of a path. -/
def lookup? (record : Record) (path : FieldPath) : Option Json :=
  (record.field? path.first).bind (fun value => descend value path.below)

/-- The record with proposed values in place of its own. -/
def overlay (record : Record) (values : Fields) : Record :=
  { record with fields := record.fields.insertAll values.entries }

end Record

/-- Whether a look-up found a value other than null. -/
def present (found : Option Json) : Bool :=
  match found with
  | some value => !value.isNull
  | none => false

end RowAccess
