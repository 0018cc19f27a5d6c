import RowAccess.Collection.Basic
import RowAccess.Wire.Decode

/-!
Contract: the JSON forms of records, filters, subsets, queries and collections.

Reading accepts the raw constructors and the simplifying ones; writing uses the
raw ones only.

Owns:
- readers and writers of those forms.
-/

namespace RowAccess.Wire

/-- A record key is a text or an unsigned integer, which stands for its digits. -/
def recordKey : Json → Decoded RecordKey
  | .string value => .ok ⟨value⟩
  | .number (.integer value) => .ok ⟨toString value⟩
  | _ => .error (.malformed "key")

def recordKeys (json : Json) : Decoded (List RecordKey) := do (← list json).mapM recordKey

/-- A label to be read, or a pair of application and model. -/
def resource : Json → Decoded ResourceType
  | .string label =>
      match ResourceType.parse? label with
      | some found => .ok found
      | none => .error (.resource label)
  | .array [.string app, .string model] => .ok (ResourceType.ofParts app model)
  | _ => .error (.malformed "resource")

def path (json : Json) : Decoded FieldPath := do
  let written ← text json
  match FieldPath.parse? written with
  | some found => .ok found
  | none => .error (.path written)

/-- Field values; a missing object has none. -/
def fieldsOf (name : String) (json : Json) : Fields := OrderedMap.ofList (objectField name json)

def record (json : Json) : Decoded Record := do
  let key ← recordKey (← field "key" json)
  return ⟨key, fieldsOf "fields" json⟩

def condition : Json → Decoded Condition
  | .array [first, .string comparison, expected] => do
      let comparison ← expect "comparison" (Comparison.parse? comparison)
      return .compares (← path first) comparison expected
  | .array [first, expected] => do return .equals (← path first) expected
  | other => do return .notNull (← path other)

mutual

def filter : Json → Decoded Filter
  | .string "always" => .ok .always
  | .string "never" => .ok .never
  | .object [("and", .array items)] => (filters items).map .all
  | .object [("or", .array items)] => (filters items).map .any
  | .object [("all_of", .array items)] => (filters items).map Filter.conjunction
  | .object [("any_of", .array items)] => (filters items).map Filter.disjunction
  | .object [("not", child)] => (filter child).map .not
  | .object [("negate", child)] => (filter child).map Filter.negation
  | .object [("key_in", members)] => (subset members).map .keyIn
  | .object [("key_eq", key)] => (recordKey key).map Filter.keyEquals
  | .object [("not_null", test)] | .object [("eq", test)] | .object [("cmp", test)] =>
      (condition test).map .condition
  | _ => .error (.malformed "filter")

def filters : List Json → Decoded (List Filter)
  | [] => .ok []
  | item :: rest => do
      let first ← filter item
      let others ← filters rest
      return first :: others

def subset : Json → Decoded Subset
  | .object [("keys", keys)] =>
      (recordKeys keys).map (fun found => .explicit (OrderedSet.ofList found))
  | .object [("query", inner)] => (query inner).map .query
  | .object [("union", .array items)] => (subsets items).map Subset.unionOf
  | .object [("raw_union", .array items)] => (subsets items).map .union
  | _ => .error (.malformed "subset")

def subsets : List Json → Decoded (List Subset)
  | [] => .ok []
  | item :: rest => do
      let first ← subset item
      let others ← subsets rest
      return first :: others

/-- Fields stand in the order of their names. -/
def query : Json → Decoded Query
  | .object [("filters", .array items), ("resource", target)] => do
      let target ← resource target
      let narrowing ← filters items
      return .mk target narrowing
  | .object [("filters", .null), ("resource", target)] | .object [("resource", target)] =>
      (resource target).map Query.ofResource
  | _ => .error (.malformed "query")

end

def collection (json : Json) : Decoded Collection := do
  let target ← resource (← field "resource" json)
  let records ← (listField "records" json).mapM record
  return Collection.ofRecords target records

def encodeKeys (keys : KeySet) : Json := Json.strings (keys.toList.map Label.text)

def encodePath (path : FieldPath) : Json := Json.strings path.segments

def encodeRecord (record : Record) : Json :=
  Json.ofFields [("key", .string record.key.text), ("fields", .object record.fields.entries)]

def encodeCondition : Condition → Json
  | .notNull path => Json.ofFields [("not_null", encodePath path)]
  | .equals path expected => Json.ofFields [("eq", .array [encodePath path, expected])]
  | .compares path comparison expected =>
      Json.ofFields [("cmp", .array [encodePath path, .string comparison.label, expected])]

mutual

def encodeFilter : Filter → Json
  | .always => .string "always"
  | .never => .string "never"
  | .all children => Json.ofFields [("and", .array (encodeFilters children))]
  | .any children => Json.ofFields [("or", .array (encodeFilters children))]
  | .not child => Json.ofFields [("not", encodeFilter child)]
  | .condition test => encodeCondition test
  | .keyIn members => Json.ofFields [("key_in", encodeSubset members)]

def encodeFilters : List Filter → List Json
  | [] => []
  | child :: rest => encodeFilter child :: encodeFilters rest

def encodeSubset : Subset → Json
  | .explicit keys => Json.ofFields [("keys", encodeKeys keys)]
  | .query inner => Json.ofFields [("query", encodeQuery inner)]
  | .union members => Json.ofFields [("raw_union", .array (encodeSubsets members))]

def encodeSubsets : List Subset → List Json
  | [] => []
  | member :: rest => encodeSubset member :: encodeSubsets rest

def encodeQuery : Query → Json
  | .mk target filters =>
      Json.ofFields
        [("resource", .string target.label), ("filters", .array (encodeFilters filters))]

end

end RowAccess.Wire
