import RowAccess.Scope.Registry

/-!
Contract: reading domain values from their JSON forms.

A field that is null counts as missing, except where a form says otherwise.

Owns:
- the causes for which a form is refused.
- the readers of fields, texts, lists and counts.
-/

namespace RowAccess

/-- Why a form is refused. -/
inductive WireError where
  | path (text : String)
  | resource (label : String)
  | registry (error : RegistryError)
  | malformed (form : String)
deriving DecidableEq, Repr

namespace WireError

def code : WireError → String
  | .path _ => "InvalidPath"
  | .resource _ => "InvalidResource"
  | .registry error => error.code
  | .malformed _ => "BadInput"

def message : WireError → String
  | .path text => s!"invalid field path: `{text}`"
  | .resource label => label
  | .registry error => error.message
  | .malformed form => form

/-- An error as a value: its code under `error`, and its text. -/
def encode (error : WireError) : Json :=
  Json.ofFields [("error", .string error.code), ("message", .string error.message)]

end WireError

abbrev Decoded (α : Type) := Except WireError α

namespace Wire

/-- A value of a kind, or the name of the form that lacks it. -/
def expect {α : Type} (form : String) : Option α → Decoded α
  | some value => .ok value
  | none => .error (.malformed form)

/-- A field's value unless it is missing or null. -/
def field? (name : String) (json : Json) : Option Json :=
  (json.field? name).filter (fun value => !value.isNull)

def field (name : String) (json : Json) : Decoded Json := expect name (field? name json)

def text (json : Json) : Decoded String := expect "text" json.string?

def flag (json : Json) : Decoded Bool := expect "flag" json.bool?

def integer (json : Json) : Decoded Int := expect "integer" json.integer?

def list (json : Json) : Decoded (List Json) := expect "list" json.array?

def count (json : Json) : Decoded Nat := (integer json).map Int.toNat

/-- A text field. -/
def textField (name : String) (json : Json) : Decoded String := do text (← field name json)

def textField? (name : String) (json : Json) : Option String := (field? name json).bind Json.string?

/-- A flag that is off when it is missing. -/
def flagField (name : String) (json : Json) : Bool :=
  ((field? name json).bind Json.bool?).getD false

/-- The items of a list field; a missing list is empty. -/
def listField (name : String) (json : Json) : List Json :=
  ((field? name json).bind Json.array?).getD []

/-- The fields of an object field; a missing object is empty. -/
def objectField (name : String) (json : Json) : List (String × Json) :=
  ((field? name json).bind Json.object?).getD []

def texts (json : Json) : Decoded (List String) := do (← list json).mapM text

/-- A decoded optional field. -/
def optionalField {α : Type} (name : String) (decode : Json → Decoded α) (json : Json) :
    Decoded (Option α) :=
  match field? name json with
  | some value => (decode value).map some
  | none => .ok none

/-- The two items of a pair. -/
def pair : Json → Decoded (Json × Json)
  | .array [first, second] => .ok (first, second)
  | _ => .error (.malformed "pair")

/-- The three items of a triple. -/
def triple : Json → Decoded (Json × Json × Json)
  | .array [first, second, third] => .ok (first, second, third)
  | _ => .error (.malformed "triple")

/-- A text, or a list of parts that are each repeated a number of times. -/
def repeatedText : Json → Decoded String
  | .string value => .ok value
  | .array parts => do
      let pieces ← parts.mapM (fun part => do
        let (piece, times) ← pair part
        let piece ← text piece
        let times ← count times
        return List.replicate times piece)
      return String.join pieces.flatten
  | _ => .error (.malformed "text")

end Wire

/-- A field's value is smaller than the object that holds it. -/
theorem Json.sizeOf_field? {name : String} {json value : Json}
    (found : json.field? name = some value) : sizeOf value < sizeOf json := by
  cases json with
  | object fields =>
      simp only [Json.field?, Option.map_eq_some_iff] at found
      obtain ⟨entry, hit, valueEq⟩ := found
      subst valueEq
      have member := List.sizeOf_lt_of_mem (List.mem_of_find?_eq_some hit)
      have inside : sizeOf entry.2 < sizeOf entry := by
        cases entry
        simp only [Prod.mk.sizeOf_spec]
        omega
      simp only [Json.object.sizeOf_spec]
      omega
  | _ => simp [Json.field?] at found

end RowAccess
