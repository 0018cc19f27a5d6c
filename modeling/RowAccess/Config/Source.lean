import RowAccess.Json.Value
import RowAccess.Toml.Value

/-!
Contract: the values that a configuration is read from.

JSON and TOML give the same kinds of values, with null in JSON only. They
differ in two rules. A record may stand as a list of its fields in their order;
a list that is too long is refused in JSON and cut short in TOML. A word may
stand as the only name of a record; what is bound to it has to be null in JSON
and empty in TOML. A number in excess spoils a record even where the field is
not known, but not where a list is cut short.

Owns:
- the source values and what they are in either format.
-/

namespace RowAccess

inductive SourceValue where
  | null
  | bool (value : Bool)
  | integer (value : Int)
  | real
  | excess
  | text (value : String)
  | list (items : List SourceValue)
  | table (entries : List (String × SourceValue))
deriving Repr, Inhabited

inductive SourceFormat where
  | json
  | toml
deriving DecidableEq, Repr

namespace SourceValue

mutual

def ofJson : Json → SourceValue
  | .null => .null
  | .bool value => .bool value
  | .number (.integer value) => .integer value
  | .number (.real _) => .real
  | .string value => .text value
  | .array items => .list (ofJsonItems items)
  | .object fields => .table (ofJsonFields fields)

def ofJsonItems : List Json → List SourceValue
  | [] => []
  | item :: rest => ofJson item :: ofJsonItems rest

def ofJsonFields : List (String × Json) → List (String × SourceValue)
  | [] => []
  | field :: rest => (field.1, ofJson field.2) :: ofJsonFields rest

end

/-- The name under which the text of a point in time stands. -/
def momentName : String := "$__toml_private_datetime"

mutual

def ofToml : Toml.Value → SourceValue
  | .text value => .text value
  | .integer value => .integer value
  | .float _ => .real
  | .excess => .excess
  | .bool value => .bool value
  | .moment written => .table [(momentName, .text written)]
  | .array items => .list (ofTomlItems items)
  | .table entries => .table (ofTomlEntries entries)

def ofTomlItems : List Toml.Value → List SourceValue
  | [] => []
  | item :: rest => ofToml item :: ofTomlItems rest

def ofTomlEntries : List (String × Toml.Value) → List (String × SourceValue)
  | [] => []
  | entry :: rest => (entry.1, ofToml entry.2) :: ofTomlEntries rest

end

mutual

def hasExcess : SourceValue → Bool
  | .excess => true
  | .list items => itemsHaveExcess items
  | .table entries => entriesHaveExcess entries
  | _ => false

def itemsHaveExcess : List SourceValue → Bool
  | [] => false
  | item :: rest => hasExcess item || itemsHaveExcess rest

def entriesHaveExcess : List (String × SourceValue) → Bool
  | [] => false
  | entry :: rest => hasExcess entry.2 || entriesHaveExcess rest

end

def text? : SourceValue → Option String
  | .text value => some value
  | _ => none

/-- Counts have at most 64 bits. -/
def count? : SourceValue → Option Nat
  | .integer value => if 0 ≤ value ∧ value < Int.pow 2 64 then some value.toNat else none
  | _ => none

def list? : SourceValue → Option (List SourceValue)
  | .list items => some items
  | _ => none

def table? : SourceValue → Option (List (String × SourceValue))
  | .table entries => some entries
  | _ => none

/-- An optional value, which null leaves out. -/
def optional? {α : Type} (read : SourceValue → Option α) : SourceValue → Option (Option α)
  | .null => some none
  | value => (read value).map some

/-- Whether a value bound to a word carries nothing. -/
def isNothing (format : SourceFormat) (value : SourceValue) : Bool :=
  match format, value with
  | .json, .null => true
  | .toml, .list [] | .toml, .table [] => true
  | _, _ => false

/-- A word, alone or as the only name of a record. -/
def word? (format : SourceFormat) : SourceValue → Option String
  | .text value => some value
  | .table [(name, value)] => if value.isNothing format then some name else none
  | _ => none

/-- One of several named values. -/
def choice? {α : Type} (format : SourceFormat) (name : α → String) (all : List α)
    (value : SourceValue) : Option α :=
  (value.word? format).bind (fun word => all.find? (fun one => name one = word))

/-- The fields of a record by name, or by their order. -/
def fields? (format : SourceFormat) (names : List String) :
    SourceValue → Option (List (String × SourceValue))
  | .table entries =>
      if entries.any (fun entry => !names.contains entry.1 && entry.2.hasExcess) then none
      else some entries
  | .list items =>
      if format = .json ∧ names.length < items.length then none else some (names.zip items)
  | _ => none

end SourceValue

/-- Reads a field that has to be there. -/
def requiredField {α : Type} (name : String) (read : SourceValue → Option α)
    (fields : List (String × SourceValue)) : Option α :=
  (fields.lookup name).bind read

/-- Reads a field that has a standard value. -/
def standardField {α : Type} (name : String) (standard : α) (read : SourceValue → Option α)
    (fields : List (String × SourceValue)) : Option α :=
  match fields.lookup name with
  | none => some standard
  | some value => read value

end RowAccess
