import RowAccess.Json.Printer
import RowAccess.Record.Basic
import RowAccess.Identity.Resource
import RowAccess.Store.Error

/-!
Contract: look-up of related records by foreign key.

A foreign key is a text or a number; a number is looked up under its printed
form.

Owns:
- the look-up interface and the look-up in a table of known records.
-/

namespace RowAccess

/-- Finds the record that a field of a resource refers to. -/
abbrev RelatedLookup := ResourceType → String → Json → Except StoreError (Option Record)

/-- The text under which a value is looked up. -/
def Json.keyText : Json → String
  | .string text => text
  | value => value.print

/-- A known related record, by resource, field and key text. -/
structure RelatedRecord where
  resource : ResourceType
  field : String
  key : String
  record : Record

namespace RelatedRecord

/-- Looks a foreign key up in a table in which later entries come first. -/
def find (latestFirst : List RelatedRecord) : RelatedLookup := fun resource field key =>
  match key with
  | .string _ | .number _ =>
      .ok ((latestFirst.find? (fun entry =>
        entry.resource = resource && entry.field = field && entry.key = key.keyText)).map
          RelatedRecord.record)
  | _ => .error ⟨.invalid, "unsupported foreign key value for " ++ field⟩

/-- The look-up in a table where a later entry replaces an earlier one. -/
def lookup (entries : List RelatedRecord) : RelatedLookup := find entries.reverse

end RelatedRecord

end RowAccess
