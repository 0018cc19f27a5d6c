import RowAccess.Decision.Write
import RowAccess.Proofs.Ordered.Map
import RowAccess.Proofs.Scope.Registration
import RowAccess.Scope.Relation

/-!
Contract: the tests of a relation, by the reference that a record has.

A path of one step ends at the reference. A longer one goes on below an embedded
object, as a view would follow it, or in the record that the reference names; where
there is no reference, or no record of its name, an addition is allowed and a deletion
is not.

Owns:
- look-ups along a path, one step at a time, and in embedded objects.
- what is reached from a reference.
- deletions by what a view shows, and changes by deletions and additions.
-/

namespace RowAccess

/-! ## Fields -/

theorem Fields.find?_ofObject (fields : List (String × Json)) (name : String) :
    (Fields.ofObject fields).find? name = (Json.object fields).field? name := by
  unfold Fields.ofObject OrderedMap.ofList
  rw [OrderedMap.find?_insertAll, List.reverse_reverse, OrderedMap.find?_empty, Option.or_none]
  rfl

/-- A record written with proposed values has these first, and its own otherwise. -/
theorem Record.field?_overlay (record : Record) (values : Fields) (name : String) :
    (record.overlay values).field? name = (values.find? name).or (record.field? name) :=
  OrderedMap.find?_insertAll_entries record.fields values name

/-- An embedded object is searched below its fields. -/
theorem Record.lookup?_embedded (key : RecordKey) (fields : List (String × Json))
    (path : FieldPath) :
    (Record.mk key (Fields.ofObject fields)).lookup? path =
      descend (.object fields) path.segments := by
  unfold Record.lookup? Record.field?
  rw [Fields.find?_ofObject]
  rfl

theorem Record.lookup?_of_absent {record : Record} {path : FieldPath}
    (absent : record.field? path.first = none) : record.lookup? path = none := by
  unfold Record.lookup?
  rw [absent]
  rfl

theorem Record.lookup?_of_field {record : Record} {path : FieldPath} {value : Json}
    (found : record.field? path.first = some value) :
    record.lookup? path = descend value path.below := by
  unfold Record.lookup?
  rw [found]
  rfl

/-- Only an object has anything below it. -/
theorem Record.descend_eq_none {value : Json} {below : List String} (several : below ≠ [])
    (plain : ∀ fields, value ≠ .object fields) : descend value below = none := by
  cases below with
  | nil => exact absurd rfl several
  | cons name rest =>
      cases value with
      | object fields => exact absurd rfl (plain fields)
      | _ => rfl

theorem FieldPath.rest?_of_single {path : FieldPath} (single : path.below = []) :
    path.rest? = none := by
  unfold FieldPath.rest?
  rw [single]
  rfl

theorem FieldPath.exists_rest? {path : FieldPath} (several : path.below ≠ []) :
    ∃ rest, path.rest? = some rest ∧ rest.segments = path.below := by
  obtain ⟨first, below, filled⟩ := path
  cases below with
  | nil => exact absurd rfl several
  | cons second further =>
      have rest : ∀ segment ∈ second :: further, segment ≠ "" :=
        fun segment member => filled segment (List.mem_cons_of_mem first member)
      exact ⟨⟨second, further, rest⟩, dif_pos rest, rfl⟩

/-! ## Reaching the end of a path -/

namespace Relation

variable {relation : Relation} {record : Record} {values : Fields}

theorem isSome_nonNull (found : Option Json) : (nonNull found).isSome = present found := by
  match found with
  | none => rfl
  | some value => cases value <;> rfl

theorem reaches_of_single (single : relation.path.below = []) (key : Option Json)
    (absent : Bool) : relation.reaches key absent = .ok key.isSome := by
  unfold reaches
  rw [FieldPath.rest?_of_single single]

theorem reaches_none (several : relation.path.below ≠ []) (absent : Bool) :
    relation.reaches none absent = .ok absent := by
  obtain ⟨rest, found, _⟩ := FieldPath.exists_rest? several
  unfold reaches
  rw [found]

theorem reaches_embedded (several : relation.path.below ≠ []) (fields : List (String × Json))
    (absent : Bool) :
    relation.reaches (some (.object fields)) absent =
      .ok (present (Record.descend (.object fields) relation.path.below)) := by
  obtain ⟨rest, found, segments⟩ := FieldPath.exists_rest? several
  unfold reaches
  rw [found]
  simp only [fetch, Record.lookup?_embedded, segments]

/-- What is reached where absence counts as failure is reached in any case. -/
theorem reaches_of_reaches {key : Option Json} (reached : relation.reaches key false = .ok true) :
    relation.reaches key true = .ok true := by
  by_cases single : relation.path.below = []
  · rw [reaches_of_single single] at reached ⊢
    exact reached
  · obtain ⟨rest, found, _⟩ := FieldPath.exists_rest? single
    unfold reaches at reached ⊢
    rw [found] at reached ⊢
    cases key with
    | none => cases reached
    | some value =>
        dsimp only at reached ⊢
        cases fetched : relation.fetch value with
        | error failure =>
            rw [fetched] at reached
            cases reached
        | ok target =>
            rw [fetched] at reached
            cases target with
            | none => cases reached
            | some target => exact reached

theorem isSome_of_reaches {key : Option Json} (reached : relation.reaches key false = .ok true) :
    key.isSome = true := by
  cases key with
  | some value => rfl
  | none =>
      by_cases single : relation.path.below = []
      · rw [reaches_of_single single] at reached
        cases reached
      · rw [reaches_none single] at reached
        cases reached

/-! ## Deletions and views -/

theorem present_of_deleteAllowed (allowed : relation.deleteAllowed record = .ok true) :
    present (record.field? relation.path.first) = true := by
  rw [← isSome_nonNull]
  exact isSome_of_reaches allowed

/-- Where the reference is at the end of the path, or leads nowhere but below itself,
a deletion is decided by the record alone. -/
theorem deleteAllowed_eq_present
    (here : relation.path.below = [] ∨ ∀ key, record.field? relation.path.first = some key →
      key = .null ∨ ∃ fields, key = .object fields) :
    relation.deleteAllowed record = .ok (present (record.lookup? relation.path)) := by
  unfold deleteAllowed
  by_cases single : relation.path.below = []
  · rw [reaches_of_single single, isSome_nonNull]
    cases found : record.field? relation.path.first with
    | none => rw [Record.lookup?_of_absent found]
    | some key =>
        rw [Record.lookup?_of_field found, single]
        rfl
  · have embedded := here.resolve_left single
    cases found : record.field? relation.path.first with
    | none =>
        rw [Record.lookup?_of_absent found]
        exact reaches_none single false
    | some key =>
        rw [Record.lookup?_of_field found]
        rcases embedded key found with rfl | ⟨fields, rfl⟩
        · rw [Record.descend_eq_none single (fun fields same => by cases same)]
          exact reaches_none single false
        · exact reaches_embedded single fields false

/-- What a view shows is at the end of the path or below an embedded object. -/
theorem deleteAllowed_of_present (shown : present (record.lookup? relation.path) = true) :
    relation.deleteAllowed record = .ok true := by
  rw [← shown]
  apply deleteAllowed_eq_present
  by_cases single : relation.path.below = []
  · exact Or.inl single
  · refine Or.inr (fun key found => ?_)
    by_cases embedded : ∃ fields, key = .object fields
    · exact Or.inr embedded
    · rw [Record.lookup?_of_field found,
        Record.descend_eq_none single (fun fields same => embedded ⟨fields, same⟩)] at shown
      cases shown

/-! ## Changes -/

/-- The proposed reference is the one that the record has when it is written. -/
theorem proposedKey_eq (record : Record) (values : Fields) :
    relation.proposedKey record values = (record.overlay values).field? relation.path.first := by
  rw [Record.field?_overlay]
  unfold proposedKey
  cases values.find? relation.path.first <;> rfl

theorem changeAllowed_eq_true :
    relation.changeAllowed record values = .ok true ↔
      relation.deleteAllowed record = .ok true ∧ relation.addAllowed record values = .ok true := by
  unfold changeAllowed
  split
  next failure failed => simp [failed]
  next refused => simp [refused]
  next allowed => simp [allowed]

/-- An addition that goes by the reference the record has is allowed where a deletion
is. -/
theorem changeAllowed_of_add
    (adds : relation.deleteAllowed record = .ok true → relation.addAllowed record values = .ok true) :
    relation.changeAllowed record values = relation.deleteAllowed record := by
  unfold changeAllowed
  split
  next failure failed => exact failed.symm
  next refused => exact refused.symm
  next allowed => rw [adds allowed, allowed]

theorem changeAllowed_of_unnamed (unnamed : values.find? relation.path.first = none) :
    relation.changeAllowed record values = relation.deleteAllowed record := by
  apply changeAllowed_of_add
  intro allowed
  unfold addAllowed proposedKey
  rw [unnamed]
  exact reaches_of_reaches allowed

/-- Where the path ends at the reference, a change may not set it to null. -/
theorem changeAllowed_of_cleared (single : relation.path.below = [])
    (cleared : values.find? relation.path.first = some .null) :
    relation.changeAllowed record values = .ok false := by
  have refused : relation.addAllowed record values = .ok false := by
    unfold addAllowed proposedKey
    rw [cleared]
    exact reaches_of_single single none true
  unfold changeAllowed deleteAllowed
  rw [reaches_of_single single]
  cases (nonNull (record.field? relation.path.first)).isSome with
  | false => rfl
  | true => exact refused

/-- Where the path goes on, an addition is silent about a reference that is null. -/
theorem changeAllowed_of_null (several : relation.path.below ≠ [])
    (cleared : values.find? relation.path.first = some .null) :
    relation.changeAllowed record values = relation.deleteAllowed record := by
  apply changeAllowed_of_add
  intro _
  unfold addAllowed proposedKey
  rw [cleared]
  exact reaches_none several true

/-- A change that is allowed leaves a reference, unless the path goes on and the change
sets the reference to null. -/
theorem present_of_changeAllowed (allowed : relation.changeAllowed record values = .ok true) :
    present ((record.overlay values).field? relation.path.first) = true ∨
      relation.path.below ≠ [] ∧ values.find? relation.path.first = some .null := by
  obtain ⟨current, added⟩ := changeAllowed_eq_true.1 allowed
  by_cases single : relation.path.below = []
  · unfold addAllowed at added
    rw [reaches_of_single single, isSome_nonNull, proposedKey_eq] at added
    exact Or.inl (Except.ok.inj added)
  · rw [Record.field?_overlay]
    cases named : values.find? relation.path.first with
    | none => exact Or.inl (present_of_deleteAllowed current)
    | some key =>
        cases key with
        | null => exact Or.inr ⟨single, rfl⟩
        | _ => exact Or.inl rfl

end Relation

end RowAccess
