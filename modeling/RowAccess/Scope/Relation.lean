import RowAccess.Collection.Related
import RowAccess.Scope.Registry

/-!
Contract: scopes that follow a relationship path.

A relation scope holds where the end of its path is present. A view tests the
path on embedded records. An addition tests the rest of the path on the record
that the foreign key refers to, and leaves a reference that is absent or
unknown to validation. A deletion requires the current reference. A change
requires both.

Owns:
- the rules of relation scopes and their provider.
-/

namespace RowAccess

/-- A path from a resource, with the look-up that its first step uses. -/
structure Relation where
  resource : ResourceType
  path : FieldPath
  related : RelatedLookup

namespace Relation

/-- A value unless it is null. -/
def nonNull (found : Option Json) : Option Json := found.filter (fun value => !value.isNull)

/-- The record a foreign key refers to; an embedded object is that record. -/
def fetch (relation : Relation) (key : Json) : Except ScopeFailure (Option Record) :=
  match key with
  | .object fields =>
      .ok (some
        { key := ⟨match key.field? "id" with
            | some value => value.keyText
            | none => ""⟩
          fields := Fields.ofObject fields })
  | _ =>
      match relation.related relation.resource relation.path.first key with
      | .ok found => .ok found
      | .error error => .error (ScopeFailure.ofStore error)

/-- Whether the reference leads to a record with the rest of the path present.
A path of one step ends at the foreign key itself. -/
def reaches (relation : Relation) (key : Option Json) (absent : Bool) :
    Except ScopeFailure Bool :=
  match relation.path.rest? with
  | none => .ok key.isSome
  | some rest =>
      match key with
      | none => .ok absent
      | some value =>
          match relation.fetch value with
          | .error failure => .error failure
          | .ok none => .ok absent
          | .ok (some target) => .ok (present (target.lookup? rest))

/-- The proposed foreign key, or the record's if none is proposed. -/
def proposedKey (relation : Relation) (record : Record) (values : Fields) : Option Json :=
  match values.find? relation.path.first with
  | some value => some value
  | none => record.field? relation.path.first

def addAllowed (relation : Relation) (record : Record) (values : Fields) :
    Except ScopeFailure Bool :=
  relation.reaches (nonNull (relation.proposedKey record values)) true

def deleteAllowed (relation : Relation) (record : Record) : Except ScopeFailure Bool :=
  relation.reaches (nonNull (record.field? relation.path.first)) false

/-- The current reference is tested first. -/
def changeAllowed (relation : Relation) (record : Record) (values : Fields) :
    Except ScopeFailure Bool :=
  match relation.deleteAllowed record with
  | .error failure => .error failure
  | .ok false => .ok false
  | .ok true => relation.addAllowed record values

def rule (relation : Relation) : ScopeRule :=
  .handlers
    { view := some (fun _ => .ok (.filter (Filter.notNull relation.path)))
      add := some (fun _ record values => relation.addAllowed record values)
      change := some (fun _ record values => relation.changeAllowed record values)
      delete := some (.object (fun _ record _ => relation.deleteAllowed record)) }

end Relation

/-- Relation scopes by name. -/
structure RelationScopes where
  paths : OrderedMap ScopeName FieldPath
  related : RelatedLookup

namespace RelationScopes

def path? (scopes : RelationScopes) (scope : ScopeName) : Option FieldPath :=
  scopes.paths.find? scope

def provider (scopes : RelationScopes) : ScopeProvider := fun resource scope =>
  (scopes.path? scope).map (fun path => Relation.rule ⟨resource, path, scopes.related⟩)

end RelationScopes

end RowAccess
