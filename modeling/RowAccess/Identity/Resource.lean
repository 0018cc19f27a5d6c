import RowAccess.Identity.Label
import RowAccess.Text.Split

/-!
Contract: resource types and permission keys.

A resource type is an application and a model in ASCII lower case. A
permission key joins application, action and model as `app.action_model`.

Owns:
- reading and writing resource labels.
- building permission keys and taking them apart.
-/

namespace RowAccess

structure ResourceType where
  app : String
  model : String
deriving DecidableEq, Repr, Inhabited

namespace ResourceType

/-- The resource type of an application and a model in any ASCII case. -/
def ofParts (app model : String) : ResourceType := ⟨app, model.map Char.toLower⟩

/-- Reads `app.model`: the first point divides, neither part is empty and the
model has no further point. -/
def parse? (label : String) : Option ResourceType :=
  match Text.splitFirst '.' label.toList with
  | some (app, model) =>
      if app.isEmpty || model.isEmpty || model.contains '.' then none
      else some (ofParts (String.ofList app) (String.ofList model))
  | none => none

def label (resource : ResourceType) : String := resource.app ++ "." ++ resource.model

instance : ToString ResourceType := ⟨label⟩

/-- Resource types are ordered by application, then by model. -/
instance : Ord ResourceType := ⟨compareLex (compareOn app) (compareOn model)⟩

instance : Std.TransOrd ResourceType :=
  inferInstanceAs (Std.TransCmp (compareLex (compareOn app) (compareOn model)))

instance : Std.LawfulEqOrd ResourceType where
  eq_of_compare := by
    intro left right equal
    cases left
    cases right
    have parts := Ordering.then_eq_eq.1 equal
    congr 1
    · exact Std.LawfulEqOrd.eq_of_compare (α := String) parts.1
    · exact Std.LawfulEqOrd.eq_of_compare (α := String) parts.2

/-- The permission key for an action label on a resource. -/
def permissionKey (resource : ResourceType) (action : String) : PermissionKey :=
  ⟨resource.app ++ "." ++ action ++ "_" ++ resource.model⟩

end ResourceType

/-- The parts of a permission key. -/
structure PermissionKeyParts where
  app : String
  action : String
  model : String
deriving DecidableEq, Repr

namespace PermissionKey

/-- Takes `app.action_model` apart at the first point and at the first
underscore behind it; no part may be empty. -/
def parts? (key : PermissionKey) : Option PermissionKeyParts :=
  match Text.splitFirst '.' key.text.toList with
  | none => none
  | some (app, rest) =>
      match Text.splitFirst '_' rest with
      | none => none
      | some (action, model) =>
          if app.isEmpty || action.isEmpty || model.isEmpty then none
          else
            some
              { app := String.ofList app
                action := String.ofList action
                model := String.ofList model }

end PermissionKey

end RowAccess
