/-!
Contract: the four enforceable actions and the actions of permission keys.

Owns:
- the labels of the actions.
- the distinction between the four actions and custom ones, which may be held
  but never scoped.
-/

namespace RowAccess

inductive Action where
  | view
  | add
  | change
  | delete
deriving DecidableEq, Repr

namespace Action

def all : List Action := [.view, .add, .change, .delete]

def label : Action → String
  | .view => "view"
  | .add => "add"
  | .change => "change"
  | .delete => "delete"

def parse? (text : String) : Option Action :=
  all.find? (fun action => action.label = text)

def isWrite : Action → Bool
  | .view => false
  | _ => true

instance : ToString Action := ⟨label⟩

theorem parse?_label (action : Action) : parse? action.label = some action := by
  cases action <;> decide

theorem label_of_parse? {text : String} {action : Action}
    (parsed : parse? text = some action) : action.label = text := by
  simpa using List.find?_some parsed

end Action

/-- The action part of a permission key. -/
inductive PermissionAction where
  | crud (action : Action)
  | custom (label : String)
deriving DecidableEq, Repr

namespace PermissionAction

def parse (text : String) : PermissionAction :=
  match Action.parse? text with
  | some action => .crud action
  | none => .custom text

def label : PermissionAction → String
  | .crud action => action.label
  | .custom text => text

def crud? : PermissionAction → Option Action
  | .crud action => some action
  | .custom _ => none

end PermissionAction

end RowAccess
