import RowAccess.Filter.Basic
import RowAccess.Identity.Principal
import RowAccess.Request.Method
import RowAccess.Store.Error

/-!
Contract: the rules behind scope names.

A rule is a fixed filter, a filter computed from the request, one function per
action, or a list of scopes that must all hold. Rule functions see the request
through a `ScopeContext` and may fail with a text.

Owns:
- the rule type and the shapes of rule functions.

Does not own:
- the evaluation of rules, which the decision modules define.
-/

namespace RowAccess

/-- What a rule function knows about the request it is evaluated for. -/
structure ScopeContext where
  principal : Principal
  resource : ResourceType
  action : Action
  method : RequestMethod
  requestId : Option String
deriving Repr

/-- The failure of a rule function. -/
structure ScopeFailure where
  message : String
deriving DecidableEq, Repr

def ScopeFailure.ofStore (error : StoreError) : ScopeFailure := ⟨error.message⟩

/-- What a scope contributes to a view. -/
inductive ViewScope where
  | filter (filter : Filter)
  | subset (subset : Subset)
  | noMatch

abbrev DynamicScope := ScopeContext → Except ScopeFailure (Option Filter)
abbrev ViewFunction := ScopeContext → Except ScopeFailure ViewScope
abbrev RecordFunction := ScopeContext → Record → Fields → Except ScopeFailure Bool
abbrev SubsetFunction := ScopeContext → Subset → Fields → Except ScopeFailure Bool

/-- A delete test on a record, on a subset of one row, or on the record with
the subset as a fallback. -/
inductive DeleteHandler where
  | object (object : RecordFunction)
  | subset (subset : SubsetFunction)
  | either (object : RecordFunction) (subset : SubsetFunction)

def DeleteHandler.shape : DeleteHandler → String
  | .object _ => "Object"
  | .subset _ => "Subset"
  | .either _ _ => "Either"

/-- One optional function per action. -/
structure ScopeHandlers where
  view : Option ViewFunction
  add : Option RecordFunction
  change : Option RecordFunction
  delete : Option DeleteHandler

inductive ScopeRule where
  | fixed (filter : Filter)
  | dynamic (filter : DynamicScope)
  | handlers (handlers : ScopeHandlers)
  | composite (members : List ScopeName)

namespace ScopeRule

/-- The rule of the builtin scope. -/
def all : ScopeRule := .fixed .always

def isEmptyComposite : ScopeRule → Bool
  | .composite members => members.isEmpty
  | _ => false

end ScopeRule

end RowAccess
