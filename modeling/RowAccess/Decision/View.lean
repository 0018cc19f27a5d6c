import RowAccess.Decision.Poll
import RowAccess.Scope.Registry

/-!
Contract: which records a principal may view.

Every granted scope is evaluated, in order of its name; the first failure in
that order is the result. Filters are joined by disjunction, subsets by union,
and a scope that matches nothing contributes nothing. Composition of scopes is
not available for views, and without any scope nothing may be viewed.

Owns:
- the filter that granted scopes put on a view.
-/

namespace RowAccess

namespace ScopeContext

def denied (context : ScopeContext) : AccessError :=
  .scoping context.principal.id context.resource context.action

def unknownScope (context : ScopeContext) (scope : ScopeName) : AccessError :=
  .unknownScope scope context.resource context.action

def failed (context : ScopeContext) (scope : ScopeName) (failure : ScopeFailure) : AccessError :=
  .scopeFailed scope context.resource failure.message

end ScopeContext

namespace ViewScope

def filter? : ViewScope → Option Filter
  | .filter admitted => some admitted
  | _ => none

def subset? : ViewScope → Option Subset
  | .subset admitted => some admitted
  | _ => none

/-- What a dynamic scope contributes. -/
def ofOption : Option Filter → ViewScope
  | some admitted => .filter admitted
  | none => .noMatch

/-- The filter that admits what any of the scopes admits. -/
def combine (scopes : List ViewScope) : Filter :=
  let filters := Filter.disjunction (scopes.filterMap filter?)
  match scopes.filterMap subset? with
  | [] => filters
  | subsets => Filter.disjunction [filters, .keyIn (Subset.unionOf subsets)]

end ViewScope

namespace Registry

/-- What one granted scope contributes to a view. -/
def viewScope (registry : Registry) (context : ScopeContext) (scope : ScopeName) :
    Except AccessError ViewScope :=
  match registry.resolve context.resource scope .view with
  | .error error => .error error
  | .ok (.fixed filter) => .ok (.filter filter)
  | .ok (.dynamic function) =>
      match function context with
      | .ok found => .ok (ViewScope.ofOption found)
      | .error failure => .error (context.failed scope failure)
  | .ok (.handlers handlers) =>
      match handlers.view with
      | none => .error (.unknownScope scope context.resource .view)
      | some function =>
          match function context with
          | .ok found => .ok found
          | .error failure => .error (context.failed scope failure)
  | .ok (.composite _) => .error (.compositionUnsupported scope context.resource)

/-- What granted scopes contribute to a view, every one of them evaluated. -/
def viewPoll (registry : Registry) (context : ScopeContext) (grants : OrderedSet ScopeName) :
    Poll ViewScope :=
  Poll.collect (fun scope => Verdict.of (registry.viewScope context scope)) grants.toList

/-- The filter that granted scopes put on a view. -/
def viewFilter (registry : Registry) (context : ScopeContext) (grants : OrderedSet ScopeName) :
    Except AccessError Filter :=
  if grants.isEmpty then .error context.denied
  else (registry.viewPoll context grants).outcome.map ViewScope.combine

end Registry

end RowAccess
