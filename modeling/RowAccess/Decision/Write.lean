import RowAccess.Decision.View
import RowAccess.Filter.Evaluation

/-!
Contract: whether a principal may add, change or delete a record.

Every granted scope is evaluated, in order of its name, whatever the others
say. A failure of any of them is the result, the first in that order; without
failure one scope that holds is enough. A composite scope holds when all its
members hold, from left to right up to the first that does not, through at most
sixteen composites.

Owns:
- the verdict of a scope, with the delete fallbacks it used.
- the decision over all granted scopes.
-/

namespace RowAccess

/-- The greatest number of composites on a path through composite scopes. -/
def maxCompositionDepth : Nat := 16

/-- A write that is to be decided. -/
structure WriteRequest where
  context : ScopeContext
  record : Record
  values : Fields

namespace Verdict

/-- Judges members from left to right up to the first that does not hold. -/
def allOf (judge : ScopeName → Verdict Bool) : List ScopeName → Verdict Bool
  | [] => of (.ok true)
  | member :: rest =>
      let verdict := judge member
      match verdict.outcome with
      | .ok true =>
          let others := allOf judge rest
          ⟨others.outcome, verdict.fallbacks ++ others.fallbacks⟩
      | outcome => ⟨outcome, verdict.fallbacks⟩

end Verdict

namespace WriteRequest

/-- The record a filter is tested on: an addition is tested as it would be
stored. -/
def candidate (request : WriteRequest) : Record :=
  if request.context.action = .add then request.record.overlay request.values
  else request.record

def filterHolds (request : WriteRequest) (resolver : SubsetResolver) (filter : Filter) :
    Except AccessError Bool :=
  match filter.admits resolver request.candidate with
  | .ok holds => .ok holds
  | .error error => .error (.store error)

/-- The record as a subset of one row. -/
def singleRow (request : WriteRequest) : Subset :=
  .query ((Query.ofResource request.context.resource).narrow
    (Filter.keyEquals request.record.key))

/-- The outcome of a rule function, its failure named after the scope. -/
def named (request : WriteRequest) (scope : ScopeName) (outcome : Except ScopeFailure Bool) :
    Except AccessError Bool :=
  match outcome with
  | .ok holds => .ok holds
  | .error failure => .error (request.context.failed scope failure)

def recordVerdict (request : WriteRequest) (scope : ScopeName)
    (handler : Option RecordFunction) : Verdict Bool :=
  match handler with
  | none => Verdict.of (.error (request.context.unknownScope scope))
  | some function =>
      Verdict.of
        (request.named scope (function request.context request.record request.values))

/-- The event of a fallback that decided in place of a failed record test. -/
def fallbackEvent (request : WriteRequest) (scope : ScopeName) (failure : ScopeFailure) :
    FallbackEvent where
  requestId := request.context.requestId
  resource := request.context.resource.label
  scope := scope.text
  message := failure.message

/-- A failed record test falls back on the subset test; if that fails too, the
failure of the record test is reported. -/
def deleteVerdict (request : WriteRequest) (scope : ScopeName)
    (handler : Option DeleteHandler) : Verdict Bool :=
  match handler with
  | none => Verdict.of (.error (request.context.unknownScope scope))
  | some (.object function) =>
      Verdict.of
        (request.named scope (function request.context request.record request.values))
  | some (.subset function) =>
      Verdict.of
        (request.named scope (function request.context request.singleRow request.values))
  | some (.either object subset) =>
      match object request.context request.record request.values with
      | .ok holds => Verdict.of (.ok holds)
      | .error failure =>
          match subset request.context request.singleRow request.values with
          | .ok holds => ⟨.ok holds, [request.fallbackEvent scope failure]⟩
          | .error _ => Verdict.of (.error (request.context.failed scope failure))

def handlerVerdict (request : WriteRequest) (scope : ScopeName) (handlers : ScopeHandlers) :
    Verdict Bool :=
  match request.context.action with
  | .add => request.recordVerdict scope handlers.add
  | .change => request.recordVerdict scope handlers.change
  | .delete => request.deleteVerdict scope handlers.delete
  | .view => Verdict.of (.error (request.context.unknownScope scope))

end WriteRequest

/-- What decisions are made with. -/
structure Authority where
  registry : Registry
  resolver : SubsetResolver

namespace Authority

/-- The verdict of a scope, with the number of composites it may still pass. -/
def scopeVerdict (authority : Authority) (request : WriteRequest) :
    Nat → ScopeName → Verdict Bool
  | remaining, scope =>
      match authority.registry.resolve request.context.resource scope request.context.action with
      | .error error => Verdict.of (.error error)
      | .ok (.fixed filter) => Verdict.of (request.filterHolds authority.resolver filter)
      | .ok (.dynamic function) =>
          match function request.context with
          | .error failure => Verdict.of (.error (request.context.failed scope failure))
          | .ok none => Verdict.of (.ok false)
          | .ok (some filter) => Verdict.of (request.filterHolds authority.resolver filter)
      | .ok (.handlers handlers) => request.handlerVerdict scope handlers
      | .ok (.composite members) =>
          match remaining with
          | 0 => Verdict.of (.error (.compositionTooDeep scope request.context.resource))
          | next + 1 => Verdict.allOf (authority.scopeVerdict request next) members

/-- Whether granted scopes hold, every one of them evaluated. -/
def writePoll (authority : Authority) (request : WriteRequest) (grants : OrderedSet ScopeName) :
    Poll Bool :=
  Poll.collect (authority.scopeVerdict request maxCompositionDepth) grants.toList

/-- The decision over a poll: its failure, or whether a scope holds. -/
def tally (request : WriteRequest) (poll : Poll Bool) : Except AccessError Unit :=
  match poll.outcome with
  | .error error => .error error
  | .ok outcomes => if outcomes.any id then .ok () else .error request.context.denied

end Authority

end RowAccess
