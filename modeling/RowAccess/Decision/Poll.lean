import RowAccess.Audit.Event
import RowAccess.Decision.Error

/-!
Contract: the evaluation of granted scopes, one after the other.

Every scope is evaluated, in the order given and whatever the ones before it
said. A poll remembers which scopes it asked, the values of those that did not
fail, the first failure, and the delete fallbacks used on the way.

Owns:
- the verdict of one scope.
- the poll over a list of scopes and its outcome.
-/

namespace RowAccess

/-- The outcome of a scope and the delete fallbacks used on the way to it. -/
structure Verdict (α : Type) where
  outcome : Except AccessError α
  fallbacks : List FallbackEvent

def Verdict.of {α : Type} (outcome : Except AccessError α) : Verdict α := ⟨outcome, []⟩

/-- What is known after some scopes have been evaluated. -/
structure Poll (α : Type) where
  asked : List ScopeName
  values : List α
  failure : Option AccessError
  fallbacks : List FallbackEvent

namespace Poll

variable {α : Type}

def start : Poll α := ⟨[], [], none, []⟩

/-- Takes down the verdict of one more scope; the first failure stands. -/
def add (poll : Poll α) (scope : ScopeName) (verdict : Verdict α) : Poll α where
  asked := poll.asked ++ [scope]
  values :=
    match verdict.outcome with
    | .ok value => poll.values ++ [value]
    | .error _ => poll.values
  failure :=
    match poll.failure, verdict.outcome with
    | none, .error error => some error
    | failure, _ => failure
  fallbacks := poll.fallbacks ++ verdict.fallbacks

/-- Evaluates the scopes of a list in turn. -/
def collect (judge : ScopeName → Verdict α) (scopes : List ScopeName) : Poll α :=
  scopes.foldl (fun poll scope => poll.add scope (judge scope)) start

/-- The first failure, or the values of all scopes. -/
def outcome (poll : Poll α) : Except AccessError (List α) :=
  match poll.failure with
  | some error => .error error
  | none => .ok poll.values

end Poll

end RowAccess
