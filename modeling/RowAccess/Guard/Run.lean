import RowAccess.Guard.Transactions
import RowAccess.Session.Basic

/-!
Contract: requests run in a transaction and end with the decision they need.

The outermost run forgets earlier decisions, opens a transaction, runs its
handler and then commits or rolls back exactly once. A response of the 200
class commits only when the decision log covers the request's method. Runs
inside it share the transaction and are not checked.

Owns:
- the check of the decision log.
- the guarded run and the events of its violations.
-/

namespace RowAccess

/-- A step of a handler that has been run, with the state after it. -/
structure HandlerEntry (ρ : Type) where
  result : ρ
  session : Session
  transactions : Transactions

/-- The state of a request under guard; `ρ` are the results of handler steps. -/
structure GuardState (ρ : Type) where
  session : Session
  transactions : Transactions
  transcript : List (HandlerEntry ρ)

namespace GuardState

variable {ρ : Type}

def start (session : Session) : GuardState ρ := ⟨session, Transactions.initial, []⟩

def updateSession (state : GuardState ρ) (update : Session → Session) : GuardState ρ :=
  { state with session := update state.session }

def updateContext (state : GuardState ρ) (update : RequestContext → RequestContext) :
    GuardState ρ :=
  state.updateSession (fun session => session.updateContext update)

/-- Remembers the result of a step and the state after it. -/
def note (state : GuardState ρ) (result : ρ) : GuardState ρ :=
  { state with transcript := state.transcript ++ [⟨result, state.session, state.transactions⟩] }

/-- Makes a transaction call. -/
def callTransaction (faults : TransactionFaults) (kind : TransactionCall)
    (state : GuardState ρ) : Except StoreError Unit × GuardState ρ :=
  let made := state.transactions.call faults kind
  (made.1, { state with transactions := made.2 })

end GuardState

namespace Guard

/-- Responses of the 200 class. -/
def isSuccess (status : Nat) : Bool := 200 ≤ status && status < 300

/-- Whether decisions cover the action a method implies. Creating and changing
requests are covered by any write. -/
def covers (method : RequestMethod) (decisions : List Action) : Bool :=
  match method.impliedAction with
  | .view => decisions.contains .view
  | .delete => decisions.contains .delete
  | .add | .change =>
      decisions.contains .add || decisions.contains .change || decisions.contains .delete

/-- What is missing where decisions do not cover a method. -/
def omission (method : RequestMethod) : Omission :=
  match method.impliedAction with
  | .view => .view
  | .delete => .delete
  | .add | .change => .write

/-- Requires a permission check and a decision that covers the method. -/
def check (context : RequestContext) : Except AccessError Unit :=
  if !context.permissionChecked then .error (.checkOmitted context.method .noCheck)
  else if covers context.method context.decisions then .ok ()
  else .error (.checkOmitted context.method (omission context.method))

def violationEvent (context : RequestContext) (reason : String) : AuditEvent :=
  .enforcement ⟨context.requestId, context.method.name, reason⟩

variable {ρ : Type}

def auditViolation (state : GuardState ρ) (reason : String) : GuardState ρ :=
  state.updateSession (fun session =>
    session.audit (violationEvent session.context reason))

/-- Rolls back; a failure to do so is audited and goes no further. -/
def rollBack (faults : TransactionFaults) (cause : String) (state : GuardState ρ) :
    GuardState ρ :=
  match state.callTransaction faults .rollback with
  | (.ok _, next) => next
  | (.error error, next) =>
      auditViolation next ("rollback failed after " ++ cause ++ ": " ++ error.message)

/-- Commits and answers, unless the commit fails. -/
def commit (faults : TransactionFaults) (status : Nat) (state : GuardState ρ) :
    Except AccessError Nat × GuardState ρ :=
  match state.callTransaction faults .commit with
  | (.ok _, next) => (.ok status, next)
  | (.error error, next) => (.error (.store error), next)

/-- A handler answers with a status or fails. -/
abbrev Handler (ρ : Type) := GuardState ρ → Except AccessError Nat × GuardState ρ

/-- A run inside another one: only the depth changes, for as long as it lasts. -/
def runNested (handler : Handler ρ) (state : GuardState ρ) :
    Except AccessError Nat × GuardState ρ :=
  let depth := state.session.context.depth
  let ran := handler (state.updateContext (fun context => context.withDepth (depth + 1)))
  (ran.1, ran.2.updateContext (fun context => context.withDepth depth))

/-- Ends the transaction of a handler's outcome. -/
def conclude (faults : TransactionFaults) (outcome : Except AccessError Nat)
    (state : GuardState ρ) : Except AccessError Nat × GuardState ρ :=
  match outcome with
  | .error error => (.error error, rollBack faults "handler error" state)
  | .ok status =>
      if !isSuccess status then commit faults status state
      else
        match check state.session.context with
        | .ok _ => commit faults status state
        | .error violation =>
            (.error violation,
              rollBack faults violation.message (auditViolation state violation.message))

/-- The outermost run. -/
def runOutermost (faults : TransactionFaults) (handler : Handler ρ) (state : GuardState ρ) :
    Except AccessError Nat × GuardState ρ :=
  match (state.updateContext RequestContext.resetEnforcement).callTransaction faults .start with
  | (.error error, next) => (.error (.store error), next)
  | (.ok _, next) =>
      let ran := handler (next.updateContext (fun context => context.withDepth 1))
      conclude faults ran.1 (ran.2.updateContext (fun context => context.withDepth 0))

def run (faults : TransactionFaults) (handler : Handler ρ) (state : GuardState ρ) :
    Except AccessError Nat × GuardState ρ :=
  if 0 < state.session.context.depth then runNested handler state
  else runOutermost faults handler state

end Guard

end RowAccess
