import RowAccess.Guard.Run
import RowAccess.Proofs.Session.Log

/-!
Contract: how an outermost run ends.

A run whose transaction could be opened hands its handler a session without
decisions. A successful response then stands or falls with the decisions the
handler left: where they cover the method the transaction is committed, and
otherwise the run fails, rolls back and commits nothing.

Owns:
- the decisions that cover a method, action by action.
- the responses that lack a decision.
- the state in which a handler starts, and the end of its run.
-/

namespace RowAccess

/-- Whether a decision on an action is enough for a method. -/
def RequestMethod.coveredBy (method : RequestMethod) (action : Action) : Bool :=
  match method with
  | .get | .head | .options => action = .view
  | .delete => action = .delete
  | .post | .put | .patch => action.isWrite

namespace Guard

variable {ρ : Type} {faults : TransactionFaults} {state : GuardState ρ}

/-! ## The check of a log -/

theorem covers_iff {method : RequestMethod} {decisions : List Action} :
    covers method decisions = true ↔
      ∃ action ∈ decisions, method.coveredBy action = true := by
  have writes : (decisions.contains .add || decisions.contains .change ||
      decisions.contains .delete) = true ↔ ∃ action ∈ decisions, action.isWrite = true := by
    simp only [Bool.or_eq_true, List.contains_iff_mem]
    constructor
    · rintro ((member | member) | member)
      · exact ⟨.add, member, rfl⟩
      · exact ⟨.change, member, rfl⟩
      · exact ⟨.delete, member, rfl⟩
    · rintro ⟨action, member, isWrite⟩
      cases action with
      | view => cases isWrite
      | add => exact Or.inl (Or.inl member)
      | change => exact Or.inl (Or.inr member)
      | delete => exact Or.inr member
  cases method <;>
    first
    | exact writes
    | simp [covers, RequestMethod.impliedAction, RequestMethod.coveredBy]

/-- A declaration that no scope is needed covers every method. -/
theorem coveredBy_impliedAction (method : RequestMethod) :
    method.coveredBy method.impliedAction = true := by
  cases method <;> rfl

/-- Whether only a checked request has decisions in a context. -/
def Logged (context : RequestContext) : Prop :=
  context.decisions ≠ [] → context.permissionChecked = true

/-- The check of a log in which only checked requests have decisions is a test of
its coverage. -/
theorem check_eq {context : RequestContext} (logged : Logged context) :
    check context =
      if covers context.method context.decisions then .ok ()
      else .error (.checkOmitted context.method
        (if context.permissionChecked then omission context.method else .noCheck)) := by
  unfold check
  by_cases checked : context.permissionChecked = true
  · rw [checked]
    rfl
  · have noDecisions : context.decisions = [] :=
      Classical.byContradiction (fun nonempty => checked (logged nonempty))
    have uncovered : ¬ covers context.method context.decisions = true := by
      rw [noDecisions, covers_iff]
      rintro ⟨_, member, _⟩
      exact absurd member List.not_mem_nil
    rw [if_neg uncovered, if_neg uncovered, eq_false_of_ne_true checked]
    rfl

/-! ## Responses that lack a decision -/

/-- Whether an outcome is a successful response of a request that lacks the
decision its method needs. -/
def Unscoped (context : RequestContext) (outcome : Except AccessError Nat) : Prop :=
  ∃ status, outcome = .ok status ∧ isSuccess status = true ∧
    ∀ action ∈ context.decisions, ¬ context.method.coveredBy action = true

instance (context : RequestContext) (outcome : Except AccessError Nat) :
    Decidable (Unscoped context outcome) :=
  match outcome with
  | .error _ => isFalse (fun ⟨_, answered, _⟩ => nomatch answered)
  | .ok status =>
      decidable_of_iff
        (isSuccess status = true ∧
          ∀ action ∈ context.decisions, ¬ context.method.coveredBy action = true)
        ⟨fun lacking => ⟨status, rfl, lacking⟩, fun ⟨_, answered, lacking⟩ => by
          cases answered
          exact lacking⟩

/-- The error of a response without the needed decision. -/
def violation (context : RequestContext) : AccessError :=
  .checkOmitted context.method
    (if context.permissionChecked then omission context.method else .noCheck)

theorem unscoped_iff_not_covers {context : RequestContext} {status : Nat}
    (success : isSuccess status = true) :
    Unscoped context (.ok status) ↔ ¬ covers context.method context.decisions = true := by
  rw [covers_iff]
  constructor
  · rintro ⟨_, _, _, lacking⟩ ⟨action, member, covering⟩
    exact lacking action member covering
  · intro lacking
    refine ⟨status, rfl, success, ?_⟩
    intro action member covering
    exact lacking ⟨action, member, covering⟩

/-- A run inside another one is a call of its handler. -/
theorem run_of_nested (faults : TransactionFaults) (handler : Handler ρ)
    (nested : 0 < state.session.context.depth) :
    run faults handler state = runNested handler state := by
  unfold run
  rw [if_pos nested]

/-! ## The outermost run -/

/-- The state in which the handler of an outermost run starts. -/
def enter (faults : TransactionFaults) (state : GuardState ρ) : GuardState ρ :=
  let opened :=
    (state.updateContext RequestContext.resetEnforcement).callTransaction faults .start
  opened.2.updateContext (fun context => context.withDepth 1)

/-- An outermost run ends with the failure to open its transaction, or ends the
outcome of its handler. -/
theorem run_of_outermost (faults : TransactionFaults) (handler : Handler ρ)
    (outermost : state.session.context.depth = 0) :
    run faults handler state =
      match faults state.transactions.calls .start with
      | some failure =>
          (.error (.store failure),
            ((state.updateContext RequestContext.resetEnforcement).callTransaction
              faults .start).2)
      | none =>
          conclude faults (handler (enter faults state)).1
            ((handler (enter faults state)).2.updateContext
              (fun context => context.withDepth 0)) := by
  have notNested : ¬ 0 < state.session.context.depth := by omega
  have sameCalls : (state.updateContext RequestContext.resetEnforcement).transactions.calls =
      state.transactions.calls := rfl
  unfold run runOutermost enter GuardState.callTransaction Transactions.call
  rw [if_neg notNested, sameCalls]
  dsimp only
  cases faults state.transactions.calls .start with
  | some failure => rfl
  | none => rfl

theorem run_of_unopened (handler : Handler ρ) {failure : StoreError}
    (outermost : state.session.context.depth = 0)
    (unopened : faults state.transactions.calls .start = some failure) :
    run faults handler state =
      (.error (.store failure),
        ((state.updateContext RequestContext.resetEnforcement).callTransaction
          faults .start).2) := by
  rw [run_of_outermost faults handler outermost, unopened]

theorem run_of_begun {handler : Handler ρ} (outermost : state.session.context.depth = 0)
    (begun : faults state.transactions.calls .start = none) :
    run faults handler state =
      conclude faults (handler (enter faults state)).1
        ((handler (enter faults state)).2.updateContext (fun context => context.withDepth 0)) := by
  rw [run_of_outermost faults handler outermost, begun]

/-! ## The end of a run -/

/-- Whether two states differ in nothing but transactions and the audit trail. -/
structure Closed (before after : GuardState ρ) : Prop where
  context : after.session.context = before.session.context
  transcript : after.transcript = before.transcript

theorem closed_auditViolation (state : GuardState ρ) (reason : String) :
    Closed state (auditViolation state reason) := ⟨rfl, rfl⟩

theorem closed_callTransaction (faults : TransactionFaults) (kind : TransactionCall)
    (state : GuardState ρ) : Closed state (state.callTransaction faults kind).2 := ⟨rfl, rfl⟩

theorem Closed.trans {before middle after : GuardState ρ} (first : Closed before middle)
    (second : Closed middle after) : Closed before after :=
  ⟨second.context.trans first.context, second.transcript.trans first.transcript⟩

/-- A rollback calls the manager, and reports only that it failed. -/
theorem rollBack_eq (faults : TransactionFaults) (cause : String) (state : GuardState ρ) :
    rollBack faults cause state =
      match faults state.transactions.calls .rollback with
      | none => (state.callTransaction faults .rollback).2
      | some error =>
          auditViolation (state.callTransaction faults .rollback).2
            ("rollback failed after " ++ cause ++ ": " ++ error.message) := by
  unfold rollBack GuardState.callTransaction Transactions.call
  dsimp only
  cases faults state.transactions.calls .rollback with
  | none => rfl
  | some error => rfl

/-- A commit calls the manager, and answers unless it failed. -/
theorem commit_eq (faults : TransactionFaults) (status : Nat) (state : GuardState ρ) :
    commit faults status state =
      (match faults state.transactions.calls .commit with
        | none => .ok status
        | some error => .error (.store error),
      (state.callTransaction faults .commit).2) := by
  unfold commit GuardState.callTransaction Transactions.call
  dsimp only
  cases faults state.transactions.calls .commit with
  | none => rfl
  | some error => rfl

theorem closed_rollBack (faults : TransactionFaults) (cause : String) (state : GuardState ρ) :
    Closed state (rollBack faults cause state) := by
  have called := closed_callTransaction faults .rollback state
  rw [rollBack_eq]
  split
  next => exact called
  next => exact called.trans (closed_auditViolation _ _)

theorem closed_commit (faults : TransactionFaults) (status : Nat) (state : GuardState ρ) :
    Closed state (commit faults status state).2 := by
  rw [commit_eq]
  exact closed_callTransaction faults .commit state

theorem closed_conclude (faults : TransactionFaults) (outcome : Except AccessError Nat)
    (state : GuardState ρ) : Closed state (conclude faults outcome state).2 := by
  unfold conclude
  split
  next => exact closed_rollBack faults _ state
  next status =>
    split
    next => exact closed_commit faults status state
    next =>
      split
      next => exact closed_commit faults status state
      next => exact (closed_auditViolation state _).trans (closed_rollBack faults _ _)

/-- Every run, of whatever handler, restores the depth it was started at. -/
theorem depth_run (faults : TransactionFaults) (handler : Handler ρ) (state : GuardState ρ) :
    (run faults handler state).2.session.context.depth = state.session.context.depth := by
  by_cases nested : 0 < state.session.context.depth
  · rw [run_of_nested faults handler nested]
    rfl
  · have outermost : state.session.context.depth = 0 := by omega
    cases begun : faults state.transactions.calls .start with
    | some failure =>
        rw [run_of_unopened handler outermost begun]
        rfl
    | none =>
        rw [run_of_begun outermost begun, (closed_conclude faults _ _).context, outermost]
        rfl

theorem commit_ne_checkOmitted (faults : TransactionFaults) (status : Nat) (state : GuardState ρ)
    (method : RequestMethod) (omission : Omission) :
    (commit faults status state).1 ≠ .error (.checkOmitted method omission) := by
  rw [commit_eq]
  split
  next => exact fun same => nomatch same
  next => exact fun same => nomatch same

theorem conclude_of_unscoped {outcome : Except AccessError Nat}
    (logged : Logged state.session.context)
    (unscoped : Unscoped state.session.context outcome) :
    conclude faults outcome state =
      (.error (violation state.session.context),
        rollBack faults (violation state.session.context).message
          (auditViolation state (violation state.session.context).message)) := by
  obtain ⟨status, rfl, success, lacking⟩ := unscoped
  have uncovered := (unscoped_iff_not_covers success).1 ⟨status, rfl, success, lacking⟩
  have answered : ¬ (!isSuccess status) = true := by simp [success]
  unfold conclude
  dsimp only
  rw [if_neg answered, check_eq logged, if_neg uncovered]
  rfl

theorem conclude_of_not_unscoped {status : Nat} (logged : Logged state.session.context)
    (decided : ¬ Unscoped state.session.context (.ok status)) :
    conclude faults (.ok status) state = commit faults status state := by
  unfold conclude
  dsimp only
  by_cases success : isSuccess status = true
  · have answered : ¬ (!isSuccess status) = true := by simp [success]
    rw [unscoped_iff_not_covers success, Classical.not_not] at decided
    rw [if_neg answered, check_eq logged, if_pos decided]
  · rw [if_pos (by simp [success])]

/-- A successful response is refused where the log does not cover the method,
and only there. -/
theorem omitted_iff_not_covers (faults : TransactionFaults) (state : GuardState ρ) {status : Nat}
    (success : isSuccess status = true) (logged : Logged state.session.context) :
    (∃ omission, (conclude faults (.ok status) state).1 =
      .error (.checkOmitted state.session.context.method omission)) ↔
      ¬ covers state.session.context.method state.session.context.decisions = true := by
  rw [← unscoped_iff_not_covers success]
  by_cases unscoped : Unscoped state.session.context (.ok status)
  · rw [conclude_of_unscoped logged unscoped]
    exact iff_of_true ⟨_, rfl⟩ unscoped
  · rw [conclude_of_not_unscoped logged unscoped]
    refine iff_of_false ?_ unscoped
    rintro ⟨omission, refused⟩
    exact commit_ne_checkOmitted faults status state _ omission refused

/-- Whether a run ends for want of a decision that covers its method. -/
def Refused (faults : TransactionFaults) (handler : Handler ρ) (state : GuardState ρ) : Prop :=
  ∃ omission,
    (run faults handler state).1 = .error (.checkOmitted state.session.context.method omission)

/-- An outermost run that answers with success is refused exactly where what its
handler logged does not cover the method. -/
theorem refused_iff_not_covers {handler : Handler ρ} {status : Nat} {logged : List Action}
    (outermost : state.session.context.depth = 0)
    (begun : faults state.transactions.calls .start = none)
    (answered : (handler (enter faults state)).1 = .ok status)
    (success : isSuccess status = true)
    (logs : (enter faults state).session.Logs (handler (enter faults state)).2.session logged) :
    Refused faults handler state ↔ ¬ covers state.session.context.method logged = true := by
  unfold Refused
  rw [run_of_begun outermost begun, answered]
  -- The handler starts with an empty log, so the log at the end is what it logged.
  have decisions : (handler (enter faults state)).2.session.context.decisions = logged :=
    logs.decisions
  have method : (handler (enter faults state)).2.session.context.method =
      state.session.context.method := logs.method
  rw [← method, ← decisions]
  refine omitted_iff_not_covers faults
    ((handler (enter faults state)).2.updateContext (fun context => context.withDepth 0))
    success (fun nonempty => logs.checked (Or.inr ?_))
  rw [← decisions]
  exact nonempty

/-- What is committed in two states of a run is the same. -/
structure CommitsNothing (before after : GuardState ρ) : Prop where
  committed : after.transactions.committed = before.transactions.committed
  commits : after.transactions.commits = before.transactions.commits

theorem CommitsNothing.trans {before middle after : GuardState ρ}
    (first : CommitsNothing before middle) (second : CommitsNothing middle after) :
    CommitsNothing before after :=
  ⟨second.committed.trans first.committed, second.commits.trans first.commits⟩

theorem commitsNothing_callTransaction (faults : TransactionFaults) {kind : TransactionCall}
    (state : GuardState ρ) (notCommit : kind ≠ .commit) :
    CommitsNothing state (state.callTransaction faults kind).2 := by
  unfold GuardState.callTransaction Transactions.call
  dsimp only
  split
  next => exact ⟨rfl, rfl⟩
  next =>
    cases kind with
    | start => exact ⟨rfl, rfl⟩
    | commit => exact absurd rfl notCommit
    | rollback => exact ⟨rfl, rfl⟩

theorem commitsNothing_rollBack (faults : TransactionFaults) (cause : String)
    (state : GuardState ρ) : CommitsNothing state (rollBack faults cause state) := by
  have called := commitsNothing_callTransaction faults state
    (fun same : TransactionCall.rollback = .commit => nomatch same)
  rw [rollBack_eq]
  split
  next => exact called
  next => exact called.trans ⟨rfl, rfl⟩

theorem commitsNothing_enter (faults : TransactionFaults) (state : GuardState ρ) :
    CommitsNothing state (enter faults state) := by
  have opened := commitsNothing_callTransaction faults
    (state.updateContext RequestContext.resetEnforcement)
    (fun same : TransactionCall.start = .commit => nomatch same)
  exact ⟨opened.committed, opened.commits⟩

/-- A refused response commits nothing. -/
theorem commitsNothing_of_omitted {status : Nat} {method : RequestMethod} {omission : Omission}
    (refused : (conclude faults (.ok status) state).1 = .error (.checkOmitted method omission)) :
    CommitsNothing state (conclude faults (.ok status) state).2 := by
  unfold conclude at refused ⊢
  dsimp only at refused ⊢
  split at refused
  next => exact absurd refused (commit_ne_checkOmitted faults status state method omission)
  next success =>
    rw [if_neg success]
    split at refused
    next => exact absurd refused (commit_ne_checkOmitted faults status state method omission)
    next violation _ =>
      have audited : CommitsNothing state (auditViolation state violation.message) := ⟨rfl, rfl⟩
      exact audited.trans (commitsNothing_rollBack faults _ _)

end Guard

end RowAccess
