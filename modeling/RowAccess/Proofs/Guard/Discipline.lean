import RowAccess.Proofs.Guard.Staging

/-!
Contract: an outermost run opens one transaction and ends it once.

A run that cannot open its transaction does not run its handler. Any other one
makes exactly one more call once its handler is done: it rolls back where the
handler failed or answered with success but without the decision its method
needs, and commits otherwise. Runs inside it make no call, whatever they answer.
A response is returned only when it is committed, and an error stays the error it
was when the rollback fails as well.

Owns:
- the call that ends a transaction, and the violations that a run reports.
- the discipline of outermost runs and of the runs inside them.
-/

namespace RowAccess

theorem Transactions.calls_call (faults : TransactionFaults) (kind : TransactionCall)
    (transactions : Transactions) :
    (transactions.call faults kind).2.calls = transactions.calls ++ [kind] := by
  unfold call
  cases faults transactions.calls kind with
  | some error => rfl
  | none => cases kind <;> rfl

namespace Guard

variable {ρ : Type} {faults : TransactionFaults} {state : GuardState ρ}

/-! ## What is due at the end of a run -/

/-- The call that is due after the handler: a failure, and a success without the
needed decision, are rolled back. -/
def ending (context : RequestContext) : Except AccessError Nat → TransactionCall
  | .error _ => .rollback
  | .ok status => if Unscoped context (.ok status) then .rollback else .commit

/-- Why a run is rolled back, as its audit trail says. -/
def cause (context : RequestContext) (outcome : Except AccessError Nat) : String :=
  if Unscoped context outcome then (violation context).message else "handler error"

def enforcementEvent (context : RequestContext) (reason : String) : EnforcementEvent :=
  ⟨context.requestId, context.method.name, reason⟩

/-- The one violation of a check that failed. -/
def checkViolations (context : RequestContext) (outcome : Except AccessError Nat) :
    List EnforcementEvent :=
  if Unscoped context outcome then [enforcementEvent context (violation context).message] else []

/-- The one violation of a rollback that failed, given the failure. -/
def rollbackViolations (context : RequestContext) (cause : String) (failure : Option StoreError) :
    List EnforcementEvent :=
  failure.toList.map (fun error =>
    enforcementEvent context ("rollback failed after " ++ cause ++ ": " ++ error.message))

theorem ending_eq_rollback_iff {context : RequestContext} {outcome : Except AccessError Nat} :
    ending context outcome = .rollback ↔
      (∃ error, outcome = .error error) ∨ Unscoped context outcome := by
  cases outcome with
  | error error => exact iff_of_true rfl (Or.inl ⟨error, rfl⟩)
  | ok status =>
      unfold ending
      dsimp only
      by_cases unscoped : Unscoped context (.ok status)
      · rw [if_pos unscoped]
        exact iff_of_true rfl (Or.inr unscoped)
      · rw [if_neg unscoped]
        refine iff_of_false (fun same => nomatch same) ?_
        rintro (⟨error, failed⟩ | lacking)
        · cases failed
        · exact unscoped lacking

/-! ## Steps of the end -/

theorem violations_auditViolation (state : GuardState ρ) (reason : String) :
    (auditViolation state reason).session.violations =
      state.session.violations ++ [enforcementEvent state.session.context reason] :=
  Session.violations_audit _ _

theorem transactions_rollBack (faults : TransactionFaults) (cause : String)
    (state : GuardState ρ) :
    (rollBack faults cause state).transactions =
      (state.transactions.call faults .rollback).2 := by
  rw [rollBack_eq]
  split
  next => rfl
  next => rfl

theorem violations_rollBack (faults : TransactionFaults) (cause : String)
    (state : GuardState ρ) :
    (rollBack faults cause state).session.violations =
      state.session.violations ++
        rollbackViolations state.session.context cause
          (faults state.transactions.calls .rollback) := by
  rw [rollBack_eq]
  cases faults state.transactions.calls .rollback with
  | none => exact (List.append_nil _).symm
  | some error => exact violations_auditViolation _ _

/-! ## The end of a run -/

/-- Whatever the outcome, the end of a run makes the one call that is due. -/
theorem transactions_conclude (outcome : Except AccessError Nat)
    (logged : Logged state.session.context) :
    (conclude faults outcome state).2.transactions =
      (state.transactions.call faults (ending state.session.context outcome)).2 := by
  by_cases unscoped : Unscoped state.session.context outcome
  · rw [conclude_of_unscoped logged unscoped, transactions_rollBack,
      ending_eq_rollback_iff.2 (Or.inr unscoped)]
    rfl
  · cases outcome with
    | error error => exact transactions_rollBack faults _ state
    | ok status =>
        have due : ending state.session.context (.ok status) = .commit := if_neg unscoped
        rw [conclude_of_not_unscoped logged unscoped, commit_eq, due]
        rfl

/-- The end of a run reports a failed check and a failed rollback, and nothing else. -/
theorem violations_conclude (outcome : Except AccessError Nat)
    (logged : Logged state.session.context) :
    (conclude faults outcome state).2.session.violations =
      state.session.violations ++
        (checkViolations state.session.context outcome ++
          if ending state.session.context outcome = .rollback then
            rollbackViolations state.session.context (cause state.session.context outcome)
              (faults state.transactions.calls .rollback)
          else []) := by
  by_cases unscoped : Unscoped state.session.context outcome
  · have due := ending_eq_rollback_iff.2 (Or.inr unscoped)
    rw [conclude_of_unscoped logged unscoped, violations_rollBack, violations_auditViolation,
      if_pos due, List.append_assoc]
    unfold checkViolations cause
    rw [if_pos unscoped, if_pos unscoped]
    rfl
  · unfold checkViolations cause
    rw [if_neg unscoped, if_neg unscoped, List.nil_append]
    cases outcome with
    | error error =>
        have due : ending state.session.context (.error error) = .rollback := rfl
        rw [if_pos due]
        exact violations_rollBack faults _ state
    | ok status =>
        have due : ending state.session.context (.ok status) = .commit := if_neg unscoped
        rw [conclude_of_not_unscoped logged unscoped, commit_eq, due,
          if_neg (fun same : TransactionCall.commit = .rollback => nomatch same)]
        exact (List.append_nil _).symm

/-- The end of a run returns a response exactly when it is due and committed. -/
theorem answered_conclude (outcome : Except AccessError Nat)
    (logged : Logged state.session.context) (status : Nat) :
    (conclude faults outcome state).1 = .ok status ↔
      outcome = .ok status ∧ ending state.session.context outcome = .commit ∧
        faults state.transactions.calls .commit = none := by
  by_cases unscoped : Unscoped state.session.context outcome
  · have due := ending_eq_rollback_iff.2 (Or.inr unscoped)
    rw [conclude_of_unscoped logged unscoped, due]
    refine iff_of_false (fun answered => nomatch answered) ?_
    rintro ⟨_, isCommit, _⟩
    cases isCommit
  · cases outcome with
    | error error =>
        refine iff_of_false (fun answered => nomatch answered) ?_
        rintro ⟨answered, _⟩
        cases answered
    | ok own =>
        have due : ending state.session.context (.ok own) = .commit := if_neg unscoped
        rw [conclude_of_not_unscoped logged unscoped, commit_eq, due]
        cases faults state.transactions.calls .commit with
        | none => simp
        | some error => simp

theorem uncommitted_conclude {outcome : Except AccessError Nat} {failure : StoreError}
    (logged : Logged state.session.context)
    (due : ending state.session.context outcome = .commit)
    (fails : faults state.transactions.calls .commit = some failure) :
    (conclude faults outcome state).1 = .error (.store failure) := by
  cases outcome with
  | error error => cases due
  | ok status =>
      have covered : ¬ Unscoped state.session.context (.ok status) := by
        intro unscoped
        rw [ending_eq_rollback_iff.2 (Or.inr unscoped)] at due
        cases due
      rw [conclude_of_not_unscoped logged covered, commit_eq, fails]

/-! ## The discipline of runs -/

/-- An outermost run whose transaction could not be opened: whatever its handler
is, it is not run. -/
structure Unopened (faults : TransactionFaults) (failure : StoreError) (handler : Handler ρ)
    (before : GuardState ρ) (ended : Except AccessError Nat × GuardState ρ) : Prop where
  unheard : ∀ other : Handler ρ, run faults other before = run faults handler before
  failed : ended.1 = .error (.store failure)
  calls : ended.2.transactions.calls = before.transactions.calls ++ [.start]
  violations : ended.2.session.violations = before.session.violations

/-- An outermost run whose handler has run, given what the handler came to. -/
structure Ended (faults : TransactionFaults) (before : GuardState ρ)
    (ran ended : Except AccessError Nat × GuardState ρ) : Prop where
  opened : ran.2.transactions.calls = before.transactions.calls ++ [.start]
  closed : ended.2.transactions.calls =
    ran.2.transactions.calls ++ [ending ran.2.session.context ran.1]
  answered : ∀ status, ended.1 = .ok status ↔
    ran.1 = .ok status ∧ ending ran.2.session.context ran.1 = .commit ∧
      faults ran.2.transactions.calls .commit = none
  uncommitted : ∀ failure, ending ran.2.session.context ran.1 = .commit →
    faults ran.2.transactions.calls .commit = some failure → ended.1 = .error (.store failure)
  failed : ∀ error, ran.1 = .error error → ended.1 = .error error
  omitted : Unscoped ran.2.session.context ran.1 →
    ended.1 = .error (violation ran.2.session.context)
  violations : ended.2.session.violations =
    before.session.violations ++
      (checkViolations ran.2.session.context ran.1 ++
        if ending ran.2.session.context ran.1 = .rollback then
          rollbackViolations ran.2.session.context (cause ran.2.session.context ran.1)
            (faults ran.2.transactions.calls .rollback)
        else [])

/-- A run inside another one: it answers what its handler answers, whatever the
log, and leaves transaction, log and violations to the run around it. -/
structure Shared (handler : Handler ρ) (before : GuardState ρ)
    (ended : Except AccessError Nat × GuardState ρ) : Prop where
  answered : ended.1 =
    (handler (before.updateContext (fun context => context.withDepth (context.depth + 1)))).1
  calls : ended.2.transactions.calls = before.transactions.calls
  decisions : before.session.context.decisions <+: ended.2.session.context.decisions
  checked : before.session.context.permissionChecked = true →
    ended.2.session.context.permissionChecked = true
  violations : ended.2.session.violations = before.session.violations

theorem unopened_run (handler : Handler ρ) {failure : StoreError}
    (outermost : state.session.context.depth = 0)
    (unopened : faults state.transactions.calls .start = some failure) :
    Unopened faults failure handler state (run faults handler state) where
  unheard := by
    intro other
    rw [run_of_unopened other outermost unopened, run_of_unopened handler outermost unopened]
  failed := by rw [run_of_unopened handler outermost unopened]
  calls := by
    rw [run_of_unopened handler outermost unopened]
    exact Transactions.calls_call faults .start state.transactions
  violations := by
    rw [run_of_unopened handler outermost unopened]
    rfl

/-- The handler starts without decisions, so those at its end are its own, and a
request with a decision of its own is checked. -/
theorem logged_of_inside {after : GuardState ρ} {writes : List (String × Json)}
    {logged : List Action} (inside : Inside (enter faults state) after writes logged) :
    Logged (after.updateContext (fun context => context.withDepth 0)).session.context := by
  intro decided
  apply inside.logs.checked
  right
  rintro rfl
  exact decided inside.logs.decisions

theorem transactions_run_of_begun {handler : Handler ρ} {writes : List (String × Json)}
    {logged : List Action} (outermost : state.session.context.depth = 0)
    (begun : faults state.transactions.calls .start = none)
    (inside : Inside (enter faults state) (handler (enter faults state)).2 writes logged) :
    (run faults handler state).2.transactions =
      ((handler (enter faults state)).2.transactions.call faults
        (ending (handler (enter faults state)).2.session.context
          (handler (enter faults state)).1)).2 := by
  rw [run_of_begun outermost begun]
  exact transactions_conclude _ (logged_of_inside inside)

/-- A run whose handler keeps to its transaction ends it once. -/
theorem ended_run {handler : Handler ρ} {writes : List (String × Json)} {logged : List Action}
    (outermost : state.session.context.depth = 0)
    (begun : faults state.transactions.calls .start = none)
    (inside : Inside (enter faults state) (handler (enter faults state)).2 writes logged) :
    Ended faults state (handler (enter faults state)) (run faults handler state) where
  opened := inside.calls.trans (Transactions.calls_call faults .start state.transactions)
  closed := by
    rw [transactions_run_of_begun outermost begun inside, Transactions.calls_call]
  answered := by
    rw [run_of_begun outermost begun]
    exact answered_conclude _ (logged_of_inside inside)
  uncommitted := by
    intro failure due fails
    rw [run_of_begun outermost begun]
    exact uncommitted_conclude (logged_of_inside inside) due fails
  failed := by
    intro error failed
    rw [run_of_begun outermost begun, failed]
    rfl
  omitted := by
    intro unscoped
    rw [run_of_begun outermost begun,
      conclude_of_unscoped (logged_of_inside inside) unscoped]
    rfl
  violations := by
    rw [run_of_begun outermost begun, violations_conclude _ (logged_of_inside inside)]
    exact congrArg (fun earlier => earlier ++ _) inside.violations

theorem shared_run {handler : Handler ρ} {writes : List (String × Json)} {logged : List Action}
    (nested : 0 < state.session.context.depth)
    (inside : Inside
      (state.updateContext (fun context => context.withDepth (context.depth + 1)))
      (handler (state.updateContext (fun context => context.withDepth (context.depth + 1)))).2
      writes logged) :
    Shared handler state (run faults handler state) := by
  have stays := inside_runNested inside
  rw [run_of_nested faults handler nested]
  exact
    { answered := rfl
      calls := stays.calls
      decisions := ⟨logged, stays.logs.decisions.symm⟩
      checked := fun known => stays.logs.checked (Or.inl known)
      violations := stays.violations }

end Guard

namespace Course

/-- Whatever a course does in a guarded run, whatever it answers and whichever
calls fail: an outermost run opens one transaction and ends it once, as the
outcome of the course and the decisions it made require, and a run inside another
one leaves that to the outermost. -/
theorem runs_are_disciplined (evaluator : Evaluator) (faults : TransactionFaults)
    (course : Course) (state : GuardState RequestContext) :
    let handler := course.run evaluator faults
    let ended := Guard.run faults handler state
    ended.2.session.context.depth = state.session.context.depth ∧
    (0 < state.session.context.depth → Guard.Shared handler state ended) ∧
    (state.session.context.depth = 0 →
      (∀ failure, faults state.transactions.calls .start = some failure →
        Guard.Unopened faults failure handler state ended) ∧
      (faults state.transactions.calls .start = none →
        Guard.Ended faults state (handler (Guard.enter faults state)) ended)) := by
  intro handler ended
  refine ⟨Guard.depth_run faults handler state, ?_, ?_⟩
  · intro nested
    obtain ⟨logged, inside⟩ := course.inside_run evaluator faults
      (state.updateContext (fun context => context.withDepth (context.depth + 1)))
      (Nat.succ_pos _)
    exact Guard.shared_run nested inside
  · intro outermost
    refine ⟨fun failure => Guard.unopened_run handler outermost, ?_⟩
    intro begun
    obtain ⟨logged, inside⟩ := course.inside_run evaluator faults (Guard.enter faults state)
      (Nat.succ_pos 0)
    exact Guard.ended_run outermost begun inside

end Course

namespace Desk

/-- Ignores that a run in it fails, decides nothing, and answers with success. -/
def careless : Course :=
  .guarded (.answer (.error (.store ⟨.io, "gone"⟩))) (fun _ => .answer (.ok 200))

/-- Every rollback fails. -/
def jammed : TransactionFaults
  | _, .rollback => some ⟨.io, "disk full"⟩
  | _, _ => none

/-- The careless response is refused, although its rollback fails: there are two
violations, and the second one does not take the place of the first. -/
theorem desk_omission_outlives_rollback :
    let ended := Guard.run jammed (careless.run office jammed) (GuardState.start (clerk .get))
    ended.1 = .error (.checkOmitted .get .noCheck) ∧
    ended.2.transactions.calls = [.start, .rollback] ∧
    ended.2.session.context.depth = 0 ∧
    ended.2.session.violations.length = 2 := by
  intro ended
  obtain ⟨depth, _, outermost⟩ := Course.runs_are_disciplined office jammed careless
    (GuardState.start (clerk .get))
  have ends := (outermost rfl).2 rfl
  have unscoped : Guard.Unscoped
      (clerk .get).context ((careless.run office jammed) (GuardState.start (clerk .get))).1 :=
    ⟨200, rfl, by decide, fun action member => absurd member List.not_mem_nil⟩
  exact ⟨ends.omitted unscoped, ends.closed, depth, congrArg List.length ends.violations⟩

end Desk

end RowAccess
