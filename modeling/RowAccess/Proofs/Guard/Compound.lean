import RowAccess.Proofs.Guard.Check
import RowAccess.Proofs.Session.Log

/-!
Contract: what a compound operation that fails leaves behind.

Each decision of a compound operation is logged by itself. A list of changes
that fails keeps the changes accepted before the failure, and a file change that
fails keeps nothing unless its request is marked beforehand. A guarded run that
ignores such a failure is refused where what is left does not cover its method.

Owns:
- runs of handlers that ignore the failure of their only operation.
- the log and the fate of such runs.
-/

namespace RowAccess

namespace Guard

variable {ρ : Type} {faults : TransactionFaults} {state : GuardState ρ}

/-- A handler that makes one operation, ignores its outcome and answers. -/
def swallowing {α : Type} (operation : Session → Except AccessError α × Session)
    (status : Nat) : Handler ρ :=
  fun state => (.ok status, state.updateSession (fun session => (operation session).2))

/-- A refused run of a single operation commits nothing. -/
theorem commitsNothing_of_refused {α : Type}
    {operation : Session → Except AccessError α × Session} {status : Nat}
    (outermost : state.session.context.depth = 0)
    (begun : faults state.transactions.calls .start = none)
    (refused : Refused faults (swallowing operation status) state) :
    CommitsNothing state (run faults (swallowing operation status) state).2 := by
  obtain ⟨omission, ended⟩ := refused
  rw [run_of_begun outermost begun] at ended ⊢
  have concluded := commitsNothing_of_omitted ended
  exact (commitsNothing_enter faults state).trans ⟨concluded.committed, concluded.commits⟩

end Guard

namespace Evaluator

variable {evaluator : Evaluator} {resource : ResourceType}

/-- Only a list with records can fail. -/
theorem changeList_eq_changeEach {records : List Record} {values : Fields} {session : Session}
    {error : AccessError}
    (failed : (evaluator.scopeChangeList resource records values session).1 = .error error) :
    evaluator.scopeChangeList resource records values session =
      evaluator.changeEach resource values records session := by
  unfold scopeChangeList at failed ⊢
  split at failed
  next => cases failed
  next nonempty => rw [if_neg nonempty]

theorem coveredBy_replicate_iff {method : RequestMethod} {action : Action} {count : Nat} :
    ¬ Guard.covers method (List.replicate count action) = true ↔
      count = 0 ∨ method.coveredBy action = false := by
  rw [Guard.covers_iff]
  simp only [List.mem_replicate]
  constructor
  · intro uncovered
    by_cases isEmpty : count = 0
    · exact Or.inl isEmpty
    · exact Or.inr (eq_false_of_ne_true (fun covered =>
        uncovered ⟨action, ⟨isEmpty, rfl⟩, covered⟩))
  · rintro (isEmpty | uncovered) ⟨other, ⟨nonempty, rfl⟩, covered⟩
    · exact nonempty isEmpty
    · rw [uncovered] at covered
      cases covered

/-- A list that fails keeps one change for each record accepted before the first
failure; an unmarked file change that fails keeps nothing. A run that ignores the
failure is refused, and commits nothing, unless a kept change covers its method. -/
theorem failed_compound_operations (evaluator : Evaluator) (resource : ResourceType) :
    (∀ records values session error,
      (evaluator.scopeChangeList resource records values session).1 = .error error →
        let accepted := evaluator.acceptedChanges resource values records session
        (∃ failing rest middle,
          records = accepted ++ failing :: rest ∧
          evaluator.changeEach resource values accepted session = (.ok (), middle) ∧
          (evaluator.scopeChange resource failing values middle).1 = .error error) ∧
        (evaluator.scopeChangeList resource records values session).2.context.decisions =
          session.context.decisions ++ List.replicate accepted.length .change) ∧
    (∀ record field session error,
      session.context.method ≠ .post → session.context.method ≠ .delete →
      (evaluator.scopeFileField resource record field session).1 = .error error →
        (evaluator.scopeFileField resource record field session).2.context.decisions =
          session.context.decisions) ∧
    ∀ (ρ : Type) (faults : TransactionFaults) (state : GuardState ρ) (status : Nat),
      state.session.context.depth = 0 → faults state.transactions.calls .start = none →
      Guard.isSuccess status = true →
      (∀ records values error,
        (evaluator.scopeChangeList resource records values
          (Guard.enter faults state).session).1 = .error error →
        let run := Guard.swallowing (evaluator.scopeChangeList resource records values) status
        (Guard.Refused faults run state ↔
          evaluator.acceptedChanges resource values records (Guard.enter faults state).session =
              [] ∨
            state.session.context.method.coveredBy .change = false) ∧
        (Guard.Refused faults run state →
          Guard.CommitsNothing state (Guard.run faults run state).2)) ∧
      (∀ record field error,
        state.session.context.method ≠ .post → state.session.context.method ≠ .delete →
        (evaluator.scopeFileField resource record field
          (Guard.enter faults state).session).1 = .error error →
        let run := Guard.swallowing (evaluator.scopeFileField resource record field) status
        Guard.Refused faults run state ∧
          Guard.CommitsNothing state (Guard.run faults run state).2) := by
  have unmarked : ∀ {method : RequestMethod}, method ≠ .post → method ≠ .delete →
      fileMarker method = [] := by
    intro method notPost notDelete
    unfold fileMarker
    rw [if_neg (not_or.2 ⟨notPost, notDelete⟩)]
  refine ⟨?_, ?_, ?_⟩
  · intro records values session error failed accepted
    have same := changeList_eq_changeEach failed
    rw [same] at failed ⊢
    exact ⟨changeEach_eq_error failed,
      (evaluator.logs_changeEach resource values records session).decisions⟩
  · intro record field session error notPost notDelete failed
    have logs := evaluator.logs_scopeFileField resource record field session
    rw [unmarked notPost notDelete, failed] at logs
    exact logs.decisions.trans (List.append_nil _)
  · intro ρ faults state status outermost begun success
    refine ⟨?_, ?_⟩
    · intro records values error failed run
      refine ⟨?_, Guard.commitsNothing_of_refused outermost begun⟩
      have logs := evaluator.logs_changeEach resource values records
        (Guard.enter faults state).session
      rw [← changeList_eq_changeEach failed] at logs
      rw [Guard.refused_iff_not_covers outermost begun rfl success logs,
        coveredBy_replicate_iff, List.length_eq_zero_iff]
    · intro record field error notPost notDelete failed run
      have logs := evaluator.logs_scopeFileField resource record field
        (Guard.enter faults state).session
      have noMarker : fileMarker (Guard.enter faults state).session.context.method = [] :=
        unmarked notPost notDelete
      rw [noMarker, failed] at logs
      have refused : Guard.Refused faults run state := by
        refine (Guard.refused_iff_not_covers outermost begun rfl success logs).2 ?_
        rw [Guard.covers_iff]
        rintro ⟨_, member, _⟩
        exact absurd member List.not_mem_nil
      exact ⟨refused, Guard.commitsNothing_of_refused outermost begun refused⟩

end Evaluator

namespace Desk

def noFaults : TransactionFaults := fun _ _ => none

/-- A request under guard in which one's own ticket may be changed. -/
def guarded (method : RequestMethod) : GuardState Unit :=
  GuardState.start (request method .change [own])

/-- The first ticket of a list is changed and logged, the second one fails, and
the deletion that makes the changes is refused; so is a file change of the second
ticket in a request that is not marked. -/
theorem desk_failures_are_refused :
    (office.scopeChangeList tickets [ticket "1", ticket "2"] OrderedMap.empty
      (request .delete .change [own])).2.context.decisions = [.change] ∧
    Guard.Refused noFaults
      (Guard.swallowing
        (office.scopeChangeList tickets [ticket "1", ticket "2"] OrderedMap.empty) 200)
      (guarded .delete) ∧
    Guard.Refused noFaults
      (Guard.swallowing (office.scopeFileField tickets (ticket "2") "receipt") 200)
      (guarded .put) := by
  obtain ⟨lists, files, runs⟩ := Evaluator.failed_compound_operations office tickets
  have list := lists [ticket "1", ticket "2"] OrderedMap.empty (request .delete .change [own])
    (.scoping PrincipalId.anonymous tickets .change) rfl
  have deleting := (runs Unit noFaults (guarded .delete) 200 rfl rfl rfl).1
    [ticket "1", ticket "2"] OrderedMap.empty (.scoping PrincipalId.anonymous tickets .change) rfl
  have putting := (runs Unit noFaults (guarded .put) 200 rfl rfl rfl).2
    (ticket "2") "receipt" (.scoping PrincipalId.anonymous tickets .change) (by decide) (by decide)
    rfl
  exact ⟨list.2, deleting.1.2 (Or.inr rfl), putting.1⟩

/-- A change of a list and a change of a file that fail leave decisions behind,
which let a run that ignores the failure commit. -/
theorem desk_failures_leave_decisions :
    (∃ error,
      (office.scopeChangeList tickets [ticket "1", ticket "2"] OrderedMap.empty
        (request .put .change [own])).1 = .error error) ∧
    (request .put .change [own]).context.decisions = [] ∧
    (office.scopeChangeList tickets [ticket "1", ticket "2"] OrderedMap.empty
      (request .put .change [own])).2.context.decisions = [.change] ∧
    (Guard.run noFaults
      (Guard.swallowing
        (office.scopeChangeList tickets [ticket "1", ticket "2"] OrderedMap.empty) 200)
      (guarded .put)).1 = .ok 200 ∧
    (∃ error,
      (office.scopeFileField tickets (ticket "2") "receipt"
        (request .delete .change [own])).1 = .error error) ∧
    (office.scopeFileField tickets (ticket "2") "receipt"
      (request .delete .change [own])).2.context.decisions = [.delete] :=
  ⟨⟨_, rfl⟩, rfl, rfl, rfl, ⟨_, rfl⟩, rfl⟩

end Desk

end RowAccess
