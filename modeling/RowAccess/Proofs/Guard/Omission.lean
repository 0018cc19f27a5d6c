import RowAccess.Proofs.Guard.Dialogue

/-!
Contract: a successful response needs a decision that covers its method.

Whatever ran before and whatever errors a handler ignores, an outermost run that
answers with success is refused exactly where no exchange of its handler covers
the method. Exchanges of nested runs count; failed ones, look-ups and those of
earlier runs do not.

Owns:
- the state of a request after any program of runs and operations.
- the condition under which a successful response is refused.
-/

namespace RowAccess

namespace Dialogue

/-- The state of a request after a dialogue outside any guarded run. -/
def stateAfter (evaluator : Evaluator) (faults : TransactionFaults) (method : RequestMethod)
    (requestId : Option String) (principal : Option Principal) (earlier : Dialogue) :
    GuardState Exchange :=
  (earlier.run evaluator faults
    (GuardState.start (Session.start (RequestContext.start method requestId principal)))).2

theorem context_stateAfter (evaluator : Evaluator) (faults : TransactionFaults)
    (method : RequestMethod) (requestId : Option String) (principal : Option Principal)
    (earlier : Dialogue) :
    (earlier.stateAfter evaluator faults method requestId principal).session.context.method =
        method ∧
      (earlier.stateAfter evaluator faults method requestId principal).session.context.depth =
        0 := by
  have steady := steady_run evaluator faults earlier
    (GuardState.start (Session.start (RequestContext.start method requestId principal)))
  cases principal with
  | none => exact ⟨steady.method, steady.depth⟩
  | some bound => exact ⟨steady.method, steady.depth⟩

/-- An outermost run that answers with success is refused exactly where nothing
its handler said, nested runs included, covers the method. -/
theorem refused_iff_nothing_said_covers (evaluator : Evaluator) (faults : TransactionFaults)
    (method : RequestMethod) (requestId : Option String) (principal : Option Principal)
    (earlier handler : Dialogue) {status : Nat}
    (begun : faults
      (earlier.stateAfter evaluator faults method requestId principal).transactions.calls
        .start = none)
    (answered : (handler.run evaluator faults (Guard.enter faults
      (earlier.stateAfter evaluator faults method requestId principal))).1 = .ok status)
    (success : Guard.isSuccess status = true) :
    let before := earlier.stateAfter evaluator faults method requestId principal
    let ended := Guard.run faults (handler.run evaluator faults) before
    ∃ said, ended.2.transcript = before.transcript ++ said ∧
      ((∃ omission, ended.1 = .error (.checkOmitted method omission)) ↔
        ∀ entry ∈ said, ¬ entry.result.Covers method) := by
  intro before ended
  obtain ⟨sameMethod, outermost⟩ :=
    context_stateAfter evaluator faults method requestId principal earlier
  obtain ⟨said, tells⟩ := tells_run evaluator faults handler (Guard.enter faults before)
    (Nat.succ_pos 0)
  have startMethod : (Guard.enter faults before).session.context.method = method := sameMethod
  refine ⟨said, ?_, ?_⟩
  · have ends : ended = _ := Guard.run_of_begun outermost begun
    rw [ends, (Guard.closed_conclude faults _ _).transcript]
    exact tells.transcript
  · have refused := Guard.refused_iff_not_covers outermost begun answered success tells.logs
    rw [startMethod, sameMethod, covers_said_iff] at refused
    unfold Guard.Refused at refused
    rw [sameMethod] at refused
    rw [refused]
    constructor
    · intro nothing entry member covered
      exact nothing ⟨entry, member, covered⟩
    · rintro nothing ⟨entry, member, covered⟩
      exact nothing entry member covered

end Dialogue

namespace Desk

/-- A guarded run that views the tickets and answers. -/
def viewing : Dialogue :=
  .guarded (.ask (.view (Query.ofResource tickets)) (fun _ => .answer (.ok 200)))
    (fun outcome => .answer outcome)

/-- A handler that looks permissions up and answers. -/
def lookingUp : Dialogue :=
  .ask (.hasAnyPermission []) (fun _ => .answer (.ok 200))

def superuser : Principal := ⟨⟨"root"⟩, OrderedSet.empty, true⟩

/-- The view of an earlier run, which is still in the log, does not save a later
run that only looks permissions up. -/
theorem desk_lookup_refused_after_view :
    (viewing.stateAfter office (fun _ _ => none) .get none
      (some superuser)).session.context.decisions = [.view] ∧
    ∃ omission,
      (Guard.run (fun _ _ => none) (lookingUp.run office (fun _ _ => none))
        (viewing.stateAfter office (fun _ _ => none) .get none (some superuser))).1 =
          .error (.checkOmitted .get omission) := by
  refine ⟨rfl, ?_⟩
  obtain ⟨said, transcript, refused⟩ := Dialogue.refused_iff_nothing_said_covers office
    (fun _ _ => none) .get none (some superuser) viewing lookingUp rfl rfl
    (show Guard.isSuccess 200 = true by decide)
  have listed : ∃ session transactions,
      [⟨⟨.hasAnyPermission [], .ok (.flag true)⟩, session, transactions⟩] = said :=
    ⟨_, _, List.append_cancel_left transcript⟩
  obtain ⟨session, transactions, rfl⟩ := listed
  refine refused.2 (fun entry member => ?_)
  rw [List.mem_singleton.1 member]
  rintro (isMark | ⟨action, reply, category, _⟩)
  · cases isMark
  · cases category

end Desk

end RowAccess
