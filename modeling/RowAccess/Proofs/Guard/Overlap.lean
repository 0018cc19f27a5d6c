import Mathlib.Data.List.Induction
import RowAccess.Proofs.Guard.Atomicity

/-!
Contract: overlapping runs share what is staged.

A manager stages the writes of all runs in one place, which every call clears. So a
write goes the way of the first call after it, whichever run makes that call: if it
is a commit, the write is committed, and otherwise it is dropped. Only a run that
makes this call itself has its write committed exactly if it commits. Where another
run starts or ends before that, the write of a run that commits can be lost, and the
write of a run that is rolled back can be committed.

Owns:
- the steps that a run takes on a manager, whatever state the manager is in.
- schedules, in which the steps of several runs alternate.
- what is staged at any time, and the call that decides over it.
-/

namespace RowAccess

/-! ## Steps on a manager -/

/-- Every call reaches the manager. -/
def TransactionFaults.unfailing : TransactionFaults := fun _ _ => none

open TransactionFaults (unfailing)

/-- What a run does to a manager at a time. -/
inductive ManagerStep where
  | call (kind : TransactionCall)
  | write (key : String) (value : Json)

namespace Transactions

def take (transactions : Transactions) : ManagerStep → Transactions
  | .call kind => (transactions.call unfailing kind).2
  | .write key value => transactions.write key value

/-- The manager after some steps. -/
def play (transactions : Transactions) (steps : List ManagerStep) : Transactions :=
  steps.foldl take transactions

theorem play_append (transactions : Transactions) (early late : List ManagerStep) :
    transactions.play (early ++ late) = (transactions.play early).play late :=
  List.foldl_append

theorem play_writes (transactions : Transactions) (writes : List (String × Json)) :
    transactions.play (writes.map (fun entry => .write entry.1 entry.2)) =
      transactions.writeAll writes := by
  induction writes generalizing transactions with
  | nil => rfl
  | cons entry rest inductionHypothesis => exact inductionHypothesis _

theorem find?_pending_write (transactions : Transactions) (own key : String) (value : Json) :
    (transactions.write own value).pending.find? key =
      if key = own then some value else transactions.pending.find? key :=
  OrderedMap.find?_insert _ _ _ _

theorem pending_call (transactions : Transactions) (kind : TransactionCall) :
    (transactions.call unfailing kind).2.pending = OrderedMap.empty := by
  cases kind <;> rfl

/-- A commit binds what is staged for a key, and no other call binds anything. -/
theorem find?_committed_call (transactions : Transactions) (kind : TransactionCall)
    (key : String) :
    (transactions.call unfailing kind).2.committed.find? key =
      if kind = .commit then
        (transactions.pending.find? key).or (transactions.committed.find? key)
      else transactions.committed.find? key := by
  cases kind with
  | start => rfl
  | rollback => rfl
  | commit => exact OrderedMap.find?_insertAll_entries _ _ key

end Transactions

/-! ## Runs and the state of the manager -/

namespace Guard

variable {ρ : Type}

theorem session_updateContext {first second : GuardState ρ}
    (same : first.session = second.session) (update : RequestContext → RequestContext) :
    (first.updateContext update).session = (second.updateContext update).session := by
  show first.session.updateContext update = second.session.updateContext update
  rw [same]

/-- Whether two outcomes are the same but for the manager and the transcript. -/
structure Agree (first second : Except AccessError Nat × GuardState ρ) : Prop where
  answer : first.1 = second.1
  session : first.2.session = second.2.session

theorem agree_run_of_nested (faults : TransactionFaults) {handler : Handler ρ}
    {first second : GuardState ρ} (same : first.session = second.session)
    (nested : 0 < first.session.context.depth)
    (agree : Agree
      (handler (first.updateContext (fun context => context.withDepth (context.depth + 1))))
      (handler (second.updateContext (fun context => context.withDepth (context.depth + 1))))) :
    Agree (run faults handler first) (run faults handler second) := by
  have secondNested : 0 < second.session.context.depth := same ▸ nested
  rw [run_of_nested faults handler nested, run_of_nested faults handler secondNested]
  refine ⟨agree.answer, ?_⟩
  have restored := session_updateContext agree.session
    (fun context => context.withDepth first.session.context.depth)
  apply restored.trans
  rw [same]
  rfl

end Guard

/-- Inside a guarded run a course knows nothing of the manager: its answer, the session
it ends in and its writes are the same wherever the session is the same. -/
theorem Course.run_of_same_session (evaluator : Evaluator) (faults : TransactionFaults)
    (course : Course) (first second : GuardState RequestContext)
    (same : first.session = second.session) (nested : 0 < first.session.context.depth) :
    Guard.Agree (course.run evaluator faults first) (course.run evaluator faults second) ∧
    course.writes evaluator faults first = course.writes evaluator faults second := by
  induction course generalizing first second with
  | answer outcome => exact ⟨⟨rfl, same⟩, rfl⟩
  | look next inductionHypothesis =>
      unfold run writes
      rw [← same]
      exact inductionHypothesis _ first second same nested
  | ask call next inductionHypothesis =>
      unfold run writes
      rw [← same]
      obtain ⟨logged, logs⟩ := call.exists_logs_perform evaluator first.session
      refine inductionHypothesis _ _ _ ?_ ?_
      · rfl
      · show 0 < (call.perform evaluator first.session).2.context.depth
        rw [logs.depth]
        exact nested
  | authenticate principal next inductionHypothesis =>
      exact inductionHypothesis _ _ (Guard.session_updateContext same _) nested
  | present principal next inductionHypothesis =>
      exact inductionHypothesis _ _ (Guard.session_updateContext same _) nested
  | stage key value next inductionHypothesis =>
      obtain ⟨agree, writes⟩ := inductionHypothesis
        { first with transactions := first.transactions.write key value }
        { second with transactions := second.transactions.write key value } same nested
      exact ⟨agree, congrArg (List.cons (key, value)) writes⟩
  | guarded inner next innerHypothesis nextHypothesis =>
      obtain ⟨within, early⟩ := innerHypothesis
        (first.updateContext (fun context => context.withDepth (context.depth + 1)))
        (second.updateContext (fun context => context.withDepth (context.depth + 1)))
        (Guard.session_updateContext same _) (Nat.succ_pos _)
      -- At this depth a run makes no call, so no answer of the manager can tell the states apart.
      have ran := Guard.agree_run_of_nested faults same nested within
      have ranNested :
          0 < (Guard.run faults (inner.run evaluator faults) first).2.session.context.depth := by
        rw [Guard.depth_run]
        exact nested
      obtain ⟨agree, late⟩ := nextHypothesis
        (Guard.run faults (inner.run evaluator faults) first).1 _ _ ran.session ranNested
      unfold run writes
      rw [Guard.start?_of_nested faults nested, Guard.start?_of_nested faults (same ▸ nested)]
      dsimp only
      rw [← ran.answer]
      exact ⟨agree, congrArg₂ (· ++ ·) early late⟩

/-! ## The steps of a run -/

namespace OuterRun

/-- The state in which the handler of a run starts. -/
def entered (outer : OuterRun) (transactions : Transactions) : GuardState RequestContext :=
  Guard.enter unfailing (outer.state transactions)

/-- The writes of a run. -/
def writes (outer : OuterRun) : List (String × Json) :=
  outer.handler.writes outer.evaluator unfailing (outer.entered Transactions.initial)

/-- The call by which a run ends its transaction. -/
def ending (outer : OuterRun) : TransactionCall :=
  let ran := outer.handler.run outer.evaluator unfailing (outer.entered Transactions.initial)
  Guard.ending ran.2.session.context ran.1

/-- What a run does to a manager. -/
def steps (outer : OuterRun) : List ManagerStep :=
  .call .start :: (outer.writes.map (fun entry => .write entry.1 entry.2) ++
    [.call outer.ending])

theorem staged_unfailing (outer : OuterRun) (transactions : Transactions) :
    outer.staged unfailing transactions = outer.writes := by
  unfold staged
  rw [Guard.start?_of_begun outer.outermost rfl]
  exact (outer.handler.run_of_same_session outer.evaluator unfailing (outer.entered transactions)
    (outer.entered Transactions.initial) rfl (Nat.succ_pos 0)).2

/-- In whatever state a run finds the manager, it ends with the same call. -/
theorem transactions_run (outer : OuterRun) (transactions : Transactions) :
    (outer.run unfailing transactions).2.transactions =
      ((outer.beforeEnd unfailing transactions).call unfailing outer.ending).2 := by
  obtain ⟨agree, writes⟩ := outer.handler.run_of_same_session outer.evaluator unfailing
    (outer.entered transactions) (outer.entered Transactions.initial) rfl (Nat.succ_pos 0)
  obtain ⟨logged, inside⟩ := outer.handler.inside_run outer.evaluator unfailing
    (outer.entered transactions) (Nat.succ_pos 0)
  have ended := Guard.transactions_run_of_begun outer.outermost rfl inside
  have filled := inside.transactions
  rw [writes] at filled
  unfold run beforeEnd ending
  rw [staged_unfailing, ended]
  dsimp only
  rw [← agree.answer, ← agree.session]
  exact congrArg (fun before => (Transactions.call unfailing _ before).2) filled

/-- A run that has the manager to itself takes its steps on it. -/
theorem run_eq_play (outer : OuterRun) (transactions : Transactions) :
    (outer.run unfailing transactions).2.transactions = transactions.play outer.steps := by
  rw [transactions_run]
  unfold beforeEnd
  rw [staged_unfailing, ← Transactions.play_writes]
  exact (Transactions.play_append _ _ [.call outer.ending]).symm

theorem commits_iff_ending (outer : OuterRun) (transactions : Transactions) :
    outer.Commits unfailing transactions ↔ outer.ending = .commit := by
  rw [commits_iff (outer.transactions_run transactions)]
  exact and_iff_left rfl

/-- After a write, the next call of a run is its last one. -/
theorem ending_of_call {outer : OuterRun} {early between late : List ManagerStep} {key : String}
    {value : Json} {kind : TransactionCall}
    (taken : early ++ .write key value :: (between ++ .call kind :: late) <+: outer.steps) :
    kind = outer.ending := by
  unfold steps at taken
  cases early with
  | nil =>
      obtain ⟨isStart, _⟩ := List.cons_prefix_cons.1 taken
      cases isStart
  | cons first earlier =>
      obtain ⟨_, afterStart⟩ := List.cons_prefix_cons.1 taken
      have member : ManagerStep.call kind ∈
          outer.writes.map (fun entry => .write entry.1 entry.2) ++ [.call outer.ending] := by
        apply afterStart.subset
        simp
      rcases List.mem_append.1 member with isWrite | isEnding
      · obtain ⟨_, _, same⟩ := List.mem_map.1 isWrite
        cases same
      · cases List.mem_singleton.1 isEnding
        rfl

end OuterRun

/-! ## Schedules -/

/-- Steps on one manager in the order in which they are taken, each with the run that
takes it. -/
abbrev Schedule (ι : Type) := List (ι × ManagerStep)

namespace Schedule

variable {ι : Type}

/-- The manager after a schedule. -/
def manager (schedule : Schedule ι) : Transactions :=
  Transactions.initial.play (schedule.map Prod.snd)

/-- The steps that one run takes in a schedule. -/
def stepsOf [DecidableEq ι] (schedule : Schedule ι) (run : ι) : List ManagerStep :=
  (schedule.filter (fun step => step.1 = run)).map Prod.snd

/-- Whether each of some runs takes its steps in turn, as far as it gets, whatever the
others do in between. -/
def Interleaves [DecidableEq ι] (runs : ι → OuterRun) (schedule : Schedule ι) : Prop :=
  ∀ run, schedule.stepsOf run <+: (runs run).steps

/-- Whether the value that a run has written for a key stands at the end of a schedule:
no call was made since, and nothing else was written for the key. -/
inductive Staged (writer : ι) (key : String) (value : Json) : Schedule ι → Prop
  | wrote (schedule : Schedule ι) :
      Staged writer key value (schedule ++ [(writer, .write key value)])
  | stays {schedule : Schedule ι} (run : ι) (other : String) (text : Json)
      (different : other ≠ key) (staged : Staged writer key value schedule) :
      Staged writer key value (schedule ++ [(run, .write other text)])

theorem manager_concat (schedule : Schedule ι) (run : ι) (step : ManagerStep) :
    manager (schedule ++ [(run, step)]) = schedule.manager.take step := by
  unfold manager
  rw [List.map_append, Transactions.play_append]
  rfl

theorem Staged.exists_write {writer : ι} {key : String} {value : Json} {schedule : Schedule ι}
    (staged : Staged writer key value schedule) :
    ∃ early more, schedule = early ++ (writer, .write key value) :: more := by
  induction staged with
  | wrote schedule => exact ⟨schedule, [], rfl⟩
  | stays run other text different staged inductionHypothesis =>
      obtain ⟨early, more, rfl⟩ := inductionHypothesis
      exact ⟨early, more ++ [(run, .write other text)], by simp⟩

/-- What stands at the end of a schedule is staged. -/
theorem Staged.find?_pending {writer : ι} {key : String} {value : Json} {schedule : Schedule ι}
    (staged : Staged writer key value schedule) :
    schedule.manager.pending.find? key = some value := by
  induction staged with
  | wrote schedule =>
      rw [manager_concat]
      exact (Transactions.find?_pending_write _ _ _ _).trans (if_pos rfl)
  | stays run other text different staged inductionHypothesis =>
      rw [manager_concat]
      apply (Transactions.find?_pending_write _ _ _ _).trans
      rw [if_neg different.symm]
      exact inductionHypothesis

/-- What is staged, some run has written since the last call. -/
theorem exists_staged {schedule : Schedule ι} {key : String} {value : Json}
    (found : schedule.manager.pending.find? key = some value) :
    ∃ writer, Staged writer key value schedule := by
  induction schedule using List.reverseRecOn with
  | nil => cases found
  | append_singleton schedule step inductionHypothesis =>
      obtain ⟨run, step⟩ := step
      rw [manager_concat] at found
      cases step with
      | call kind =>
          have nothing : ((manager schedule).take (.call kind)).pending = OrderedMap.empty :=
            Transactions.pending_call _ kind
          rw [nothing] at found
          cases found
      | write own text =>
          have looked := (Transactions.find?_pending_write _ own key text).symm.trans found
          by_cases same : key = own
          · rw [if_pos same] at looked
            cases looked
            cases same
            exact ⟨run, .wrote schedule⟩
          · rw [if_neg same] at looked
            obtain ⟨writer, staged⟩ := inductionHypothesis looked
            exact ⟨writer, .stays run own text (Ne.symm same) staged⟩

/-- What is committed, some run had staged when a commit was called. -/
theorem exists_commit {schedule : Schedule ι} {key : String} {value : Json}
    (found : schedule.manager.committed.find? key = some value) :
    ∃ early closer rest writer, schedule = early ++ (closer, .call .commit) :: rest ∧
      Staged writer key value early := by
  induction schedule using List.reverseRecOn with
  | nil => cases found
  | append_singleton schedule step inductionHypothesis =>
      obtain ⟨run, step⟩ := step
      rw [manager_concat] at found
      by_cases earlier : (manager schedule).committed.find? key = some value
      · obtain ⟨early, closer, rest, writer, rfl, staged⟩ := inductionHypothesis earlier
        exact ⟨early, closer, rest ++ [(run, step)], writer, by simp, staged⟩
      · cases step with
        | write own text => exact absurd found earlier
        | call kind =>
            have bound := (Transactions.find?_committed_call _ kind key).symm.trans found
            by_cases isCommit : kind = .commit
            · rw [if_pos isCommit] at bound
              rcases Option.or_eq_some_iff.1 bound with pending | ⟨_, committed⟩
              · obtain ⟨writer, staged⟩ := exists_staged pending
                exact ⟨schedule, run, [], writer, by rw [isCommit], staged⟩
              · exact absurd committed earlier
            · rw [if_neg isCommit] at bound
              exact absurd bound earlier

theorem ending_of_staged [DecidableEq ι] {runs : ι → OuterRun} {early rest : Schedule ι}
    {writer : ι} {kind : TransactionCall} {key : String} {value : Json}
    (interleaved : Interleaves runs (early ++ (writer, .call kind) :: rest))
    (staged : Staged writer key value early) : kind = (runs writer).ending := by
  obtain ⟨before, more, rfl⟩ := staged.exists_write
  have taken := interleaved writer
  unfold stepsOf at taken
  simp only [List.append_assoc, List.cons_append, List.filter_append, List.filter_cons,
    decide_true, if_true, List.map_append, List.map_cons] at taken
  exact OuterRun.ending_of_call taken

/-- Several runs overlap on one manager. What is ever committed, some run had staged
when a commit was called; and what a run has staged goes the way of the next call,
whichever run makes it. If it is the run itself, that is a commit exactly if the run
commits, as it does when it has the manager to itself. -/
theorem next_call_decides [DecidableEq ι] {runs : ι → OuterRun} {schedule : Schedule ι}
    (interleaved : Interleaves runs schedule) :
    (∀ run transactions, ((runs run).run unfailing transactions).2.transactions =
      transactions.play (runs run).steps) ∧
    (∀ key value, schedule.manager.committed.find? key = some value →
      ∃ early closer rest writer, schedule = early ++ (closer, .call .commit) :: rest ∧
        Staged writer key value early) ∧
    ∀ early closer kind rest, schedule = early ++ (closer, .call kind) :: rest →
      ∀ writer key value, Staged writer key value early →
        let settled := manager (early ++ [(closer, .call kind)])
        settled.pending = OrderedMap.empty ∧
        settled.committed.find? key =
          (if kind = .commit then some value else early.manager.committed.find? key) ∧
        (closer = writer →
          ∀ transactions, kind = .commit ↔ (runs writer).Commits unfailing transactions) := by
  refine ⟨fun run => (runs run).run_eq_play, fun key value => exists_commit, ?_⟩
  rintro early closer kind rest rfl writer key value staged settled
  have called : settled = early.manager.take (.call kind) :=
    manager_concat early closer (.call kind)
  refine ⟨?_, ?_, ?_⟩
  · rw [called]
    exact Transactions.pending_call _ kind
  · rw [called]
    apply (Transactions.find?_committed_call _ kind key).trans
    rw [staged.find?_pending]
    rfl
  · rintro rfl transactions
    rw [OuterRun.commits_iff_ending, ending_of_staged interleaved staged]

end Schedule

namespace Desk

/-- Leaves a draft and fails. -/
def drafting : OuterRun :=
  { noting "unfinished" with
    handler := .stage "draft" (.string "unfinished") (.answer (.error (.store ⟨.io, "gone"⟩))) }

/-- A run that leaves a note, and one that leaves a draft but fails. -/
def noteAndDraft : Bool → OuterRun
  | true => noting "kept"
  | false => drafting

/-- The draft is left in between, and both calls that end a run come after it. -/
def crossed : Schedule Bool :=
  [(true, .call .start), (true, .write "note" (.string "kept")), (false, .call .start),
    (false, .write "draft" (.string "unfinished")), (true, .call .commit),
    (false, .call .rollback)]

theorem interleaves_crossed : Schedule.Interleaves noteAndDraft crossed := by
  intro run
  cases run
  · exact ⟨[], rfl⟩
  · exact ⟨[], rfl⟩

/-- Leaves a note, and lets another request run before it answers. -/
def interrupted (other : OuterRun) : Guard.Handler RequestContext := fun state =>
  let noted := state.transactions.write "note" (.string "kept")
  (.ok 200,
    { state.updateContext RequestContext.markUnscoped with
      transactions := (other.run unfailing noted).2.transactions })

/-- The note of the run that commits is lost, and the draft of the run that is rolled
back is committed. The note is lost as well where the other run takes place as a whole
while the handler of the first one runs. -/
theorem desk_overlap_exchanges_writes :
    (Schedule.Interleaves noteAndDraft crossed ∧
      (noting "kept").Commits unfailing Transactions.initial ∧
      ¬ drafting.Commits unfailing Transactions.initial ∧
      (Schedule.manager crossed).committed.find? "note" = none ∧
      (Schedule.manager crossed).committed.find? "draft" = some (.string "unfinished")) ∧
    let ended := Guard.run unfailing (interrupted drafting) (GuardState.start (clerk .put))
    ended.1 = .ok 200 ∧
      ended.2.transactions.calls = [.start, .start, .rollback, .commit] ∧
      ended.2.transactions.committed.find? "note" = none := by
  refine ⟨⟨interleaves_crossed, ?_, ?_, rfl, rfl⟩, rfl, rfl, rfl⟩
  · rw [OuterRun.commits_iff_ending]
    rfl
  · rw [OuterRun.commits_iff_ending]
    exact fun same => nomatch same

/-- The draft is committed, by the commit of the other run. -/
theorem desk_draft_goes_with_the_note :
    (Schedule.manager crossed).committed.find? "draft" = some (.string "unfinished") ∧
    (Schedule.manager (crossed.take 5)).pending = OrderedMap.empty := by
  obtain ⟨_, _, decides⟩ := Schedule.next_call_decides interleaves_crossed
  obtain ⟨dropped, committed, _⟩ := decides (crossed.take 4) true .commit
    [(false, .call .rollback)] rfl false "draft" (.string "unfinished") (.wrote (crossed.take 3))
  exact ⟨committed, dropped⟩

end Desk

end RowAccess
