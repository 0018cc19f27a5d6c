import RowAccess.Proofs.Guard.History
import RowAccess.Proofs.Ordered.Map
import RowAccess.Proofs.Session.Violation

/-!
Contract: what happens within a guarded run stays within its transaction.

A run inside another one shares its transaction and its decision log. So a course
that stands in a guarded run makes no transaction call, reports no violation and
forgets no decision, however its runs are nested and whatever they answer with;
all that it does to the transaction manager is to stage its writes.

Owns:
- the state in which the handler of a run starts, if the run gets that far.
- the writes of a course, in the order in which they are staged.
- what a course inside a run leaves behind.
-/

namespace RowAccess

/-- Stages several writes in turn. -/
def Transactions.writeAll (transactions : Transactions) (writes : List (String × Json)) :
    Transactions :=
  { transactions with pending := transactions.pending.insertAll writes }

namespace Transactions

theorem writeAll_append (transactions : Transactions) (early late : List (String × Json)) :
    transactions.writeAll (early ++ late) = (transactions.writeAll early).writeAll late := by
  unfold writeAll
  rw [OrderedMap.insertAll_append]

end Transactions

namespace Guard

variable {ρ : Type}

/-- The state in which the handler of a run starts; none if its transaction
cannot be opened. -/
def start? (faults : TransactionFaults) (state : GuardState ρ) : Option (GuardState ρ) :=
  if 0 < state.session.context.depth then
    some (state.updateContext (fun context => context.withDepth (context.depth + 1)))
  else if faults state.transactions.calls .start = none then some (enter faults state)
  else none

/-- What a piece of a request leaves behind that stands inside a guarded run: its
writes are staged, its decisions are logged, and no violation is reported. -/
structure Inside (before after : GuardState ρ) (writes : List (String × Json))
    (logged : List Action) : Prop where
  transactions : after.transactions = before.transactions.writeAll writes
  logs : before.session.Logs after.session logged
  violations : after.session.violations = before.session.violations

namespace Inside

variable {before middle after : GuardState ρ} {early late : List (String × Json)}
  {first second : List Action}

theorem refl (state : GuardState ρ) : Inside state state [] [] :=
  ⟨rfl, Session.Logs.refl state.session, rfl⟩

theorem trans (here : Inside before middle early first) (there : Inside middle after late second) :
    Inside before after (early ++ late) (first ++ second) where
  transactions := by
    rw [there.transactions, here.transactions, Transactions.writeAll_append]
  logs := here.logs.trans there.logs
  violations := there.violations.trans here.violations

theorem calls (inside : Inside before after early first) :
    after.transactions.calls = before.transactions.calls := by
  rw [inside.transactions]
  rfl

theorem nested (inside : Inside before after early first)
    (within : 0 < before.session.context.depth) : 0 < after.session.context.depth := by
  rw [inside.logs.depth]
  exact within

/-- A change of the context that decides nothing stages nothing either. -/
theorem ofContext (state : GuardState ρ) (update : RequestContext → RequestContext)
    (logs : state.session.Logs (state.session.updateContext update) []) :
    Inside state (state.updateContext update) [] [] :=
  ⟨rfl, logs, rfl⟩

end Inside

theorem start?_of_nested (faults : TransactionFaults) {state : GuardState ρ}
    (nested : 0 < state.session.context.depth) :
    start? faults state =
      some (state.updateContext (fun context => context.withDepth (context.depth + 1))) := by
  unfold start?
  rw [if_pos nested]

theorem start?_of_begun {faults : TransactionFaults} {state : GuardState ρ}
    (outermost : state.session.context.depth = 0)
    (begun : faults state.transactions.calls .start = none) :
    start? faults state = some (enter faults state) := by
  unfold start?
  rw [if_neg (by omega), if_pos begun]

/-- A nested run leaves what its handler leaves, one level up. -/
theorem inside_runNested {handler : Handler ρ} {state : GuardState ρ}
    {writes : List (String × Json)} {logged : List Action}
    (inside : Inside
      (state.updateContext (fun context => context.withDepth (context.depth + 1)))
      (handler (state.updateContext (fun context => context.withDepth (context.depth + 1)))).2
      writes logged) :
    Inside state (runNested handler state).2 writes logged where
  transactions := inside.transactions
  logs :=
    { method := inside.logs.method
      depth := rfl
      decisions := inside.logs.decisions
      checked := inside.logs.checked }
  violations := inside.violations

end Guard

/-! ## Calls on the access -/

theorem Evaluator.exists_logs_scopeChangeList (evaluator : Evaluator) (resource : ResourceType)
    (records : List Record) (values : Fields) (session : Session) :
    ∃ logged,
      session.Logs (evaluator.scopeChangeList resource records values session).2 logged := by
  unfold scopeChangeList
  split
  next => exact ⟨[.change], rfl, rfl, rfl, fun _ => rfl⟩
  next => exact ⟨_, evaluator.logs_changeEach resource values records session⟩

namespace AccessCall

theorem exists_logs_perform (evaluator : Evaluator) (session : Session) (call : AccessCall) :
    ∃ logged, session.Logs (call.perform evaluator session).2 logged := by
  cases call with
  | single operation => exact ⟨_, operation.logs_perform evaluator session⟩
  | changeList resource records values =>
      exact evaluator.exists_logs_scopeChangeList resource records values session
  | fileField resource record field =>
      exact ⟨_, evaluator.logs_scopeFileField resource record field session⟩
  | grants resource action => exact ⟨[], evaluator.logs_resolveGrants resource action session⟩

theorem violations_operation (evaluator : Evaluator) (session : Session)
    (operation : Operation) :
    (operation.perform evaluator session).2.violations = session.violations := by
  cases operation with
  | view base => exact evaluator.violations_scopeView base session
  | history resource key => exact evaluator.violations_scopeView _ session
  | add resource record values =>
      exact evaluator.violations_scopeWrite .add resource record values session
  | change resource record values =>
      exact evaluator.violations_scopeWrite .change resource record values session
  | delete resource record values =>
      exact evaluator.violations_scopeWrite .delete resource record values session
  | store isNew resource record values =>
      exact evaluator.violations_scopeWrite _ resource record values session
  | hasAnyPermission keys => exact evaluator.violations_hasAnyPermission keys session
  | markUnscoped => rfl

theorem violations_perform (evaluator : Evaluator) (session : Session) (call : AccessCall) :
    (call.perform evaluator session).2.violations = session.violations := by
  cases call with
  | single operation => exact violations_operation evaluator session operation
  | changeList resource records values =>
      exact evaluator.violations_scopeChangeList resource records values session
  | fileField resource record field =>
      exact evaluator.violations_scopeFileField resource record field session
  | grants resource action =>
      exact (evaluator.looked_resolveGrants resource action session).violations

end AccessCall

/-! ## Courses -/

namespace Course

/-- The writes that a course stages, those of the runs in it included, in the
order in which it stages them. -/
def writes (evaluator : Evaluator) (faults : TransactionFaults) :
    Course → GuardState RequestContext → List (String × Json)
  | .answer _, _ => []
  | .look next, state => (next state.session.context).writes evaluator faults state
  | .ask call next, state =>
      let performed := call.perform evaluator state.session
      (next performed.1).writes evaluator faults
        ((state.note state.session.context).updateSession (fun _ => performed.2))
  | .authenticate principal next, state =>
      next.writes evaluator faults
        (state.updateContext (fun context => context.authenticate principal))
  | .present principal next, state =>
      next.writes evaluator faults (state.updateContext (Gate.bind principal))
  | .stage key value next, state =>
      (key, value) :: next.writes evaluator faults
        { state with transactions := state.transactions.write key value }
  | .guarded inner next, state =>
      let ran := Guard.run faults (inner.run evaluator faults) state
      ((Guard.start? faults state).elim [] (inner.writes evaluator faults)) ++
        (next ran.1).writes evaluator faults ran.2

/-- Inside a guarded run a course stages its writes, and leaves all else of the
transaction and of the log's past as it is. -/
theorem inside_run (evaluator : Evaluator) (faults : TransactionFaults) (course : Course)
    (state : GuardState RequestContext) (nested : 0 < state.session.context.depth) :
    ∃ logged, Guard.Inside state (course.run evaluator faults state).2
      (course.writes evaluator faults state) logged := by
  induction course generalizing state with
  | answer outcome => exact ⟨[], Guard.Inside.refl state⟩
  | look next inductionHypothesis => exact inductionHypothesis _ state nested
  | ask call next inductionHypothesis =>
      obtain ⟨early, logs⟩ := call.exists_logs_perform evaluator state.session
      have asked : Guard.Inside state
          ((state.note state.session.context).updateSession
            (fun _ => (call.perform evaluator state.session).2)) [] early :=
        ⟨rfl, logs, call.violations_perform evaluator state.session⟩
      obtain ⟨late, goesOn⟩ := inductionHypothesis _ _ (asked.nested nested)
      exact ⟨early ++ late, asked.trans goesOn⟩
  | authenticate principal next inductionHypothesis =>
      have bound := Guard.Inside.ofContext state
        (fun context => context.authenticate principal)
        ⟨rfl, rfl, (List.append_nil _).symm,
          fun known => known.resolve_right (fun nonempty => nonempty rfl)⟩
      obtain ⟨logged, goesOn⟩ := inductionHypothesis _ (bound.nested nested)
      exact ⟨[] ++ logged, bound.trans goesOn⟩
  | present principal next inductionHypothesis =>
      have bound := Guard.Inside.ofContext state (Gate.bind principal)
        ⟨rfl, rfl, (List.append_nil _).symm,
          fun known => known.resolve_right (fun nonempty => nonempty rfl)⟩
      obtain ⟨logged, goesOn⟩ := inductionHypothesis _ (bound.nested nested)
      exact ⟨[] ++ logged, bound.trans goesOn⟩
  | stage key value next inductionHypothesis =>
      have staged : Guard.Inside state
          { state with transactions := state.transactions.write key value } [(key, value)] [] :=
        ⟨rfl, Session.Logs.refl state.session, rfl⟩
      obtain ⟨logged, goesOn⟩ := inductionHypothesis _ (staged.nested nested)
      exact ⟨[] ++ logged, staged.trans goesOn⟩
  | guarded inner next innerHypothesis nextHypothesis =>
      obtain ⟨early, within⟩ := innerHypothesis
        (state.updateContext (fun context => context.withDepth (context.depth + 1)))
        (Nat.succ_pos _)
      have ran := Guard.inside_runNested within
      rw [← Guard.run_of_nested faults _ nested] at ran
      obtain ⟨late, goesOn⟩ := nextHypothesis _ _ (ran.nested nested)
      refine ⟨early ++ late, ?_⟩
      unfold run writes
      rw [Guard.start?_of_nested faults nested]
      exact ran.trans goesOn

end Course

end RowAccess
