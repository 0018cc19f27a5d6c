import RowAccess.Proofs.Guard.Check
import RowAccess.Proofs.Session.Log

/-!
Contract: handlers as arbitrary programs of single access operations.

A dialogue is a program that asks for one operation at a time and goes on as it
likes with the answer, be it an error. It may look at the request context, stage
writes, and run other dialogues under guard. Every operation is noted with its
answer in the transcript of the run, so what was said explains the decision log.

Owns:
- the operations, their answers and their categories.
- dialogues, their runs, and what a run tells and logs.
-/

namespace RowAccess

/-- A single access operation, or one of the other calls a handler may make. -/
inductive Operation where
  | view (base : Query)
  | history (resource : ResourceType) (key : RecordKey)
  | add (resource : ResourceType) (record : Record) (values : Fields)
  | change (resource : ResourceType) (record : Record) (values : Fields)
  | delete (resource : ResourceType) (record : Record) (values : Fields)
  | store (isNew : Bool) (resource : ResourceType) (record : Record) (values : Fields)
  | hasAnyPermission (keys : List PermissionKey)
  | markUnscoped

/-- What an operation answers with when it does not fail. -/
inductive Reply where
  | done
  | query (query : Query)
  | flag (flag : Bool)

/-- An operation together with its answer. -/
structure Exchange where
  operation : Operation
  answer : Except AccessError Reply

namespace Operation

/-- The action of a decision the operation asks for. -/
def category? : Operation → Option Action
  | .view _ | .history _ _ => some .view
  | .add .. => some .add
  | .change .. => some .change
  | .delete .. => some .delete
  | .store isNew .. => some (if isNew then .add else .change)
  | .hasAnyPermission _ | .markUnscoped => none

/-- The session after an operation, with its answer. -/
def answering {α : Type} (reply : α → Reply) (answered : Except AccessError α × Session) :
    Except AccessError Reply × Session :=
  (answered.1.map reply, answered.2)

def perform (evaluator : Evaluator) (session : Session) :
    Operation → Except AccessError Reply × Session
  | .view base => answering .query (evaluator.scopeView base session)
  | .history resource key => answering .query (evaluator.scopeHistory resource key session)
  | .add resource record values =>
      answering (fun _ => .done) (evaluator.scopeAdd resource record values session)
  | .change resource record values =>
      answering (fun _ => .done) (evaluator.scopeChange resource record values session)
  | .delete resource record values =>
      answering (fun _ => .done) (evaluator.scopeDelete resource record values session)
  | .store isNew resource record values =>
      answering (fun _ => .done) (evaluator.scopeStore isNew resource record values session)
  | .hasAnyPermission keys => answering .flag (evaluator.hasAnyPermission keys session)
  | .markUnscoped => (.ok .done, session.updateContext RequestContext.markUnscoped)

end Operation

namespace Exchange

/-- The actions an exchange leaves in the log of a request. -/
def logged (method : RequestMethod) (exchange : Exchange) : List Action :=
  match exchange.operation, exchange.answer with
  | .markUnscoped, _ => [method.impliedAction]
  | operation, .ok _ => operation.category?.toList
  | _, .error _ => []

/-- Whether an exchange is enough for a method: a declaration that no scope is
needed, or an operation of a covering category that did not fail. -/
def Covers (method : RequestMethod) (exchange : Exchange) : Prop :=
  exchange.operation = .markUnscoped ∨
    ∃ action reply, exchange.operation.category? = some action ∧
      exchange.answer = .ok reply ∧ method.coveredBy action = true

/-- An exchange covers a method exactly with what it leaves in the log. -/
theorem covers_iff_logged {method : RequestMethod} {exchange : Exchange} :
    exchange.Covers method ↔
      ∃ action ∈ exchange.logged method, method.coveredBy action = true := by
  obtain ⟨operation, answer⟩ := exchange
  by_cases isMark : operation = .markUnscoped
  · rw [isMark]
    refine iff_of_true (Or.inl rfl) ⟨method.impliedAction, List.mem_singleton_self _, ?_⟩
    exact Guard.coveredBy_impliedAction method
  · unfold Covers
    rw [or_iff_right isMark]
    cases answer with
    | error error =>
        have nothing : logged method ⟨operation, .error error⟩ = [] := by
          cases operation <;> first | rfl | exact absurd rfl isMark
        simp [nothing]
    | ok reply =>
        have category : logged method ⟨operation, .ok reply⟩ = operation.category?.toList := by
          cases operation <;> first | rfl | exact absurd rfl isMark
        simp [category]

/-- The log entry of an operation that decides on one action. -/
theorem logged_of_category {α : Type} {operation : Operation} {action : Action}
    (known : operation.category? = some action) (method : RequestMethod) (reply : α → Reply)
    (outcome : Except AccessError α) :
    logged method ⟨operation, outcome.map reply⟩ = loggedBy action outcome := by
  cases operation <;> cases known <;> cases outcome <;> rfl

end Exchange

namespace Operation

variable {session : Session}

theorem logs_answering {α : Type} {operation : Operation} {action : Action}
    {answered : Except AccessError α × Session} (known : operation.category? = some action)
    (reply : α → Reply) (logs : session.Logs answered.2 (loggedBy action answered.1)) :
    session.Logs (answering reply answered).2
      (Exchange.logged session.context.method ⟨operation, (answering reply answered).1⟩) := by
  unfold answering
  rw [Exchange.logged_of_category known]
  exact logs

/-- An operation extends the log by what its exchange leaves there. -/
theorem logs_perform (evaluator : Evaluator) (session : Session) (operation : Operation) :
    session.Logs (operation.perform evaluator session).2
      (Exchange.logged session.context.method
        ⟨operation, (operation.perform evaluator session).1⟩) := by
  cases operation with
  | view base => exact logs_answering rfl .query (evaluator.logs_scopeView base session)
  | history resource key => exact logs_answering rfl .query (evaluator.logs_scopeView _ session)
  | add resource record values =>
      exact logs_answering rfl _ (evaluator.logs_scopeWrite .add resource record values session)
  | change resource record values =>
      exact logs_answering rfl _ (evaluator.logs_scopeWrite .change resource record values session)
  | delete resource record values =>
      exact logs_answering rfl _ (evaluator.logs_scopeWrite .delete resource record values session)
  | store isNew resource record values =>
      exact logs_answering rfl _ (evaluator.logs_scopeWrite _ resource record values session)
  | hasAnyPermission keys =>
      have nothing : Exchange.logged session.context.method
          ⟨.hasAnyPermission keys,
            (Operation.perform evaluator session (.hasAnyPermission keys)).1⟩ = [] := by
        unfold Exchange.logged
        cases (Operation.perform evaluator session (.hasAnyPermission keys)).1 <;> rfl
      rw [nothing]
      exact evaluator.logs_hasAnyPermission keys session
  | markUnscoped => exact session.logs_markUnscoped

end Operation

/-- A program of operations that goes on with their answers. -/
inductive Dialogue where
  | answer (outcome : Except AccessError Nat)
  | look (next : RequestContext → Dialogue)
  | ask (operation : Operation) (next : Except AccessError Reply → Dialogue)
  | stage (key : String) (value : Json) (next : Dialogue)
  | guarded (inner : Dialogue) (next : Except AccessError Nat → Dialogue)

namespace Dialogue

/-- Runs a dialogue, noting every exchange. -/
def run (evaluator : Evaluator) (faults : TransactionFaults) : Dialogue → Guard.Handler Exchange
  | .answer outcome, state => (outcome, state)
  | .look next, state => (next state.session.context).run evaluator faults state
  | .ask operation next, state =>
      let performed := operation.perform evaluator state.session
      (next performed.1).run evaluator faults
        ((state.updateSession (fun _ => performed.2)).note ⟨operation, performed.1⟩)
  | .stage key value next, state =>
      next.run evaluator faults
        { state with transactions := state.transactions.write key value }
  | .guarded inner next, state =>
      let ran := Guard.run faults (inner.run evaluator faults) state
      (next ran.1).run evaluator faults ran.2

/-! ## What a run tells -/

/-- Whether a state came from another one by saying the given entries, and by
logging what their exchanges leave. -/
structure Tells (before after : GuardState Exchange) (said : List (HandlerEntry Exchange)) :
    Prop where
  transcript : after.transcript = before.transcript ++ said
  logs : before.session.Logs after.session
    (said.flatMap (fun entry => entry.result.logged before.session.context.method))

theorem Tells.refl (state : GuardState Exchange) : Tells state state [] :=
  ⟨(List.append_nil _).symm, Session.Logs.refl state.session⟩

theorem Tells.trans {before middle after : GuardState Exchange}
    {early late : List (HandlerEntry Exchange)} (first : Tells before middle early)
    (second : Tells middle after late) : Tells before after (early ++ late) where
  transcript := by
    rw [second.transcript, first.transcript, List.append_assoc]
  logs := by
    have later := second.logs
    rw [first.logs.method] at later
    rw [List.flatMap_append]
    exact first.logs.trans later

/-- Noting an exchange tells it. -/
theorem tells_ask (evaluator : Evaluator) (operation : Operation) (state : GuardState Exchange) :
    Tells state
      ((state.updateSession (fun _ => (operation.perform evaluator state.session).2)).note
        ⟨operation, (operation.perform evaluator state.session).1⟩)
      [⟨⟨operation, (operation.perform evaluator state.session).1⟩,
        (operation.perform evaluator state.session).2, state.transactions⟩] where
  transcript := rfl
  logs := by
    have logs := operation.logs_perform evaluator state.session
    rw [List.flatMap_singleton]
    exact logs

/-- A nested run tells what its handler tells. -/
theorem tells_nested {handler : Guard.Handler Exchange} {state : GuardState Exchange}
    {said : List (HandlerEntry Exchange)}
    (inside : Tells
      (state.updateContext (fun context => context.withDepth (state.session.context.depth + 1)))
      (handler (state.updateContext (fun context =>
        context.withDepth (state.session.context.depth + 1)))).2 said) :
    Tells state (Guard.runNested handler state).2 said where
  transcript := inside.transcript
  logs :=
    { method := inside.logs.method
      depth := rfl
      decisions := inside.logs.decisions
      checked := inside.logs.checked }

/-- Inside a guarded run, a dialogue logs what its exchanges leave, nested runs
included. -/
theorem tells_run (evaluator : Evaluator) (faults : TransactionFaults) (dialogue : Dialogue)
    (state : GuardState Exchange) (nested : 0 < state.session.context.depth) :
    ∃ said, Tells state (dialogue.run evaluator faults state).2 said := by
  induction dialogue generalizing state with
  | answer outcome => exact ⟨[], Tells.refl state⟩
  | look next inductionHypothesis => exact inductionHypothesis _ state nested
  | ask operation next inductionHypothesis =>
      have asked := tells_ask evaluator operation state
      have stillNested := asked.logs.depth ▸ nested
      obtain ⟨said, goesOn⟩ := inductionHypothesis _ _ stillNested
      exact ⟨_, asked.trans goesOn⟩
  | stage key value next inductionHypothesis =>
      obtain ⟨said, goesOn⟩ := inductionHypothesis
        { state with transactions := state.transactions.write key value } nested
      exact ⟨said, goesOn.transcript, goesOn.logs⟩
  | guarded inner next innerHypothesis nextHypothesis =>
      -- A nested run notes into the same transcript, one level deeper, and is not checked.
      obtain ⟨early, inside⟩ := innerHypothesis
        (state.updateContext (fun context =>
          context.withDepth (state.session.context.depth + 1))) (Nat.succ_pos _)
      have ran := tells_nested inside
      rw [← Guard.run_of_nested faults _ nested] at ran
      have stillNested := ran.logs.depth ▸ nested
      obtain ⟨late, goesOn⟩ := nextHypothesis _ _ stillNested
      exact ⟨early ++ late, ran.trans goesOn⟩

/-- The log left by what was said covers a method where some exchange does. -/
theorem covers_said_iff {method : RequestMethod} {said : List (HandlerEntry Exchange)} :
    Guard.covers method (said.flatMap (fun entry => entry.result.logged method)) = true ↔
      ∃ entry ∈ said, entry.result.Covers method := by
  rw [Guard.covers_iff]
  simp only [List.mem_flatMap, Exchange.covers_iff_logged]
  constructor
  · rintro ⟨action, ⟨entry, member, inLog⟩, covered⟩
    exact ⟨entry, member, action, inLog, covered⟩
  · rintro ⟨entry, member, action, inLog, covered⟩
    exact ⟨action, ⟨entry, member, inLog⟩, covered⟩

/-! ## What any run keeps -/

/-- Whether two states agree in the request's method and in the depth of runs. -/
structure Steady (before after : GuardState Exchange) : Prop where
  method : after.session.context.method = before.session.context.method
  depth : after.session.context.depth = before.session.context.depth

theorem Steady.trans {before middle after : GuardState Exchange} (first : Steady before middle)
    (second : Steady middle after) : Steady before after :=
  ⟨second.method.trans first.method, second.depth.trans first.depth⟩

theorem steady_guardRun {handler : Guard.Handler Exchange} (faults : TransactionFaults)
    (steady : ∀ state, Steady state (handler state).2) (state : GuardState Exchange) :
    Steady state (Guard.run faults handler state).2 where
  method := by
    by_cases nested : 0 < state.session.context.depth
    · rw [Guard.run_of_nested faults handler nested]
      exact (steady (state.updateContext (fun context =>
        context.withDepth (state.session.context.depth + 1)))).method
    · have outermost : state.session.context.depth = 0 := by omega
      cases begun : faults state.transactions.calls .start with
      | some failure =>
          rw [Guard.run_of_unopened handler outermost begun]
          rfl
      | none =>
          rw [Guard.run_of_begun outermost begun, (Guard.closed_conclude faults _ _).context]
          exact (steady (Guard.enter faults state)).method
  depth := Guard.depth_run faults handler state

/-- A dialogue keeps the method and the depth, whatever it asks and runs. -/
theorem steady_run (evaluator : Evaluator) (faults : TransactionFaults) (dialogue : Dialogue)
    (state : GuardState Exchange) : Steady state (dialogue.run evaluator faults state).2 := by
  induction dialogue generalizing state with
  | answer outcome => exact ⟨rfl, rfl⟩
  | look next inductionHypothesis => exact inductionHypothesis _ state
  | ask operation next inductionHypothesis =>
      have asked := (tells_ask evaluator operation state).logs
      have first : Steady state _ := ⟨asked.method, asked.depth⟩
      exact first.trans (inductionHypothesis _ _)
  | stage key value next inductionHypothesis =>
      have goesOn := inductionHypothesis
        { state with transactions := state.transactions.write key value }
      exact ⟨goesOn.method, goesOn.depth⟩
  | guarded inner next innerHypothesis nextHypothesis =>
      -- Outside any run this one is outermost: it forgets the log, but not the method.
      have ran := steady_guardRun faults innerHypothesis state
      exact ran.trans (nextHypothesis _ _)

end Dialogue

end RowAccess
