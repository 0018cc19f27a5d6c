import RowAccess.Proofs.Guard.Dialogue
import RowAccess.Proofs.Session.Coherence
import RowAccess.Proofs.Session.Resolution
import RowAccess.Token.Gate

/-!
Contract: the answers of a request do not depend on what happened in it before.

A course is any program of access calls, bindings of principals and guarded runs
of courses, failed ones included. Wherever it stands, also within a run, the
context is coherent, and every call is answered as in a context in which nothing
has happened yet.

Owns:
- all access calls, and courses of them.
- contexts without a memory of the past.
- the coherence of every context of a course.
-/

namespace RowAccess

/-- A call on the access of a request: a single operation, a compound one, or a
resolution of grants. -/
inductive AccessCall where
  | single (operation : Operation)
  | changeList (resource : ResourceType) (records : List Record) (values : Fields)
  | fileField (resource : ResourceType) (record : Record) (field : String)
  | grants (resource : ResourceType) (action : Action)

inductive AccessReply where
  | single (reply : Reply)
  | grants (scopes : OrderedSet ScopeName)

namespace AccessCall

def perform (evaluator : Evaluator) (session : Session) :
    AccessCall → Except AccessError AccessReply × Session
  | .single operation =>
      (operation.perform evaluator session).map (Except.map .single) id
  | .changeList resource records values =>
      (evaluator.scopeChangeList resource records values session).map
        (Except.map (fun _ => .single .done)) id
  | .fileField resource record field =>
      (evaluator.scopeFileField resource record field session).map
        (Except.map (fun _ => .single .done)) id
  | .grants resource action =>
      (evaluator.resolveGrants resource action session).map (Except.map .grants) id

end AccessCall

/-- Whether nothing has happened in a context yet. -/
def RequestContext.Fresh (context : RequestContext) : Prop :=
  ∃ method requestId principal, context = RequestContext.start method requestId principal

/-- Whether the past of a context does not show: what it has cached is what its
principal would be found to hold now, nothing is cached where that cannot be
found, every call is answered as in a fresh context of the same request, and a
list of changes succeeds where each of them by itself does. -/
structure Evaluator.Memoryless (evaluator : Evaluator) (context : RequestContext) : Prop where
  cached : ∀ held, context.held = some held →
    evaluator.freshlyHeld context.principal = .ok held
  uncached : ∀ error, evaluator.freshlyHeld context.principal = .error error →
    context.held = none
  answers : ∀ session fresh : Session, session.context = context → fresh.context.Fresh →
    fresh.context.principal = context.principal → fresh.context.method = context.method →
    fresh.context.requestId = context.requestId →
      ∀ call : AccessCall, (call.perform evaluator session).1 = (call.perform evaluator fresh).1
  lists : ∀ session : Session, session.context = context → ∀ resource records values,
    records ≠ [] →
      ((evaluator.scopeChangeList resource records values session).1 = .ok () ↔
        ∀ record ∈ records, (evaluator.scopeChange resource record values session).1 = .ok ())

namespace Evaluator

variable {evaluator : Evaluator} {left right : Session}

/-! ## All calls -/

theorem continues_operation (evaluator : Evaluator) (session : Session) (operation : Operation) :
    evaluator.Continues session.context (operation.perform evaluator session).2.context := by
  cases operation with
  | view base => exact evaluator.continues_scopeView base session
  | history resource key => exact evaluator.continues_scopeView _ session
  | add resource record values =>
      exact evaluator.continues_scopeWrite .add resource record values session
  | change resource record values =>
      exact evaluator.continues_scopeWrite .change resource record values session
  | delete resource record values =>
      exact evaluator.continues_scopeWrite .delete resource record values session
  | store isNew resource record values =>
      exact evaluator.continues_scopeWrite _ resource record values session
  | hasAnyPermission keys => exact evaluator.continues_hasAnyPermission keys session
  | markUnscoped => exact (continues_markChecked _).trans (continues_record _ _)

theorem continues_call (evaluator : Evaluator) (session : Session) (call : AccessCall) :
    evaluator.Continues session.context (call.perform evaluator session).2.context := by
  cases call with
  | single operation => exact evaluator.continues_operation session operation
  | changeList resource records values =>
      exact evaluator.continues_scopeChangeList resource records values session
  | fileField resource record field =>
      exact evaluator.continues_scopeFileField resource record field session
  | grants resource action => exact evaluator.continues_resolveGrants resource action session

theorem Alike.operation (alike : evaluator.Alike left.context right.context)
    (operation : Operation) :
    (operation.perform evaluator right).1 = (operation.perform evaluator left).1 := by
  have answered : ∀ {α : Type} (reply : α → Reply) {rightAnswer leftAnswer : Except AccessError α},
      rightAnswer = leftAnswer → rightAnswer.map reply = leftAnswer.map reply :=
    fun reply _ _ same => congrArg (Except.map reply) same
  cases operation with
  | view base => exact answered _ (alike.scopeView base)
  | history resource key => exact answered _ (alike.scopeView _)
  | add resource record values => exact answered _ (alike.scopeWrite .add resource record values)
  | change resource record values =>
      exact answered _ (alike.scopeWrite .change resource record values)
  | delete resource record values =>
      exact answered _ (alike.scopeWrite .delete resource record values)
  | store isNew resource record values =>
      exact answered _ (alike.scopeWrite _ resource record values)
  | hasAnyPermission keys => exact answered _ (alike.hasAnyPermission keys)
  | markUnscoped => rfl

theorem Alike.call (alike : evaluator.Alike left.context right.context) (call : AccessCall) :
    (call.perform evaluator right).1 = (call.perform evaluator left).1 := by
  cases call with
  | single operation => exact congrArg (Except.map AccessReply.single) (alike.operation operation)
  | changeList resource records values =>
      exact congrArg (Except.map fun _ => AccessReply.single .done)
        (alike.scopeChangeList resource records values)
  | fileField resource record field =>
      exact congrArg (Except.map fun _ => AccessReply.single .done)
        (alike.scopeFileField resource record field)
  | grants resource action =>
      exact congrArg (Except.map AccessReply.grants) (alike.resolveGrants resource action)

/-- The past of a coherent context does not show. -/
theorem Coherent.memoryless {context : RequestContext} (coherent : evaluator.Coherent context) :
    evaluator.Memoryless context where
  cached := coherent
  uncached := fun _ failed => coherent.uncached_of_failed failed
  answers := by
    intro session fresh atContext isFresh samePrincipal sameMethod sameId call
    obtain ⟨method, requestId, principal, started⟩ := isFresh
    have freshCoherent : evaluator.Coherent fresh.context := by
      rw [started]
      exact evaluator.coherent_start method requestId principal
    rw [← atContext] at coherent samePrincipal sameMethod sameId
    have alike : evaluator.Alike fresh.context session.context :=
      ⟨samePrincipal.symm, sameMethod.symm, sameId.symm, freshCoherent, coherent⟩
    exact alike.call call
  lists := by
    intro session atContext resource records values nonempty
    rw [← atContext] at coherent
    have notEmpty : ¬ records.isEmpty = true := by simpa using nonempty
    unfold scopeChangeList
    rw [if_neg notEmpty]
    exact coherent.changeEach_isOk_iff resource values records

end Evaluator

/-- What may happen to a request: calls, whose answers decide how it goes on,
bindings of a principal by a session or by a token, and guarded runs. -/
inductive Course where
  | answer (outcome : Except AccessError Nat)
  | look (next : RequestContext → Course)
  | ask (call : AccessCall) (next : Except AccessError AccessReply → Course)
  | authenticate (principal : Principal) (next : Course)
  | present (principal : Principal) (next : Course)
  | stage (key : String) (value : Json) (next : Course)
  | guarded (inner : Course) (next : Except AccessError Nat → Course)

namespace Course

/-- Runs a course, noting the context of every call. -/
def run (evaluator : Evaluator) (faults : TransactionFaults) :
    Course → Guard.Handler RequestContext
  | .answer outcome, state => (outcome, state)
  | .look next, state => (next state.session.context).run evaluator faults state
  | .ask call next, state =>
      let performed := call.perform evaluator state.session
      (next performed.1).run evaluator faults
        ((state.note state.session.context).updateSession (fun _ => performed.2))
  | .authenticate principal next, state =>
      next.run evaluator faults
        (state.updateContext (fun context => context.authenticate principal))
  | .present principal next, state =>
      next.run evaluator faults (state.updateContext (Gate.bind principal))
  | .stage key value next, state =>
      next.run evaluator faults
        { state with transactions := state.transactions.write key value }
  | .guarded inner next, state =>
      let ran := Guard.run faults (inner.run evaluator faults) state
      (next ran.1).run evaluator faults ran.2

/-- The contexts of a request in which a course makes its calls, those of guarded
runs included, and the one it ends in. -/
def contexts (evaluator : Evaluator) (faults : TransactionFaults) (method : RequestMethod)
    (requestId : Option String) (principal : Option Principal) (course : Course) :
    List RequestContext :=
  let ended := (course.run evaluator faults
    (GuardState.start (Session.start (RequestContext.start method requestId principal)))).2
  ended.transcript.map HandlerEntry.result ++ [ended.session.context]

/-! ## Coherence of every context -/

/-- Whether the context of a state, and every context noted before, is coherent. -/
structure Sound (evaluator : Evaluator) (state : GuardState RequestContext) : Prop where
  current : evaluator.Coherent state.session.context
  noted : ∀ entry ∈ state.transcript, evaluator.Coherent entry.result

variable {evaluator : Evaluator} {state : GuardState RequestContext}

theorem Sound.updateContext (sound : Sound evaluator state)
    {update : RequestContext → RequestContext}
    (kept : evaluator.Coherent state.session.context →
      evaluator.Coherent (update state.session.context)) :
    Sound evaluator (state.updateContext update) :=
  ⟨kept sound.current, sound.noted⟩

theorem Sound.closed {after : GuardState RequestContext} (sound : Sound evaluator state)
    (closed : Guard.Closed state after) : Sound evaluator after where
  current := by
    rw [closed.context]
    exact sound.current
  noted := by
    rw [closed.transcript]
    exact sound.noted

theorem Sound.ask (sound : Sound evaluator state) (call : AccessCall) :
    Sound evaluator ((state.note state.session.context).updateSession
      (fun _ => (call.perform evaluator state.session).2)) where
  current := (evaluator.continues_call state.session call).coherent sound.current
  noted := by
    intro entry member
    rcases List.mem_append.1 member with earlier | isNew
    · exact sound.noted entry earlier
    · rw [List.mem_singleton.1 isNew]
      exact sound.current

/-- A guarded run of a handler that keeps states sound keeps them sound: it resets
decisions and depth, but neither the principal nor the cache. -/
theorem Sound.guardRun {handler : Guard.Handler RequestContext} (faults : TransactionFaults)
    (keeps : ∀ inner, Sound evaluator inner → Sound evaluator (handler inner).2)
    (sound : Sound evaluator state) : Sound evaluator (Guard.run faults handler state).2 := by
  have reset : Sound evaluator (state.updateContext RequestContext.resetEnforcement) :=
    sound.updateContext id
  have opened := reset.closed (Guard.closed_callTransaction faults .start _)
  by_cases nested : 0 < state.session.context.depth
  · rw [Guard.run_of_nested faults handler nested]
    exact (keeps _ (sound.updateContext id)).updateContext id
  · have outermost : state.session.context.depth = 0 := by omega
    cases begun : faults state.transactions.calls .start with
    | some failure =>
        rw [Guard.run_of_unopened handler outermost begun]
        exact opened
    | none =>
        rw [Guard.run_of_begun outermost begun]
        have entered : Sound evaluator (Guard.enter faults state) := opened.updateContext id
        have left : Sound evaluator ((handler (Guard.enter faults state)).2.updateContext
            (fun context => context.withDepth 0)) :=
          (keeps _ entered).updateContext id
        exact left.closed (Guard.closed_conclude faults _ _)

/-- Every course keeps states sound. -/
theorem sound_run (evaluator : Evaluator) (faults : TransactionFaults) (course : Course)
    (state : GuardState RequestContext) (sound : Sound evaluator state) :
    Sound evaluator (course.run evaluator faults state).2 := by
  induction course generalizing state with
  | answer outcome => exact sound
  | look next inductionHypothesis => exact inductionHypothesis _ state sound
  | ask call next inductionHypothesis => exact inductionHypothesis _ _ (sound.ask call)
  | authenticate principal next inductionHypothesis =>
      exact inductionHypothesis _
        (sound.updateContext (fun _ => evaluator.coherent_authenticate _ principal))
  | present principal next inductionHypothesis =>
      exact inductionHypothesis _
        (sound.updateContext (fun _ => Evaluator.coherent_of_uncached rfl))
  | stage key value next inductionHypothesis =>
      exact inductionHypothesis _ ⟨sound.current, sound.noted⟩
  | guarded inner next innerHypothesis nextHypothesis =>
      exact nextHypothesis _ _ (sound.guardRun faults innerHypothesis)

/-- Wherever a course stands, the past of the context does not show. -/
theorem answers_as_if_fresh (evaluator : Evaluator) (faults : TransactionFaults)
    (method : RequestMethod) (requestId : Option String) (principal : Option Principal)
    (course : Course) {context : RequestContext}
    (reached : context ∈ course.contexts evaluator faults method requestId principal) :
    evaluator.Memoryless context := by
  have started : Sound evaluator
      (GuardState.start (Session.start (RequestContext.start method requestId principal))) :=
    ⟨evaluator.coherent_start method requestId principal,
      fun _ member => absurd member List.not_mem_nil⟩
  have ended := sound_run evaluator faults course _ started
  rcases List.mem_append.1 reached with noted | final
  · obtain ⟨entry, member, rfl⟩ := List.mem_map.1 noted
    exact (ended.noted entry member).memoryless
  · rw [List.mem_singleton.1 final]
    exact ended.current.memoryless

end Course

namespace Desk

/-- A visitor, who has no permission strings of its own. -/
def visitor : Principal := ⟨⟨"eve"⟩, OrderedSet.empty, false⟩

/-- A clerk's permissions are looked up; then a visitor takes over, and a run that
resolves the visitor's grants fails. -/
def handover : Course :=
  .ask (.single (.hasAnyPermission [])) (fun _ =>
    .authenticate visitor
      (.guarded (.ask (.grants notes .view) (fun _ => .answer (.error (.store ⟨.io, "gone"⟩))))
        (fun outcome => .answer outcome)))

/-- The context after the handover. -/
def handedOver : RequestContext :=
  let ran := handover.run (bureau deskGrants) (fun _ _ => none) (GuardState.start (clerk .put))
  ran.2.session.context

/-- After the handover the visitor's permissions are cached, not the clerk's, and
the visitor sees what a visitor sees in a fresh request, where a change of two
notes is refused as each of them is. -/
theorem desk_forgets_the_clerk :
    (∃ held, handedOver.held = some held ∧
      (bureau deskGrants).freshlyHeld visitor = .ok held) ∧
    ((AccessCall.grants notes .view).perform (bureau deskGrants) (Session.start handedOver)).1 =
      .ok (.grants (OrderedSet.ofList [own])) ∧
    ((bureau deskGrants).scopeChangeList notes [ticket "1", ticket "2"] OrderedMap.empty
      (Session.start handedOver)).1 ≠ .ok () := by
  have memoryless := Course.answers_as_if_fresh (bureau deskGrants) (fun _ _ => none) .put none
    (some ⟨⟨"ada"⟩, OrderedSet.ofList ["clerk"], false⟩) handover
    (show handedOver ∈ _ from List.mem_append_right _ List.mem_cons_self)
  have fresh := memoryless.answers (Session.start handedOver)
    (Session.start (RequestContext.forPrincipal .put none visitor)) rfl
    ⟨.put, none, some visitor, rfl⟩ rfl rfl rfl
  have isCached : handedOver.held ≠ none := by decide
  obtain ⟨held, cached⟩ := Option.ne_none_iff_exists'.1 isCached
  refine ⟨⟨held, cached, memoryless.cached held cached⟩, ?_, ?_⟩
  · exact (fresh (.grants notes .view)).trans rfl
  intro changed
  have each := (memoryless.lists (Session.start handedOver) rfl notes [ticket "1", ticket "2"]
    OrderedMap.empty (by decide)).1 changed (ticket "1") List.mem_cons_self
  cases each

end Desk

end RowAccess
