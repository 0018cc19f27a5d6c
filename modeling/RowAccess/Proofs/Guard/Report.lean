import RowAccess.Proofs.Guard.History

/-!
Contract: the audit trail and the decision log tell the same decisions.

A call for a decision puts one event on the trail for each decision it makes, and
an entry into the log for each one that allowed something. A list of changes makes
a decision for each of its records, in order, up to the first that fails. The event
of a decision names the request, the scopes that were granted for it and, where it
failed, why.

Owns:
- the decisions that calls make, and the event that reports a decision.
- the correspondence of trail and log, for one call and for calls in sequence.
-/

namespace RowAccess

/-! ## Decisions on a trail -/

def AuditEvent.decision? : AuditEvent → Option DecisionEvent
  | .decision event => some event
  | _ => none

namespace Session

/-- The decisions that the trail of a session reports, in order. -/
def reported (session : Session) : List DecisionEvent :=
  session.trail.filterMap AuditEvent.decision?

theorem reported_audit_decision (session : Session) (event : DecisionEvent) :
    (session.audit (.decision event)).reported = session.reported ++ [event] :=
  List.filterMap_append

theorem reported_auditAll_fallback (session : Session) (events : List FallbackEvent) :
    (session.auditAll (events.map AuditEvent.fallback)).reported = session.reported := by
  have none : (events.map AuditEvent.fallback).filterMap AuditEvent.decision? = [] := by
    simp [AuditEvent.decision?]
  unfold reported auditAll
  rw [List.filterMap_append, none, List.append_nil]

theorem Looked.reported {before after : Session} (looked : before.Looked after) :
    after.reported = before.reported := by
  unfold Session.reported
  rw [looked.trail]

end Session

/-! ## Decisions -/

/-- A decision: the request it was made for, what it was about, what a resolution
answered to it, and what it came to. -/
structure Decision where
  context : RequestContext
  resource : ResourceType
  action : Action
  granted : Except AccessError (OrderedSet ScopeName)
  outcome : Except AccessError Unit

namespace Decision

/-- The scopes granted for a decision; none where the resolution failed. -/
def scopes (decision : Decision) : OrderedSet ScopeName :=
  match decision.granted with
  | .ok grants => grants
  | .error _ => OrderedSet.empty

def failure? (decision : Decision) : Option AccessError :=
  match decision.outcome with
  | .ok _ => none
  | .error error => some error

/-- The event that reports a decision. -/
def event (decision : Decision) : DecisionEvent where
  requestId := decision.context.requestId
  principal := decision.context.principal.id.text
  resource := decision.resource.label
  action := decision.action
  allowed := decision.failure?.isNone
  scopes := decision.scopes.toList.map Label.text
  reason := decision.failure?.map AccessError.message

/-- Whether an event says of a decision what it has to: who asked for what, whether
it was allowed and otherwise why not, and which scopes were granted, in order. -/
structure ReportedBy (decision : Decision) (event : DecisionEvent) : Prop where
  requestId : event.requestId = decision.context.requestId
  principal : event.principal = decision.context.principal.id.text
  resource : event.resource = decision.resource.label
  action : event.action = decision.action
  allowed : event.allowed = true ∧ event.reason = none ↔ decision.outcome = .ok ()
  refused : ∀ error, decision.outcome = .error error →
    event.allowed = false ∧ event.reason = some error.message
  granted : ∀ grants, decision.granted = .ok grants →
    ∀ name, name ∈ event.scopes ↔ ⟨name⟩ ∈ grants.toList
  ungranted : ∀ error, decision.granted = .error error → event.scopes = []
  lexical : event.scopes.Pairwise (fun left right => left < right)

theorem mem_scopes_event {decision : Decision} {name : String} :
    name ∈ decision.event.scopes ↔ ⟨name⟩ ∈ decision.scopes.toList := by
  unfold event
  rw [List.mem_map]
  constructor
  · rintro ⟨scope, member, rfl⟩
    exact member
  · intro member
    exact ⟨_, member, rfl⟩

theorem lexical_scopes_event (decision : Decision) :
    decision.event.scopes.Pairwise (fun left right => left < right) := by
  unfold event
  rw [List.pairwise_map]
  refine decision.scopes.increasing.imp (fun {left right} below => ?_)
  have byText : compare left.text right.text = .lt := below
  exact compareOfLessAndEq_eq_lt.1 byText

theorem reportedBy_event (decision : Decision) : decision.ReportedBy decision.event where
  requestId := rfl
  principal := rfl
  resource := rfl
  action := rfl
  allowed := by
    unfold event failure?
    cases decision.outcome with
    | ok done => exact iff_of_true ⟨rfl, rfl⟩ rfl
    | error error => exact iff_of_false (fun told => nomatch told.1) (fun same => nomatch same)
  refused := by
    intro error failed
    unfold event failure?
    rw [failed]
    exact ⟨rfl, rfl⟩
  granted := by
    intro grants resolved name
    rw [mem_scopes_event]
    unfold scopes
    rw [resolved]
  ungranted := by
    intro error unresolved
    unfold event scopes
    rw [unresolved]
    rfl
  lexical := decision.lexical_scopes_event

end Decision

/-- The decision on an action that came to an outcome in a session. -/
def Evaluator.decision {α : Type} (evaluator : Evaluator) (resource : ResourceType)
    (action : Action) (session : Session) (outcome : Except AccessError α) : Decision where
  context := session.context
  resource := resource
  action := action
  granted := (evaluator.resolveGrants resource action session).1
  outcome := outcome.map (fun _ => ())

namespace Operation

/-- The resource and the action that an operation asks a decision on. -/
def subject? : Operation → Option (ResourceType × Action)
  | .view base => some (base.resource, .view)
  | .history resource _ => some (resource, .view)
  | .add resource _ _ => some (resource, .add)
  | .change resource _ _ => some (resource, .change)
  | .delete resource _ _ => some (resource, .delete)
  | .store isNew resource _ _ => some (resource, if isNew then .add else .change)
  | .hasAnyPermission _ | .markUnscoped => none

/-- The decision that an operation makes in a session, if it makes one. -/
def decision? (evaluator : Evaluator) (session : Session) (operation : Operation) :
    Option Decision :=
  operation.subject?.map (fun subject =>
    evaluator.decision subject.1 subject.2 session (operation.perform evaluator session).1)

end Operation

namespace AccessCall

/-- Whether a call asks for decisions and nothing else: a view, a look-up of
history, an addition, a change, a deletion, a store, or changes of some records. -/
def Decides : AccessCall → Prop
  | .single operation => operation.subject? ≠ none
  | .changeList _ records _ => records ≠ []
  | .fileField .. | .grants .. => False

/-- The decisions on the records of a list, each in the session that the one before
left, up to and with the first that fails. -/
def changesDecided (evaluator : Evaluator) (resource : ResourceType) (values : Fields) :
    List Record → Session → List Decision
  | [], _ => []
  | record :: rest, session =>
      let changed := evaluator.scopeChange resource record values session
      evaluator.decision resource .change session changed.1 ::
        match changed.1 with
        | .ok _ => changesDecided evaluator resource values rest changed.2
        | .error _ => []

/-- The decisions that a call makes in a session. -/
def decisions (evaluator : Evaluator) (session : Session) : AccessCall → List Decision
  | .single operation => (operation.decision? evaluator session).toList
  | .changeList resource records values =>
      changesDecided evaluator resource values records session
  | .fileField .. | .grants .. => []

/-- The session after several calls, whatever each of them answers. -/
def performAll (evaluator : Evaluator) (calls : List AccessCall) (session : Session) : Session :=
  calls.foldl (fun current call => (call.perform evaluator current).2) session

/-- The decisions that several calls make, in order. -/
def decisionsOf (evaluator : Evaluator) : List AccessCall → Session → List Decision
  | [], _ => []
  | call :: rest, session =>
      call.decisions evaluator session ++
        decisionsOf evaluator rest (call.perform evaluator session).2

end AccessCall

/-! ## Trail and log -/

/-- Whether a session came from another one by making the given decisions: each of
them is reported, and those that allowed something are logged. -/
structure Session.Accounts (before after : Session) (made : List Decision) : Prop where
  reported : after.reported = before.reported ++ made.map Decision.event
  decisions : after.context.decisions =
    before.context.decisions ++ made.flatMap (fun decision =>
      loggedBy decision.action decision.outcome)

namespace Session

variable {before middle after : Session} {early late : List Decision}

theorem Accounts.refl (session : Session) : session.Accounts session [] :=
  ⟨(List.append_nil _).symm, (List.append_nil _).symm⟩

theorem Accounts.trans (first : before.Accounts middle early)
    (second : middle.Accounts after late) : before.Accounts after (early ++ late) where
  reported := by
    rw [second.reported, first.reported, List.map_append, List.append_assoc]
  decisions := by
    rw [second.decisions, first.decisions, List.flatMap_append, List.append_assoc]

end Session

theorem loggedBy_map {α β : Type} (action : Action) (outcome : Except AccessError α)
    (answer : α → β) : loggedBy action (outcome.map answer) = loggedBy action outcome := by
  cases outcome <;> rfl

/-- What a reply is made of has no part in what a call comes to. -/
theorem map_unit_map {α β : Type} (outcome : Except AccessError α) (reply : α → β) :
    (outcome.map reply).map (fun _ => ()) = outcome.map (fun _ => ()) := by
  cases outcome <;> rfl

/-- An audit in a session that only looked permissions up reports the decision of
the session before. -/
theorem Session.Looked.reported_audit {before next : Session} (looked : before.Looked next)
    (resource : ResourceType) (action : Action)
    (granted : Except AccessError (OrderedSet ScopeName)) (outcome : Except AccessError Unit) :
    let decision : Decision := ⟨before.context, resource, action, granted, outcome⟩
    (next.audit (next.decisionEvent resource action decision.scopes
      decision.failure?)).reported = before.reported ++ [decision.event] := by
  intro decision
  rw [looked.decisionEvent, ← looked.reported]
  exact next.reported_audit_decision decision.event

namespace Evaluator

/-- A view reports its decision, wherever it ends. -/
theorem reported_scopeView (evaluator : Evaluator) (base : Query) (session : Session) :
    (evaluator.scopeView base session).2.reported =
      session.reported ++
        [(evaluator.decision base.resource .view session
          (evaluator.scopeView base session).1).event] := by
  have looked := evaluator.looked_resolveGrants base.resource .view session
  unfold scopeView Evaluator.decision
  dsimp only
  cases resolved : evaluator.resolveGrants base.resource .view session with
  | mk granted next =>
      rw [resolved] at looked
      cases granted with
      | error error => exact looked.reported_audit base.resource .view (.error error) (.error error)
      | ok grants =>
          dsimp only
          cases evaluator.authority.registry.viewFilter
              (next.scopeContext base.resource .view) grants with
          | error error =>
              exact looked.reported_audit base.resource .view (.ok grants) (.error error)
          | ok filter => exact looked.reported_audit base.resource .view (.ok grants) (.ok ())

/-- A write reports its decision, wherever it ends, behind the fallbacks it used. -/
theorem reported_scopeWrite (evaluator : Evaluator) (action : Action) (resource : ResourceType)
    (record : Record) (values : Fields) (session : Session) :
    (evaluator.scopeWrite action resource record values session).2.reported =
      session.reported ++
        [(evaluator.decision resource action session
          (evaluator.scopeWrite action resource record values session).1).event] := by
  have looked := evaluator.looked_resolveGrants resource action session
  unfold scopeWrite Evaluator.decision
  cases resolved : evaluator.resolveGrants resource action session with
  | mk granted next =>
      rw [resolved] at looked
      cases granted with
      | error error => exact looked.reported_audit resource action (.error error) (.error error)
      | ok grants =>
          dsimp only
          generalize evaluator.authority.writePoll
            ⟨next.scopeContext resource action, record, values⟩ grants = poll
          have judged : ∀ event, ((next.auditAll (poll.fallbacks.map AuditEvent.fallback)).audit
              (.decision event)).reported = (next.audit (.decision event)).reported := by
            intro event
            rw [Session.reported_audit_decision, Session.reported_audit_decision,
              Session.reported_auditAll_fallback]
          cases Authority.tally ⟨next.scopeContext resource action, record, values⟩ poll with
          | error error =>
              exact (judged _).trans
                (looked.reported_audit resource action (.ok grants) (.error error))
          | ok done =>
              exact (judged _).trans (looked.reported_audit resource action (.ok grants) (.ok ()))

/-- A view accounts for its decision. -/
theorem accounts_scopeView (evaluator : Evaluator) (base : Query) (session : Session) :
    session.Accounts (evaluator.scopeView base session).2
      [evaluator.decision base.resource .view session (evaluator.scopeView base session).1] where
  reported := evaluator.reported_scopeView base session
  decisions := by
    rw [List.flatMap_singleton]
    exact (evaluator.logs_scopeView base session).decisions.trans
      (congrArg _ (loggedBy_map .view _ _).symm)

/-- A write accounts for its decision. -/
theorem accounts_scopeWrite (evaluator : Evaluator) (action : Action) (resource : ResourceType)
    (record : Record) (values : Fields) (session : Session) :
    session.Accounts (evaluator.scopeWrite action resource record values session).2
      [evaluator.decision resource action session
        (evaluator.scopeWrite action resource record values session).1] where
  reported := evaluator.reported_scopeWrite action resource record values session
  decisions := by
    rw [List.flatMap_singleton]
    exact (evaluator.logs_scopeWrite action resource record values session).decisions.trans
      (congrArg _ (loggedBy_map action _ _).symm)

end Evaluator

/-- What a reply is made of has no part in the decision. -/
theorem Operation.decision?_of_answering {α : Type} {evaluator : Evaluator} {session : Session}
    {operation : Operation} {resource : ResourceType} {action : Action}
    {answered : Except AccessError α × Session} (reply : α → Reply)
    (asked : operation.subject? = some (resource, action))
    (performed : operation.perform evaluator session = answering reply answered) :
    operation.decision? evaluator session =
      some (evaluator.decision resource action session answered.1) := by
  unfold decision? answering at *
  rw [asked, performed]
  cases answered.1 <;> rfl

/-- An operation accounts for the decision it makes, if it makes one. -/
theorem Operation.accounts_perform (evaluator : Evaluator) (session : Session)
    (operation : Operation) (decides : operation.subject? ≠ none) :
    session.Accounts (operation.perform evaluator session).2
      (operation.decision? evaluator session).toList := by
  cases operation with
  | view base =>
      rw [decision?_of_answering .query rfl rfl]
      exact evaluator.accounts_scopeView base session
  | history resource key =>
      rw [decision?_of_answering .query rfl rfl]
      exact evaluator.accounts_scopeView _ session
  | add resource record values =>
      rw [decision?_of_answering (fun _ => .done) rfl rfl]
      exact evaluator.accounts_scopeWrite .add resource record values session
  | change resource record values =>
      rw [decision?_of_answering (fun _ => .done) rfl rfl]
      exact evaluator.accounts_scopeWrite .change resource record values session
  | delete resource record values =>
      rw [decision?_of_answering (fun _ => .done) rfl rfl]
      exact evaluator.accounts_scopeWrite .delete resource record values session
  | store isNew resource record values =>
      rw [decision?_of_answering (fun _ => .done) rfl rfl]
      exact evaluator.accounts_scopeWrite _ resource record values session
  | hasAnyPermission keys => exact absurd rfl decides
  | markUnscoped => exact absurd rfl decides

namespace AccessCall

/-- A list of changes accounts for the decisions it makes. -/
theorem accounts_changeEach (evaluator : Evaluator) (resource : ResourceType) (values : Fields)
    (records : List Record) (session : Session) :
    session.Accounts (evaluator.changeEach resource values records session).2
      (changesDecided evaluator resource values records session) := by
  induction records generalizing session with
  | nil => exact Session.Accounts.refl session
  | cons record rest inductionHypothesis =>
      have first := evaluator.accounts_scopeWrite .change resource record values session
      unfold Evaluator.changeEach changesDecided Evaluator.scopeChange
      cases changed : evaluator.scopeWrite .change resource record values session with
      | mk outcome next =>
          rw [changed] at first
          cases outcome with
          | error error => exact first
          | ok done => exact first.trans (inductionHypothesis next)

/-- The decisions of a call that asked for a number of them are the first ones: all
but the last one allow, the last one is what the call comes to, and only a call
that fails leaves some out. -/
structure UpToFailure (asked : Nat) (made : List Decision) (outcome : Except AccessError Unit) :
    Prop where
  within : made.length ≤ asked
  allowed : ∀ decision ∈ made.dropLast, decision.outcome = .ok ()
  last : made.getLast?.map Decision.outcome = some outcome
  whole : outcome = .ok () → made.length = asked

namespace UpToFailure

variable {asked : Nat} {decision : Decision}

/-- The last decision: it fails, or there is no other one to make. -/
theorem last_of (ends : decision.outcome = .ok () → asked = 0) :
    UpToFailure (asked + 1) [decision] decision.outcome where
  within := Nat.succ_le_succ (Nat.zero_le asked)
  allowed := fun _ member => absurd member List.not_mem_nil
  last := rfl
  whole := fun ended => by rw [ends ended]; rfl

/-- A decision that allows goes in front of those behind it. -/
theorem cons {made : List Decision} {outcome : Except AccessError Unit}
    (later : UpToFailure asked made outcome) (allows : decision.outcome = .ok ()) :
    UpToFailure (asked + 1) (decision :: made) outcome := by
  obtain ⟨within, allowed, last, whole⟩ := later
  cases made with
  | nil => exact absurd last nofun
  | cons second others =>
      refine ⟨Nat.succ_le_succ within, ?_, last, fun ended => congrArg Nat.succ (whole ended)⟩
      intro earlier member
      rw [List.dropLast_cons_of_ne_nil (List.cons_ne_nil second others)] at member
      cases member with
      | head => exact allows
      | tail _ behind => exact allowed earlier behind

end UpToFailure

theorem upToFailure_changesDecided (evaluator : Evaluator) (resource : ResourceType)
    (values : Fields) {records : List Record} (listed : records ≠ []) (session : Session) :
    UpToFailure records.length (changesDecided evaluator resource values records session)
      (evaluator.changeEach resource values records session).1 := by
  induction records generalizing session with
  | nil => exact absurd rfl listed
  | cons record rest inductionHypothesis =>
      unfold changesDecided Evaluator.changeEach
      cases evaluator.scopeChange resource record values session with
      | mk outcome next =>
          cases outcome with
          | error error =>
              refine .last_of (fun ended => ?_)
              cases ended
          | ok done =>
              dsimp only
              cases rest with
              | nil => exact .last_of (fun _ => rfl)
              | cons second others =>
                  exact (inductionHypothesis (List.cons_ne_nil second others) next).cons rfl

/-- The number of decisions a call asks for: one, or one on each record of a list. -/
def asked : AccessCall → Nat
  | .single _ => 1
  | .changeList _ records _ => records.length
  | .fileField .. | .grants .. => 0

section Call

variable (evaluator : Evaluator) (session : Session)

/-- The changes of some records are made one by one. -/
theorem perform_changeList {resource : ResourceType} {records : List Record} {values : Fields}
    (listed : records ≠ []) :
    (AccessCall.changeList resource records values).perform evaluator session =
      (evaluator.changeEach resource values records session).map
        (Except.map (fun _ => .single .done)) id := by
  have isFull : ¬ records.isEmpty = true := fun empty => listed (List.isEmpty_iff.1 empty)
  have each : evaluator.scopeChangeList resource records values session =
      evaluator.changeEach resource values records session := if_neg isFull
  unfold perform
  dsimp only
  rw [each]

/-- A call decides as it answers. -/
theorem upToFailure_decisions {call : AccessCall} (decides : call.Decides) :
    UpToFailure call.asked (call.decisions evaluator session)
      ((call.perform evaluator session).1.map (fun _ => ())) := by
  cases call with
  | single operation =>
      obtain ⟨subject, isSubject⟩ := Option.ne_none_iff_exists'.1 decides
      have answers : ((AccessCall.single operation).perform evaluator session).1.map (fun _ => ()) =
          (operation.perform evaluator session).1.map (fun _ => ()) :=
        map_unit_map _ AccessReply.single
      rw [answers]
      unfold decisions Operation.decision? asked
      dsimp only
      rw [isSubject]
      exact .last_of (fun _ => rfl)
  | changeList resource records values =>
      have answers : ((AccessCall.changeList resource records values).perform
          evaluator session).1.map (fun _ => ()) =
            (evaluator.changeEach resource values records session).1 := by
        rw [perform_changeList evaluator session decides]
        exact (map_unit_map _ _).trans (congrFun Except.map_id _)
      rw [answers]
      exact upToFailure_changesDecided evaluator resource values decides session
  | fileField => exact decides.elim
  | grants => exact decides.elim

/-- A call accounts for the decisions it makes. -/
theorem accounts_perform {call : AccessCall} (decides : call.Decides) :
    session.Accounts (call.perform evaluator session).2 (call.decisions evaluator session) := by
  cases call with
  | single operation => exact operation.accounts_perform evaluator session decides
  | changeList resource records values =>
      rw [perform_changeList evaluator session decides]
      exact accounts_changeEach evaluator resource values records session
  | fileField => exact decides.elim
  | grants => exact decides.elim

end Call

/-- Calls in sequence account for the decisions they make. -/
theorem accounts_performAll (evaluator : Evaluator) (calls : List AccessCall)
    (decide : ∀ call ∈ calls, call.Decides) (session : Session) :
    session.Accounts (performAll evaluator calls session)
      (decisionsOf evaluator calls session) := by
  induction calls generalizing session with
  | nil => exact Session.Accounts.refl session
  | cons call rest inductionHypothesis =>
      have first := accounts_perform evaluator session (decide call List.mem_cons_self)
      exact first.trans (inductionHypothesis
        (fun later member => decide later (List.mem_cons_of_mem call member)) _)

end AccessCall

/-- The log has the actions of the events that allow. -/
theorem Decision.flatMap_loggedBy (made : List Decision) :
    made.flatMap (fun decision => loggedBy decision.action decision.outcome) =
      ((made.map event).filter DecisionEvent.allowed).map DecisionEvent.action := by
  induction made with
  | nil => rfl
  | cons decision rest inductionHypothesis =>
      rw [List.flatMap_cons, inductionHypothesis, List.map_cons]
      obtain ⟨context, resource, action, granted, outcome⟩ := decision
      cases outcome <;> rfl

/-- A sequence of calls for decisions puts one event on the trail for each decision
it makes, in order, which reports it, and into the log the actions of the events
that allow. A call makes the decisions it asks for up to the first that fails, and
answers as the last one of them. -/
theorem AccessCall.trail_corresponds_to_log (evaluator : Evaluator) (calls : List AccessCall)
    (session : Session) (decide : ∀ call ∈ calls, call.Decides) :
    let ended := performAll evaluator calls session
    let made := decisionsOf evaluator calls session
    (∃ events : List DecisionEvent,
      ended.reported = session.reported ++ events ∧
      List.Forall₂ Decision.ReportedBy made events ∧
      ended.context.decisions = session.context.decisions ++
        (events.filter DecisionEvent.allowed).map DecisionEvent.action) ∧
    ∀ call ∈ calls, ∀ current : Session,
      UpToFailure call.asked (call.decisions evaluator current)
        ((call.perform evaluator current).1.map (fun _ => ())) := by
  intro ended made
  have accounts := accounts_performAll evaluator calls decide session
  refine ⟨⟨made.map Decision.event, accounts.reported, ?_, ?_⟩, ?_⟩
  · exact List.forall₂_map_right_iff.2 (List.forall₂_same.2 fun decision _ =>
      decision.reportedBy_event)
  · rw [← Decision.flatMap_loggedBy]
    exact accounts.decisions
  · exact fun call member current => upToFailure_decisions evaluator current (decide call member)

namespace Desk

/-- Views of tickets, changes of three of them of which only the first is allowed,
and an addition that nothing is granted for. -/
def morning : List AccessCall :=
  [.single (.view (Query.ofResource tickets)),
    .changeList tickets [ticket "1", ticket "2", ticket "3"] OrderedMap.empty,
    .single (.add tickets (ticket "4") OrderedMap.empty)]

/-- A request in which one's own tickets may be viewed and changed. -/
def workday : Session :=
  (Session.start (RequestContext.anonymous .put none)).updateContext (fun context =>
    context.cache (OrderedMap.ofList
      [(office.guardingKey tickets .view, OrderedSet.ofList [own]),
        (office.guardingKey tickets .change, OrderedSet.ofList [own])]))

/-- Five tickets come up and four decisions are made: the changes end with the
second ticket, whose refusal is reported between the two allowed ones and the
addition. -/
theorem desk_reports_the_morning :
    ∃ events : List DecisionEvent,
      (AccessCall.performAll office morning workday).reported = events ∧
      List.Forall₂ Decision.ReportedBy (AccessCall.decisionsOf office morning workday) events ∧
      events.map DecisionEvent.allowed = [true, true, false, false] ∧
      (AccessCall.performAll office morning workday).context.decisions = [.view, .change] := by
  have decide : ∀ call ∈ morning, call.Decides := by
    intro call member
    rcases member with _ | ⟨_, _ | ⟨_, _ | ⟨_, none⟩⟩⟩
    · exact Option.some_ne_none _
    · exact List.cons_ne_nil _ _
    · exact Option.some_ne_none _
    · cases none
  obtain ⟨⟨events, reported, each, logged⟩, calls⟩ :=
    AccessCall.trail_corresponds_to_log office morning workday decide
  have trail : (AccessCall.performAll office morning workday).reported = events := reported
  refine ⟨events, trail, each, ?_, ?_⟩
  · rw [← trail]
    decide +kernel
  · decide +kernel

end Desk

end RowAccess
