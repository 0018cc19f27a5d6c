import RowAccess.Proofs.Session.Grants

/-!
Contract: access operations report decisions, never violations.

Violations of the enforcement are among the events of an audit trail. What an
access operation adds to the trail are decisions and fallbacks, so whoever finds
a violation there knows that a guarded run put it there.

Owns:
- the violations on an audit trail.
- their absence among the events of each access operation.
-/

namespace RowAccess

def AuditEvent.violation? : AuditEvent → Option EnforcementEvent
  | .enforcement event => some event
  | _ => none

namespace Session

/-- The enforcement violations on the trail of a session, in order. -/
def violations (session : Session) : List EnforcementEvent :=
  session.trail.filterMap AuditEvent.violation?

theorem violations_audit (session : Session) (event : AuditEvent) :
    (session.audit event).violations = session.violations ++ event.violation?.toList := by
  unfold violations audit
  rw [List.filterMap_append]
  cases violation : event.violation? with
  | none => simp [violation]
  | some found => simp [violation]

@[simp]
theorem violations_audit_decision (session : Session) (resource : ResourceType) (action : Action)
    (grants : OrderedSet ScopeName) (error : Option AccessError) :
    (session.audit (session.decisionEvent resource action grants error)).violations =
      session.violations := by
  rw [violations_audit]
  exact List.append_nil _

@[simp]
theorem violations_auditAll_fallback (session : Session) (events : List FallbackEvent) :
    (session.auditAll (events.map AuditEvent.fallback)).violations = session.violations := by
  have none : (events.map AuditEvent.fallback).filterMap AuditEvent.violation? = [] := by
    simp [AuditEvent.violation?]
  unfold violations auditAll
  rw [List.filterMap_append, none, List.append_nil]

@[simp]
theorem violations_updateContext (session : Session) (update : RequestContext → RequestContext) :
    (session.updateContext update).violations = session.violations := rfl

@[simp]
theorem violations_recordDecision (session : Session) (action : Action) :
    (session.recordDecision action).violations = session.violations := rfl

variable {before after : Session}

theorem Looked.violations (looked : before.Looked after) :
    after.violations = before.violations := by
  unfold Session.violations
  rw [looked.trail]

end Session

namespace Evaluator

theorem violations_hasAnyPermission (evaluator : Evaluator) (keys : List PermissionKey)
    (session : Session) :
    (evaluator.hasAnyPermission keys session).2.violations = session.violations := by
  rw [session_hasAnyPermission]
  split
  next => rfl
  next => exact (evaluator.looked_heldPermissions session).violations

theorem violations_scopeView (evaluator : Evaluator) (base : Query) (session : Session) :
    (evaluator.scopeView base session).2.violations = session.violations := by
  have resolving := (evaluator.looked_resolveGrants base.resource .view session).violations
  unfold scopeView
  dsimp only
  split
  next error next resolved =>
    rw [resolved] at resolving
    simpa using resolving
  next grants next resolved =>
    rw [resolved] at resolving
    split
    next => simpa using resolving
    next => simpa using resolving

theorem violations_scopeWrite (evaluator : Evaluator) (action : Action) (resource : ResourceType)
    (record : Record) (values : Fields) (session : Session) :
    (evaluator.scopeWrite action resource record values session).2.violations =
      session.violations := by
  have resolving := (evaluator.looked_resolveGrants resource action session).violations
  unfold scopeWrite
  split
  next error next resolved =>
    rw [resolved] at resolving
    simpa using resolving
  next grants next resolved =>
    rw [resolved] at resolving
    dsimp only
    split
    next => simpa using resolving
    next => simpa using resolving

theorem violations_changeEach (evaluator : Evaluator) (resource : ResourceType)
    (values : Fields) (records : List Record) (session : Session) :
    (evaluator.changeEach resource values records session).2.violations = session.violations := by
  induction records generalizing session with
  | nil => rfl
  | cons record rest inductionHypothesis =>
      have first : (evaluator.scopeChange resource record values session).2.violations =
          session.violations :=
        evaluator.violations_scopeWrite .change resource record values session
      unfold changeEach
      split
      next error next changed =>
        rw [changed] at first
        exact first
      next done next changed =>
        rw [changed] at first
        exact (inductionHypothesis next).trans first

theorem violations_scopeChangeList (evaluator : Evaluator) (resource : ResourceType)
    (records : List Record) (values : Fields) (session : Session) :
    (evaluator.scopeChangeList resource records values session).2.violations =
      session.violations := by
  unfold scopeChangeList
  split
  next => rfl
  next => exact evaluator.violations_changeEach resource values records session

theorem violations_scopeFileField (evaluator : Evaluator) (resource : ResourceType)
    (record : Record) (field : String) (session : Session) :
    (evaluator.scopeFileField resource record field session).2.violations =
      session.violations := by
  unfold scopeFileField
  dsimp only
  split
  next => exact evaluator.violations_scopeWrite .change resource record _ _
  next => exact evaluator.violations_scopeWrite .change resource record _ session

end Evaluator

end RowAccess
