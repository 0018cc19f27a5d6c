import RowAccess.Proofs.Session.Grants

/-!
Contract: what access operations add to the decision log.

A single operation adds its action when it allowed something and nothing
otherwise. The log never shrinks, a request with a logged decision is marked as
checked, and neither the method nor the depth of guarded runs changes.

Owns:
- the extension of a session's log, and its composition.
- the extension made by each operation, single or compound.
-/

namespace RowAccess

/-- Whether a session came from another one by logging the given actions. -/
structure Session.Logs (before after : Session) (logged : List Action) : Prop where
  method : after.context.method = before.context.method
  depth : after.context.depth = before.context.depth
  decisions : after.context.decisions = before.context.decisions ++ logged
  checked : before.context.permissionChecked = true ∨ logged ≠ [] →
    after.context.permissionChecked = true

namespace Session

variable {before middle after : Session} {early late : List Action}

theorem Logs.refl (session : Session) : session.Logs session [] where
  method := rfl
  depth := rfl
  decisions := (List.append_nil _).symm
  checked := fun known => known.resolve_right (fun nonempty => nonempty rfl)

theorem Logs.trans (first : before.Logs middle early) (second : middle.Logs after late) :
    before.Logs after (early ++ late) where
  method := second.method.trans first.method
  depth := second.depth.trans first.depth
  decisions := by
    rw [second.decisions, first.decisions, List.append_assoc]
  checked := by
    intro known
    by_cases lateEmpty : late = []
    · refine second.checked (Or.inl (first.checked ?_))
      rwa [lateEmpty, List.append_nil] at known
    · exact second.checked (Or.inr lateEmpty)

theorem Looked.logs (looked : before.Looked after)
    (checked : before.context.permissionChecked = true → after.context.permissionChecked = true) :
    before.Logs after [] where
  method := looked.method
  depth := looked.depth
  decisions := looked.decisions.trans (List.append_nil _).symm
  checked := fun known => checked (known.resolve_right (fun nonempty => nonempty rfl))

/-- Logging one action in a session that is checked. -/
theorem logs_recordDecision {session : Session} (action : Action)
    (checked : session.context.permissionChecked = true) :
    session.Logs (session.recordDecision action) [action] where
  method := rfl
  depth := rfl
  decisions := rfl
  checked := fun _ => checked

theorem logs_audit (session : Session) (event : AuditEvent) :
    session.Logs (session.audit event) [] where
  method := rfl
  depth := rfl
  decisions := (List.append_nil _).symm
  checked := fun known => known.resolve_right (fun nonempty => nonempty rfl)

theorem logs_auditAll (session : Session) (events : List AuditEvent) :
    session.Logs (session.auditAll events) [] where
  method := rfl
  depth := rfl
  decisions := (List.append_nil _).symm
  checked := fun known => known.resolve_right (fun nonempty => nonempty rfl)

theorem logs_markUnscoped (session : Session) :
    session.Logs (session.updateContext RequestContext.markUnscoped)
      [session.context.method.impliedAction] where
  method := rfl
  depth := rfl
  decisions := rfl
  checked := fun _ => rfl

end Session

/-- The action of an operation that allowed something. -/
def loggedBy {α : Type} (action : Action) : Except AccessError α → List Action
  | .ok _ => [action]
  | .error _ => []

namespace Evaluator

variable {evaluator : Evaluator}

theorem logs_resolveGrants (evaluator : Evaluator) (resource : ResourceType) (action : Action)
    (session : Session) : session.Logs (evaluator.resolveGrants resource action session).2 [] :=
  (evaluator.looked_resolveGrants resource action session).logs
    (fun _ => evaluator.permissionChecked_resolveGrants resource action session)

theorem logs_hasAnyPermission (evaluator : Evaluator) (keys : List PermissionKey)
    (session : Session) : session.Logs (evaluator.hasAnyPermission keys session).2 [] := by
  rw [session_hasAnyPermission]
  split
  next => exact Session.Logs.refl session
  next =>
    refine (evaluator.looked_heldPermissions session).logs (fun checked => ?_)
    rw [permissionChecked_heldPermissions]
    exact checked

/-! ## Single operations -/

theorem logs_scopeView (evaluator : Evaluator) (base : Query) (session : Session) :
    session.Logs (evaluator.scopeView base session).2
      (loggedBy .view (evaluator.scopeView base session).1) := by
  have resolving := evaluator.logs_resolveGrants base.resource .view session
  have checked := evaluator.permissionChecked_resolveGrants base.resource .view session
  unfold scopeView
  dsimp only
  split
  next error next resolved =>
    rw [resolved] at resolving
    exact resolving.trans (next.logs_audit _)
  next grants next resolved =>
    rw [resolved] at resolving checked
    split
    next => exact resolving.trans (next.logs_audit _)
    next =>
      exact (resolving.trans (next.logs_audit _)).trans
        (Session.logs_recordDecision .view checked)

theorem logs_scopeWrite (evaluator : Evaluator) (action : Action) (resource : ResourceType)
    (record : Record) (values : Fields) (session : Session) :
    session.Logs (evaluator.scopeWrite action resource record values session).2
      (loggedBy action (evaluator.scopeWrite action resource record values session).1) := by
  have resolving := evaluator.logs_resolveGrants resource action session
  have checked := evaluator.permissionChecked_resolveGrants resource action session
  unfold scopeWrite
  split
  next error next resolved =>
    rw [resolved] at resolving
    exact resolving.trans (next.logs_audit _)
  next grants next resolved =>
    rw [resolved] at resolving checked
    have judging := fun events => resolving.trans (next.logs_auditAll events)
    dsimp only
    split
    next => exact (judging _).trans (Session.logs_audit _ _)
    next =>
      exact ((judging _).trans (Session.logs_audit _ _)).trans
        (Session.logs_recordDecision action checked)

/-- A write counts as a check, also where it fails. -/
theorem permissionChecked_scopeWrite (evaluator : Evaluator) (action : Action)
    (resource : ResourceType) (record : Record) (values : Fields) (session : Session) :
    (evaluator.scopeWrite action resource record values session).2.context.permissionChecked =
      true := by
  have checked := evaluator.permissionChecked_resolveGrants resource action session
  unfold scopeWrite
  split
  next error next resolved =>
    rw [resolved] at checked
    exact checked
  next grants next resolved =>
    rw [resolved] at checked
    dsimp only
    split
    next => exact checked
    next => exact checked

/-! ## Compound operations -/

/-- The records of a list that are changed before the first failure. -/
def acceptedChanges (evaluator : Evaluator) (resource : ResourceType) (values : Fields) :
    List Record → Session → List Record
  | [], _ => []
  | record :: rest, session =>
      match evaluator.scopeChange resource record values session with
      | (.error _, _) => []
      | (.ok _, next) => record :: acceptedChanges evaluator resource values rest next

/-- Changing the records of a list logs one change for each record accepted. -/
theorem logs_changeEach (evaluator : Evaluator) (resource : ResourceType) (values : Fields)
    (records : List Record) (session : Session) :
    session.Logs (evaluator.changeEach resource values records session).2
      (List.replicate (evaluator.acceptedChanges resource values records session).length
        .change) := by
  induction records generalizing session with
  | nil => exact Session.Logs.refl session
  | cons record rest inductionHypothesis =>
      have first : session.Logs (evaluator.scopeChange resource record values session).2
          (loggedBy .change (evaluator.scopeChange resource record values session).1) :=
        evaluator.logs_scopeWrite .change resource record values session
      unfold changeEach acceptedChanges
      cases changed : evaluator.scopeChange resource record values session with
      | mk outcome next =>
          rw [changed] at first
          cases outcome with
          | error error => exact first
          | ok done => exact first.trans (inductionHypothesis next)

/-- A list fails with the first record that fails, after the accepted ones. -/
theorem changeEach_eq_error {resource : ResourceType} {values : Fields} {records : List Record}
    {session : Session} {error : AccessError}
    (failed : (evaluator.changeEach resource values records session).1 = .error error) :
    ∃ failing rest middle,
      records = evaluator.acceptedChanges resource values records session ++ failing :: rest ∧
      evaluator.changeEach resource values
        (evaluator.acceptedChanges resource values records session) session = (.ok (), middle) ∧
      (evaluator.scopeChange resource failing values middle).1 = .error error := by
  induction records generalizing session with
  | nil => cases failed
  | cons record rest inductionHypothesis =>
      unfold changeEach at failed
      unfold acceptedChanges
      cases changed : evaluator.scopeChange resource record values session with
      | mk outcome next =>
          rw [changed] at failed
          cases outcome with
          | error own =>
              refine ⟨record, rest, session, rfl, rfl, ?_⟩
              rw [changed]
              exact failed
          | ok done =>
              obtain ⟨failing, others, middle, split, accepted, failedAt⟩ :=
                inductionHypothesis failed
              refine ⟨failing, others, middle, ?_, ?_, failedAt⟩
              · exact congrArg (fun tail => record :: tail) split
              · unfold changeEach
                rw [changed]
                exact accepted

/-- The file changes of a request that replaces or removes a file are marked as
deletions beforehand. -/
def fileMarker (method : RequestMethod) : List Action :=
  if method = .post ∨ method = .delete then [.delete] else []

theorem logs_scopeFileField (evaluator : Evaluator) (resource : ResourceType) (record : Record)
    (field : String) (session : Session) :
    session.Logs (evaluator.scopeFileField resource record field session).2
      (fileMarker session.context.method ++
        loggedBy .change (evaluator.scopeFileField resource record field session).1) := by
  unfold scopeFileField scopeChange fileMarker
  dsimp only
  split
  next =>
    have writing := evaluator.logs_scopeWrite .change resource record
      (OrderedMap.ofList [(field, Json.null)]) (session.recordDecision .delete)
    refine ⟨writing.method, writing.depth, ?_, fun _ => ?_⟩
    · rw [writing.decisions, ← List.append_assoc]
      rfl
    · exact evaluator.permissionChecked_scopeWrite .change resource record _ _
  next => exact evaluator.logs_scopeWrite .change resource record _ session

end Evaluator

end RowAccess
