import RowAccess.Proofs.Session.Grants

/-!
Contract: what is cached is what would be loaded, so the past of a request does
not show in its answers.

The cache of a request is filled by a look-up that succeeds and emptied when a
principal is bound. A coherent context has nothing in it but what a load for its
current principal gives. Every operation keeps that, and in coherent contexts its
answer depends on principal, method and request identifier alone.

Owns:
- coherent contexts, and contexts that are alike to an evaluator.
- the steps that keep a context coherent and a request the same.
- the outcome of each access operation in contexts that are alike.
-/

namespace RowAccess

namespace Evaluator

/-- The permissions a principal would be found to hold now. -/
def freshlyHeld (evaluator : Evaluator) (principal : Principal) :
    Except AccessError HeldPermissions :=
  HeldPermissions.load evaluator.permissions evaluator.grantSource principal

/-- Whether a context has nothing cached but what its principal would be found to
hold now. -/
def Coherent (evaluator : Evaluator) (context : RequestContext) : Prop :=
  ∀ held, context.held = some held → evaluator.freshlyHeld context.principal = .ok held

variable {evaluator : Evaluator}

theorem coherent_of_uncached {context : RequestContext} (uncached : context.held = none) :
    evaluator.Coherent context := by
  intro held isCached
  rw [uncached] at isCached
  cases isCached

/-- Binding a principal forgets what the one before it held. -/
theorem coherent_authenticate (evaluator : Evaluator) (context : RequestContext)
    (principal : Principal) : evaluator.Coherent (context.authenticate principal) :=
  coherent_of_uncached rfl

theorem coherent_start (evaluator : Evaluator) (method : RequestMethod)
    (requestId : Option String) (principal : Option Principal) :
    evaluator.Coherent (RequestContext.start method requestId principal) := by
  cases principal <;> exact coherent_of_uncached rfl

/-- A failed load leaves nothing in a coherent cache. -/
theorem Coherent.uncached_of_failed {context : RequestContext} {error : AccessError}
    (coherent : evaluator.Coherent context)
    (failed : evaluator.freshlyHeld context.principal = .error error) : context.held = none := by
  cases cached : context.held with
  | none => rfl
  | some held =>
      rw [coherent held cached] at failed
      cases failed

/-- Whether a context continues another one with the same request: principal,
method and identifier are the same, and coherence is not lost. -/
structure Continues (evaluator : Evaluator) (before after : RequestContext) : Prop where
  principal : after.principal = before.principal
  method : after.method = before.method
  requestId : after.requestId = before.requestId
  coherent : evaluator.Coherent before → evaluator.Coherent after

theorem Continues.refl (context : RequestContext) : evaluator.Continues context context :=
  ⟨rfl, rfl, rfl, id⟩

theorem Continues.trans {before middle after : RequestContext}
    (first : evaluator.Continues before middle) (second : evaluator.Continues middle after) :
    evaluator.Continues before after where
  principal := second.principal.trans first.principal
  method := second.method.trans first.method
  requestId := second.requestId.trans first.requestId
  coherent := fun coherent => second.coherent (first.coherent coherent)

theorem continues_markChecked (context : RequestContext) :
    evaluator.Continues context context.markChecked := ⟨rfl, rfl, rfl, id⟩

theorem continues_record (context : RequestContext) (action : Action) :
    evaluator.Continues context (context.record action) := ⟨rfl, rfl, rfl, id⟩

/-! ## What operations continue -/

theorem continues_heldPermissions (evaluator : Evaluator) (session : Session) :
    evaluator.Continues session.context (evaluator.heldPermissions session).2.context := by
  have looked := evaluator.looked_heldPermissions session
  refine ⟨looked.principal, looked.method, looked.requestId, fun coherent => ?_⟩
  unfold heldPermissions
  split
  next => exact coherent
  next uncached =>
    dsimp only
    split
    next error failed => exact coherent
    next held loaded =>
      intro other isCached
      cases isCached
      exact loaded

theorem continues_resolveGrants (evaluator : Evaluator) (resource : ResourceType)
    (action : Action) (session : Session) :
    evaluator.Continues session.context
      (evaluator.resolveGrants resource action session).2.context := by
  have marked : evaluator.Continues session.context session.context.markChecked :=
    continues_markChecked session.context
  rw [session_resolveGrants]
  split
  next => exact marked
  next =>
    exact marked.trans
      (evaluator.continues_heldPermissions (session.updateContext RequestContext.markChecked))

theorem continues_hasAnyPermission (evaluator : Evaluator) (keys : List PermissionKey)
    (session : Session) :
    evaluator.Continues session.context (evaluator.hasAnyPermission keys session).2.context := by
  rw [session_hasAnyPermission]
  split
  next => exact Continues.refl _
  next => exact evaluator.continues_heldPermissions session

theorem continues_scopeView (evaluator : Evaluator) (base : Query) (session : Session) :
    evaluator.Continues session.context (evaluator.scopeView base session).2.context := by
  have resolving := evaluator.continues_resolveGrants base.resource .view session
  unfold scopeView
  dsimp only
  split
  next error next resolved =>
    rw [resolved] at resolving
    exact resolving
  next grants next resolved =>
    rw [resolved] at resolving
    split
    next => exact resolving
    next => exact resolving.trans (continues_record _ .view)

theorem continues_scopeWrite (evaluator : Evaluator) (action : Action) (resource : ResourceType)
    (record : Record) (values : Fields) (session : Session) :
    evaluator.Continues session.context
      (evaluator.scopeWrite action resource record values session).2.context := by
  have resolving := evaluator.continues_resolveGrants resource action session
  unfold scopeWrite
  split
  next error next resolved =>
    rw [resolved] at resolving
    exact resolving
  next grants next resolved =>
    rw [resolved] at resolving
    dsimp only
    split
    next => exact resolving
    next => exact resolving.trans (continues_record _ action)

theorem continues_changeEach (evaluator : Evaluator) (resource : ResourceType) (values : Fields)
    (records : List Record) (session : Session) :
    evaluator.Continues session.context
      (evaluator.changeEach resource values records session).2.context := by
  induction records generalizing session with
  | nil => exact Continues.refl _
  | cons record rest inductionHypothesis =>
      have first := evaluator.continues_scopeWrite .change resource record values session
      unfold changeEach scopeChange
      split
      next error next changed =>
        rw [changed] at first
        exact first
      next next changed =>
        rw [changed] at first
        exact first.trans (inductionHypothesis next)

theorem continues_scopeChangeList (evaluator : Evaluator) (resource : ResourceType)
    (records : List Record) (values : Fields) (session : Session) :
    evaluator.Continues session.context
      (evaluator.scopeChangeList resource records values session).2.context := by
  unfold scopeChangeList
  split
  next => exact (continues_markChecked _).trans (continues_record _ .change)
  next => exact evaluator.continues_changeEach resource values records session

theorem continues_scopeFileField (evaluator : Evaluator) (resource : ResourceType)
    (record : Record) (field : String) (session : Session) :
    evaluator.Continues session.context
      (evaluator.scopeFileField resource record field session).2.context := by
  unfold scopeFileField scopeChange
  dsimp only
  split
  next =>
    exact (continues_record session.context .delete).trans
      (evaluator.continues_scopeWrite .change resource record _ (session.recordDecision .delete))
  next => exact evaluator.continues_scopeWrite .change resource record _ session

/-! ## Outcomes in coherent contexts -/

theorem Coherent.outcome_heldPermissions {session : Session}
    (coherent : evaluator.Coherent session.context) :
    (evaluator.heldPermissions session).1 = evaluator.freshlyHeld session.context.principal := by
  unfold heldPermissions
  split
  next held isCached => exact (coherent held isCached).symm
  next =>
    have load : HeldPermissions.load evaluator.permissions evaluator.grantSource
        session.context.principal = evaluator.freshlyHeld session.context.principal := rfl
    rw [load]
    cases evaluator.freshlyHeld session.context.principal <;> rfl

/-- What a resolution answers to a principal with nothing cached. -/
def freshGrants (evaluator : Evaluator) (principal : Principal) (resource : ResourceType)
    (action : Action) : Except AccessError (OrderedSet ScopeName) :=
  if principal.superuser then .ok (OrderedSet.ofList [ScopeName.all])
  else
    (evaluator.freshlyHeld principal).bind (fun held =>
      match held.find? (evaluator.guardingKey resource action) with
      | some scopes => .ok scopes
      | none => .error (.forbidden principal.id (evaluator.guardingKey resource action)))

theorem Coherent.outcome_resolveGrants {session : Session}
    (coherent : evaluator.Coherent session.context) (resource : ResourceType) (action : Action) :
    (evaluator.resolveGrants resource action session).1 =
      evaluator.freshGrants session.context.principal resource action := by
  have marked : evaluator.Coherent
      (session.updateContext RequestContext.markChecked).context := coherent
  unfold freshGrants
  by_cases superuser : session.context.principal.superuser = true
  · rw [if_pos superuser]
    exact evaluator.grants_of_superuser resource action superuser
  · have granted := evaluator.grants_of_ordinary resource action superuser
    rw [marked.outcome_heldPermissions] at granted
    rw [if_neg superuser]
    exact granted

theorem Coherent.outcome_hasAnyPermission {session : Session}
    (coherent : evaluator.Coherent session.context) (keys : List PermissionKey) :
    (evaluator.hasAnyPermission keys session).1 =
      if session.context.principal.superuser then .ok true
      else (evaluator.freshlyHeld session.context.principal).map
        (fun held => keys.any held.contains) := by
  have outcome := coherent.outcome_heldPermissions
  unfold hasAnyPermission
  split
  next => rfl
  next =>
    rw [← outcome]
    split
    next error next found =>
      rw [found]
      rfl
    next held next found =>
      rw [found]
      rfl

/-! ## Contexts that are alike -/

/-- Whether two contexts carry the same request, each of them coherent. What was
decided in them, and what they have cached, may differ. -/
structure Alike (evaluator : Evaluator) (left right : RequestContext) : Prop where
  principal : right.principal = left.principal
  method : right.method = left.method
  requestId : right.requestId = left.requestId
  leftCoherent : evaluator.Coherent left
  rightCoherent : evaluator.Coherent right

variable {left right : Session}

theorem Alike.continued {left right leftNext rightNext : RequestContext}
    (alike : evaluator.Alike left right) (leftOn : evaluator.Continues left leftNext)
    (rightOn : evaluator.Continues right rightNext) : evaluator.Alike leftNext rightNext where
  principal := by rw [rightOn.principal, leftOn.principal, alike.principal]
  method := by rw [rightOn.method, leftOn.method, alike.method]
  requestId := by rw [rightOn.requestId, leftOn.requestId, alike.requestId]
  leftCoherent := leftOn.coherent alike.leftCoherent
  rightCoherent := rightOn.coherent alike.rightCoherent

theorem Alike.scopeContext (alike : evaluator.Alike left.context right.context)
    (resource : ResourceType) (action : Action) :
    right.scopeContext resource action = left.scopeContext resource action := by
  unfold Session.scopeContext
  rw [alike.principal, alike.method, alike.requestId]

theorem Alike.resolveGrants (alike : evaluator.Alike left.context right.context)
    (resource : ResourceType) (action : Action) :
    (evaluator.resolveGrants resource action right).1 =
      (evaluator.resolveGrants resource action left).1 := by
  rw [alike.leftCoherent.outcome_resolveGrants, alike.rightCoherent.outcome_resolveGrants,
    alike.principal]

theorem Alike.hasAnyPermission (alike : evaluator.Alike left.context right.context)
    (keys : List PermissionKey) :
    (evaluator.hasAnyPermission keys right).1 = (evaluator.hasAnyPermission keys left).1 := by
  rw [alike.leftCoherent.outcome_hasAnyPermission, alike.rightCoherent.outcome_hasAnyPermission,
    alike.principal]

theorem Alike.scopeView (alike : evaluator.Alike left.context right.context) (base : Query) :
    (evaluator.scopeView base right).1 = (evaluator.scopeView base left).1 := by
  rw [outcome_scopeView, outcome_scopeView, alike.resolveGrants, alike.scopeContext]

theorem Alike.scopeWrite (alike : evaluator.Alike left.context right.context) (action : Action)
    (resource : ResourceType) (record : Record) (values : Fields) :
    (evaluator.scopeWrite action resource record values right).1 =
      (evaluator.scopeWrite action resource record values left).1 := by
  have request : writeRequest right action resource record values =
      writeRequest left action resource record values := by
    unfold writeRequest
    rw [alike.scopeContext]
  rw [outcome_scopeWrite, outcome_scopeWrite, alike.resolveGrants, request]

/-- A list of changes is decided record by record: after an accepted change the
contexts are still alike. -/
theorem Alike.changeEach (alike : evaluator.Alike left.context right.context)
    (resource : ResourceType) (values : Fields) (records : List Record) :
    (evaluator.changeEach resource values records right).1 =
      (evaluator.changeEach resource values records left).1 := by
  induction records generalizing left right with
  | nil => rfl
  | cons record rest inductionHypothesis =>
      have outcome := alike.scopeWrite .change resource record values
      have leftOn := evaluator.continues_scopeWrite .change resource record values left
      have rightOn := evaluator.continues_scopeWrite .change resource record values right
      unfold Evaluator.changeEach scopeChange
      cases leftChanged : evaluator.scopeWrite .change resource record values left with
      | mk leftOutcome leftNext =>
          cases rightChanged : evaluator.scopeWrite .change resource record values right with
          | mk rightOutcome rightNext =>
              rw [leftChanged, rightChanged] at outcome
              rw [leftChanged] at leftOn
              rw [rightChanged] at rightOn
              have same : rightOutcome = leftOutcome := outcome
              rw [same]
              cases leftOutcome with
              | error error => rfl
              | ok done => exact inductionHypothesis (alike.continued leftOn rightOn)

theorem Alike.scopeChangeList (alike : evaluator.Alike left.context right.context)
    (resource : ResourceType) (records : List Record) (values : Fields) :
    (evaluator.scopeChangeList resource records values right).1 =
      (evaluator.scopeChangeList resource records values left).1 := by
  unfold Evaluator.scopeChangeList
  split
  next => rfl
  next => exact alike.changeEach resource values records

theorem Alike.scopeFileField (alike : evaluator.Alike left.context right.context)
    (resource : ResourceType) (record : Record) (field : String) :
    (evaluator.scopeFileField resource record field right).1 =
      (evaluator.scopeFileField resource record field left).1 := by
  have marked : evaluator.Alike (left.recordDecision .delete).context
      (right.recordDecision .delete).context :=
    alike.continued (continues_record _ .delete) (continues_record _ .delete)
  unfold Evaluator.scopeFileField scopeChange
  dsimp only
  rw [alike.method]
  split
  next => exact marked.scopeWrite .change resource record _
  next => exact alike.scopeWrite .change resource record _

/-- A list of changes succeeds where each change by itself does. -/
theorem Coherent.changeEach_isOk_iff {session : Session}
    (coherent : evaluator.Coherent session.context) (resource : ResourceType) (values : Fields)
    (records : List Record) :
    (evaluator.changeEach resource values records session).1 = .ok () ↔
      ∀ record ∈ records, (evaluator.scopeChange resource record values session).1 = .ok () := by
  induction records generalizing session with
  | nil => exact iff_of_true rfl (fun _ member => absurd member List.not_mem_nil)
  | cons record rest inductionHypothesis =>
      have first := evaluator.continues_scopeWrite .change resource record values session
      have alike : evaluator.Alike session.context
          (evaluator.scopeWrite .change resource record values session).2.context :=
        ⟨first.principal, first.method, first.requestId, coherent, first.coherent coherent⟩
      have others := inductionHypothesis alike.rightCoherent
      have sameForOthers : ∀ other,
          (evaluator.scopeChange resource other values
            (evaluator.scopeWrite .change resource record values session).2).1 =
              (evaluator.scopeChange resource other values session).1 :=
        fun other => alike.scopeWrite .change resource other values
      simp only [sameForOthers] at others
      have single : evaluator.scopeChange resource record values session =
          evaluator.scopeWrite .change resource record values session := rfl
      rw [List.forall_mem_cons, ← others, changeEach, single]
      cases evaluator.scopeWrite .change resource record values session with
      | mk outcome next =>
          cases outcome with
          | error error =>
              refine iff_of_false ?_ ?_
              · intro same
                cases same
              · rintro ⟨same, _⟩
                cases same
          | ok done => exact (and_iff_right rfl).symm

end Evaluator

end RowAccess
