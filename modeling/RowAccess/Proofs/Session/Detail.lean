import RowAccess.Proofs.Decision.Detail
import RowAccess.Session.Operation

/-!
Contract: access operations do not depend on the details of failures.

Two evaluators that are the same but for details, in sessions with the same
context, give answers that are the same but for details and leave the same
context, and so the same decision log. Their trails may differ, for these hold the
details.

Owns:
- evaluators that are the same but for details, and runs in the same context.
- the agreement of every operation.
-/

namespace RowAccess

/-- Whether two runs in a session answer alike and end in the same context. -/
abbrev SameRun {α : Type} (left right : Except AccessError α × Session) : Prop :=
  AgreeOn AccessError.SameCause (fun leftNext rightNext => leftNext.context = rightNext.context)
    left right

/-- Whether two evaluators are the same but for what their functions, their resolver
and their grant source say of failures. -/
structure Evaluator.SameButDetail (left right : Evaluator) : Prop where
  authority : left.authority.SameButDetail right.authority
  permissions : left.permissions = right.permissions
  grantSource : ∀ principal, RowAccess.SameButDetail (left.grantSource principal)
    (right.grantSource principal)

theorem Session.scopeContext_of_context {left right : Session}
    (context : left.context = right.context) (resource : ResourceType) (action : Action) :
    left.scopeContext resource action = right.scopeContext resource action := by
  unfold Session.scopeContext
  rw [context]

namespace Evaluator

variable {left right : Evaluator} (same : left.SameButDetail right)
variable {leftSession rightSession : Session}

include same

theorem load_same (principal : Principal) :
    SameAnswer (HeldPermissions.load left.permissions left.grantSource principal)
      (HeldPermissions.load right.permissions right.grantSource principal) := by
  unfold HeldPermissions.load
  rcases (same.grantSource principal).exists_eq with
    ⟨strings, isLeft, isRight⟩ | ⟨_, _, isLeft, isRight, _⟩
  · rw [isLeft, isRight, same.permissions]
    exact SameAnswer.of _
  · rw [isLeft, isRight]
    exact .failure (.store _ _)

theorem heldPermissions_same (context : leftSession.context = rightSession.context) :
    SameRun (left.heldPermissions leftSession) (right.heldPermissions rightSession) := by
  unfold heldPermissions
  rw [context]
  cases rightSession.context.held with
  | some held => exact ⟨.value held, context⟩
  | none =>
      dsimp only
      rcases (load_same same rightSession.context.principal).exists_eq with
        ⟨held, isLeft, isRight⟩ | ⟨_, _, isLeft, isRight, alike⟩
      · rw [isLeft, isRight]
        exact ⟨.value held, rfl⟩
      · rw [isLeft, isRight]
        exact ⟨.failure alike, rfl⟩

theorem resolveGrants_same (resource : ResourceType) (action : Action)
    (context : leftSession.context = rightSession.context) :
    SameRun (left.resolveGrants resource action leftSession)
      (right.resolveGrants resource action rightSession) := by
  have checked : (leftSession.updateContext RequestContext.markChecked).context =
      (rightSession.updateContext RequestContext.markChecked).context :=
    congrArg RequestContext.markChecked context
  have key : left.guardingKey resource action = right.guardingKey resource action := by
    unfold guardingKey
    rw [same.authority.registry.permissionResource]
  unfold resolveGrants
  dsimp only
  rw [checked, key]
  split
  · exact ⟨.value _, checked⟩
  · rcases (heldPermissions_same same checked).exists_eq with
      ⟨held, leftNext, rightNext, isLeft, isRight, next⟩ |
      ⟨_, _, leftNext, rightNext, isLeft, isRight, alike, next⟩
    · rw [isLeft, isRight]
      dsimp only
      rw [next]
      split
      next scopes _ => exact ⟨.value scopes, next⟩
      next => exact ⟨.failure (.same _), next⟩
    · rw [isLeft, isRight]
      exact ⟨.failure alike, next⟩

theorem hasAnyPermission_same (keys : List PermissionKey)
    (context : leftSession.context = rightSession.context) :
    SameRun (left.hasAnyPermission keys leftSession)
      (right.hasAnyPermission keys rightSession) := by
  unfold hasAnyPermission
  rw [context]
  split
  · exact ⟨.value true, context⟩
  · rcases (heldPermissions_same same context).exists_eq with
      ⟨held, leftNext, rightNext, isLeft, isRight, next⟩ |
      ⟨_, _, leftNext, rightNext, isLeft, isRight, alike, next⟩
    · rw [isLeft, isRight]
      exact ⟨.value _, next⟩
    · rw [isLeft, isRight]
      exact ⟨.failure alike, next⟩

theorem scopeView_same (base : Query) (context : leftSession.context = rightSession.context) :
    SameRun (left.scopeView base leftSession) (right.scopeView base rightSession) := by
  unfold scopeView
  dsimp only
  rcases (resolveGrants_same same base.resource .view context).exists_eq with
    ⟨grants, leftNext, rightNext, isLeft, isRight, next⟩ |
    ⟨_, _, leftNext, rightNext, isLeft, isRight, alike, next⟩
  · rw [isLeft, isRight]
    dsimp only
    rw [Session.scopeContext_of_context next]
    rcases (Registry.viewFilter_same same.authority.registry
      (rightNext.scopeContext base.resource .view) grants).exists_eq with
      ⟨filter, givesLeft, givesRight⟩ | ⟨_, _, givesLeft, givesRight, alike⟩
    · rw [givesLeft, givesRight]
      exact ⟨.value _, congrArg (fun before => before.record .view) next⟩
    · rw [givesLeft, givesRight]
      exact ⟨.failure alike, next⟩
  · rw [isLeft, isRight]
    exact ⟨.failure alike, next⟩

theorem scopeWrite_same (action : Action) (resource : ResourceType) (record : Record)
    (values : Fields) (context : leftSession.context = rightSession.context) :
    SameRun (left.scopeWrite action resource record values leftSession)
      (right.scopeWrite action resource record values rightSession) := by
  unfold scopeWrite
  rcases (resolveGrants_same same resource action context).exists_eq with
    ⟨grants, leftNext, rightNext, isLeft, isRight, next⟩ |
    ⟨_, _, leftNext, rightNext, isLeft, isRight, alike, next⟩
  · rw [isLeft, isRight]
    dsimp only
    rw [Session.scopeContext_of_context next]
    rcases (Authority.tally_same same.authority
      ⟨rightNext.scopeContext resource action, record, values⟩ grants).exists_eq with
      ⟨_, givesLeft, givesRight⟩ | ⟨_, _, givesLeft, givesRight, alike⟩
    · rw [givesLeft, givesRight]
      exact ⟨.value _, congrArg (fun before => before.record action) next⟩
    · rw [givesLeft, givesRight]
      exact ⟨.failure alike, next⟩
  · rw [isLeft, isRight]
    exact ⟨.failure alike, next⟩

theorem changeEach_same (resource : ResourceType) (values : Fields) (records : List Record)
    (context : leftSession.context = rightSession.context) :
    SameRun (left.changeEach resource values records leftSession)
      (right.changeEach resource values records rightSession) := by
  induction records generalizing leftSession rightSession with
  | nil => exact ⟨.value (), context⟩
  | cons record rest inductionHypothesis =>
      unfold changeEach scopeChange
      rcases (scopeWrite_same same .change resource record values context).exists_eq with
        ⟨_, leftNext, rightNext, isLeft, isRight, next⟩ |
        ⟨_, _, leftNext, rightNext, isLeft, isRight, alike, next⟩
      · rw [isLeft, isRight]
        exact inductionHypothesis next
      · rw [isLeft, isRight]
        exact ⟨.failure alike, next⟩

theorem scopeChangeList_same (resource : ResourceType) (records : List Record) (values : Fields)
    (context : leftSession.context = rightSession.context) :
    SameRun (left.scopeChangeList resource records values leftSession)
      (right.scopeChangeList resource records values rightSession) := by
  unfold scopeChangeList
  split
  · exact ⟨.value (), congrArg (fun before => before.markChecked.record .change) context⟩
  · exact changeEach_same same resource values records context

theorem scopeFileField_same (resource : ResourceType) (record : Record) (field : String)
    (context : leftSession.context = rightSession.context) :
    SameRun (left.scopeFileField resource record field leftSession)
      (right.scopeFileField resource record field rightSession) := by
  unfold scopeFileField
  dsimp only
  rw [context]
  refine scopeWrite_same same .change resource record _ ?_
  split
  · exact congrArg (fun before => before.record .delete) context
  · exact context

end Evaluator

end RowAccess
