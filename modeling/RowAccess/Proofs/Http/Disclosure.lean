import RowAccess.Http.Service
import RowAccess.Proofs.Guard.History
import RowAccess.Proofs.Session.Detail

/-!
Contract: the details of failures do not reach a client.

Details neither choose how a guarded run goes on nor show in its response: an error
of the operator's is answered with its code and a fixed text, and a denial names
the principal and what was asked for only. So two runs that are the same but for
details make the same transaction calls and decisions and are answered alike.

Owns:
- guarded states that show the same, and handlers that keep them so.
- programs and courses that hand on their failures.
- the responses to runs that are the same but for details.
-/

namespace RowAccess

/-- Whether which calls of a transaction fail is the same, with whatever details. -/
def TransactionFaults.SameButDetail (left right : TransactionFaults) : Prop :=
  ∀ calls kind, (left calls kind).isSome = (right calls kind).isSome

/-- Whether two states are of the same context and have made the same transaction
calls, to the same effect. -/
structure GuardState.ShowsSame {ρ : Type} (left right : GuardState ρ) : Prop where
  context : left.session.context = right.session.context
  transactions : left.transactions = right.transactions

/-- Whether two runs answer alike and end in states that show the same. -/
abbrev SameEnd {ρ α : Type} (left right : Except AccessError α × GuardState ρ) : Prop :=
  AgreeOn AccessError.SameCause GuardState.ShowsSame left right

namespace Guard

variable {ρ : Type} {left right : GuardState ρ}

theorem showsSame_updateContext (same : left.ShowsSame right)
    (update : RequestContext → RequestContext) :
    (left.updateContext update).ShowsSame (right.updateContext update) :=
  ⟨congrArg update same.context, same.transactions⟩

section Faults

variable {leftFaults rightFaults : TransactionFaults}
variable (faults : leftFaults.SameButDetail rightFaults)

include faults

/-- A transaction call fails in both states, or succeeds to the same effect. -/
theorem callTransaction_same (same : left.ShowsSame right) (kind : TransactionCall) :
    AgreeOn (fun _ _ => True) GuardState.ShowsSame (left.callTransaction leftFaults kind)
      (right.callTransaction rightFaults kind) := by
  have failing := faults right.transactions.calls kind
  unfold GuardState.callTransaction Transactions.call
  rw [same.transactions]
  cases fromLeft : leftFaults right.transactions.calls kind with
  | none =>
      rw [fromLeft] at failing
      rw [Option.isNone_iff_eq_none.1 (Option.isSome_eq_false_iff.1 failing.symm)]
      exact ⟨.value (), same.context, rfl⟩
  | some error =>
      rw [fromLeft] at failing
      obtain ⟨other, fromRight⟩ := Option.isSome_iff_exists.1 failing.symm
      rw [fromRight]
      exact ⟨.failure trivial, same.context, rfl⟩

theorem rollBack_same (same : left.ShowsSame right) (leftCause rightCause : String) :
    (rollBack leftFaults leftCause left).ShowsSame (rollBack rightFaults rightCause right) := by
  unfold rollBack
  rcases (callTransaction_same faults same .rollback).exists_eq with
    ⟨_, leftNext, rightNext, isLeft, isRight, next⟩ |
    ⟨_, _, leftNext, rightNext, isLeft, isRight, _, next⟩
  · rw [isLeft, isRight]
    exact next
  · rw [isLeft, isRight]
    exact ⟨next.context, next.transactions⟩

theorem commit_same (same : left.ShowsSame right) (status : Nat) :
    SameEnd (commit leftFaults status left) (commit rightFaults status right) := by
  unfold commit
  rcases (callTransaction_same faults same .commit).exists_eq with
    ⟨_, leftNext, rightNext, isLeft, isRight, next⟩ |
    ⟨_, _, leftNext, rightNext, isLeft, isRight, _, next⟩
  · rw [isLeft, isRight]
    exact ⟨.value status, next⟩
  · rw [isLeft, isRight]
    exact ⟨.failure (.store _ _), next⟩

theorem conclude_same {leftOutcome rightOutcome : Except AccessError Nat}
    (outcome : SameAnswer leftOutcome rightOutcome) (same : left.ShowsSame right) :
    SameEnd (conclude leftFaults leftOutcome left) (conclude rightFaults rightOutcome right) := by
  cases outcome with
  | failure alike => exact ⟨.failure alike, rollBack_same faults same _ _⟩
  | value status =>
      unfold conclude
      dsimp only
      rw [same.context]
      split
      · exact commit_same faults same status
      · split
        next => exact commit_same faults same status
        next violation _ =>
          have audited : (auditViolation left violation.message).ShowsSame
              (auditViolation right violation.message) := ⟨same.context, same.transactions⟩
          exact ⟨.failure (.same violation), rollBack_same faults audited _ _⟩

/-- Guarded runs of handlers that end alike from states that show the same do so too. -/
theorem run_same {leftHandler rightHandler : Handler ρ}
    (handlers : ∀ leftInner rightInner : GuardState ρ, leftInner.ShowsSame rightInner →
      SameEnd (leftHandler leftInner) (rightHandler rightInner))
    (same : left.ShowsSame right) :
    SameEnd (run leftFaults leftHandler left) (run rightFaults rightHandler right) := by
  unfold run
  rw [same.context]
  split
  next nested =>
    unfold runNested
    dsimp only
    rw [same.context]
    have ran := handlers _ _ (showsSame_updateContext same
      (fun context => context.withDepth (right.session.context.depth + 1)))
    exact ⟨ran.outcome, showsSame_updateContext ran.state _⟩
  next outermost =>
    have reset := showsSame_updateContext same RequestContext.resetEnforcement
    unfold runOutermost
    rcases (callTransaction_same faults reset .start).exists_eq with
      ⟨_, leftNext, rightNext, isLeft, isRight, next⟩ |
      ⟨_, _, leftNext, rightNext, isLeft, isRight, _, next⟩
    · rw [isLeft, isRight]
      have ran := handlers _ _
        (showsSame_updateContext next (fun context => context.withDepth 1))
      exact conclude_same faults ran.outcome (showsSame_updateContext ran.state _)
    · rw [isLeft, isRight]
      exact ⟨.failure (.store _ _), next⟩

end Faults

end Guard

/-! ## Programs -/

/-- Whether handlers run in environments that are the same but for details. What a
query selects from a collection shows in the transcript only. -/
structure HandlerEnvironment.SameButDetail (left right : HandlerEnvironment) : Prop where
  evaluator : left.evaluator.SameButDetail right.evaluator
  faults : left.faults.SameButDetail right.faults

namespace HandlerEnvironment

/-- What a step notes of its value has no part in how it ends. -/
theorem settle_same {α : Type} {leftOutcome rightOutcome : Except AccessError α}
    (leftDescribe rightDescribe : α → StepResult) {left right : HandlerState}
    (outcome : SameAnswer (leftOutcome.map (fun _ => ())) (rightOutcome.map (fun _ => ())))
    (same : left.ShowsSame right) :
    SameEnd (settle leftDescribe leftOutcome left) (settle rightDescribe rightOutcome right) := by
  have noted : ∀ leftResult rightResult : StepResult,
      (left.note leftResult).ShowsSame (right.note rightResult) :=
    fun _ _ => ⟨same.context, same.transactions⟩
  cases leftOutcome with
  | ok leftValue =>
      cases rightOutcome with
      | ok rightValue => exact ⟨.value (), noted _ _⟩
      | error error => cases outcome
  | error leftError =>
      cases rightOutcome with
      | ok rightValue => cases outcome
      | error rightError =>
          cases outcome with
          | failure alike => exact ⟨.failure alike, noted _ _⟩

theorem perform_same {α : Type}
    {leftOperation rightOperation : Session → Except AccessError α × Session}
    (leftDescribe rightDescribe : α → StepResult) {left right : HandlerState}
    (operations : left.session.context = right.session.context →
      SameRun (leftOperation left.session) (rightOperation right.session))
    (same : left.ShowsSame right) :
    SameEnd (perform leftDescribe leftOperation left)
      (perform rightDescribe rightOperation right) := by
  have ran := operations same.context
  unfold perform
  exact settle_same leftDescribe rightDescribe (ran.outcome.map _) ⟨ran.state, same.transactions⟩

mutual

/-- By the structure of steps; only guarded runs have steps inside. -/
theorem runStep_same {left right : HandlerEnvironment} (same : left.SameButDetail right) :
    (step : HandlerStep) → (leftState rightState : HandlerState) →
      leftState.ShowsSame rightState →
        SameEnd (runStep left step leftState) (runStep right step rightState)
  | .view query execute, leftState, rightState, states =>
      perform_same _ _ (Evaluator.scopeView_same same.evaluator query) states
  | .history resource key execute, leftState, rightState, states =>
      perform_same _ _ (Evaluator.scopeView_same same.evaluator _) states
  | .write action resource record values, leftState, rightState, states =>
      perform_same _ _
        (Evaluator.scopeWrite_same same.evaluator action resource record values) states
  | .changeList resource records values, leftState, rightState, states =>
      perform_same _ _
        (Evaluator.scopeChangeList_same same.evaluator resource records values) states
  | .store isNew resource record values, leftState, rightState, states =>
      perform_same _ _ (Evaluator.scopeWrite_same same.evaluator _ resource record values) states
  | .fileField resource record field, leftState, rightState, states =>
      perform_same _ _
        (Evaluator.scopeFileField_same same.evaluator resource record field) states
  | .grants resource action, leftState, rightState, states =>
      perform_same _ _ (Evaluator.resolveGrants_same same.evaluator resource action) states
  | .hasAny keys, leftState, rightState, states =>
      perform_same _ _ (Evaluator.hasAnyPermission_same same.evaluator keys) states
  | .markUnscoped, leftState, rightState, states => by
      unfold runStep
      exact settle_same _ _ (.value ()) (Guard.showsSame_updateContext states _)
  | .authenticate principal, leftState, rightState, states => by
      unfold runStep
      exact settle_same _ _ (.value ()) (Guard.showsSame_updateContext states _)
  | .resolve resource scope action, leftState, rightState, states => by
      refine settle_same _ _ ?_ states
      rcases same.evaluator.authority.registry.resolve resource scope action with
        ⟨leftRule, rightRule, isLeft, isRight, _⟩ | ⟨error, isLeft, isRight⟩
      · rw [isLeft, isRight]
        exact .value ()
      · rw [isLeft, isRight]
        exact .failure (.same error)
  | .permissions, leftState, rightState, states => settle_same _ _ (.value ()) states
  | .check, leftState, rightState, states => by
      refine settle_same _ _ ?_ states
      rw [states.context]
      exact SameAnswer.of _
  | .stage key value, leftState, rightState, states => by
      unfold runStep
      exact settle_same _ _ (.value ())
        ⟨states.context, congrArg (fun before => before.write key value) states.transactions⟩
  | .fail error, leftState, rightState, states => settle_same _ _ (SameAnswer.of _) states
  | .guard steps status, leftState, rightState, states => by
      have ran := Guard.run_same same.faults (fun leftInner rightInner inner =>
        (runSteps_same same steps leftInner rightInner inner).map (fun _ => status)) states
      unfold runStep
      exact settle_same _ _ (ran.outcome.map _) ran.state
  | .attempt step, leftState, rightState, states => by
      unfold runStep
      exact ⟨.value (), (runStep_same same step leftState rightState states).state⟩

theorem runSteps_same {left right : HandlerEnvironment} (same : left.SameButDetail right) :
    (steps : List HandlerStep) → (leftState rightState : HandlerState) →
      leftState.ShowsSame rightState →
        SameEnd (runSteps left steps leftState) (runSteps right steps rightState)
  | [], leftState, rightState, states => ⟨.value (), states⟩
  | step :: rest, leftState, rightState, states => by
      unfold runSteps
      rcases (runStep_same same step leftState rightState states).exists_eq with
        ⟨_, leftNext, rightNext, isLeft, isRight, next⟩ |
        ⟨_, _, leftNext, rightNext, isLeft, isRight, alike, next⟩
      · rw [isLeft, isRight]
        exact runSteps_same same rest leftNext rightNext next
      · rw [isLeft, isRight]
        exact ⟨.failure alike, next⟩

end

theorem runGuarded_same {left right : HandlerEnvironment} (same : left.SameButDetail right)
    (steps : List HandlerStep) (status : Nat) {leftState rightState : HandlerState}
    (states : leftState.ShowsSame rightState) :
    SameEnd (left.runGuarded steps status leftState) (right.runGuarded steps status rightState) :=
  Guard.run_same same.faults (fun leftInner rightInner inner =>
    (runSteps_same same steps leftInner rightInner inner).map (fun _ => status)) states

end HandlerEnvironment

/-! ## Courses -/

/-- A course that hands on its failures: where a call or a guarded run inside fails,
it fails the same. What succeeds may decide how it goes on. -/
inductive Course.HandsOn : Course → Prop
  | answer (outcome : Except AccessError Nat) : HandsOn (.answer outcome)
  | look {next : RequestContext → Course} (onward : ∀ context, HandsOn (next context)) :
      HandsOn (.look next)
  | ask {call : AccessCall} {next : Except AccessError AccessReply → Course}
      (fails : ∀ error, next (.error error) = .answer (.error error))
      (onward : ∀ reply, HandsOn (next (.ok reply))) : HandsOn (.ask call next)
  | authenticate {principal : Principal} {next : Course} (onward : HandsOn next) :
      HandsOn (.authenticate principal next)
  | present {principal : Principal} {next : Course} (onward : HandsOn next) :
      HandsOn (.present principal next)
  | stage {key : String} {value : Json} {next : Course} (onward : HandsOn next) :
      HandsOn (.stage key value next)
  | guarded {inner : Course} {next : Except AccessError Nat → Course} (inside : HandsOn inner)
      (fails : ∀ error, next (.error error) = .answer (.error error))
      (onward : ∀ status, HandsOn (next (.ok status))) : HandsOn (.guarded inner next)

section Calls

variable {left right : Evaluator} (same : left.SameButDetail right)
variable {leftSession rightSession : Session}
variable (context : leftSession.context = rightSession.context)

include same context

theorem Operation.perform_same (operation : Operation) :
    SameRun (operation.perform left leftSession) (operation.perform right rightSession) := by
  cases operation with
  | view base => exact (Evaluator.scopeView_same same base context).map _
  | history resource key => exact (Evaluator.scopeView_same same _ context).map _
  | add resource record values =>
      exact (Evaluator.scopeWrite_same same .add resource record values context).map _
  | change resource record values =>
      exact (Evaluator.scopeWrite_same same .change resource record values context).map _
  | delete resource record values =>
      exact (Evaluator.scopeWrite_same same .delete resource record values context).map _
  | store isNew resource record values =>
      exact (Evaluator.scopeWrite_same same _ resource record values context).map _
  | hasAnyPermission keys => exact (Evaluator.hasAnyPermission_same same keys context).map _
  | markUnscoped => exact ⟨.value _, congrArg RequestContext.markUnscoped context⟩

theorem AccessCall.perform_same (call : AccessCall) :
    SameRun (call.perform left leftSession) (call.perform right rightSession) := by
  cases call with
  | single operation => exact (operation.perform_same same context).map _
  | changeList resource records values =>
      exact (Evaluator.scopeChangeList_same same resource records values context).map _
  | fileField resource record field =>
      exact (Evaluator.scopeFileField_same same resource record field context).map _
  | grants resource action =>
      exact (Evaluator.resolveGrants_same same resource action context).map _

end Calls

/-- A course that hands on its failures ends alike in environments that are the same
but for details. -/
theorem Course.run_same {left right : HandlerEnvironment} (same : left.SameButDetail right)
    {course : Course} (handsOn : course.HandsOn) {leftState rightState : GuardState RequestContext}
    (states : leftState.ShowsSame rightState) :
    SameEnd (course.run left.evaluator left.faults leftState)
      (course.run right.evaluator right.faults rightState) := by
  induction handsOn generalizing leftState rightState with
  | answer outcome => exact ⟨SameAnswer.of outcome, states⟩
  | look onward inductionHypothesis =>
      unfold Course.run
      rw [states.context]
      exact inductionHypothesis _ states
  | @ask call next fails onward inductionHypothesis =>
      have performed := call.perform_same same.evaluator states.context
      unfold Course.run
      dsimp only
      rcases performed.exists_eq with
        ⟨reply, leftNext, rightNext, isLeft, isRight, after⟩ |
        ⟨leftError, rightError, leftNext, rightNext, isLeft, isRight, alike, after⟩
      · rw [isLeft, isRight]
        exact inductionHypothesis reply ⟨after, states.transactions⟩
      · rw [isLeft, isRight]
        dsimp only
        rw [fails, fails]
        exact ⟨.failure alike, after, states.transactions⟩
  | authenticate onward inductionHypothesis =>
      exact inductionHypothesis (Guard.showsSame_updateContext states _)
  | present onward inductionHypothesis =>
      exact inductionHypothesis (Guard.showsSame_updateContext states _)
  | @stage key value next onward inductionHypothesis =>
      exact inductionHypothesis
        ⟨states.context, congrArg (fun before => before.write key value) states.transactions⟩
  | @guarded inner next inside fails onward innerHypothesis nextHypothesis =>
      have ran := Guard.run_same same.faults
        (fun leftInner rightInner shown => innerHypothesis shown) states
      unfold Course.run
      dsimp only
      rcases ran.exists_eq with
        ⟨status, leftNext, rightNext, isLeft, isRight, after⟩ |
        ⟨_, _, leftNext, rightNext, isLeft, isRight, alike, after⟩
      · rw [isLeft, isRight]
        exact nextHypothesis status after
      · rw [isLeft, isRight]
        dsimp only
        rw [fails, fails]
        exact ⟨.failure alike, after⟩

/-! ## Responses -/

namespace Http

/-- Errors of the same cause are answered alike. -/
theorem Response.ofAccessError_same {left right : AccessError} (alike : left.SameCause right) :
    Response.ofAccessError left = Response.ofAccessError right := by
  cases alike <;> rfl

/-- The response to a guarded run. -/
def Response.ofRun : Except AccessError Nat → Response
  | .ok status => ⟨status, some Service.doneBody⟩
  | .error error => Response.ofAccessError error

/-- Whether two runs are the same to the outside: their responses, their contexts with
the decision logs, and what they did to the transactions. -/
structure SameToClient {ρ : Type} (left right : Except AccessError Nat × GuardState ρ) : Prop where
  response : Response.ofRun left.1 = Response.ofRun right.1
  context : left.2.session.context = right.2.session.context
  transactions : left.2.transactions = right.2.transactions

theorem SameToClient.of_sameEnd {ρ : Type} {left right : Except AccessError Nat × GuardState ρ}
    (same : SameEnd left right) : SameToClient left right where
  response := by
    rcases same.outcome.exists_eq with ⟨status, isLeft, isRight⟩ | ⟨_, _, isLeft, isRight, alike⟩
    · rw [isLeft, isRight]
    · rw [isLeft, isRight]
      exact Response.ofAccessError_same alike
  context := same.state.context
  transactions := same.state.transactions

/-- Guarded runs in environments that are the same but for details are the same to the
outside, of every program, and of every course that hands on its failures; a service
answers them alike. Look-ups of related records are among the details, as far as the
scopes of relations use them. -/
theorem details_do_not_reach_clients {left right : HandlerEnvironment}
    (same : left.SameButDetail right) :
    (∀ (steps : List HandlerStep) (status : Nat) (leftState rightState : HandlerState),
      leftState.ShowsSame rightState →
        SameToClient (left.runGuarded steps status leftState)
          (right.runGuarded steps status rightState)) ∧
    (∀ (course : Course) (leftState rightState : GuardState RequestContext),
      course.HandsOn → leftState.ShowsSame rightState →
        SameToClient (Guard.run left.faults (course.run left.evaluator left.faults) leftState)
          (Guard.run right.faults (course.run right.evaluator right.faults) rightState)) ∧
    (∀ (service : Service) (admission : Admission) (steps : List HandlerStep) (status : Nat),
      let fromLeft := { service with environment := left }.handle admission steps status
      let fromRight := { service with environment := right }.handle admission steps status
      fromLeft.1.response = fromRight.1.response ∧
        fromLeft.2.transactions = fromRight.2.transactions) ∧
    ∀ (leftLookup rightLookup : RelatedLookup), leftLookup.SameButDetail rightLookup →
      ∀ (paths : OrderedMap ScopeName FieldPath) (resource : ResourceType) (scope : ScopeName),
        Option.Rel ScopeRule.SameButDetail
          (RelationScopes.provider ⟨paths, leftLookup⟩ resource scope)
          (RelationScopes.provider ⟨paths, rightLookup⟩ resource scope) := by
  refine ⟨?_, ?_, ?_, ?_⟩
  · intro steps status leftState rightState states
    exact .of_sameEnd (HandlerEnvironment.runGuarded_same same steps status states)
  · intro course leftState rightState handsOn states
    exact .of_sameEnd (Guard.run_same same.faults
      (fun leftInner rightInner shown => Course.run_same same handsOn shown) states)
  · intro service admission steps status
    let entered : HandlerState :=
      ⟨⟨admission.context, service.trail, service.grantLoads⟩, service.transactions, []⟩
    have shown : entered.ShowsSame entered := ⟨rfl, rfl⟩
    have ran := SameToClient.of_sameEnd
      (HandlerEnvironment.runGuarded_same same steps status shown)
    exact ⟨ran.response, ran.transactions⟩
  · intro leftLookup rightLookup lookups paths resource scope
    exact RelationScopes.provider_same lookups resource paths scope

end Http

namespace Desk

open Http

/-- The tickets whose owner is active. -/
def active : ScopeName := ⟨"active"⟩

/-- A desk that looks the owner of a ticket up. -/
def following (lookup : RelatedLookup) : Registry :=
  ⟨OrderedMap.ofList
    [(tickets,
      { resource := tickets
        rules := OrderedMap.empty
        permissionsVia := none
        provider := some (RelationScopes.provider
          ⟨OrderedMap.ofList [(active, ⟨"owner", ["active"], by decide⟩)], lookup⟩) })]⟩

/-- An environment in which look-ups and rollbacks fail. -/
def failing (error : StoreError) : HandlerEnvironment where
  evaluator :=
    { authority := ⟨following (fun _ _ _ => .error error), SubsetResolver.localOnly⟩
      permissions := PermissionMap.empty
      grantSource := GrantSource.ofPrincipal }
  collection := none
  faults := fun _ kind => if kind = .rollback then some error else none

theorem following_same {left right : RelatedLookup} (same : left.SameButDetail right) :
    (following left).SameButDetail (following right) := by
  have found : ∀ (lookup : RelatedLookup) (resource : ResourceType),
      (following lookup).find? resource = if resource = tickets then
        (following lookup).find? tickets else none := by
    intro lookup resource
    unfold Registry.find? following OrderedMap.ofList OrderedMap.insertAll
    simp only [List.foldl_cons, List.foldl_nil, OrderedMap.find?_insert, OrderedMap.find?_empty,
      if_true]
  refine ⟨fun resource => ?_, fun resource scope => ?_, fun resource scope => ?_⟩
  · unfold Registry.permissionResource
    rw [found left, found right]
    by_cases isTickets : resource = tickets
    · rw [if_pos isTickets, if_pos isTickets]
      rfl
    · rw [if_neg isTickets, if_neg isTickets]
  · unfold Registry.registered?
    rw [found left, found right]
    split <;> exact .none
  · unfold Registry.provided?
    rw [found left, found right]
    split
    · exact RelationScopes.provider_same same resource _ scope
    · exact .none

theorem failing_same (left right : StoreError) : (failing left).SameButDetail (failing right) where
  evaluator :=
    { authority := ⟨following_same (fun _ _ _ => .failure trivial), fun _ => SameButDetail.of _⟩
      permissions := rfl
      grantSource := fun _ => SameButDetail.of _ }
  faults := by
    intro calls kind
    unfold failing
    dsimp only
    split <;> rfl

/-- A change of a ticket whose owner cannot be looked up, which cannot be rolled back
either, in a request that may change the tickets of active owners. -/
def blockedChange (error : StoreError) : Except AccessError Nat × HandlerState :=
  let owned : Record := ⟨⟨"1"⟩, OrderedMap.ofList [("owner", .string "7")]⟩
  (failing error).runGuarded [.write .change tickets owned OrderedMap.empty] 200
    (GuardState.start (request .put .change [active]))

/-- The texts of the look-up differ, and with them the errors; the responses do not. -/
theorem desk_hides_the_disk :
    (blockedChange ⟨.io, "disk 3"⟩).1 ≠ (blockedChange ⟨.corrupt, "row 8"⟩).1 ∧
    SameToClient (blockedChange ⟨.io, "disk 3"⟩) (blockedChange ⟨.corrupt, "row 8"⟩) ∧
    (Response.ofRun (blockedChange ⟨.io, "disk 3"⟩).1).status = 500 ∧
    (blockedChange ⟨.io, "disk 3"⟩).2.transactions.calls = [.start, .rollback] := by
  refine ⟨by decide +kernel, ?_, by decide +kernel, by decide +kernel⟩
  exact (details_do_not_reach_clients (failing_same ⟨.io, "disk 3"⟩ ⟨.corrupt, "row 8"⟩)).1 _ 200
    _ _ ⟨rfl, rfl⟩

end Desk

end RowAccess
