import RowAccess.Proofs.Decision.Poll
import RowAccess.Proofs.Ordered.Set
import RowAccess.Proofs.Session.Grants

/-!
Contract: how access operations answer by the granted scopes.

A view and a write poll every granted scope once. The failure of the least
failing scope stands before any scope that allows; without failure a view needs
some granted scope and a write one that holds, and nothing else is allowed.

Owns:
- the rule by which an operation follows its grants.
- the audit trail of a write, with the fallbacks of every granted scope, and without
  grants.
-/

namespace RowAccess

/-- How an operation answers by the scopes granted for it, where `poll` is its
evaluation of granted scopes, `judge` the verdict of one scope, `close` what the
operation makes of the poll, `allows` the test of scopes none of which fails, and
`denial` the refusal. -/
structure FollowsGrants {α β : Type} (granted : Except AccessError (OrderedSet ScopeName))
    (poll : OrderedSet ScopeName → Poll α) (judge : ScopeName → Verdict α)
    (close : Poll α → Except AccessError β) (allows : List ScopeName → Prop)
    (denial : AccessError) (answer : Except AccessError β) : Prop where
  unresolved : ∀ error, granted = .error error → answer = .error error
  polled : ∀ grants, granted = .ok grants → answer = close (poll grants)
  askedOnce : ∀ grants, (poll grants).asked = grants.toList ∧ grants.toList.Nodup
  traced : ∀ grants,
    (poll grants).fallbacks = grants.toList.flatMap (fun scope => (judge scope).fallbacks)
  failed : ∀ grants, granted = .ok grants →
    (∃ scope ∈ grants.toList, ∃ error, (judge scope).outcome = .error error) →
      ∃ error, Poll.LeastFailure judge grants.toList error ∧ answer = .error error
  allowed : ∀ grants, granted = .ok grants →
    (∀ scope ∈ grants.toList, ∃ value, (judge scope).outcome = .ok value) →
      ((∃ value, answer = .ok value) ↔ allows grants.toList)
  denied : ∀ grants, granted = .ok grants →
    (∀ scope ∈ grants.toList, ∃ value, (judge scope).outcome = .ok value) →
      ¬ allows grants.toList → answer = .error denial
  neverEmpty : granted = .ok OrderedSet.empty → answer = .error denial

namespace FollowsGrants

variable {α β : Type} {granted : Except AccessError (OrderedSet ScopeName)}
  {poll : OrderedSet ScopeName → Poll α} {judge : ScopeName → Verdict α}
  {close : Poll α → Except AccessError β}
  {allows : List ScopeName → Prop} {denial : AccessError} {answer : Except AccessError β}

/-- An operation follows its grants when it collects their verdicts and closes that
poll, keeps a failure, and otherwise allows or denies by the scopes. -/
theorem of_close
    (collected : ∀ grants, poll grants = Poll.collect judge grants.toList)
    (answered : answer =
      match granted with
      | .error error => .error error
      | .ok grants => close (poll grants))
    (keepsFailure : ∀ scopes error,
      (Poll.collect judge scopes).outcome = .error error →
        close (Poll.collect judge scopes) = .error error)
    (allowing : ∀ scopes values,
      (Poll.collect judge scopes).outcome = .ok values → allows scopes →
        ∃ value, close (Poll.collect judge scopes) = .ok value)
    (denying : ∀ scopes values,
      (Poll.collect judge scopes).outcome = .ok values → ¬ allows scopes →
        close (Poll.collect judge scopes) = .error denial)
    (notEmpty : ¬ allows []) :
    FollowsGrants granted poll judge close allows denial answer := by
  have polled : ∀ grants, granted = .ok grants → answer = close (poll grants) := by
    intro grants found
    rw [answered, found]
  refine
    { unresolved := ?_, polled := polled, askedOnce := ?_, traced := ?_, failed := ?_,
      allowed := ?_, denied := ?_, neverEmpty := ?_ }
  · intro error found
    rw [answered, found]
  · intro grants
    rw [collected]
    exact ⟨Poll.asked_collect, grants.nodup⟩
  · intro grants
    rw [collected]
    exact Poll.fallbacks_collect
  · intro grants found failing
    obtain ⟨error, least⟩ := Poll.exists_leastFailure grants.increasing failing
    refine ⟨error, least, ?_⟩
    rw [polled grants found, collected]
    exact keepsFailure _ _ ((Poll.outcome_collect_eq_error grants.increasing).2 least)
  · intro grants found each
    obtain ⟨values, outcome⟩ := Poll.outcome_collect_isOk_iff.2 each
    rw [polled grants found, collected]
    constructor
    · rintro ⟨value, closed⟩
      refine Classical.byContradiction (fun notAllowed => ?_)
      rw [denying _ _ outcome notAllowed] at closed
      cases closed
    · exact allowing _ _ outcome
  · intro grants found each notAllowed
    obtain ⟨values, outcome⟩ := Poll.outcome_collect_isOk_iff.2 each
    rw [polled grants found, collected]
    exact denying _ _ outcome notAllowed
  · intro found
    rw [polled _ found, collected]
    exact denying _ _ Poll.outcome_collect_nil notEmpty

/-- An operation that answers with a value has grants none of which fails, and
which allow it. -/
theorem allows_of_ok (follows : FollowsGrants granted poll judge close allows denial answer)
    {value : β} (answered : answer = .ok value) :
    ∃ grants, granted = .ok grants ∧
      (∀ scope ∈ grants.toList, ∃ own, (judge scope).outcome = .ok own) ∧
      allows grants.toList := by
  cases found : granted with
  | error error =>
      rw [follows.unresolved error found] at answered
      cases answered
  | ok grants =>
      have each : ∀ scope ∈ grants.toList, ∃ own, (judge scope).outcome = .ok own := by
        intro scope member
        cases judged : (judge scope).outcome with
        | ok own => exact ⟨own, rfl⟩
        | error error =>
            obtain ⟨_, _, failed⟩ := follows.failed grants found ⟨scope, member, error, judged⟩
            rw [failed] at answered
            cases answered
      exact ⟨grants, rfl, each, (follows.allowed grants found each).1 ⟨value, answered⟩⟩

end FollowsGrants

namespace Evaluator

variable {evaluator : Evaluator} {session : Session}

/-! ## Views and writes -/

/-- What a view makes of the poll of its scopes. -/
def closeView (context : ScopeContext) (base : Query) (poll : Poll ViewScope) :
    Except AccessError Query :=
  if poll.asked.isEmpty then .error context.denied
  else poll.outcome.map (fun contributions => base.narrow (ViewScope.combine contributions))

theorem viewFilter_eq_close (registry : Registry) (context : ScopeContext) (base : Query)
    (grants : OrderedSet ScopeName) :
    (registry.viewFilter context grants).map base.narrow =
      closeView context base (registry.viewPoll context grants) := by
  have asked : (registry.viewPoll context grants).asked = grants.toList := Poll.asked_collect
  unfold Registry.viewFilter closeView
  rw [asked]
  unfold OrderedSet.isEmpty
  split
  next => rfl
  next => cases (registry.viewPoll context grants).outcome <;> rfl

theorem scopeView_followsGrants (evaluator : Evaluator) (base : Query) (session : Session) :
    FollowsGrants (evaluator.resolveGrants base.resource .view session).1
      (evaluator.authority.registry.viewPoll (session.scopeContext base.resource .view))
      (fun scope => Verdict.of (evaluator.authority.registry.viewScope
        (session.scopeContext base.resource .view) scope))
      (closeView (session.scopeContext base.resource .view) base)
      (fun scopes => scopes ≠ [])
      (.scoping session.context.principal.id base.resource .view)
      (evaluator.scopeView base session).1 := by
  apply FollowsGrants.of_close
  case collected => exact fun _ => rfl
  case answered =>
    rw [outcome_scopeView]
    cases (evaluator.resolveGrants base.resource .view session).1 with
    | error error => rfl
    | ok grants =>
        exact viewFilter_eq_close evaluator.authority.registry
          (session.scopeContext base.resource .view) base grants
  case keepsFailure =>
    intro scopes error found
    unfold closeView
    rw [Poll.asked_collect, found]
    split
    next isEmpty =>
      -- A poll of no scope has no failure to keep.
      rw [List.isEmpty_iff.1 isEmpty] at found
      cases found
    next => rfl
  case allowing =>
    intro scopes values found nonempty
    unfold closeView
    rw [Poll.asked_collect, found, if_neg (fun isEmpty => nonempty (List.isEmpty_iff.1 isEmpty))]
    exact ⟨_, rfl⟩
  case denying =>
    intro scopes values found notAllowed
    unfold closeView
    rw [Poll.asked_collect, if_pos (List.isEmpty_iff.2 (Classical.not_not.1 notAllowed))]
    rfl
  case notEmpty =>
    exact fun nonempty => nonempty rfl

theorem scopeWrite_followsGrants (evaluator : Evaluator) (action : Action)
    (resource : ResourceType) (record : Record) (values : Fields) (session : Session) :
    FollowsGrants (evaluator.resolveGrants resource action session).1
      (evaluator.authority.writePoll (writeRequest session action resource record values))
      (evaluator.authority.scopeVerdict (writeRequest session action resource record values)
        maxCompositionDepth)
      (Authority.tally (writeRequest session action resource record values))
      (fun scopes => ∃ scope ∈ scopes,
        (evaluator.authority.scopeVerdict (writeRequest session action resource record values)
          maxCompositionDepth scope).outcome = .ok true)
      (.scoping session.context.principal.id resource action)
      (evaluator.scopeWrite action resource record values session).1 := by
  apply FollowsGrants.of_close
  case collected => exact fun _ => rfl
  case answered => exact outcome_scopeWrite evaluator action resource record values session
  case keepsFailure =>
    intro scopes error found
    unfold Authority.tally
    rw [found]
  case allowing =>
    intro scopes outcomes found ⟨scope, member, holds⟩
    have someHolds : outcomes.any id = true :=
      List.any_eq_true.2 ⟨true, (Poll.mem_values_iff found true).2 ⟨scope, member, holds⟩, rfl⟩
    unfold Authority.tally
    rw [found]
    dsimp only
    rw [if_pos someHolds]
    exact ⟨(), rfl⟩
  case denying =>
    intro scopes outcomes found notAllowed
    have noneHolds : ¬ outcomes.any id = true := by
      intro someHolds
      obtain ⟨holds, member, isTrue⟩ := List.any_eq_true.1 someHolds
      rw [show holds = true from isTrue] at member
      exact notAllowed ((Poll.mem_values_iff found true).1 member)
    unfold Authority.tally
    rw [found]
    dsimp only
    rw [if_neg noneHolds]
    rfl
  case notEmpty =>
    rintro ⟨_, member, _⟩
    exact absurd member List.not_mem_nil

/-! ## Audit trail -/

/-- Judging the scopes of a write leaves the fallbacks of each of them, in order,
and one event for the decision. -/
theorem trail_scopeWrite {grants : OrderedSet ScopeName} (evaluator : Evaluator) (action : Action)
    (resource : ResourceType) (record : Record) (values : Fields) (session : Session)
    (granted : (evaluator.resolveGrants resource action session).1 = .ok grants) :
    (evaluator.scopeWrite action resource record values session).2.trail =
      session.trail ++
        (grants.toList.flatMap (fun scope =>
          (evaluator.authority.scopeVerdict (writeRequest session action resource record values)
            maxCompositionDepth scope).fallbacks)).map AuditEvent.fallback ++
        [session.decisionEvent resource action grants
          (match (evaluator.scopeWrite action resource record values session).1 with
            | .ok _ => none
            | .error error => some error)] := by
  have looked := evaluator.looked_resolveGrants resource action session
  have fallbacks : (evaluator.authority.writePoll
      (writeRequest session action resource record values) grants).fallbacks =
        grants.toList.flatMap (fun scope =>
          (evaluator.authority.scopeVerdict (writeRequest session action resource record values)
            maxCompositionDepth scope).fallbacks) :=
    Poll.fallbacks_collect
  rw [← fallbacks, ← looked.decisionEvent, ← looked.trail]
  unfold writeRequest
  rw [← looked.scopeContext]
  unfold scopeWrite
  split
  next error next resolved =>
    rw [resolved] at granted
    cases granted
  next found next resolved =>
    rw [resolved] at granted
    cases granted
    dsimp only
    split
    next error failed =>
      rw [resolved]
      rfl
    next decided =>
      rw [resolved]
      rfl

/-- A write without grants is refused before any scope is judged. -/
theorem trail_scopeWrite_of_unresolved {error : AccessError} (evaluator : Evaluator)
    (action : Action) (resource : ResourceType) (record : Record) (values : Fields)
    (session : Session)
    (unresolved : (evaluator.resolveGrants resource action session).1 = .error error) :
    (evaluator.scopeWrite action resource record values session).2.trail =
      session.trail ++
        [session.decisionEvent resource action OrderedSet.empty (some error)] := by
  have looked := evaluator.looked_resolveGrants resource action session
  rw [← looked.decisionEvent, ← looked.trail]
  unfold scopeWrite
  split
  next failure next resolved =>
    rw [resolved] at unresolved ⊢
    cases unresolved
    rfl
  next found next resolved =>
    rw [resolved] at unresolved
    cases unresolved

/-- Views and writes follow their grants, and a write leaves the traces of every
granted scope whatever the others say. -/
theorem operations_follow_grants (evaluator : Evaluator) (session : Session) :
    (∀ base : Query,
      FollowsGrants (evaluator.resolveGrants base.resource .view session).1
        (evaluator.authority.registry.viewPoll (session.scopeContext base.resource .view))
        (fun scope => Verdict.of (evaluator.authority.registry.viewScope
          (session.scopeContext base.resource .view) scope))
        (closeView (session.scopeContext base.resource .view) base)
        (fun scopes => scopes ≠ [])
        (.scoping session.context.principal.id base.resource .view)
        (evaluator.scopeView base session).1) ∧
    ∀ (action : Action) (resource : ResourceType) (record : Record) (values : Fields),
      let judge := evaluator.authority.scopeVerdict
        (writeRequest session action resource record values) maxCompositionDepth
      let written := evaluator.scopeWrite action resource record values session
      FollowsGrants (evaluator.resolveGrants resource action session).1
        (evaluator.authority.writePoll (writeRequest session action resource record values)) judge
        (Authority.tally (writeRequest session action resource record values))
        (fun scopes => ∃ scope ∈ scopes, (judge scope).outcome = .ok true)
        (.scoping session.context.principal.id resource action)
        written.1 ∧
      ∀ grants, (evaluator.resolveGrants resource action session).1 = .ok grants →
        written.2.trail =
          session.trail ++
            (grants.toList.flatMap (fun scope => (judge scope).fallbacks)).map
              AuditEvent.fallback ++
            [session.decisionEvent resource action grants
              (match written.1 with
                | .ok _ => none
                | .error error => some error)] := by
  refine ⟨fun base => evaluator.scopeView_followsGrants base session, ?_⟩
  intro action resource record values judge written
  refine ⟨evaluator.scopeWrite_followsGrants action resource record values session, ?_⟩
  intro grants granted
  exact evaluator.trail_scopeWrite action resource record values session granted

end Evaluator

namespace Desk

/-- A scope that the desk does not know. -/
def visitors : ScopeName := ⟨"visitors"⟩

/-- A change for which a visitor's scope is granted too. -/
def visit : Session := request .put .change [visitors, picked, own]

def visitScopes : OrderedSet ScopeName := OrderedSet.ofList [visitors, picked, own]

def firstTicketChange : WriteRequest :=
  Evaluator.writeRequest visit .change tickets (ticket "1") OrderedMap.empty

/-- A change that one's own scope allows fails with the least scope that fails, and
the scope behind that one is asked too. -/
theorem desk_change_fails_though_own_holds :
    (office.authority.scopeVerdict firstTicketChange maxCompositionDepth own).outcome = .ok true ∧
    (office.authority.writePoll firstTicketChange visitScopes).asked = [own, picked, visitors] ∧
    (office.scopeWrite .change tickets (ticket "1") OrderedMap.empty visit).1 =
      .error (.scopeFailed picked tickets "desk is closed") := by
  have follows :=
    ((Evaluator.operations_follow_grants office visit).2 .change tickets (ticket "1")
      OrderedMap.empty).1
  have pickedFails : (office.authority.scopeVerdict firstTicketChange maxCompositionDepth
      picked).outcome = .error (.scopeFailed picked tickets "desk is closed") := rfl
  obtain ⟨error, ⟨scope, member, failed, least⟩, answered⟩ :=
    follows.failed visitScopes rfl ⟨picked, by decide, _, pickedFails⟩
  refine ⟨rfl, (follows.askedOnce visitScopes).1, ?_⟩
  rw [answered]
  have listed : scope = own ∨ scope = picked ∨ scope = visitors := by
    simpa using (show scope ∈ [own, picked, visitors] from member)
  rcases listed with rfl | rfl | rfl
  · have held : Except.ok true = Except.error error := failed
    cases held
  · rw [Except.error.inj (failed.symm.trans pickedFails)]
  · obtain ⟨value, held⟩ := least picked (by decide) (by decide)
    cases held.symm.trans pickedFails

end Desk

end RowAccess
