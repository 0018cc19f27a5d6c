import RowAccess.Proofs.Decision.View
import RowAccess.Proofs.Session.Grants

/-!
Contract: the rows that a principal's view shows.

The query a view answers with, executed on a collection, shows the records that
the base query and at least one granted scope admit. It shows what the queries
of the granted scopes show, each taken alone, and it is executed where they are.

Owns:
- the view of a session that holds a single scope.
- the rows of a view as the union of those single views.
-/

namespace RowAccess

namespace Evaluator

variable {evaluator : Evaluator} {base : Query} {session : Session}

/-- The outcome of a view where a single scope is granted. -/
def viewOfOne (evaluator : Evaluator) (base : Query) (session : Session) (scope : ScopeName) :
    Except AccessError Query :=
  (evaluator.scopeView base
    (session.holding (evaluator.guardingKey base.resource .view)
      (OrderedSet.singleton scope))).1

/-- Whether a granted scope admits a record of a collection to the session's view. -/
def GrantAdmits (evaluator : Evaluator) (session : Session) (collection : Collection)
    (record : Record) (scope : ScopeName) : Prop :=
  ∃ contribution,
    evaluator.authority.registry.viewScope
      (session.scopeContext collection.resource .view) scope = .ok contribution ∧
    contribution.Admits collection record

/-- Where a single granted scope is held, it is the one that is granted. -/
theorem grants_holding_singleton {resource : ResourceType} {action : Action}
    {grants : OrderedSet ScopeName} {scope : ScopeName}
    (granted : (evaluator.resolveGrants resource action session).1 = .ok grants)
    (member : scope ∈ grants.toList) :
    (evaluator.resolveGrants resource action
      (session.holding (evaluator.guardingKey resource action)
        (OrderedSet.singleton scope))).1 = .ok (OrderedSet.singleton scope) := by
  by_cases superuser : session.context.principal.superuser = true
  · rw [evaluator.grants_of_superuser resource action superuser] at granted
    have isAll : scope = ScopeName.all := by
      rw [← Except.ok.inj granted] at member
      exact List.mem_singleton.1 member
    rw [isAll]
    exact evaluator.grants_of_superuser resource action superuser
  · exact evaluator.grants_holding session resource action _ superuser

/-- A view that succeeds narrows its query by one contribution of each granted scope. -/
theorem contributions_of_scopeView {query : Query}
    (viewed : (evaluator.scopeView base session).1 = .ok query) :
    ∃ grants contributions,
      (evaluator.resolveGrants base.resource .view session).1 = .ok grants ∧
      (evaluator.authority.registry.viewPoll
        (session.scopeContext base.resource .view) grants).outcome = .ok contributions ∧
      query = base.narrow (ViewScope.combine contributions) := by
  rw [outcome_scopeView] at viewed
  cases granted : (evaluator.resolveGrants base.resource .view session).1 with
  | error error =>
      rw [granted] at viewed
      cases viewed
  | ok grants =>
      rw [granted] at viewed
      cases filtered : evaluator.authority.registry.viewFilter
          (session.scopeContext base.resource .view) grants with
      | error error =>
          simp only [filtered] at viewed
          cases viewed
      | ok filter =>
          simp only [filtered] at viewed
          cases viewed
          obtain ⟨contributions, polled, rfl⟩ := Registry.viewFilter_eq_ok filtered
          exact ⟨grants, contributions, rfl, polled, rfl⟩

/-- Where a single scope is held, a view narrows its query by what it contributes. -/
theorem viewOfOne_eq {grants : OrderedSet ScopeName} {scope : ScopeName}
    {contribution : ViewScope}
    (granted : (evaluator.resolveGrants base.resource .view session).1 = .ok grants)
    (member : scope ∈ grants.toList)
    (contributed : evaluator.authority.registry.viewScope
      (session.scopeContext base.resource .view) scope = .ok contribution) :
    evaluator.viewOfOne base session scope =
      .ok (base.narrow (ViewScope.combine [contribution])) := by
  unfold viewOfOne
  rw [outcome_scopeView, grants_holding_singleton granted member]
  have filtered := Registry.viewFilter_singleton contributed
  change (Except.map base.narrow (evaluator.authority.registry.viewFilter
    (session.scopeContext base.resource .view) (OrderedSet.singleton scope))) = _
  rw [filtered]
  rfl

/-! ## Rows of a view -/

section Rows

variable {collection : Collection} {grants : OrderedSet ScopeName}
  {contributions : List ViewScope} {rows : List Record}

/-- The rows of a view's query are the records that the base query and some
granted scope admit. -/
theorem mem_rows_iff_grantAdmits (sameResource : collection.resource = base.resource)
    (polled : (evaluator.authority.registry.viewPoll
      (session.scopeContext base.resource .view) grants).outcome = .ok contributions)
    (executed : collection.execute (base.narrow (ViewScope.combine contributions)) = .ok rows)
    (record : Record) :
    record ∈ rows ↔
      record ∈ collection.records.values ∧
      (∀ filter ∈ base.filters, filter.admits collection.resolve record = .ok true) ∧
      ∃ scope ∈ grants.toList, evaluator.GrantAdmits session collection record scope := by
  have contributes := Registry.mem_contributions_iff polled
  rw [ViewScope.mem_rows_of_execute_narrow executed]
  unfold GrantAdmits
  rw [sameResource]
  refine and_congr_right (fun _ => and_congr_right (fun _ => ?_))
  constructor
  · rintro ⟨contribution, inList, admits⟩
    obtain ⟨scope, member, contributed⟩ := (contributes contribution).1 inList
    exact ⟨scope, member, contribution, contributed, admits⟩
  · rintro ⟨scope, member, contribution, contributed, admits⟩
    exact ⟨contribution, (contributes contribution).2 ⟨scope, member, contributed⟩, admits⟩

/-- The rows of a view's query are those of the queries of the granted scopes,
each taken alone. -/
theorem mem_rows_iff_mem_alone
    (granted : (evaluator.resolveGrants base.resource .view session).1 = .ok grants)
    (polled : (evaluator.authority.registry.viewPoll
      (session.scopeContext base.resource .view) grants).outcome = .ok contributions)
    (executable : ∀ contribution ∈ contributions, ∃ own,
      collection.execute (base.narrow (ViewScope.combine [contribution])) = .ok own)
    (executed : collection.execute (base.narrow (ViewScope.combine contributions)) = .ok rows)
    (record : Record) :
    record ∈ rows ↔
      ∃ scope ∈ grants.toList, ∃ single own,
        evaluator.viewOfOne base session scope = .ok single ∧
          collection.execute single = .ok own ∧ record ∈ own := by
  have contributes := Registry.mem_contributions_iff polled
  rw [ViewScope.mem_rows_of_execute_narrow executed]
  constructor
  · rintro ⟨stored, baseHolds, contribution, inList, admits⟩
    obtain ⟨scope, member, contributed⟩ := (contributes contribution).1 inList
    obtain ⟨own, executedOne⟩ := executable contribution inList
    refine ⟨scope, member, _, own, viewOfOne_eq granted member contributed, executedOne, ?_⟩
    rw [ViewScope.mem_rows_of_execute_narrow executedOne]
    exact ⟨stored, baseHolds, contribution, List.mem_singleton_self contribution, admits⟩
  · rintro ⟨scope, member, single, own, alone, executedOne, inOwn⟩
    obtain ⟨contribution, contributed⟩ := Registry.exists_contribution polled member
    rw [viewOfOne_eq granted member contributed] at alone
    cases alone
    rw [ViewScope.mem_rows_of_execute_narrow executedOne] at inOwn
    obtain ⟨stored, baseHolds, other, isSingle, admits⟩ := inOwn
    rw [List.mem_singleton.1 isSingle] at admits
    exact ⟨stored, baseHolds, contribution,
      (contributes contribution).2 ⟨scope, member, contributed⟩, admits⟩

end Rows

/-- The rows of a view stand in key order and are the records that the base query
and a granted scope admit. If every granted scope alone leaves a query that can
be executed, the view's query can be, and it shows the union of their rows. -/
theorem scopeView_shows_union_of_grants (evaluator : Evaluator) (base : Query) (session : Session)
    (records : List Record) {query : Query}
    (viewed : (evaluator.scopeView base session).1 = .ok query) :
    let collection := Collection.ofRecords base.resource records
    ∃ grants,
      (evaluator.resolveGrants base.resource .view session).1 = .ok grants ∧
      (∀ rows, collection.execute query = .ok rows →
        (rows.map Record.key).Pairwise (fun left right => compare left right = .lt) ∧
        ∀ record, record ∈ rows ↔
          record ∈ collection.records.values ∧
          (∀ filter ∈ base.filters, filter.admits collection.resolve record = .ok true) ∧
          ∃ scope ∈ grants.toList, evaluator.GrantAdmits session collection record scope) ∧
      (∀ scope ∈ grants.toList, ∃ single, evaluator.viewOfOne base session scope = .ok single) ∧
      ((∀ scope ∈ grants.toList, ∀ single,
          evaluator.viewOfOne base session scope = .ok single →
            ∃ rows, collection.execute single = .ok rows) →
        ∃ rows, collection.execute query = .ok rows ∧
          ∀ record, record ∈ rows ↔
            ∃ scope ∈ grants.toList, ∃ single own,
              evaluator.viewOfOne base session scope = .ok single ∧
                collection.execute single = .ok own ∧ record ∈ own) := by
  intro collection
  have sameResource : collection.resource = base.resource :=
    Collection.resource_ofRecords base.resource records
  obtain ⟨grants, contributions, granted, polled, rfl⟩ := contributions_of_scopeView viewed
  refine ⟨grants, granted, ?_, ?_, ?_⟩
  · intro rows executed
    exact ⟨(Collection.keyed_ofRecords base.resource records).rows_increasing executed,
      mem_rows_iff_grantAdmits sameResource polled executed⟩
  · intro scope member
    obtain ⟨contribution, contributed⟩ := Registry.exists_contribution polled member
    exact ⟨_, viewOfOne_eq granted member contributed⟩
  · intro executedAlone
    have executable : ∀ contribution ∈ contributions, ∃ own,
        collection.execute (base.narrow (ViewScope.combine [contribution])) = .ok own := by
      intro contribution inList
      obtain ⟨scope, member, contributed⟩ :=
        (Registry.mem_contributions_iff polled contribution).1 inList
      exact executedAlone scope member _ (viewOfOne_eq granted member contributed)
    obtain ⟨rows, executed⟩ := ViewScope.execute_narrow_of_each sameResource.symm executable
    exact ⟨rows, executed, mem_rows_iff_mem_alone granted polled executable executed⟩

end Evaluator

namespace Desk

/-- A view through a filter and a subset, executed on two records. -/
theorem desk_view_shows_own_and_picked :
    ∃ query,
      (office.scopeView (Query.ofResource tickets) (request .get .view [picked, own])).1 =
        .ok query ∧
      ∃ rows grants,
        (Collection.ofRecords tickets [ticket "1", ticket "2"]).execute query = .ok rows ∧
        (office.resolveGrants tickets .view (request .get .view [picked, own])).1 =
          .ok grants ∧
        ∀ record, record ∈ rows ↔
          record ∈ (Collection.ofRecords tickets [ticket "1", ticket "2"]).records.values ∧
          ∃ scope ∈ grants.toList,
            office.GrantAdmits (request .get .view [picked, own])
              (Collection.ofRecords tickets [ticket "1", ticket "2"]) record scope := by
  have viewed :
      (office.scopeView (Query.ofResource tickets) (request .get .view [picked, own])).1 =
        .ok (.mk tickets
          [.any [Filter.keyEquals ⟨"1"⟩, .keyIn (.query (Query.ofResource tickets))]]) := rfl
  obtain ⟨grants, granted, shows, _⟩ := Evaluator.scopeView_shows_union_of_grants office
    (Query.ofResource tickets) (request .get .view [picked, own]) [ticket "1", ticket "2"] viewed
  have executed : (Collection.ofRecords tickets [ticket "1", ticket "2"]).execute (.mk tickets
      [.any [Filter.keyEquals ⟨"1"⟩, .keyIn (.query (Query.ofResource tickets))]]) =
        .ok [ticket "1", ticket "2"] := by
    rfl
  refine ⟨_, viewed, _, grants, executed, granted, fun record => ?_⟩
  rw [(shows _ executed).2 record]
  exact and_congr_right (fun _ => and_iff_right (fun _ member => absurd member List.not_mem_nil))

end Desk

end RowAccess
