import RowAccess.Proofs.Decision.Denial
import RowAccess.Proofs.Scope.Registration
import RowAccess.Proofs.Session.Decision
import RowAccess.Proofs.Session.View

/-!
Contract: writes of stored records agree with the rows of a view.

A view puts the granted filters into one query, which is executed for all
records at once; a write tests one record on one granted scope after the other.
Where both are granted the same filters, a change or deletion that is decided is
allowed exactly for the records that the view shows.

Owns:
- scopes that stand for a filter, whatever is done with it.
- the agreement of one scope's verdict with its contribution to a view.
- the agreement of a write with the rows of a view.
-/

namespace RowAccess

/-- Whether a dynamic scope looks neither at the action nor at the method. -/
def DynamicScope.Impartial (function : DynamicScope) : Prop :=
  ∀ (context : ScopeContext) (action : Action) (method : RequestMethod),
    function { context with action := action, method := method } = function context

/-- Whether a filter stands behind a scope, either fixed or computed from the
request without regard to action and method. -/
inductive Registry.StandsForFilter (registry : Registry) (resource : ResourceType)
    (scope : ScopeName) : Prop
  | fixed {filter : Filter}
      (resolved : registry.resolve resource scope .view = .ok (.fixed filter))
  | dynamic {function : DynamicScope}
      (resolved : registry.resolve resource scope .view = .ok (.dynamic function))
      (impartial : DynamicScope.Impartial function)

namespace Registry

variable {registry : Registry} {context : ScopeContext} {scope : ScopeName}
  {supplied : Except ScopeFailure (Option Filter)}

/-- What a scope of filters supplies in a request. -/
inductive Supplies (registry : Registry) (context : ScopeContext) (scope : ScopeName) :
    Except ScopeFailure (Option Filter) → Prop
  | fixed {filter : Filter}
      (resolved : ∀ action, registry.resolve context.resource scope action = .ok (.fixed filter)) :
      Supplies registry context scope (.ok (some filter))
  | dynamic {function : DynamicScope}
      (resolved : ∀ action,
        registry.resolve context.resource scope action = .ok (.dynamic function)) :
      Supplies registry context scope (function context)

/-- A scope of filters contributes the filter it supplies, or nothing. -/
theorem contributes_iff_supplied (supplies : registry.Supplies context scope supplied)
    (collection : Collection) (record : Record) :
    (∃ contribution, registry.viewScope context scope = .ok contribution ∧
      contribution.Admits collection record) ↔
      ∃ filter, supplied = .ok (some filter) ∧
        filter.admits collection.resolve record = .ok true := by
  unfold viewScope
  cases supplies with
  | fixed resolved => simp [resolved, ViewScope.Admits]
  | @dynamic function resolved =>
      rw [resolved]
      cases computed : function context with
      | error failure => simp [computed]
      | ok found => cases found <;> simp [computed, ViewScope.ofOption, ViewScope.Admits]

end Registry

namespace WriteRequest

theorem candidate_of_stored {request : WriteRequest} (stored : request.context.action ≠ .add) :
    request.candidate = request.record :=
  if_neg stored

theorem filterHolds_eq_true {request : WriteRequest} {resolver : SubsetResolver}
    {filter : Filter} :
    request.filterHolds resolver filter = .ok true ↔
      filter.admits resolver request.candidate = .ok true := by
  unfold filterHolds
  split
  next holds found => simp [found]
  next error failed => simp [failed]

end WriteRequest

/-- A scope of filters holds by the filter it supplies. -/
theorem Authority.holds_iff_supplied {authority : Authority} (request : WriteRequest)
    {scope : ScopeName} {supplied : Except ScopeFailure (Option Filter)} (limit : Nat)
    (supplies : authority.registry.Supplies request.context scope supplied) :
    (authority.scopeVerdict request limit scope).outcome = .ok true ↔
      ∃ filter, supplied = .ok (some filter) ∧
        filter.admits authority.resolver request.candidate = .ok true := by
  unfold scopeVerdict
  cases supplies with
  | fixed resolved => simp [resolved, Verdict.of, WriteRequest.filterHolds_eq_true]
  | @dynamic function resolved =>
      rw [resolved]
      cases computed : function request.context with
      | error failure => simp [computed, Verdict.of]
      | ok found =>
          cases found <;> simp [computed, Verdict.of, WriteRequest.filterHolds_eq_true]

namespace Evaluator

/-- A view and a write of one principal in one request, decided with the records
of a collection, for which the same filters are granted. -/
structure SharesFilters (evaluator : Evaluator) (collection : Collection)
    (viewing writing : Session) (action : Action) (grants : OrderedSet ScopeName) : Prop where
  resolver : evaluator.authority.resolver = collection.resolve
  principal : writing.context.principal = viewing.context.principal
  requestId : writing.context.requestId = viewing.context.requestId
  viewGrants : (evaluator.resolveGrants collection.resource .view viewing).1 = .ok grants
  writeGrants : (evaluator.resolveGrants collection.resource action writing).1 = .ok grants
  filters : ∀ scope ∈ grants.toList,
    evaluator.authority.registry.StandsForFilter collection.resource scope

namespace SharesFilters

variable {evaluator : Evaluator} {collection : Collection} {viewing writing : Session}
  {action : Action} {grants : OrderedSet ScopeName} {record : Record}

/-- A granted scope supplies the same filter to the view and to the write. -/
theorem exists_supplied
    (shares : evaluator.SharesFilters collection viewing writing action grants)
    {scope : ScopeName} (member : scope ∈ grants.toList) :
    ∃ supplied,
      evaluator.authority.registry.Supplies (viewing.scopeContext collection.resource .view) scope
        supplied ∧
      evaluator.authority.registry.Supplies (writing.scopeContext collection.resource action) scope
        supplied := by
  cases shares.filters scope member with
  | fixed resolved =>
      have fixed := Registry.resolve_of_resolve resolved
      exact ⟨_, .fixed fixed, .fixed fixed⟩
  | @dynamic function resolved impartial =>
      have dynamic := Registry.resolve_of_resolve resolved
      have sameContext : writing.scopeContext collection.resource action =
          { viewing.scopeContext collection.resource .view with
            action := action, method := writing.context.method } := by
        unfold Session.scopeContext
        rw [shares.principal, shares.requestId]
      have same : function (writing.scopeContext collection.resource action) =
          function (viewing.scopeContext collection.resource .view) := by
        rw [sameContext]
        exact impartial _ action writing.context.method
      refine ⟨_, .dynamic dynamic, ?_⟩
      rw [← same]
      exact .dynamic dynamic

/-- A granted scope holds for a stored record where it admits the record to the
view. -/
theorem holds_iff_grantAdmits
    (shares : evaluator.SharesFilters collection viewing writing action grants)
    (stored : action ≠ .add) {scope : ScopeName} (member : scope ∈ grants.toList)
    (values : Fields) :
    (evaluator.authority.scopeVerdict
      (writeRequest writing action collection.resource record values) maxCompositionDepth
        scope).outcome = .ok true ↔
      evaluator.GrantAdmits viewing collection record scope := by
  obtain ⟨supplied, toView, toWrite⟩ := shares.exists_supplied member
  have candidate : (writeRequest writing action collection.resource record values).candidate =
      record := WriteRequest.candidate_of_stored stored
  have holds := Authority.holds_iff_supplied
    (writeRequest writing action collection.resource record values) maxCompositionDepth toWrite
  rw [candidate, shares.resolver] at holds
  exact holds.trans (Registry.contributes_iff_supplied toView collection record).symm

end SharesFilters

/-- Where a write is allowed or denied, every granted scope was judged. -/
theorem judged_of_decided {evaluator : Evaluator} {action : Action} {resource : ResourceType}
    {record : Record} {values : Fields} {session : Session} {grants : OrderedSet ScopeName}
    (granted : (evaluator.resolveGrants resource action session).1 = .ok grants)
    (decided : ∀ error,
      (evaluator.scopeWrite action resource record values session).1 = .error error →
        error.kind = .denied) :
    ∀ scope ∈ grants.toList, ∃ holds,
      (evaluator.authority.scopeVerdict (writeRequest session action resource record values)
        maxCompositionDepth scope).outcome = .ok holds := by
  have follows := evaluator.scopeWrite_followsGrants action resource record values session
  intro scope member
  cases judged : (evaluator.authority.scopeVerdict
      (writeRequest session action resource record values) maxCompositionDepth scope).outcome with
  | ok holds => exact ⟨holds, rfl⟩
  | error own =>
      obtain ⟨error, ⟨least, _, failed, _⟩, answered⟩ :=
        follows.failed grants granted ⟨scope, member, own, judged⟩
      have undenied := evaluator.authority.undenied_scopeVerdict
        (writeRequest session action resource record values) maxCompositionDepth least
      exact absurd (decided error answered) (undenied error failed)

/-- A change or deletion of a stored record, where it is allowed or denied, is
allowed for the rows of the view. -/
theorem stored_write_allowed_iff_shown (evaluator : Evaluator) (collection : Collection)
    (viewing writing : Session) (action : Action) {grants : OrderedSet ScopeName}
    (shares : evaluator.SharesFilters collection viewing writing action grants)
    (onStored : action = .change ∨ action = .delete) {query : Query} {rows : List Record}
    (viewed : (evaluator.scopeView (Query.ofResource collection.resource) viewing).1 = .ok query)
    (executed : collection.execute query = .ok rows)
    {record : Record} (stored : record ∈ collection.records.values) (values : Fields) :
    let answer := (evaluator.scopeWrite action collection.resource record values writing).1
    (answer = .ok () ∨ ∃ principal resource denied,
        answer = .error (.scoping principal resource denied)) →
      (answer = .ok () ↔ record ∈ rows) := by
  intro answer decided
  have shown : record ∈ rows ↔ ∃ scope ∈ grants.toList,
      evaluator.GrantAdmits viewing collection record scope := by
    obtain ⟨viewGrants, contributions, granted, polled, rfl⟩ := contributions_of_scopeView viewed
    have same : Except.ok viewGrants = Except.ok grants := granted.symm.trans shares.viewGrants
    cases same
    rw [mem_rows_iff_grantAdmits rfl polled executed]
    simp [stored, Query.ofResource, Query.filters]
  have judged : ∀ scope ∈ grants.toList, ∃ holds,
      (evaluator.authority.scopeVerdict
        (writeRequest writing action collection.resource record values) maxCompositionDepth
          scope).outcome = .ok holds := by
    refine judged_of_decided shares.writeGrants (fun error failed => ?_)
    rcases decided with allowed | ⟨principal, resource, denied, answered⟩
    · cases failed.symm.trans allowed
    · cases failed.symm.trans answered
      rfl
  have allowed : (∃ value, answer = .ok value) ↔ _ :=
    (evaluator.scopeWrite_followsGrants action collection.resource record values
      writing).allowed grants shares.writeGrants judged
  have notAdd : action ≠ .add := by
    rcases onStored with rfl | rfl <;> decide
  calc answer = .ok ()
    _ ↔ ∃ value, answer = .ok value := (exists_const Unit).symm
    _ ↔ ∃ scope ∈ grants.toList,
        (evaluator.authority.scopeVerdict
          (writeRequest writing action collection.resource record values) maxCompositionDepth
            scope).outcome = .ok true := allowed
    _ ↔ ∃ scope ∈ grants.toList, evaluator.GrantAdmits viewing collection record scope :=
      exists_congr (fun scope => and_congr_right (fun member =>
        shares.holds_iff_grantAdmits notAdd member values))
    _ ↔ record ∈ rows := shown.symm

end Evaluator

namespace Desk

def ledger : Collection := Collection.ofRecords tickets [ticket "1", ticket "2", ticket "3"]

def unserved : ScopeName := ⟨"unserved"⟩

/-- Tickets outside the query for what has been served. -/
def isUnserved : DynamicScope := fun _ =>
  .ok (some (.not (.keyIn (.query (.mk tickets
    [.any [Filter.keyEquals ⟨"1"⟩, Filter.keyEquals ⟨"2"⟩]])))))

def counterRegistration : Registration where
  resource := tickets
  rules := [(own, .fixed (Filter.keyEquals ⟨"1"⟩)), (unserved, .dynamic isUnserved)]
  permissionsVia := none
  provider := none

/-- A desk that takes its subsets from the ledger, and whose clerk is granted
one's own ticket and what is not served, to see, to change and to delete. -/
def counter : Evaluator where
  authority :=
    { registry := (Registry.ofRegistrations [counterRegistration]).toOption.getD Registry.empty
      resolver := ledger.resolve }
  permissions := PermissionMap.ofList
    ([Action.view, .change, .delete].flatMap (fun action =>
      [("clerk", ⟨tickets.permissionKey action.label, some own⟩),
        ("clerk", ⟨tickets.permissionKey action.label, some unserved⟩)]))
  grantSource := GrantSource.ofPrincipal

theorem counter_shares_filters (method : RequestMethod) (action : Action)
    (writeGrants : (counter.resolveGrants tickets action (clerk method)).1 =
      .ok (OrderedSet.ofList [own, unserved])) :
    counter.SharesFilters ledger (clerk .get) (clerk method) action
      (OrderedSet.ofList [own, unserved]) where
  resolver := rfl
  principal := rfl
  requestId := rfl
  viewGrants := rfl
  writeGrants := writeGrants
  filters := by
    intro scope member
    rw [OrderedSet.mem_ofList] at member
    simp only [List.mem_cons, List.not_mem_nil, or_false] at member
    rcases member with rfl | rfl
    · exact .fixed rfl
    · exact .dynamic rfl (fun _ _ _ => rfl)

/-- The clerk may change and delete the tickets of the view: the first and the
third of three. -/
theorem desk_writes_follow_the_view :
    ∃ query rows,
      (counter.scopeView (Query.ofResource tickets) (clerk .get)).1 = .ok query ∧
      ledger.execute query = .ok rows ∧
      rows = [ticket "1", ticket "3"] ∧
      ∀ record ∈ ledger.records.values,
        ((counter.scopeChange tickets record OrderedMap.empty (clerk .put)).1 = .ok () ↔
          record ∈ rows) ∧
        ((counter.scopeDelete tickets record OrderedMap.empty (clerk .delete)).1 = .ok () ↔
          record ∈ rows) := by
  have changes := counter_shares_filters .put .change rfl
  have deletes := counter_shares_filters .delete .delete rfl
  have viewed : (counter.scopeView (Query.ofResource tickets) (clerk .get)).1 =
      .ok (.mk tickets
        [.any [Filter.keyEquals ⟨"1"⟩,
          .not (.keyIn (.query (.mk tickets
            [.any [Filter.keyEquals ⟨"1"⟩, Filter.keyEquals ⟨"2"⟩]])))]]) := rfl
  have executed : ledger.execute (.mk tickets
      [.any [Filter.keyEquals ⟨"1"⟩,
        .not (.keyIn (.query (.mk tickets
          [.any [Filter.keyEquals ⟨"1"⟩, Filter.keyEquals ⟨"2"⟩]])))]]) =
        .ok [ticket "1", ticket "3"] := rfl
  refine ⟨_, _, viewed, executed, rfl, ?_⟩
  intro record stored
  have listed : record = ticket "1" ∨ record = ticket "2" ∨ record = ticket "3" := by
    have member : record ∈ [ticket "1", ticket "2", ticket "3"] := stored
    simpa using member
  constructor
  · refine Evaluator.stored_write_allowed_iff_shown counter ledger _ _ .change changes (Or.inl rfl)
      viewed executed stored OrderedMap.empty ?_
    rcases listed with rfl | rfl | rfl
    · exact Or.inl rfl
    · exact Or.inr ⟨⟨"ada"⟩, tickets, .change, rfl⟩
    · exact Or.inl rfl
  · refine Evaluator.stored_write_allowed_iff_shown counter ledger _ _ .delete deletes (Or.inr rfl)
      viewed executed stored OrderedMap.empty ?_
    rcases listed with rfl | rfl | rfl
    · exact Or.inl rfl
    · exact Or.inr ⟨⟨"ada"⟩, tickets, .delete, rfl⟩
    · exact Or.inl rfl

end Desk

end RowAccess
