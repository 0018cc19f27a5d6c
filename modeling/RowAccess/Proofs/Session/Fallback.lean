import RowAccess.Proofs.Decision.Fallback
import RowAccess.Proofs.Session.Decision

/-!
Contract: what the trail of a deletion tells of fallbacks.

A deletion leaves one event for each leaf that was judged and fell back, in the order
in which they were judged, scope after scope, and behind them its decision. A leaf
behind one that does not hold is not judged, and leaves nothing.

Owns:
- the answers, the rows and the events of a deletion, for all its leaves.
-/

namespace RowAccess

/-- In a deletion, leaves with two tests answer by the test of the record and then by
that of its row, which is given a query for this record alone. The events are those of
the leaves that were judged and fell back, with the failure of the first test. -/
theorem Evaluator.deletion_falls_back (evaluator : Evaluator) (resource : ResourceType)
    (record : Record) (values : Fields) (session : Session) :
    let authority := evaluator.authority
    let request := writeRequest session .delete resource record values
    let granted := (evaluator.resolveGrants resource .delete session).1
    let deleted := evaluator.scopeDelete resource record values session
    (∀ leaf object subset, authority.TestsEither request leaf object subset →
      ∀ remaining, authority.AnswersEither request leaf object subset remaining) ∧
    (∀ records,
      let collection := Collection.ofRecords resource records
      collection.resolve request.singleRow =
        .ok (if (collection.get? record.key).isSome then OrderedSet.singleton record.key
          else OrderedSet.empty)) ∧
    (∀ leaf event, authority.fallback? request leaf = some event ↔
      ∃ failure, authority.FallsBack request leaf failure ∧
        event = ⟨session.context.requestId, resource.label, leaf.text, failure.message⟩) ∧
    (∀ grants, granted = .ok grants →
      deleted.2.trail = session.trail ++
        ((grants.toList.flatMap (authority.evaluated request)).filterMap
          (authority.fallback? request)).map AuditEvent.fallback ++
        [session.decisionEvent resource .delete grants
          (match deleted.1 with
          | .ok _ => none
          | .error error => some error)]) ∧
    (∀ error, granted = .error error →
      deleted.2.trail = session.trail ++
        [session.decisionEvent resource .delete OrderedSet.empty (some error)]) := by
  intro authority request granted deleted
  have deletes : request.context.action = .delete := rfl
  refine ⟨?_, request.resolve_singleRow, ?_, ?_, ?_⟩
  · intro leaf object subset tests remaining
    exact Authority.answersEither deletes tests remaining
  · intro leaf event
    exact Authority.fallback?_eq_some
  · intro grants resolved
    have used : (fun scope => (authority.scopeVerdict request maxCompositionDepth scope).fallbacks) =
        fun scope => (authority.evaluated request scope).filterMap (authority.fallback? request) :=
      funext (Authority.fallbacks_scopeVerdict deletes)
    rw [List.filterMap_flatMap, ← used]
    exact evaluator.trail_scopeWrite .delete resource record values session resolved
  · intro error unresolved
    exact evaluator.trail_scopeWrite_of_unresolved .delete resource record values session
      unresolved

namespace Desk

def migrating : ScopeName := ⟨"migrating"⟩

def retired : ScopeName := ⟨"retired"⟩

def current : ScopeName := ⟨"current"⟩

def clearing : ScopeName := ⟨"clearing"⟩

def deletion (object : RecordFunction) (subset : SubsetFunction) : ScopeRule :=
  .handlers { view := none, add := none, change := none, delete := some (.either object subset) }

def objectGone : RecordFunction := fun _ _ _ => .error ⟨"object form removed"⟩

def subsetGone : SubsetFunction := fun _ _ _ => .error ⟨"subset form removed"⟩

def drawerRegistration : Registration where
  resource := tickets
  rules :=
    [(own, .fixed (Filter.keyEquals ⟨"1"⟩)),
      (migrating, deletion objectGone (fun _ _ _ => .ok true)),
      (retired, deletion objectGone subsetGone),
      (current, deletion (fun _ _ _ => .ok true) subsetGone),
      (clearing, .composite [own, migrating])]
  permissionsVia := none
  provider := none

/-- A drawer from which one may delete one's own ticket by the test of its row. -/
def drawer : Evaluator where
  authority :=
    { registry := (Registry.ofRegistrations [drawerRegistration]).toOption.getD Registry.empty
      resolver := SubsetResolver.localOnly }
  permissions := PermissionMap.empty
  grantSource := GrantSource.ofPrincipal

def closer : Session :=
  (Session.start (RequestContext.anonymous .delete (some "req-9"))).holding
    (drawer.guardingKey tickets .delete) (OrderedSet.singleton clearing)

/-- One's own ticket is deleted by the test of its row, which leaves one event. Another
ticket fails before that, and leaves none. Where the second test fails as well, the
failure of the first one stands; where the first one answers, the second is not asked. -/
theorem desk_deletion_falls_back :
    let trail (number : String) :=
      (drawer.scopeDelete tickets (ticket number) OrderedMap.empty closer).2.trail
    let asked := Evaluator.writeRequest closer .delete tickets (ticket "1") OrderedMap.empty
    (∃ decision, trail "1" =
      [.fallback ⟨some "req-9", "desk.ticket", "migrating", "object form removed"⟩,
        .decision decision]) ∧
    (∃ decision, trail "2" = [.decision decision]) ∧
    (drawer.authority.scopeVerdict asked 0 migrating).outcome = .ok true ∧
    (drawer.authority.scopeVerdict asked 0 retired).outcome =
      .error (.scopeFailed retired tickets "object form removed") ∧
    (drawer.authority.scopeVerdict asked 0 current).outcome = .ok true := by
  intro trail asked
  obtain ⟨answers, _, _, ownTrail, _⟩ :=
    Evaluator.deletion_falls_back drawer tickets (ticket "1") OrderedMap.empty closer
  obtain ⟨_, _, _, otherTrail, _⟩ :=
    Evaluator.deletion_falls_back drawer tickets (ticket "2") OrderedMap.empty closer
  refine ⟨⟨_, ownTrail (OrderedSet.singleton clearing) rfl⟩,
    ⟨_, otherTrail (OrderedSet.singleton clearing) rfl⟩, ?_, ?_, ?_⟩
  · exact (answers migrating _ _ ⟨_, rfl, rfl⟩ 0).fellBack _ _ rfl rfl
  · exact (answers retired _ _ ⟨_, rfl, rfl⟩ 0).failed _ _ rfl rfl
  · exact ((answers current _ _ ⟨_, rfl, rfl⟩ 0).tested _ rfl).1

end Desk

end RowAccess
