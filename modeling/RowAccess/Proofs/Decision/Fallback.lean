import RowAccess.Proofs.Collection.Execution
import RowAccess.Proofs.Decision.Composition

/-!
Contract: deletions that fall back from the test of a record on the test of its row.

A leaf that has both tests answers with the test of the record. Only where this fails
does it ask the test of the row, which is given a query for the key of the record; the
answer of that counts, its failure does not, and the failure of the first test stands.
Every such answer leaves one event, and nothing else in a deletion leaves any.

Owns:
- the verdicts of leaves with both tests, and the events they leave.
- the row of a record in a collection.
- the leaves that a scope judges, and the fallbacks used by them.
-/

namespace RowAccess

/-- The row of a record is its key, in a collection that holds the record's key, and
nothing in any other. -/
theorem WriteRequest.resolve_singleRow (request : WriteRequest) (records : List Record) :
    let collection := Collection.ofRecords request.context.resource records
    collection.resolve request.singleRow =
      .ok (if (collection.get? request.record.key).isSome then
        OrderedSet.singleton request.record.key else OrderedSet.empty) := by
  intro collection
  have keyed : collection.Keyed := Collection.keyed_ofRecords _ records
  have resolved := keyed.resolve_single request.record.key
  rw [Collection.resource_ofRecords] at resolved
  exact resolved

namespace Authority

/-- Whether a name is that of a leaf with two tests for deletions, one of the record and
one of its row. -/
def TestsEither (authority : Authority) (request : WriteRequest) (leaf : ScopeName)
    (object : RecordFunction) (subset : SubsetFunction) : Prop :=
  ∃ handlers,
    authority.registry.resolve request.context.resource leaf request.context.action =
      .ok (.handlers handlers) ∧
    handlers.delete = some (.either object subset)

/-- Whether another authority differs in nothing but the test of the row that a leaf has. -/
structure SwapsRow (authority other : Authority) (request : WriteRequest) (leaf : ScopeName)
    (object : RecordFunction) : Prop where
  resolver : other.resolver = authority.resolver
  elsewhere : ∀ scope, scope ≠ leaf →
    other.registry.resolve request.context.resource scope request.context.action =
      authority.registry.resolve request.context.resource scope request.context.action
  swapped : ∃ subset, other.TestsEither request leaf object subset

/-- How a leaf with two tests answers a deletion: by the test of the record, so that the
other one counts for no scope at all, then by the test of the row, and else with the
failure of the first. -/
structure AnswersEither (authority : Authority) (request : WriteRequest) (leaf : ScopeName)
    (object : RecordFunction) (subset : SubsetFunction) (remaining : Nat) : Prop where
  tested : ∀ holds, object request.context request.record request.values = .ok holds →
    (authority.scopeVerdict request remaining leaf).outcome = .ok holds ∧
    ∀ other, authority.SwapsRow other request leaf object → ∀ scope,
      other.scopeVerdict request remaining scope = authority.scopeVerdict request remaining scope
  fellBack : ∀ failure holds,
    object request.context request.record request.values = .error failure →
    subset request.context request.singleRow request.values = .ok holds →
      (authority.scopeVerdict request remaining leaf).outcome = .ok holds
  failed : ∀ failure second,
    object request.context request.record request.values = .error failure →
    subset request.context request.singleRow request.values = .error second →
      (authority.scopeVerdict request remaining leaf).outcome =
        .error (.scopeFailed leaf request.context.resource failure.message)

/-- Whether a leaf falls back: the test of the record fails, and that of the row does not. -/
def FallsBack (authority : Authority) (request : WriteRequest) (leaf : ScopeName)
    (failure : ScopeFailure) : Prop :=
  ∃ object subset holds, authority.TestsEither request leaf object subset ∧
    object request.context request.record request.values = .error failure ∧
    subset request.context request.singleRow request.values = .ok holds

/-- The event that a leaf leaves in a deletion, if it falls back. -/
def fallback? (authority : Authority) (request : WriteRequest) (leaf : ScopeName) :
    Option FallbackEvent :=
  match authority.registry.resolve request.context.resource leaf request.context.action with
  | .ok (.handlers handlers) =>
      match handlers.delete with
      | some (.either object subset) =>
          match object request.context request.record request.values,
            subset request.context request.singleRow request.values with
          | .error failure, .ok _ => some (request.fallbackEvent leaf failure)
          | _, _ => none
      | _ => none
  | _ => none

/-- The leaves, and composites that are too deep, which are judged for a scope, in turn. -/
def evaluated (authority : Authority) (request : WriteRequest) (scope : ScopeName) :
    List ScopeName :=
  Verdict.evaluated (authority.scopeVerdict request 0)
    ((authority.composition request).ends maxCompositionDepth scope)

variable {authority other : Authority} {request : WriteRequest} {leaf : ScopeName}
  {object : RecordFunction} {subset : SubsetFunction}

theorem scopeVerdict_of_either (deletes : request.context.action = .delete)
    (tests : authority.TestsEither request leaf object subset) (remaining : Nat) :
    authority.scopeVerdict request remaining leaf =
      request.deleteVerdict leaf (some (.either object subset)) := by
  obtain ⟨handlers, resolved, both⟩ := tests
  unfold scopeVerdict
  rw [resolved]
  dsimp only
  unfold WriteRequest.handlerVerdict
  rw [deletes]
  dsimp only
  rw [both]

theorem scopeVerdict_of_tested {holds : Bool} (deletes : request.context.action = .delete)
    (tests : authority.TestsEither request leaf object subset)
    (answered : object request.context request.record request.values = .ok holds)
    (remaining : Nat) :
    authority.scopeVerdict request remaining leaf = Verdict.of (.ok holds) := by
  rw [scopeVerdict_of_either deletes tests]
  unfold WriteRequest.deleteVerdict
  dsimp only
  rw [answered]

theorem composition_of_either (tests : authority.TestsEither request leaf object subset) :
    authority.composition request leaf = none := by
  obtain ⟨handlers, resolved, _⟩ := tests
  unfold composition Registry.composition
  rw [resolved]

/-- The test of a row that is not asked counts for no scope. -/
theorem SwapsRow.scopeVerdict_eq {holds : Bool}
    (swaps : authority.SwapsRow other request leaf object)
    (deletes : request.context.action = .delete)
    (tests : authority.TestsEither request leaf object subset)
    (answered : object request.context request.record request.values = .ok holds)
    (remaining : Nat) (scope : ScopeName) :
    other.scopeVerdict request remaining scope =
      authority.scopeVerdict request remaining scope := by
  obtain ⟨unasked, swapped⟩ := swaps.swapped
  have sameComposition : other.composition request = authority.composition request := by
    funext name
    by_cases atLeaf : name = leaf
    · rw [atLeaf, composition_of_either tests, composition_of_either swapped]
    · unfold composition Registry.composition
      rw [swaps.elsewhere name atLeaf]
  rw [scopeVerdict_eq_allOf_ends, scopeVerdict_eq_allOf_ends, sameComposition]
  apply Verdict.allOf_congr
  intro stop _
  by_cases atLeaf : stop = leaf
  · rw [atLeaf, scopeVerdict_of_tested deletes tests answered,
      scopeVerdict_of_tested deletes swapped answered]
  · unfold scopeVerdict
    rw [swaps.elsewhere stop atLeaf, swaps.resolver]

theorem answersEither (deletes : request.context.action = .delete)
    (tests : authority.TestsEither request leaf object subset) (remaining : Nat) :
    authority.AnswersEither request leaf object subset remaining where
  tested := by
    intro holds answered
    refine ⟨?_, fun other swaps scope => ?_⟩
    · rw [scopeVerdict_of_tested deletes tests answered]
      rfl
    · exact swaps.scopeVerdict_eq deletes tests answered remaining scope
  fellBack := by
    intro failure holds first second
    rw [scopeVerdict_of_either deletes tests]
    unfold WriteRequest.deleteVerdict
    dsimp only
    rw [first, second]
  failed := by
    intro failure other first second
    rw [scopeVerdict_of_either deletes tests]
    unfold WriteRequest.deleteVerdict
    dsimp only
    rw [first, second]
    rfl

theorem fallback?_eq_some {event : FallbackEvent} :
    authority.fallback? request leaf = some event ↔
      ∃ failure, authority.FallsBack request leaf failure ∧
        event = request.fallbackEvent leaf failure := by
  constructor
  · intro left
    unfold fallback? at left
    split at left
    next handlers resolved =>
      split at left
      next object subset both =>
        split at left
        next failure holds first second =>
          exact ⟨failure, ⟨object, subset, holds, ⟨handlers, resolved, both⟩, first, second⟩,
            (Option.some.inj left).symm⟩
        next => cases left
      next => cases left
    next => cases left
  · rintro ⟨failure, ⟨object, subset, holds, ⟨handlers, resolved, both⟩, first, second⟩, rfl⟩
    unfold fallback?
    rw [resolved]
    dsimp only
    rw [both]
    dsimp only
    rw [first, second]

/-- A leaf of a deletion uses a fallback where it leaves an event. -/
theorem fallbacks_eq_toList (deletes : request.context.action = .delete) (leaf : ScopeName) :
    (authority.scopeVerdict request 0 leaf).fallbacks =
      (authority.fallback? request leaf).toList := by
  unfold fallback? scopeVerdict
  cases authority.registry.resolve request.context.resource leaf request.context.action with
  | error error => rfl
  | ok rule =>
      cases rule with
      | fixed filter => rfl
      | composite members => rfl
      | dynamic function =>
          dsimp only
          split <;> rfl
      | handlers handlers =>
          dsimp only
          unfold WriteRequest.handlerVerdict WriteRequest.deleteVerdict
          rw [deletes]
          dsimp only
          cases handlers.delete with
          | none => rfl
          | some handler =>
              cases handler with
              | object function => rfl
              | subset function => rfl
              | either object subset =>
                  dsimp only
                  cases object request.context request.record request.values with
                  | ok holds => rfl
                  | error failure =>
                      cases subset request.context request.singleRow request.values with
                      | ok holds => rfl
                      | error second => rfl

/-- A scope of a deletion uses the fallbacks of the leaves that are judged. -/
theorem fallbacks_scopeVerdict (deletes : request.context.action = .delete) (scope : ScopeName) :
    (authority.scopeVerdict request maxCompositionDepth scope).fallbacks =
      (authority.evaluated request scope).filterMap (authority.fallback? request) := by
  rw [scopeVerdict_eq_allOf_ends, Verdict.fallbacks_allOf, List.filterMap_eq_flatMap_toList]
  exact congrArg (fun events => List.flatMap events _)
    (funext (fallbacks_eq_toList deletes))

end Authority

end RowAccess
