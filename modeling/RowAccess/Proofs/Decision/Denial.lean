import RowAccess.Proofs.Decision.Composition

/-!
Contract: a denial is the decision's, never a scope's.

A scope that cannot be judged fails as a matter of configuration or as a defect.
A denied write says therefore that every granted scope was judged.

Owns:
- the kinds of failure of filters, handlers and scopes.
-/

namespace RowAccess

/-- Whether an outcome that fails does not fail with a denial. -/
def Undenied {α : Type} (outcome : Except AccessError α) : Prop :=
  ∀ error, outcome = .error error → error.kind ≠ .denied

theorem undenied_ok {α : Type} (value : α) :
    Undenied (.ok value : Except AccessError α) := by
  intro error failed
  cases failed

theorem undenied_error {α : Type} {error : AccessError} (kind : error.kind ≠ .denied) :
    Undenied (.error error : Except AccessError α) := by
  intro other failed
  rw [← Except.error.inj failed]
  exact kind

namespace WriteRequest

theorem undenied_filterHolds (request : WriteRequest) (resolver : SubsetResolver)
    (filter : Filter) : Undenied (request.filterHolds resolver filter) := by
  unfold filterHolds
  split
  · exact undenied_ok _
  · exact undenied_error nofun

theorem undenied_named (request : WriteRequest) (scope : ScopeName)
    (outcome : Except ScopeFailure Bool) : Undenied (request.named scope outcome) := by
  cases outcome with
  | ok holds => exact undenied_ok holds
  | error failure => exact undenied_error nofun

theorem undenied_recordVerdict (request : WriteRequest) (scope : ScopeName)
    (handler : Option RecordFunction) :
    Undenied (request.recordVerdict scope handler).outcome := by
  cases handler with
  | none => exact undenied_error nofun
  | some function => exact request.undenied_named scope _

theorem undenied_deleteVerdict (request : WriteRequest) (scope : ScopeName)
    (handler : Option DeleteHandler) :
    Undenied (request.deleteVerdict scope handler).outcome := by
  unfold deleteVerdict
  split
  next => exact undenied_error nofun
  next => exact request.undenied_named scope _
  next => exact request.undenied_named scope _
  next =>
    split
    next => exact undenied_ok _
    next =>
      split
      next => exact undenied_ok _
      next => exact undenied_error nofun

theorem undenied_handlerVerdict (request : WriteRequest) (scope : ScopeName)
    (handlers : ScopeHandlers) : Undenied (request.handlerVerdict scope handlers).outcome := by
  unfold handlerVerdict
  split
  next => exact request.undenied_recordVerdict scope _
  next => exact request.undenied_recordVerdict scope _
  next => exact request.undenied_deleteVerdict scope _
  next => exact undenied_error nofun

end WriteRequest

namespace Registry

theorem undenied_resolve (registry : Registry) (resource : ResourceType) (scope : ScopeName)
    (action : Action) : Undenied (registry.resolve resource scope action) := by
  unfold resolve
  split
  next => exact undenied_ok _
  next =>
    split
    next => exact undenied_ok _
    next =>
      split
      next => exact undenied_ok _
      next => exact undenied_error nofun

end Registry

namespace Authority

theorem undenied_at_limit (authority : Authority) (request : WriteRequest) (scope : ScopeName) :
    Undenied (authority.scopeVerdict request 0 scope).outcome := by
  unfold scopeVerdict
  split
  next error unresolved =>
    exact undenied_error (authority.registry.undenied_resolve _ _ _ error unresolved)
  next => exact request.undenied_filterHolds authority.resolver _
  next =>
    split
    next =>
      refine undenied_error (fun same => ?_)
      cases same
    next => exact undenied_ok false
    next => exact request.undenied_filterHolds authority.resolver _
  next => exact request.undenied_handlerVerdict scope _
  next =>
    refine undenied_error (fun same => ?_)
    cases same

/-- A scope that fails does not deny. -/
theorem undenied_scopeVerdict (authority : Authority) (request : WriteRequest) (limit : Nat)
    (scope : ScopeName) : Undenied (authority.scopeVerdict request limit scope).outcome := by
  rw [scopeVerdict_eq_allOf_ends]
  by_cases failing : ∃ stop ∈ (authority.composition request).ends limit scope,
      (authority.scopeVerdict request 0 stop).outcome ≠ .ok true
  · obtain ⟨before, stop, after, split, earlier, unheld⟩ := Verdict.exists_first_unheld failing
    rw [split, Verdict.outcome_allOf_of_first earlier unheld]
    exact authority.undenied_at_limit request stop
  · push Not at failing
    rw [Verdict.outcome_allOf_of_true failing]
    exact undenied_ok true

end Authority

end RowAccess
