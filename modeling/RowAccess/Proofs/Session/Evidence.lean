import RowAccess.Proofs.Decision.Composition
import RowAccess.Proofs.Scope.Registration
import RowAccess.Proofs.Session.Decision

/-!
Contract: an allowed write rests on a rule that holds.

A write is allowed by some granted scope, and that scope holds by all the leaves
of its unfolding. There is a leaf at all unless the unfolding passes a composite
without members. Registration refuses these, so that only a provider can supply
one; a scope it is the whole of then allows every write.

Owns:
- the leaves that an allowed write rests on.
- a provider whose empty composite allows a write.
-/

namespace RowAccess

/-- Whether a rule that is no composite stands behind a name and holds for a write. -/
def Authority.HoldsByRule (authority : Authority) (request : WriteRequest) (leaf : ScopeName) :
    Prop :=
  (∃ rule,
    authority.registry.resolve request.context.resource leaf request.context.action = .ok rule ∧
      ∀ members, rule ≠ .composite members) ∧
  (authority.scopeVerdict request 0 leaf).outcome = .ok true

/-- Whether some path of composites passes one without members that is not
registered but supplied by the resource's provider. -/
def Authority.PassesHollow (authority : Authority) (request : WriteRequest) (scope : ScopeName) :
    Prop :=
  ∃ path hollow, (authority.composition request).Path scope path ∧ hollow ∈ path ∧
    authority.registry.registered? request.context.resource hollow = none ∧
    hollow ≠ ScopeName.all ∧
    authority.registry.provided? request.context.resource hollow = some (.composite [])

theorem Authority.passesHollow_of_ends_eq_nil {authority : Authority} {request : WriteRequest}
    {scope : ScopeName} {limit : Nat} (admissible : authority.registry.Admissible)
    (noEnds : (authority.composition request).ends limit scope = []) :
    authority.PassesHollow request scope := by
  obtain ⟨path, hollow, onward, passed, isHollow⟩ := Composition.exists_hollow_of_ends_eq_nil noEnds
  have supplied := Registry.provided_of_empty admissible (resolve_of_composition isHollow)
  exact ⟨path, hollow, onward, passed, supplied⟩

namespace Evaluator

/-- Of a registry that was built, a write is allowed by a granted scope all of
whose leaves hold. Some leaf does, unless a provider supplies an empty composite
below the scope. -/
theorem allowed_write_rests_on_rule (evaluator : Evaluator) (action : Action)
    (resource : ResourceType) (record : Record) (values : Fields) (session : Session)
    {registrations : List Registration}
    (built : Registry.ofRegistrations registrations = .ok evaluator.authority.registry)
    (allowed : (evaluator.scopeWrite action resource record values session).1 = .ok ()) :
    let authority := evaluator.authority
    let request := writeRequest session action resource record values
    let leaves := (authority.composition request).ends maxCompositionDepth
    ∃ grants, (evaluator.resolveGrants resource action session).1 = .ok grants ∧
      ∃ scope ∈ grants.toList,
        (authority.scopeVerdict request maxCompositionDepth scope).outcome = .ok true ∧
        (∀ leaf ∈ leaves scope, authority.HoldsByRule request leaf) ∧
        ((∃ leaf ∈ leaves scope, authority.HoldsByRule request leaf) ∨
          authority.PassesHollow request scope) := by
  intro authority request leaves
  have follows := evaluator.scopeWrite_followsGrants action resource record values session
  obtain ⟨grants, granted, _, scope, member, holds⟩ := follows.allows_of_ok allowed
  have each : ∀ leaf ∈ leaves scope, authority.HoldsByRule request leaf := by
    intro leaf isEnd
    obtain ⟨isLeaf, leafHolds⟩ := Authority.ends_hold holds leaf isEnd
    exact ⟨Authority.exists_rule_of_leaf isLeaf leafHolds, leafHolds⟩
  refine ⟨grants, granted, scope, member, holds, each, ?_⟩
  cases ended : leaves scope with
  | nil =>
      have admissible := Registry.admissible_ofRegistrations built
      exact Or.inr (Authority.passesHollow_of_ends_eq_nil admissible ended)
  | cons leaf rest =>
      have isEnd : leaf ∈ leaves scope := ended ▸ List.mem_cons_self
      exact Or.inl ⟨leaf, List.mem_cons_self, each leaf isEnd⟩

end Evaluator

namespace Archive

/-- The archive, with a clerk who may change what can be lent. -/
def library : Evaluator where
  authority := authority
  permissions := PermissionMap.ofList [("clerk", ⟨boxes.permissionKey "change", some lendable⟩)]
  grantSource := GrantSource.ofPrincipal

/-- A change that a composite allows rests on a leaf of the composite. -/
theorem archive_change_rests_on_leaf :
    (library.scopeWrite .change boxes ⟨⟨"1"⟩, OrderedMap.empty⟩ OrderedMap.empty
      (Desk.clerk .put)).1 = .ok () ∧
    ∃ leaf, leaf ∈ [small, light, small] ∧
      authority.HoldsByRule (Evaluator.writeRequest (Desk.clerk .put) .change boxes
        ⟨⟨"1"⟩, OrderedMap.empty⟩ OrderedMap.empty) leaf := by
  have built : Registry.ofRegistrations [registration] = .ok library.authority.registry := rfl
  have allowed : (library.scopeWrite .change boxes ⟨⟨"1"⟩, OrderedMap.empty⟩ OrderedMap.empty
    (Desk.clerk .put)).1 = .ok () := rfl
  refine ⟨allowed, ?_⟩
  obtain ⟨grants, granted, scope, member, _, each, _⟩ :=
    Evaluator.allowed_write_rests_on_rule library .change boxes ⟨⟨"1"⟩, OrderedMap.empty⟩
      OrderedMap.empty (Desk.clerk .put) built allowed
  cases granted
  rw [List.mem_singleton.1 member] at each
  exact ⟨small, List.mem_cons_self, each small List.mem_cons_self⟩

end Archive

namespace Desk

def blank : ScopeName := ⟨"blank"⟩

/-- A provider that supplies a composite without members. -/
def blankProvider : ScopeProvider := fun _ scope =>
  if scope = blank then some (.composite []) else none

def blankRegistration : Registration where
  resource := tickets
  rules := [(own, .fixed (Filter.keyEquals ⟨"1"⟩))]
  permissionsVia := none
  provider := some blankProvider

/-- A desk whose clerk is granted the provider's scope. -/
def blankOffice : Evaluator where
  authority :=
    { registry := (Registry.ofRegistrations [blankRegistration]).toOption.getD Registry.empty
      resolver := SubsetResolver.localOnly }
  permissions := PermissionMap.ofList [("clerk", ⟨tickets.permissionKey "change", some blank⟩)]
  grantSource := GrantSource.ofPrincipal

/-- A change is allowed although no rule that could hold stands behind the one
granted scope. -/
theorem desk_blank_change_is_allowed :
    Registry.ofRegistrations [blankRegistration] = .ok blankOffice.authority.registry ∧
    (blankOffice.scopeChange tickets (ticket "2") OrderedMap.empty (clerk .put)).1 = .ok () ∧
    (blankOffice.resolveGrants tickets .change (clerk .put)).1 = .ok (OrderedSet.ofList [blank]) ∧
    (blankOffice.authority.composition
      (Evaluator.writeRequest (clerk .put) .change tickets (ticket "2") OrderedMap.empty)).ends
        maxCompositionDepth blank = [] :=
  ⟨rfl, rfl, rfl, rfl⟩

end Desk

end RowAccess
