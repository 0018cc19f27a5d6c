import RowAccess.Scope.Registry

/-!
Contract: what a registry that was built holds.

Everything in a built registry comes from one of its registrations, and was
checked: a registered rule has a name, which is not the builtin one, and is no
composite without members. A provider is not asked when a registry is built, and
what it supplies is not looked at: an empty composite that a name resolves to is
a provider's, while the builtin scope is nobody's but the registry's own.

Owns:
- the rules of built registries, and the registrations they come from.
- what the builtin name resolves to, and that the action has no part in resolution.
- where an empty composite can come from.
-/

namespace RowAccess

/-- Whether a rule may be registered under a name, whatever else is registered. -/
structure Registration.Admits (name : ScopeName) (rule : ScopeRule) : Prop where
  named : name.text ≠ ""
  notBuiltin : name ≠ ScopeName.all
  filled : rule.isEmptyComposite = false

/-- Whether every rule of a resource may stand under its name. -/
def ResourceScopes.Admissible (scopes : ResourceScopes) : Prop :=
  ∀ name rule, scopes.rules.find? name = some rule → Registration.Admits name rule

/-- Whether every registered rule may stand under its name. -/
def Registry.Admissible (registry : Registry) : Prop :=
  ∀ resource scopes, registry.find? resource = some scopes → scopes.Admissible

namespace Registration

theorem admits_of_defect? {resource : ResourceType} {rules : OrderedMap ScopeName ScopeRule}
    {name : ScopeName} {rule : ScopeRule} (sound : defect? resource rules name rule = none) :
    Admits name rule := by
  unfold defect? at sound
  split at sound
  next => cases sound
  next named =>
    split at sound
    next => cases sound
    next notBuiltin =>
      split at sound
      next => cases sound
      next notEmpty => exact ⟨named, notBuiltin, eq_false_of_ne_true notEmpty⟩

theorem admits_of_addRules {resource : ResourceType}
    {before after : OrderedMap ScopeName ScopeRule} {listed : List (ScopeName × ScopeRule)}
    (admits : ∀ name rule, before.find? name = some rule → Admits name rule)
    (added : addRules resource before listed = .ok after) :
    ∀ name rule, after.find? name = some rule → Admits name rule := by
  induction listed generalizing before with
  | nil =>
      cases added
      exact admits
  | cons entry rest inductionHypothesis =>
      simp only [addRules] at added
      split at added
      next => cases added
      next sound =>
        refine inductionHypothesis ?_ added
        intro name rule found
        rw [OrderedMap.find?_insert] at found
        split at found
        next isNew =>
          cases found
          rw [isNew]
          exact admits_of_defect? sound
        next => exact admits name rule found

/-- What a registration builds is admissible, and else what it says. -/
theorem build_eq_ok {registration : Registration} {scopes : ResourceScopes}
    (built : registration.build = .ok scopes) :
    scopes.Admissible ∧ scopes.resource = registration.resource ∧
      scopes.permissionsVia = registration.permissionsVia := by
  unfold build at built
  cases added : addRules registration.resource OrderedMap.empty registration.rules with
  | error error =>
      rw [added] at built
      cases built
  | ok rules =>
      rw [added] at built
      cases built
      refine ⟨admits_of_addRules ?_ added, rfl, rfl⟩
      intro name rule found
      rw [OrderedMap.find?_empty] at found
      cases found

end Registration

namespace Registry

variable {registry next built : Registry} {registrations : List Registration}
  {resource : ResourceType} {scopes added : ResourceScopes} {scope : ScopeName} {action : Action}

theorem find?_register (registered : registry.register added = .ok next)
    (found : next.find? resource = some scopes) :
    registry.find? resource = some scopes ∨ (resource = added.resource ∧ scopes = added) := by
  unfold register at registered
  split at registered
  next => cases registered
  next =>
    cases registered
    unfold find? at found
    rw [OrderedMap.find?_insert] at found
    split at found
    next isNew =>
      cases found
      exact Or.inr ⟨isNew, rfl⟩
    next => exact Or.inl found

theorem find?_addAll (added : registry.addAll registrations = .ok built)
    (found : built.find? resource = some scopes) :
    registry.find? resource = some scopes ∨
      ∃ registration ∈ registrations,
        registration.build = .ok scopes ∧ resource = scopes.resource := by
  induction registrations generalizing registry with
  | nil =>
      cases added
      exact Or.inl found
  | cons registration rest inductionHypothesis =>
      simp only [addAll] at added
      split at added
      next => cases added
      next own ownBuilt =>
        split at added
        next => cases added
        next next registered =>
          rcases inductionHypothesis added with earlier | ⟨later, member, laterBuilt, atResource⟩
          · rcases find?_register registered earlier with before | ⟨atResource, rfl⟩
            · exact Or.inl before
            · exact Or.inr ⟨registration, List.mem_cons_self, ownBuilt, atResource⟩
          · exact Or.inr ⟨later, List.mem_cons_of_mem _ member, laterBuilt, atResource⟩

/-- The action only names the error where a scope is not found. -/
theorem resolve_of_resolve {rule : ScopeRule}
    (resolved : registry.resolve resource scope action = .ok rule) (other : Action) :
    registry.resolve resource scope other = .ok rule := by
  unfold resolve at resolved ⊢
  split at resolved
  next => exact resolved
  next =>
    by_cases isAll : scope = ScopeName.all
    · rw [if_pos isAll] at resolved ⊢
      exact resolved
    · rw [if_neg isAll] at resolved ⊢
      split at resolved
      next => exact resolved
      next => cases resolved

/-- Whatever a built registry has for a resource comes from a registration. -/
theorem exists_registration (isBuilt : ofRegistrations registrations = .ok built)
    (found : built.find? resource = some scopes) :
    ∃ registration ∈ registrations,
      registration.build = .ok scopes ∧ resource = scopes.resource := by
  rcases find?_addAll isBuilt found with before | registered
  · rw [show empty.find? resource = none from OrderedMap.find?_empty resource] at before
    cases before
  · exact registered

theorem admissible_ofRegistrations (isBuilt : ofRegistrations registrations = .ok built) :
    built.Admissible := by
  intro resource scopes found
  obtain ⟨registration, _, scopesBuilt, _⟩ := exists_registration isBuilt found
  exact (Registration.build_eq_ok scopesBuilt).1

theorem admits_of_registered (admissible : registry.Admissible) {rule : ScopeRule}
    (registered : registry.registered? resource scope = some rule) :
    Registration.Admits scope rule := by
  obtain ⟨scopes, found, ruleFound⟩ := Option.bind_eq_some_iff.1 registered
  exact admissible resource scopes found scope rule ruleFound

/-- Nothing stands before the builtin scope: no rule may be registered under its
name, and providers are asked later. -/
theorem resolve_all (admissible : registry.Admissible) (resource : ResourceType)
    (action : Action) : registry.resolve resource ScopeName.all action = .ok ScopeRule.all := by
  unfold resolve
  split
  next rule registered =>
    exact absurd rfl (admits_of_registered admissible registered).notBuiltin
  next => rw [if_pos rfl]

/-- Where the registered rules are admissible, an empty composite is supplied by
the provider of the resource. -/
theorem provided_of_empty (admissible : registry.Admissible)
    (hollow : registry.resolve resource scope action = .ok (.composite [])) :
    registry.registered? resource scope = none ∧ scope ≠ ScopeName.all ∧
      registry.provided? resource scope = some (.composite []) := by
  unfold resolve at hollow
  split at hollow
  next rule registered =>
    cases hollow
    cases (admits_of_registered admissible registered).filled
  next unregistered =>
    split at hollow
    next => cases hollow
    next notAll =>
      split at hollow
      next rule provided =>
        cases hollow
        exact ⟨unregistered, notAll, provided⟩
      next => cases hollow

end Registry

end RowAccess
