import RowAccess.Proofs.Identity.Resource
import RowAccess.Proofs.Scope.Registration
import RowAccess.Proofs.Session.Resolution

/-!
Contract: a grant on one key opens one action on one resource.

Where no resource has the permissions of another one, the key that guards an
action names its resource and the action, and can be read back from the key. A
principal who holds a single key passes for the pair that the key's parts name,
if they name one, and for no other.

Owns:
- the guarding keys of registries without substitution.
- the resolution of grants for the holder of one key.
-/

namespace RowAccess

/-- Where no registration stands in for another resource, every resource is
guarded by its own keys. -/
theorem Registry.permissionResource_of_own {registrations : List Registration}
    {registry : Registry} (built : ofRegistrations registrations = .ok registry)
    (own : ∀ registration ∈ registrations, registration.permissionsVia = none)
    (resource : ResourceType) : registry.permissionResource resource = resource := by
  unfold permissionResource
  split
  next scopes found =>
    obtain ⟨registration, member, scopesBuilt, atResource⟩ := exists_registration built found
    obtain ⟨_, _, via⟩ := Registration.build_eq_ok scopesBuilt
    unfold ResourceScopes.permissionResource
    rw [via, own registration member]
    exact atResource.symm
  next => rfl

namespace Evaluator

/-- Whether a principal holds one key: it is the only one cached with its scopes, or
nothing is cached and the grants that its strings select are all on the key. -/
inductive HoldsOnly (evaluator : Evaluator) (session : Session) (key : PermissionKey) : Prop
  | cached (scopes : OrderedSet ScopeName)
      (isCached : session.context.held = some (OrderedMap.ofList [(key, scopes)]))
  | selected (strings : OrderedSet String) (uncached : session.context.held = none)
      (source : evaluator.grantSource session.context.principal = .ok strings)
      (someGrant : ∃ grant, evaluator.permissions.Selects strings grant)
      (only : ∀ grant, evaluator.permissions.Selects strings grant → grant.permission = key)

variable {evaluator : Evaluator} {session : Session} {key : PermissionKey}

namespace HoldsOnly

theorem marked (holds : evaluator.HoldsOnly session key) :
    evaluator.HoldsOnly (session.updateContext RequestContext.markChecked) key := by
  cases holds with
  | cached scopes isCached => exact .cached scopes isCached
  | selected strings uncached source someGrant only =>
      exact .selected strings uncached source someGrant only

/-- A look-up finds the key and no other one held. Only a grant that is misplaced
fails it, and then the key is that of no action. -/
theorem outcome_heldPermissions (holds : evaluator.HoldsOnly session key)
    (ordinary : session.context.principal.superuser = false) :
    (∃ held, (evaluator.heldPermissions session).1 = .ok held ∧
      ∀ candidate, (held.find? candidate).isSome ↔ candidate = key) ∨
    ((∃ error, (evaluator.heldPermissions session).1 = .error error) ∧
      ∀ parts, PermissionKey.parts? key = some parts →
        ∀ action : Action, parts.action ≠ action.label) := by
  cases holds with
  | cached scopes isCached =>
      refine Or.inl ⟨OrderedMap.ofList [(key, scopes)], ?_, ?_⟩
      · unfold heldPermissions
        rw [isCached]
      · intro candidate
        have bound : (OrderedMap.ofList [(key, scopes)]).find? candidate =
            if candidate = key then some scopes else none :=
          OrderedMap.find?_insert OrderedMap.empty key candidate scopes
        rw [bound]
        split
        next same => exact iff_of_true rfl same
        next other => exact iff_of_false Bool.false_ne_true other
  | selected strings uncached source someGrant only =>
      have supplied : evaluator.Supplied session strings := .of_uncached ordinary source uncached
      rw [supplied.outcome_heldPermissions]
      by_cases misplaced :
          ∃ grant, evaluator.permissions.Selects strings grant ∧ grant.Misplaced
      · obtain ⟨first, _, collected⟩ := HeldPermissions.collect_of_misplaced misplaced
        obtain ⟨grant, selects, _, noAction⟩ := misplaced
        rw [only grant selects] at noAction
        exact Or.inr ⟨⟨_, collected⟩, noAction⟩
      · have sound : ∀ grant, evaluator.permissions.Selects strings grant →
            ¬ grant.Misplaced :=
          fun grant selects isMisplaced => misplaced ⟨grant, selects, isMisplaced⟩
        obtain ⟨held, collected, reflects⟩ := HeldPermissions.collect_of_sound sound
        refine Or.inl ⟨held, collected, ?_⟩
        intro candidate
        rw [reflects.keys]
        simp only [HeldPermissions.mem_selected]
        constructor
        · rintro ⟨grant, selects, onCandidate⟩
          rw [← onCandidate]
          exact only grant selects
        · rintro rfl
          obtain ⟨grant, selects⟩ := someGrant
          exact ⟨grant, selects, only grant selects⟩

/-- The holder of one key is granted an action on a resource exactly if the parts
of the key are that resource and that action. -/
theorem resolves_iff (holds : evaluator.HoldsOnly session key)
    (ordinary : session.context.principal.superuser = false)
    (own : ∀ resource, evaluator.authority.registry.permissionResource resource = resource)
    {resource : ResourceType} (parsed : resource.Parsed) (action : Action) :
    (∃ scopes, (evaluator.resolveGrants resource action session).1 = .ok scopes) ↔
      PermissionKey.parts? key = some (PermissionKey.partsOf resource action) := by
  have guarding : evaluator.guardingKey resource action =
      resource.permissionKey action.label := by
    unfold guardingKey
    rw [own]
  rw [evaluator.grants_of_ordinary resource action (ne_true_of_eq_false ordinary)]
  rcases holds.marked.outcome_heldPermissions ordinary with
    ⟨held, found, isOnly⟩ | ⟨⟨error, failed⟩, noAction⟩
  · rw [PermissionKey.parts?_eq_partsOf_iff parsed, ← guarding, ← isOnly, found]
    dsimp only [Except.bind]
    cases held.find? (evaluator.guardingKey resource action) with
    | none => simp
    | some scopes => simp
  · rw [failed]
    refine iff_of_false ?_ ?_
    · rintro ⟨scopes, answered⟩
      cases answered
    · intro divided
      exact noAction _ divided action rfl

end HoldsOnly

/-- Permission keys keep resources and actions apart: keys of different pairs
differ, a key is read back as what it was made of, and in a registry where every
resource is guarded by its own keys, an ordinary principal who holds one key is
granted the pair it is read as and no other one. -/
theorem keys_separate_resources_and_actions :
    (∀ (resource : ResourceType) (action : Action), resource.Parsed →
      PermissionKey.parts? (resource.permissionKey action.label) =
        some ⟨resource.app, action.label, resource.model⟩) ∧
    (∀ (left right : ResourceType) (first second : Action), left.Parsed → right.Parsed →
      left.permissionKey first.label = right.permissionKey second.label →
        left = right ∧ first = second) ∧
    (∀ (key : PermissionKey) (parts : PermissionKeyParts),
      PermissionKey.parts? key = some parts →
        key.text = parts.app ++ "." ++ parts.action ++ "_" ++ parts.model) ∧
    ∀ (evaluator : Evaluator) (registrations : List Registration) (session : Session)
      (key : PermissionKey),
      Registry.ofRegistrations registrations = .ok evaluator.authority.registry →
      (∀ registration ∈ registrations, registration.permissionsVia = none) →
      session.context.principal.superuser = false → evaluator.HoldsOnly session key →
        (∀ (resource : ResourceType) (action : Action), resource.Parsed →
          ((∃ scopes, (evaluator.resolveGrants resource action session).1 = .ok scopes) ↔
            PermissionKey.parts? key =
              some ⟨resource.app, action.label, resource.model⟩)) ∧
        ∀ (left right : ResourceType) (first second : Action), left.Parsed → right.Parsed →
          (∃ scopes, (evaluator.resolveGrants left first session).1 = .ok scopes) →
          (∃ scopes, (evaluator.resolveGrants right second session).1 = .ok scopes) →
            left = right ∧ first = second := by
  refine ⟨fun _ action parsed => PermissionKey.parts?_permissionKey parsed action, ?_,
    fun _ _ => PermissionKey.text_of_parts?, ?_⟩
  · intro left right first second leftParsed rightParsed same
    exact PermissionKey.permissionKey_injective leftParsed rightParsed same
  · intro evaluator registrations session key built viaNone ordinary holds
    have own := Registry.permissionResource_of_own built viaNone
    have resolves : ∀ (resource : ResourceType) (action : Action), resource.Parsed →
        ((∃ scopes, (evaluator.resolveGrants resource action session).1 = .ok scopes) ↔
          PermissionKey.parts? key = some (PermissionKey.partsOf resource action)) :=
      fun resource action parsed => holds.resolves_iff ordinary own parsed action
    refine ⟨resolves, ?_⟩
    intro left right first second leftParsed rightParsed leftGranted rightGranted
    have leftParts := (resolves left first leftParsed).1 leftGranted
    have rightParts := (resolves right second rightParsed).1 rightGranted
    exact PermissionKey.eq_of_partsOf_eq (Option.some.inj (leftParts.symm.trans rightParts))

end Evaluator

namespace Desk

/-- A resource whose texts contain what keys are joined with. -/
def lost : ResourceType := ⟨"lost_desk", "view_ticket"⟩

def lostRegistration : Registration where
  resource := lost
  rules := []
  permissionsVia := none
  provider := none

/-- A desk where clerks may view lost tickets, and nothing else. -/
def lostDesk : Evaluator where
  authority :=
    { registry := (Registry.ofRegistrations [lostRegistration]).toOption.getD Registry.empty
      resolver := SubsetResolver.localOnly }
  permissions := PermissionMap.ofList [("clerk", ⟨lost.permissionKey "view", some own⟩)]
  grantSource := GrantSource.ofPrincipal

/-- The key `lost_desk.view_view_ticket` opens the view of the one resource whose
model is `view_ticket`, and not that of one whose model is `ticket`. -/
theorem desk_key_opens_one_view :
    (∃ scopes, (lostDesk.resolveGrants lost .view (clerk .get)).1 = .ok scopes) ∧
    ¬ ∃ scopes,
      (lostDesk.resolveGrants ⟨"lost_desk", "ticket"⟩ .view (clerk .get)).1 = .ok scopes := by
  have built : Registry.ofRegistrations [lostRegistration] = .ok lostDesk.authority.registry := rfl
  have viaNone : ∀ registration ∈ [lostRegistration], registration.permissionsVia = none := by
    intro registration member
    rw [List.mem_singleton.1 member]
    rfl
  have onKey : ∀ grant, lostDesk.permissions.Selects (OrderedSet.ofList ["clerk"]) grant →
      grant.permission = lost.permissionKey "view" := by
    rintro grant ⟨name, _, listed⟩
    have isOnly := List.mem_singleton.1 (PermissionMap.mem_grantsFor_ofList.1 listed)
    cases isOnly
    rfl
  have selects : lostDesk.permissions.Selects (OrderedSet.ofList ["clerk"])
      ⟨lost.permissionKey "view", some own⟩ :=
    ⟨"clerk", Or.inr List.mem_cons_self, PermissionMap.mem_grantsFor_ofList.2 List.mem_cons_self⟩
  have holds : lostDesk.HoldsOnly (clerk .get) (lost.permissionKey "view") :=
    .selected (OrderedSet.ofList ["clerk"]) rfl rfl ⟨_, selects⟩ onKey
  have lostParsed : lost.Parsed := ResourceType.parsed_of_shape (by decide) (by decide)
    (by decide) (by decide) (by decide)
  have ticketParsed : ResourceType.Parsed ⟨"lost_desk", "ticket"⟩ :=
    ResourceType.parsed_of_shape (by decide) (by decide) (by decide) (by decide) (by decide)
  obtain ⟨divides, _, _, separates⟩ := Evaluator.keys_separate_resources_and_actions
  obtain ⟨resolves, never⟩ :=
    separates lostDesk [lostRegistration] (clerk .get) _ built viaNone rfl holds
  have granted := (resolves lost .view lostParsed).2 (divides lost .view lostParsed)
  refine ⟨granted, ?_⟩
  intro leaked
  obtain ⟨same, _⟩ := never lost ⟨"lost_desk", "ticket"⟩ .view .view lostParsed ticketParsed
    granted leaked
  exact absurd same (by decide)

end Desk

end RowAccess
