import RowAccess.Proofs.Config.Conversion
import RowAccess.Proofs.Session.Separation

/-!
Contract: which grants of an accepted configuration take effect.

A grant counts where its key is the one that guards an action on a resource, and that
key is written with the model in lower case, while the check lets a key pass in any
case. So a grant whose key is written in lower case opens what it names to everyone who
holds it. Any other one opens nothing at all, and nothing tells.

Owns:
- the resource and the action that a setting is about.
- the effect of a setting on the resolution of grants.
-/

namespace RowAccess

/-- Whether a setting is about an action on a resource: its key has the action's label,
and its application and model are read as the resource. -/
structure GrantSetting.IsAbout (setting : GrantSetting) (parts : PermissionKeyParts)
    (resource : ResourceType) (action : Action) : Prop where
  divided : PermissionKey.parts? setting.key = some parts
  isAction : parts.action = action.label
  isResource : ResourceType.parse? (parts.app ++ "." ++ parts.model) = some resource

namespace GrantSetting.IsAbout

variable {setting : GrantSetting} {parts : PermissionKeyParts} {resource : ResourceType}
  {action : Action}

/-- In lower case, the key of a setting is the one that guards what it is about. -/
theorem permissionKey_eq (about : setting.IsAbout parts resource action)
    (lower : parts.model.map Char.toLower = parts.model) :
    resource.permissionKey action.label = setting.key := by
  obtain ⟨_, noPoint, _⟩ := PermissionKey.joined_of_parts? about.divided
  have joined := PermissionKey.text_of_parts? about.divided
  rw [ResourceType.eq_ofParts_of_parse? noPoint about.isResource]
  unfold ResourceType.ofParts ResourceType.permissionKey
  rw [lower, ← about.isAction, ← joined]

/-- In any other case, it guards no action on any resource. -/
theorem permissionKey_ne (about : setting.IsAbout parts resource action)
    (upper : parts.model.map Char.toLower ≠ parts.model) {other : ResourceType}
    (parsed : other.Parsed) (act : Action) : other.permissionKey act.label ≠ setting.key := by
  intro same
  have divided := PermissionKey.parts?_permissionKey parsed act
  rw [same, about.divided] at divided
  obtain rfl := Option.some.inj divided
  exact upper parsed.lower

end GrantSetting.IsAbout

namespace AccessConfig

variable {config : AccessConfig} {name : String} {settings : List GrantSetting}
  {setting : GrantSetting}

/-- A setting of an accepted configuration takes effect if and only if the model in its
key is written in lower case. Then everyone for whom its permission string counts is
granted the action on the resource that it is about, with its scope if it has one.
Otherwise no action on any resource is decided by a grant on its key. -/
theorem grant_takes_effect (accepted : config.check = .ok ()) {evaluator : Evaluator}
    (configured : evaluator.permissions = config.permissionMap)
    {registrations : List Registration}
    (built : Registry.ofRegistrations registrations = .ok evaluator.authority.registry)
    (viaNone : ∀ registration ∈ registrations, registration.permissionsVia = none)
    {session : Session} {strings : OrderedSet String}
    (supplied : evaluator.Supplied session strings)
    (written : config.permissions.find? name = some settings) (member : setting ∈ settings)
    (counts : PermissionMap.Counts strings name) {parts : PermissionKeyParts}
    {resource : ResourceType} {action : Action}
    (about : setting.IsAbout parts resource action) :
    (parts.model.map Char.toLower = parts.model →
      ∃ scopes, (evaluator.resolveGrants resource action session).1 = .ok scopes ∧
        ∀ scope, setting.scopeName = some scope → scope ∈ scopes.toList) ∧
    (parts.model.map Char.toLower ≠ parts.model →
      ∀ (other : ResourceType) (act : Action), other.Parsed →
        other.permissionKey act.label ≠ setting.key ∧
        AnswersBy
          (fun grant => evaluator.permissions.Selects strings grant ∧
            grant.permission ≠ setting.key)
          session.context.principal.id (other.permissionKey act.label)
          (evaluator.resolveGrants other act session).1) := by
  have sound : ∀ grant, evaluator.permissions.Selects strings grant → ¬ grant.Misplaced := by
    rintro grant ⟨string, _, listed⟩
    rw [configured] at listed
    exact not_misplaced_of_check accepted listed
  have answers : ∀ (other : ResourceType) (act : Action),
      AnswersBy (evaluator.permissions.Selects strings) session.context.principal.id
        (other.permissionKey act.label) (evaluator.resolveGrants other act session).1 := by
    intro other act
    have guarded := supplied.answersBy sound other act
    unfold Evaluator.guardingKey at guarded
    rw [Registry.permissionResource_of_own built viaNone] at guarded
    exact guarded
  refine ⟨?_, ?_⟩
  · intro lower
    have selects : evaluator.permissions.Selects strings setting.converted := by
      refine ⟨name, counts, ?_⟩
      rw [configured]
      exact converted_mem_grantsFor written member
    have onKey := about.permissionKey_eq lower
    obtain ⟨scopes, answered, members⟩ :=
      (answers resource action).held ⟨setting.converted, selects, onKey.symm⟩
    refine ⟨scopes, answered, ?_⟩
    intro scope isScope
    have whole : setting.converted = ⟨setting.key, some scope⟩ := by
      rw [← isScope]
      rfl
    rw [members, onKey, ← whole]
    exact selects
  · intro upper other act parsed
    have distinct := about.permissionKey_ne upper parsed act
    exact ⟨distinct, (answers other act).without_key distinct⟩

end AccessConfig

namespace Desk

/-- Tickets, of which one's own is the first one. -/
def ticketRegistration : Registration where
  resource := tickets
  rules := [(own, .fixed (Filter.keyEquals ⟨"1"⟩))]
  permissionsVia := none
  provider := none

/-- A desk whose clerks hold one key, for what is their own. -/
def clerkDesk (permission : String) : Evaluator where
  authority :=
    { registry := (Registry.ofRegistrations [ticketRegistration]).toOption.getD Registry.empty
      resolver := SubsetResolver.localOnly }
  permissions := (clerkConfig permission).permissionMap
  grantSource := GrantSource.ofPrincipal

/-- In lower case, the key opens the view of tickets, in spite of the blank before it. -/
theorem desk_lower_case_key_opens :
    (clerkConfig " desk.view_ticket").check = .ok () ∧
    GrantSetting.IsAbout ⟨" desk.view_ticket", some "own"⟩ ⟨"desk", "view", "ticket"⟩
      tickets .view ∧
    (clerkDesk " desk.view_ticket").Supplied (clerk .get) (OrderedSet.ofList ["clerk"]) ∧
    ∃ scopes, ((clerkDesk " desk.view_ticket").resolveGrants tickets .view (clerk .get)).1 =
      .ok scopes ∧ own ∈ scopes.toList := by
  have accepted : (clerkConfig " desk.view_ticket").check = .ok () := by decide +kernel
  have built : Registry.ofRegistrations [ticketRegistration] =
      .ok (clerkDesk " desk.view_ticket").authority.registry := rfl
  have viaNone : ∀ registration ∈ [ticketRegistration], registration.permissionsVia = none := by
    intro registration member
    rw [List.mem_singleton.1 member]
    rfl
  have supplied : (clerkDesk " desk.view_ticket").Supplied (clerk .get)
      (OrderedSet.ofList ["clerk"]) := .of_uncached rfl rfl rfl
  have about : GrantSetting.IsAbout ⟨" desk.view_ticket", some "own"⟩
      ⟨"desk", "view", "ticket"⟩ tickets .view :=
    ⟨by decide +kernel, rfl, by decide +kernel⟩
  obtain ⟨scopes, answered, contains⟩ :=
    (AccessConfig.grant_takes_effect accepted rfl built viaNone supplied rfl
      List.mem_cons_self (Or.inr List.mem_cons_self) about).1 (by decide +kernel)
  exact ⟨accepted, about, supplied, scopes, answered, contains own (by decide +kernel)⟩

/-- With the model in upper case, it is accepted and opens nothing. -/
theorem desk_upper_case_key_is_dead :
    (clerkConfig "desk.view_Ticket").check = .ok () ∧
    GrantSetting.IsAbout ⟨"desk.view_Ticket", some "own"⟩ ⟨"desk", "view", "Ticket"⟩
      tickets .view ∧
    (clerk .get).context.principal.superuser = false ∧
    (clerkDesk "desk.view_Ticket").Supplied (clerk .get) (OrderedSet.ofList ["clerk"]) ∧
    ((clerkDesk "desk.view_Ticket").resolveGrants tickets .view (clerk .get)).1 =
      .error (.forbidden ⟨"ada"⟩ (tickets.permissionKey "view")) := by
  refine ⟨by decide +kernel, ⟨by decide +kernel, rfl, by decide +kernel⟩, rfl,
    .of_uncached rfl rfl rfl, ?_⟩
  decide +kernel

end Desk

end RowAccess
