import RowAccess.Proofs.Grant.Held
import RowAccess.Proofs.Session.Decision

/-!
Contract: grants are resolved to what the permission strings of a principal hold.

For an ordinary principal a resolution answers by the grants that its strings
select: with their scopes where the guarding key is held at all, and as
forbidden where it is not. More strings take nothing away, and the order in
which grants were configured does not matter.

Owns:
- sessions whose principal is supplied with permission strings.
- the answer for a key by a set of grants.
- the resolution of grants as this answer.
-/

namespace RowAccess

/-! ## Answers by a set of grants -/

/-- The answer for a permission key by the grants that are held: the scopes of
the grants on the key, if there are any, and a refusal if there are none. -/
structure AnswersBy (grants : PermissionGrant → Prop) (principal : PrincipalId)
    (key : PermissionKey) (answer : Except AccessError (OrderedSet ScopeName)) : Prop where
  held : (∃ grant, grants grant ∧ grant.permission = key) →
    ∃ scopes, answer = .ok scopes ∧
      ∀ scope, scope ∈ scopes.toList ↔ grants ⟨key, some scope⟩
  missing : (¬ ∃ grant, grants grant ∧ grant.permission = key) →
    answer = .error (.forbidden principal key)

namespace AnswersBy

variable {grants more : PermissionGrant → Prop} {principal other : PrincipalId}
  {key : PermissionKey} {answer wider : Except AccessError (OrderedSet ScopeName)}

theorem of_ok (answers : AnswersBy grants principal key answer) {scopes : OrderedSet ScopeName}
    (answered : answer = .ok scopes) :
    (∃ grant, grants grant ∧ grant.permission = key) ∧
      ∀ scope, scope ∈ scopes.toList ↔ grants ⟨key, some scope⟩ := by
  by_cases held : ∃ grant, grants grant ∧ grant.permission = key
  · obtain ⟨own, ownAnswer, members⟩ := answers.held held
    cases answered.symm.trans ownAnswer
    exact ⟨held, members⟩
  · cases answered.symm.trans (answers.missing held)

/-- More grants keep an answer and the scopes in it. -/
theorem mono (answers : AnswersBy grants principal key answer)
    (widerAnswers : AnswersBy more other key wider) (subset : ∀ grant, grants grant → more grant)
    {scopes : OrderedSet ScopeName} (answered : answer = .ok scopes) :
    ∃ further, wider = .ok further ∧ ∀ scope ∈ scopes.toList, scope ∈ further.toList := by
  obtain ⟨⟨grant, isHeld, onKey⟩, members⟩ := answers.of_ok answered
  obtain ⟨further, widerAnswer, furtherMembers⟩ :=
    widerAnswers.held ⟨grant, subset grant isHeld, onKey⟩
  refine ⟨further, widerAnswer, ?_⟩
  intro scope member
  exact (furtherMembers scope).2 (subset _ ((members scope).1 member))

/-- Grants on another key do not count in an answer. -/
theorem without_key {absent : PermissionKey} (answers : AnswersBy grants principal key answer)
    (distinct : key ≠ absent) :
    AnswersBy (fun grant => grants grant ∧ grant.permission ≠ absent) principal key answer := by
  have same : (∃ grant, (grants grant ∧ grant.permission ≠ absent) ∧ grant.permission = key) ↔
      ∃ grant, grants grant ∧ grant.permission = key := by
    constructor
    · rintro ⟨grant, ⟨isHeld, _⟩, onKey⟩
      exact ⟨grant, isHeld, onKey⟩
    · rintro ⟨grant, isHeld, rfl⟩
      exact ⟨grant, ⟨isHeld, distinct⟩, rfl⟩
  refine ⟨?_, ?_⟩
  · intro held
    obtain ⟨scopes, answered, members⟩ := answers.held (same.1 held)
    refine ⟨scopes, answered, ?_⟩
    intro scope
    rw [members, and_iff_left distinct]
  · intro missing
    exact answers.missing (mt same.2 missing)

theorem eq_of_iff (answers : AnswersBy grants principal key answer)
    (others : AnswersBy more principal key wider) (same : ∀ grant, grants grant ↔ more grant) :
    answer = wider := by
  have sameGrants : grants = more := funext (fun grant => propext (same grant))
  subst sameGrants
  by_cases held : ∃ grant, grants grant ∧ grant.permission = key
  · obtain ⟨scopes, answered, members⟩ := answers.held held
    obtain ⟨further, widerAnswered, furtherMembers⟩ := others.held held
    rw [answered, widerAnswered]
    congr 1
    apply OrderedSet.eq_of_mem_iff
    intro scope
    rw [members, furtherMembers]
  · rw [answers.missing held, others.missing held]

end AnswersBy

theorem HeldPermissions.Reflects.answersBy {held : HeldPermissions} {map : PermissionMap}
    {strings : OrderedSet String} (reflects : held.Reflects (selected map strings))
    (principal : PrincipalId) (key : PermissionKey) :
    AnswersBy (map.Selects strings) principal key
      (match held.find? key with
        | some scopes => .ok scopes
        | none => .error (.forbidden principal key)) := by
  have keys := reflects.keys key
  have members := reflects.scopes key
  simp only [mem_selected] at keys members
  cases found : held.find? key with
  | none =>
      simp only [found, Option.isSome_none, Bool.false_eq_true, false_iff] at keys
      exact ⟨fun isHeld => absurd isHeld keys, fun _ => rfl⟩
  | some scopes =>
      simp only [found, Option.isSome_some, true_iff] at keys
      simp only [scopesOf, found, Option.getD_some] at members
      exact ⟨fun _ => ⟨scopes, rfl, members⟩, fun missing => absurd keys missing⟩

namespace Evaluator

/-- Whether a session's principal is an ordinary one who is supplied with
permission strings, and nothing else is cached for it than what they hold. -/
structure Supplied (evaluator : Evaluator) (session : Session) (strings : OrderedSet String) :
    Prop where
  ordinary : session.context.principal.superuser = false
  source : evaluator.grantSource session.context.principal = .ok strings
  cached : ∀ held, session.context.held = some held →
    HeldPermissions.collect evaluator.permissions strings = .ok held

variable {evaluator : Evaluator} {session : Session} {strings : OrderedSet String}

namespace Supplied

theorem of_uncached (ordinary : session.context.principal.superuser = false)
    (source : evaluator.grantSource session.context.principal = .ok strings)
    (uncached : session.context.held = none) : evaluator.Supplied session strings where
  ordinary := ordinary
  source := source
  cached := by
    intro held isCached
    rw [uncached] at isCached
    cases isCached

theorem marked (supplied : evaluator.Supplied session strings) :
    evaluator.Supplied (session.updateContext RequestContext.markChecked) strings where
  ordinary := supplied.ordinary
  source := supplied.source
  cached := supplied.cached

theorem load_eq_collect (supplied : evaluator.Supplied session strings) :
    HeldPermissions.load evaluator.permissions evaluator.grantSource session.context.principal =
      HeldPermissions.collect evaluator.permissions strings := by
  unfold HeldPermissions.load
  rw [supplied.source]

/-- What is held is what the strings hold, cached or not. -/
theorem outcome_heldPermissions (supplied : evaluator.Supplied session strings) :
    (evaluator.heldPermissions session).1 =
      HeldPermissions.collect evaluator.permissions strings := by
  unfold heldPermissions
  split
  next held isCached => exact (supplied.cached held isCached).symm
  next uncached =>
    rw [supplied.load_eq_collect]
    cases HeldPermissions.collect evaluator.permissions strings <;> rfl

/-- A resolution reads the guarding key off what the strings hold. -/
theorem outcome_resolveGrants (supplied : evaluator.Supplied session strings)
    (resource : ResourceType) (action : Action) :
    (evaluator.resolveGrants resource action session).1 =
      (HeldPermissions.collect evaluator.permissions strings).bind (fun held =>
        match held.find? (evaluator.guardingKey resource action) with
        | some scopes => .ok scopes
        | none =>
            .error (.forbidden session.context.principal.id
              (evaluator.guardingKey resource action))) := by
  have ordinary : ¬ session.context.principal.superuser = true :=
    ne_true_of_eq_false supplied.ordinary
  have granted := evaluator.grants_of_ordinary resource action ordinary
  rw [supplied.marked.outcome_heldPermissions] at granted
  exact granted

/-- A look-up keeps a session supplied: what it caches is what the strings hold. -/
theorem looked (supplied : evaluator.Supplied session strings) :
    evaluator.Supplied (evaluator.heldPermissions session).2 strings := by
  have principal := (evaluator.looked_heldPermissions session).principal
  refine ⟨?_, ?_, ?_⟩
  · rw [principal]
    exact supplied.ordinary
  · rw [principal]
    exact supplied.source
  · unfold heldPermissions
    split
    next => exact supplied.cached
    next uncached =>
      rw [supplied.load_eq_collect]
      cases HeldPermissions.collect evaluator.permissions strings with
      | error error =>
          intro held isCached
          cases uncached.symm.trans isCached
      | ok own =>
          intro held isCached
          cases isCached
          rfl

theorem resolved (supplied : evaluator.Supplied session strings) (resource : ResourceType)
    (action : Action) :
    evaluator.Supplied (evaluator.resolveGrants resource action session).2 strings := by
  rw [session_resolveGrants, if_neg (ne_true_of_eq_false supplied.ordinary)]
  exact supplied.marked.looked

end Supplied

/-- Without misplaced grants, a resolution answers by the grants the strings select. -/
theorem Supplied.answersBy (supplied : evaluator.Supplied session strings)
    (sound : ∀ grant, evaluator.permissions.Selects strings grant → ¬ grant.Misplaced)
    (resource : ResourceType) (action : Action) :
    AnswersBy (evaluator.permissions.Selects strings) session.context.principal.id
      (evaluator.guardingKey resource action)
      (evaluator.resolveGrants resource action session).1 := by
  obtain ⟨held, collected, reflects⟩ := HeldPermissions.collect_of_sound sound
  rw [supplied.outcome_resolveGrants, collected]
  exact reflects.answersBy session.context.principal.id (evaluator.guardingKey resource action)

theorem guardingKey_of_registry {other : Evaluator}
    (sameRegistry : other.authority.registry = evaluator.authority.registry)
    (resource : ResourceType) (action : Action) :
    other.guardingKey resource action = evaluator.guardingKey resource action := by
  unfold guardingKey
  rw [sameRegistry]

section Valid

variable {other : Evaluator} {again : Session} {more : OrderedSet String}

/-- On a valid map, more strings keep an answer and the scopes in it. -/
theorem Supplied.kept_by_more (supplied : evaluator.Supplied session strings)
    (otherSupplied : other.Supplied again more)
    (valid : evaluator.permissions.validate = .ok ())
    (sameRegistry : other.authority.registry = evaluator.authority.registry)
    (sameMap : other.permissions = evaluator.permissions)
    (subset : ∀ name ∈ strings.toList, name ∈ more.toList)
    {resource : ResourceType} {action : Action} {scopes : OrderedSet ScopeName}
    (answered : (evaluator.resolveGrants resource action session).1 = .ok scopes) :
    ∃ further, (other.resolveGrants resource action again).1 = .ok further ∧
      ∀ scope ∈ scopes.toList, scope ∈ further.toList := by
  have otherSound : ∀ grant, other.permissions.Selects more grant → ¬ grant.Misplaced := by
    rw [sameMap]
    intro grant selects
    exact selects.not_misplaced valid
  have answers := supplied.answersBy (fun _ selects => selects.not_misplaced valid) resource action
  have otherAnswers := otherSupplied.answersBy otherSound resource action
  rw [guardingKey_of_registry sameRegistry, sameMap] at otherAnswers
  exact answers.mono otherAnswers (fun _ selects => selects.mono subset) answered

/-- On a valid map, answers do not depend on the order in which grants were
inserted. -/
theorem Supplied.same_of_perm (supplied : evaluator.Supplied session strings)
    (otherSupplied : other.Supplied again strings)
    (valid : evaluator.permissions.validate = .ok ())
    (sameRegistry : other.authority.registry = evaluator.authority.registry)
    {inserted reordered : List (String × PermissionGrant)}
    (isInserted : evaluator.permissions = PermissionMap.ofList inserted)
    (isReordered : other.permissions = PermissionMap.ofList reordered)
    (permuted : reordered.Perm inserted)
    (samePrincipal : again.context.principal = session.context.principal)
    (resource : ResourceType) (action : Action) :
    (other.resolveGrants resource action again).1 =
      (evaluator.resolveGrants resource action session).1 := by
  have same : ∀ grant, other.permissions.Selects strings grant ↔
      evaluator.permissions.Selects strings grant := by
    intro grant
    rw [isReordered, isInserted]
    exact PermissionMap.selects_ofList_of_perm permuted
  have sound : ∀ grant, evaluator.permissions.Selects strings grant → ¬ grant.Misplaced :=
    fun _ selects => selects.not_misplaced valid
  have answers := supplied.answersBy sound resource action
  have otherAnswers := otherSupplied.answersBy
    (fun grant selects => sound grant ((same grant).1 selects)) resource action
  rw [guardingKey_of_registry sameRegistry, samePrincipal] at otherAnswers
  exact otherAnswers.eq_of_iff answers same

end Valid

/-- Grants are resolved by the set of grants that the principal's permission
strings and the one that every principal has select. A misplaced one among them
fails every resolution. On a valid map, more strings take nothing away, and the
order of insertion changes nothing. -/
theorem grants_resolve_by_strings (evaluator : Evaluator) (session : Session)
    {strings : OrderedSet String} (supplied : evaluator.Supplied session strings) :
    let map := evaluator.permissions
    let registry := evaluator.authority.registry
    let answer := fun resource action => (evaluator.resolveGrants resource action session).1
    ((∃ grant, map.Selects strings grant ∧ grant.Misplaced) →
      ∃ first, map.FirstMisplaced strings first ∧
        ∀ resource action, answer resource action = .error (.scopedCustomAction first.permission)) ∧
    ((∀ grant, map.Selects strings grant → ¬ grant.Misplaced) →
      ∀ resource (action : Action),
        AnswersBy (map.Selects strings) session.context.principal.id
          ((registry.permissionResource resource).permissionKey action.label)
          (answer resource action)) ∧
    (map.validate = .ok () →
      (∀ (wider : Evaluator) (richer : Session) (more : OrderedSet String),
        wider.authority.registry = registry → wider.permissions = map →
        wider.Supplied richer more → (∀ name ∈ strings.toList, name ∈ more.toList) →
          ∀ resource action scopes, answer resource action = .ok scopes →
            ∃ further, (wider.resolveGrants resource action richer).1 = .ok further ∧
              ∀ scope ∈ scopes.toList, scope ∈ further.toList) ∧
      ∀ (inserted reordered : List (String × PermissionGrant)) (other : Evaluator)
        (again : Session),
        map = PermissionMap.ofList inserted → reordered.Perm inserted →
        other.authority.registry = registry → other.permissions = PermissionMap.ofList reordered →
        other.Supplied again strings → again.context.principal = session.context.principal →
          ∀ resource action, (other.resolveGrants resource action again).1 =
            answer resource action) := by
  intro map registry answer
  refine ⟨?_, fun sound => supplied.answersBy sound, fun valid => ⟨?_, ?_⟩⟩
  · intro misplaced
    obtain ⟨first, isFirst, collected⟩ := HeldPermissions.collect_of_misplaced misplaced
    refine ⟨first, isFirst, fun resource action => ?_⟩
    have outcome : answer resource action = _ := supplied.outcome_resolveGrants resource action
    rw [outcome, collected]
    rfl
  · intro wider richer more sameRegistry sameMap widerSupplied subset _ _ _ answered
    exact supplied.kept_by_more widerSupplied valid sameRegistry sameMap subset answered
  · intro inserted reordered other again isInserted permuted sameRegistry isReordered supplies
    exact supplied.same_of_perm supplies valid sameRegistry isInserted isReordered permuted

end Evaluator

namespace Desk

def notes : ResourceType := ⟨"desk", "note"⟩

/-- Notes have the permissions of tickets. -/
def notesRegistration : Registration where
  resource := notes
  rules := []
  permissionsVia := some tickets
  provider := none

def bureau (granted : List (String × PermissionGrant)) : Evaluator where
  authority :=
    { registry := (Registry.ofRegistrations [notesRegistration]).toOption.getD Registry.empty
      resolver := SubsetResolver.localOnly }
  permissions := PermissionMap.ofList granted
  grantSource := GrantSource.ofPrincipal

/-- Everyone sees one's own; a clerk sees the picked ones too, and holds the
permission to change without a scope. -/
def deskGrants : List (String × PermissionGrant) :=
  [("clerk", ⟨tickets.permissionKey "view", some picked⟩),
    ("clerk", ⟨tickets.permissionKey "change", none⟩),
    ("default", ⟨tickets.permissionKey "view", some own⟩)]

/-- A grant with a scope on an action that is none of the four. -/
def closing : PermissionGrant := ⟨tickets.permissionKey "close", some own⟩

theorem bureau_supplies_clerk (granted : List (String × PermissionGrant))
    (method : RequestMethod) :
    (bureau granted).Supplied (clerk method) (OrderedSet.ofList ["clerk"]) :=
  .of_uncached rfl rfl rfl

/-- A clerk is granted what the strings select: no scope to change, and to view,
once the permissions are cached, what a visitor sees too. The order of the grants
does not matter, and one that is misplaced refuses everything. -/
theorem desk_clerk_resolves :
    AnswersBy ((bureau deskGrants).permissions.Selects (OrderedSet.ofList ["clerk"])) ⟨"ada"⟩
      (tickets.permissionKey "change")
      ((bureau deskGrants).resolveGrants notes .change (clerk .put)).1 ∧
    ((bureau deskGrants).resolveGrants notes .change (clerk .put)).1 = .ok OrderedSet.empty ∧
    (∃ further,
      ((bureau deskGrants).resolveGrants notes .view
        ((bureau deskGrants).resolveGrants notes .change (clerk .put)).2).1 = .ok further ∧
      own ∈ further.toList) ∧
    ((bureau deskGrants.reverse).resolveGrants notes .view (clerk .get)).1 =
      ((bureau deskGrants).resolveGrants notes .view (clerk .get)).1 ∧
    ∃ first,
      (bureau (("clerk", closing) :: deskGrants)).permissions.FirstMisplaced
        (OrderedSet.ofList ["clerk"]) first ∧
      ((bureau (("clerk", closing) :: deskGrants)).resolveGrants notes .delete
        (clerk .delete)).1 = .error (.scopedCustomAction first.permission) := by
  have valid : (bureau deskGrants).permissions.validate = .ok () := rfl
  have visitor : (bureau deskGrants).Supplied
      (Session.start (RequestContext.anonymous .get none)) OrderedSet.empty :=
    .of_uncached rfl rfl rfl
  have visitorSees : ((bureau deskGrants).resolveGrants notes .view
      (Session.start (RequestContext.anonymous .get none))).1 = .ok (OrderedSet.ofList [own]) := rfl
  have changing := Evaluator.grants_resolve_by_strings _ _ (bureau_supplies_clerk deskGrants .put)
  have viewing := Evaluator.grants_resolve_by_strings _ _ (bureau_supplies_clerk deskGrants .get)
  have visiting := Evaluator.grants_resolve_by_strings _ _ visitor
  have crooked := Evaluator.grants_resolve_by_strings _ _
    (bureau_supplies_clerk (("clerk", closing) :: deskGrants) .delete)
  refine ⟨?_, rfl, ?_, ?_, ?_⟩
  · exact changing.2.1 (fun _ selects => selects.not_misplaced valid) notes .change
  · obtain ⟨further, answered, kept⟩ := (visiting.2.2 valid).1 _ _ _ rfl rfl
      ((bureau_supplies_clerk deskGrants .put).resolved notes .change)
      (fun _ member => absurd member List.not_mem_nil) notes .view _ visitorSees
    exact ⟨further, answered, kept own List.mem_cons_self⟩
  · exact (viewing.2.2 valid).2 deskGrants deskGrants.reverse (bureau deskGrants.reverse)
      (clerk .get) rfl (List.reverse_perm deskGrants) rfl rfl
      (bureau_supplies_clerk deskGrants.reverse .get) rfl notes .view
  · have misplaced : closing.Misplaced :=
      (PermissionGrant.defect?_eq_some_iff.1
        (show closing.defect? = some (.scopedCustomAction closing.permission) from rfl)).1
    have selected : (bureau (("clerk", closing) :: deskGrants)).permissions.Selects
        (OrderedSet.ofList ["clerk"]) closing :=
      ⟨"clerk", Or.inr List.mem_cons_self,
        PermissionMap.mem_grantsFor_ofList.2 List.mem_cons_self⟩
    obtain ⟨first, isFirst, fails⟩ := crooked.1 ⟨closing, selected, misplaced⟩
    exact ⟨first, isFirst, fails notes .delete⟩

end Desk

end RowAccess
