import Mathlib.Data.List.Perm.Basic
import RowAccess.Proofs.Identity.Resource
import RowAccess.Proofs.Ordered.Map
import RowAccess.Proofs.Scope.Registration

/-!
Contract: exactly the well-formed registrations are accepted, and nothing of them is lost.

The rules of a resource are accepted if every rule may stand under its name and no name
is used twice. Otherwise the first rule that offends against this is reported, by the
first check that it does not pass. Resources are accepted if they are pairwise distinct.
A registry then resolves a name to what the registrations have for it, so the order in
which they were made has no part in it.

Owns:
- well-formed rules, and how a rule offends against those before it.
- the letters of ASCII in any case, and which models are the same.
- what a registry resolves names to, said of its registrations.
- registrations in another order.
-/

namespace RowAccess

/-! ## Letters in any case -/

/-- Whether two characters are the same, or one letter of ASCII in either case. -/
def SameLetter (first second : Char) : Prop :=
  first = second ∨ (first.isUpper = true ∧ second.toNat = first.toNat + 32) ∨
    (second.isUpper = true ∧ first.toNat = second.toNat + 32)

/-- Whether two models have the same letters. -/
def SameModel (first second : String) : Prop :=
  List.Forall₂ SameLetter first.toList second.toList

theorem toLower_eq_iff {first second : Char} :
    first.toLower = second.toLower ↔ SameLetter first second := by
  rw [← Char.toNat_inj, toNat_toLower, toNat_toLower, SameLetter, isUpper_iff, isUpper_iff,
    ← Char.toNat_inj]
  split
  · split
    · omega
    · omega
  · split
    · omega
    · omega

theorem map_toLower_eq_iff {first second : String} :
    first.map Char.toLower = second.map Char.toLower ↔ SameModel first second := by
  have letters : (fun first second : Char => first.toLower = second.toLower) = SameLetter := by
    funext first second
    exact propext toLower_eq_iff
  rw [← String.toList_inj, String.toList_map, String.toList_map, ← List.forall₂_eq_eq_eq,
    List.forall₂_map_left_iff, List.forall₂_map_right_iff, letters, SameModel]

/-- Resource types are the same if their models are, in any case. -/
theorem ResourceType.ofParts_eq_iff {app model otherApp otherModel : String} :
    ofParts app model = ofParts otherApp otherModel ↔
      app = otherApp ∧ SameModel model otherModel := by
  rw [ofParts, ofParts, ResourceType.mk.injEq, map_toLower_eq_iff]

/-! ## The rules of a resource -/

namespace Registration

variable {resource : ResourceType} {rules result : OrderedMap ScopeName ScopeRule}
  {before listed : List (ScopeName × ScopeRule)} {name : ScopeName} {rule : ScopeRule}
  {registration : Registration} {error : RegistryError}

/-- Whether rules may be registered together. -/
structure WellFormed (rules : List (ScopeName × ScopeRule)) : Prop where
  admits : ∀ entry ∈ rules, Admits entry.1 entry.2
  distinct : (rules.map Prod.fst).Nodup

/-- What is reported of a rule that may not be registered behind others. -/
inductive Offends (resource : ResourceType) (before : List (ScopeName × ScopeRule))
    (name : ScopeName) (rule : ScopeRule) : RegistryError → Prop where
  | unnamed (empty : name.text = "") : Offends resource before name rule (.emptyScopeName resource)
  | builtin (isAll : name = ScopeName.all) :
      Offends resource before name rule (.reservedScope resource)
  | hollow (named : name.text ≠ "") (notBuiltin : name ≠ ScopeName.all)
      (empty : rule = .composite []) :
      Offends resource before name rule (.emptyComposite resource name)
  | repeated (admits : Admits name rule) (earlier : name ∈ before.map Prod.fst) :
      Offends resource before name rule (.duplicateScope resource name)

/-- Whether an error is what is reported of the first rule that offends against the rules
before it. -/
def FirstDefect (registration : Registration) (error : RegistryError) : Prop :=
  ∃ before name rule after, registration.rules = before ++ (name, rule) :: after ∧
    WellFormed before ∧ Offends registration.resource before name rule error

theorem wellFormed_nil : WellFormed [] where
  admits _ member := absurd member List.not_mem_nil
  distinct := List.nodup_nil

theorem wellFormed_append_singleton :
    WellFormed (before ++ [(name, rule)]) ↔
      WellFormed before ∧ Admits name rule ∧ name ∉ before.map Prod.fst := by
  have distinct_iff : ((before ++ [(name, rule)]).map Prod.fst).Nodup ↔
      name ∉ before.map Prod.fst ∧ (before.map Prod.fst).Nodup := by
    rw [List.map_append, List.map_singleton, ← List.concat_eq_append, List.nodup_concat]
  constructor
  · rintro ⟨admits, distinct⟩
    obtain ⟨absent, earlierDistinct⟩ := distinct_iff.1 distinct
    refine ⟨⟨?_, earlierDistinct⟩, ?_, absent⟩
    · intro entry member
      exact admits entry (List.mem_append_left _ member)
    · exact admits (name, rule) (List.mem_append_right _ List.mem_cons_self)
  · rintro ⟨⟨admits, distinct⟩, ownAdmits, absent⟩
    refine ⟨?_, distinct_iff.2 ⟨absent, distinct⟩⟩
    intro entry member
    rcases List.mem_append.1 member with earlier | isLast
    · exact admits entry earlier
    · rw [List.mem_singleton.1 isLast]
      exact ownAdmits

theorem WellFormed.of_append {after : List (ScopeName × ScopeRule)}
    (wellFormed : WellFormed (before ++ after)) : WellFormed before where
  admits entry member := wellFormed.admits entry (List.mem_append_left _ member)
  distinct := (List.map_append ▸ wellFormed.distinct).of_append_left

theorem isEmptyComposite_iff : rule.isEmptyComposite = true ↔ rule = .composite [] := by
  cases rule with
  | fixed => simp [ScopeRule.isEmptyComposite]
  | dynamic => simp [ScopeRule.isEmptyComposite]
  | handlers => simp [ScopeRule.isEmptyComposite]
  | composite members => simp [ScopeRule.isEmptyComposite, List.isEmpty_iff]

/-- The checks of a rule find nothing if it may stand behind the rules before it. -/
theorem defect?_eq_none_iff (holds : rules.Holds before) :
    defect? resource rules name rule = none ↔
      Admits name rule ∧ name ∉ before.map Prod.fst := by
  constructor
  · intro sound
    refine ⟨admits_of_defect? sound, fun earlier => ?_⟩
    have admits := admits_of_defect? sound
    unfold defect? at sound
    rw [if_neg admits.named, if_neg admits.notBuiltin, admits.filled,
      if_neg Bool.false_ne_true, if_pos (holds.contains_iff.2 earlier)] at sound
    cases sound
  · rintro ⟨admits, absent⟩
    unfold defect?
    rw [if_neg admits.named, if_neg admits.notBuiltin, admits.filled,
      if_neg Bool.false_ne_true, if_neg (fun found => absent (holds.contains_iff.1 found))]

/-- Otherwise they find how it offends. -/
theorem defect?_eq_some_iff (holds : rules.Holds before) :
    defect? resource rules name rule = some error ↔ Offends resource before name rule error := by
  constructor
  · intro found
    unfold defect? at found
    split at found
    next empty =>
      cases found
      exact Offends.unnamed empty
    next named =>
      split at found
      next isAll =>
        cases found
        exact Offends.builtin isAll
      next notBuiltin =>
        split at found
        next hollow =>
          cases found
          exact Offends.hollow named notBuiltin (isEmptyComposite_iff.1 hollow)
        next filled =>
          split at found
          next earlier =>
            cases found
            exact Offends.repeated ⟨named, notBuiltin, eq_false_of_ne_true filled⟩
              (holds.contains_iff.1 earlier)
          next => cases found
  · intro offends
    unfold defect?
    cases offends with
    | unnamed empty => rw [if_pos empty]
    | builtin isAll =>
        have named : name.text ≠ "" := by
          rw [isAll]
          decide
        rw [if_neg named, if_pos isAll]
    | hollow named notBuiltin empty =>
        rw [if_neg named, if_neg notBuiltin, if_pos (isEmptyComposite_iff.2 empty)]
    | repeated admits earlier =>
        rw [if_neg admits.named, if_neg admits.notBuiltin, admits.filled,
          if_neg Bool.false_ne_true, if_pos (holds.contains_iff.2 earlier)]

/-- Well-formed rules are added, and what follows them is added to them. -/
theorem addRules_of_wellFormed (resource : ResourceType) (holds : rules.Holds before)
    (wellFormed : WellFormed (before ++ listed)) :
    ∃ result, result.Holds (before ++ listed) ∧
      ∀ rest, addRules resource rules (listed ++ rest) = addRules resource result rest := by
  induction listed generalizing before rules with
  | nil =>
      rw [List.append_nil]
      exact ⟨rules, holds, fun rest => rfl⟩
  | cons entry others inductionHypothesis =>
      obtain ⟨name, rule⟩ := entry
      rw [← List.singleton_append, ← List.append_assoc] at wellFormed ⊢
      obtain ⟨_, admits, absent⟩ := wellFormed_append_singleton.1 wellFormed.of_append
      obtain ⟨result, resultHolds, added⟩ :=
        inductionHypothesis (holds.insert absent) wellFormed
      refine ⟨result, resultHolds, fun rest => ?_⟩
      rw [List.append_assoc, List.singleton_append, addRules,
        (defect?_eq_none_iff holds).2 ⟨admits, absent⟩]
      exact added rest

/-- Rules that were added are well-formed, and the error of those that were not is that of
the first which offends. -/
theorem addRules_cases (holds : rules.Holds before) (wellFormed : WellFormed before)
    (listed : List (ScopeName × ScopeRule)) :
    (∀ result, addRules resource rules listed = .ok result → WellFormed (before ++ listed)) ∧
    ∀ error, addRules resource rules listed = .error error →
      ∃ middle name rule after, listed = middle ++ (name, rule) :: after ∧
        WellFormed (before ++ middle) ∧ Offends resource (before ++ middle) name rule error := by
  -- The map only shows the last rule of a name, so the list before it is carried along.
  induction listed generalizing before rules with
  | nil =>
      refine ⟨fun result added => ?_, fun error failed => ?_⟩
      · rw [List.append_nil]
        exact wellFormed
      · cases failed
  | cons entry others inductionHypothesis =>
      obtain ⟨name, rule⟩ := entry
      rw [addRules]
      cases defect : defect? resource rules name rule with
      | some found =>
          refine ⟨fun result added => ?_, fun error failed => ?_⟩
          · cases added
          · cases failed
            refine ⟨[], name, rule, others, rfl, ?_, ?_⟩
            · rw [List.append_nil]
              exact wellFormed
            · rw [List.append_nil]
              exact (defect?_eq_some_iff holds).1 defect
      | none =>
          obtain ⟨admits, absent⟩ := (defect?_eq_none_iff holds).1 defect
          obtain ⟨accepted, rejected⟩ := inductionHypothesis (holds.insert absent)
            (wellFormed_append_singleton.2 ⟨wellFormed, admits, absent⟩)
          simp only [List.append_assoc, List.singleton_append] at accepted rejected
          refine ⟨accepted, fun error failed => ?_⟩
          obtain ⟨middle, other, otherRule, after, rfl, soFar, offends⟩ := rejected error failed
          exact ⟨(name, rule) :: middle, other, otherRule, after, rfl, soFar, offends⟩

/-- Whether scopes have what a registration has. -/
structure BuiltAs (registration : Registration) (scopes : ResourceScopes) : Prop where
  resource : scopes.resource = registration.resource
  rules : scopes.rules.Holds registration.rules
  permissionsVia : scopes.permissionsVia = registration.permissionsVia
  provider : scopes.provider = registration.provider

/-- Well-formed rules are built, and none of them is lost. -/
theorem exists_builtAs (wellFormed : WellFormed registration.rules) :
    ∃ scopes, registration.build = .ok scopes ∧ registration.BuiltAs scopes := by
  obtain ⟨result, holds, added⟩ :=
    addRules_of_wellFormed registration.resource OrderedMap.holds_empty wellFormed
  have whole := added []
  rw [List.append_nil] at whole
  rw [build, whole]
  exact ⟨_, rfl, rfl, holds, rfl, rfl⟩

theorem build_eq_ok_iff :
    (∃ scopes, registration.build = .ok scopes) ↔ WellFormed registration.rules := by
  constructor
  · rintro ⟨scopes, built⟩
    unfold build at built
    cases added : addRules registration.resource OrderedMap.empty registration.rules with
    | error error =>
        rw [added] at built
        cases built
    | ok rules => exact (addRules_cases OrderedMap.holds_empty wellFormed_nil _).1 rules added
  · intro wellFormed
    obtain ⟨scopes, built, _⟩ := exists_builtAs wellFormed
    exact ⟨scopes, built⟩

theorem build_eq_error_iff :
    registration.build = .error error ↔ registration.FirstDefect error := by
  have failed_iff : registration.build = .error error ↔
      addRules registration.resource OrderedMap.empty registration.rules = .error error := by
    unfold build
    cases addRules registration.resource OrderedMap.empty registration.rules with
    | error _ => simp [Except.map]
    | ok _ => simp [Except.map]
  rw [failed_iff]
  constructor
  · intro failed
    exact (addRules_cases OrderedMap.holds_empty wellFormed_nil _).2 error failed
  · rintro ⟨before, name, rule, after, listed, wellFormed, offends⟩
    obtain ⟨result, holds, added⟩ := addRules_of_wellFormed registration.resource
      OrderedMap.holds_empty wellFormed
    rw [listed, added, addRules, (defect?_eq_some_iff holds).2 offends]

theorem builtAs_of_build {scopes : ResourceScopes} (built : registration.build = .ok scopes) :
    registration.BuiltAs scopes := by
  obtain ⟨own, ownBuilt, builtAs⟩ := exists_builtAs (build_eq_ok_iff.1 ⟨scopes, built⟩)
  rw [built] at ownBuilt
  obtain rfl := Except.ok.inj ownBuilt
  exact builtAs

/-- Whether two registrations differ in the order of their rules only. -/
structure Reordered (first second : Registration) : Prop where
  resource : second.resource = first.resource
  permissionsVia : second.permissionsVia = first.permissionsVia
  provider : second.provider = first.provider
  rules : first.rules.Perm second.rules

theorem WellFormed.perm {others : List (ScopeName × ScopeRule)} (wellFormed : WellFormed listed)
    (permuted : listed.Perm others) : WellFormed others where
  admits entry member := wellFormed.admits entry (permuted.mem_iff.2 member)
  distinct := (permuted.map Prod.fst).nodup_iff.1 wellFormed.distinct

theorem BuiltAs.eq_of_reordered {first second : Registration} {scopes other : ResourceScopes}
    (builtAs : first.BuiltAs scopes) (otherBuiltAs : second.BuiltAs other)
    (reordered : first.Reordered second) : other = scopes := by
  have rules := otherBuiltAs.rules.eq_of_perm builtAs.rules reordered.rules.symm
  have resource := otherBuiltAs.resource.trans (reordered.resource.trans builtAs.resource.symm)
  have via := otherBuiltAs.permissionsVia.trans
    (reordered.permissionsVia.trans builtAs.permissionsVia.symm)
  have provider := otherBuiltAs.provider.trans (reordered.provider.trans builtAs.provider.symm)
  obtain ⟨_, _, _, _⟩ := scopes
  obtain ⟨_, _, _, _⟩ := other
  rw [ResourceScopes.mk.injEq]
  exact ⟨resource, rules, via, provider⟩

theorem build_of_reordered {first second : Registration} {scopes : ResourceScopes}
    (reordered : first.Reordered second) (built : first.build = .ok scopes) :
    second.build = .ok scopes := by
  have wellFormed := build_eq_ok_iff.1 ⟨scopes, built⟩
  obtain ⟨other, otherBuilt, otherBuiltAs⟩ := exists_builtAs (wellFormed.perm reordered.rules)
  rw [otherBuilt, (builtAs_of_build built).eq_of_reordered otherBuiltAs reordered]

end Registration

/-! ## Resources -/

namespace Registry

variable {registry result : Registry} {before built : List ResourceScopes}
  {registrations others : List Registration} {resource : ResourceType} {scopes : ResourceScopes}
  {scope : ScopeName} {rule : ScopeRule} {action : Action}

/-- Registers resources in turn, up to the first that is registered already. -/
def registerAll (registry : Registry) (built : List ResourceScopes) :
    Except RegistryError Registry := built.foldlM register registry

/-- Whether an error names the first resource that stands behind itself. -/
def FirstRepeated (built : List ResourceScopes) (error : RegistryError) : Prop :=
  ∃ before scopes after, built = before ++ scopes :: after ∧
    (before.map ResourceScopes.resource).Nodup ∧
    scopes.resource ∈ before.map ResourceScopes.resource ∧
    error = .duplicateResource scopes.resource

/-- Resources under their types. -/
def keyed (built : List ResourceScopes) : List (ResourceType × ResourceScopes) :=
  built.map (fun scopes => (scopes.resource, scopes))

theorem keys_keyed (built : List ResourceScopes) :
    (keyed built).map Prod.fst = built.map ResourceScopes.resource := by
  rw [keyed, List.map_map]
  rfl

theorem registerAll_of_error {error : RegistryError}
    (failed : registry.register scopes = .error error) :
    registry.registerAll (scopes :: built) = .error error := by
  rw [registerAll, List.foldlM_cons, failed]
  rfl

theorem registerAll_of_ok (registered : registry.register scopes = .ok result) :
    registry.registerAll (scopes :: built) = result.registerAll built := by
  rw [registerAll, List.foldlM_cons, registered]
  rfl

theorem register_of_mem (holds : registry.resources.Holds (keyed before))
    (earlier : scopes.resource ∈ before.map ResourceScopes.resource) :
    registry.register scopes = .error (.duplicateResource scopes.resource) := by
  rw [← keys_keyed] at earlier
  rw [register, if_pos (holds.contains_iff.2 earlier)]

theorem register_of_not_mem (holds : registry.resources.Holds (keyed before))
    (absent : scopes.resource ∉ before.map ResourceScopes.resource) :
    ∃ next, registry.register scopes = .ok next ∧
      next.resources.Holds (keyed (before ++ [scopes])) := by
  rw [← keys_keyed] at absent
  rw [register, if_neg (fun found => absent (holds.contains_iff.1 found))]
  refine ⟨_, rfl, ?_⟩
  rw [keyed, List.map_append]
  exact holds.insert absent

/-- Resources are registered up to the first that stands behind itself. -/
theorem registerAll_cases (holds : registry.resources.Holds (keyed before))
    (nodup : (before.map ResourceScopes.resource).Nodup) (built : List ResourceScopes) :
    (((before ++ built).map ResourceScopes.resource).Nodup ∧
      ∃ result, registry.registerAll built = .ok result ∧
        result.resources.Holds (keyed (before ++ built))) ∨
    ∃ middle scopes after, built = middle ++ scopes :: after ∧
      ((before ++ middle).map ResourceScopes.resource).Nodup ∧
      scopes.resource ∈ (before ++ middle).map ResourceScopes.resource ∧
      registry.registerAll built = .error (.duplicateResource scopes.resource) := by
  induction built generalizing before registry with
  | nil =>
      rw [List.append_nil]
      exact Or.inl ⟨nodup, registry, rfl, holds⟩
  | cons scopes rest inductionHypothesis =>
      by_cases earlier : scopes.resource ∈ before.map ResourceScopes.resource
      · refine Or.inr ⟨[], scopes, rest, rfl, ?_⟩
        rw [List.append_nil]
        exact ⟨nodup, earlier, registerAll_of_error (register_of_mem holds earlier)⟩
      · obtain ⟨next, registered, nextHolds⟩ := register_of_not_mem holds earlier
        have nextNodup : ((before ++ [scopes]).map ResourceScopes.resource).Nodup := by
          rw [List.map_append, List.map_singleton, ← List.concat_eq_append, List.nodup_concat]
          exact ⟨earlier, nodup⟩
        have later := inductionHypothesis nextHolds nextNodup
        rw [registerAll_of_ok registered]
        simp only [List.append_assoc, List.singleton_append] at later
        rcases later with accepted | ⟨middle, other, after, rfl, soFar, repeated, failed⟩
        · exact Or.inl accepted
        · exact Or.inr ⟨scopes :: middle, other, after, rfl, soFar, repeated, failed⟩

/-- From no resources, they are registered if they are distinct. -/
theorem registerAll_empty_cases (built : List ResourceScopes) :
    ((built.map ResourceScopes.resource).Nodup ∧
      ∃ result, empty.registerAll built = .ok result ∧ result.resources.Holds (keyed built)) ∨
    ∃ middle scopes after, built = middle ++ scopes :: after ∧
      (middle.map ResourceScopes.resource).Nodup ∧
      scopes.resource ∈ middle.map ResourceScopes.resource ∧
      empty.registerAll built = .error (.duplicateResource scopes.resource) := by
  have nothing : empty.resources.Holds (keyed []) := OrderedMap.holds_empty
  exact registerAll_cases nothing List.nodup_nil built

theorem registerAll_eq_ok_iff :
    (∃ registry, empty.registerAll built = .ok registry) ↔
      (built.map ResourceScopes.resource).Nodup := by
  rcases registerAll_empty_cases built with ⟨nodup, result, registered, _⟩ |
    ⟨middle, scopes, after, rfl, _, repeated, failed⟩
  · exact ⟨fun _ => nodup, fun _ => ⟨result, registered⟩⟩
  · constructor
    · rintro ⟨registry, registered⟩
      rw [failed] at registered
      cases registered
    · intro nodup
      rw [List.map_append, List.nodup_append] at nodup
      exact absurd rfl (nodup.2.2 _ repeated _ List.mem_cons_self)

theorem firstRepeated_of_registerAll {error : RegistryError}
    (failed : empty.registerAll built = .error error) : FirstRepeated built error := by
  rcases registerAll_empty_cases built with ⟨_, result, registered, _⟩ |
    ⟨middle, scopes, after, listed, nodup, repeated, reported⟩
  · rw [failed] at registered
    cases registered
  · rw [failed] at reported
    exact ⟨middle, scopes, after, listed, nodup, repeated, Except.error.inj reported⟩

theorem holds_of_registerAll (registered : empty.registerAll built = .ok registry) :
    (built.map ResourceScopes.resource).Nodup ∧ registry.resources.Holds (keyed built) := by
  rcases registerAll_empty_cases built with ⟨nodup, result, isRegistered, holds⟩ |
    ⟨_, _, _, _, _, _, failed⟩
  · rw [registered] at isRegistered
    obtain rfl := Except.ok.inj isRegistered
    exact ⟨nodup, holds⟩
  · rw [registered] at failed
    cases failed

/-- The order of resources has no part in the registry. -/
theorem registerAll_of_perm {reordered : List ResourceScopes}
    (registered : empty.registerAll built = .ok registry) (permuted : built.Perm reordered) :
    empty.registerAll reordered = .ok registry := by
  obtain ⟨nodup, holds⟩ := holds_of_registerAll registered
  obtain ⟨other, otherRegistered⟩ := registerAll_eq_ok_iff.2
    ((permuted.map ResourceScopes.resource).nodup_iff.1 nodup)
  obtain ⟨_, otherHolds⟩ := holds_of_registerAll otherRegistered
  have same : registry.resources = other.resources :=
    holds.eq_of_perm otherHolds (permuted.map _)
  obtain ⟨resources⟩ := registry
  obtain ⟨otherResources⟩ := other
  rw [otherRegistered, Except.ok.injEq, Registry.mk.injEq]
  exact same.symm

/-! ## Registrations -/

/-- Whether a list of registrations is built, each on its own, and then registered. -/
def Assembles (registrations : List Registration) (registry : Registry) : Prop :=
  ∃ built,
    List.Forall₂ (fun registration scopes => registration.build = .ok scopes)
      registrations built ∧
    empty.registerAll built = .ok registry

/-- Building each resource when it is registered makes no difference. -/
theorem addAll_eq_ok_iff : registry.addAll registrations = .ok result ↔
    ∃ built,
      List.Forall₂ (fun registration scopes => registration.build = .ok scopes)
        registrations built ∧
      registry.registerAll built = .ok result := by
  induction registrations generalizing registry with
  | nil =>
      constructor
      · intro added
        exact ⟨[], List.Forall₂.nil, added⟩
      · rintro ⟨built, each, registered⟩
        cases each
        exact registered
  | cons registration rest inductionHypothesis =>
      rw [addAll]
      constructor
      · intro added
        split at added
        next => cases added
        next scopes ownBuilt =>
          split at added
          next => cases added
          next next registered =>
            obtain ⟨built, each, others⟩ := inductionHypothesis.1 added
            refine ⟨scopes :: built, List.Forall₂.cons ownBuilt each, ?_⟩
            rw [registerAll_of_ok registered]
            exact others
      · rintro ⟨built, each, registered⟩
        cases each with
        | @cons _ scopes _ others ownBuilt each =>
            rw [ownBuilt]
            dsimp only
            cases own : registry.register scopes with
            | error error =>
                rw [registerAll_of_error own] at registered
                cases registered
            | ok next =>
                rw [registerAll_of_ok own] at registered
                exact inductionHypothesis.2 ⟨others, each, registered⟩

/-- A registry has for a resource what is built of its registration. -/
theorem Assembles.find?_iff (assembles : Assembles registrations registry) :
    registry.find? resource = some scopes ↔
      ∃ registration ∈ registrations, registration.build = .ok scopes ∧
        registration.resource = resource := by
  obtain ⟨built, each, registered⟩ := assembles
  obtain ⟨onward, back⟩ := Text.exists_of_forall₂ each
  have holds := (holds_of_registerAll registered).2 resource scopes
  have listed : (resource, scopes) ∈ keyed built ↔ scopes ∈ built ∧ scopes.resource = resource := by
    rw [keyed, List.mem_map]
    constructor
    · rintro ⟨own, member, same⟩
      obtain ⟨rfl, rfl⟩ := Prod.mk.inj same
      exact ⟨member, rfl⟩
    · rintro ⟨member, rfl⟩
      exact ⟨scopes, member, rfl⟩
  rw [find?, holds, listed]
  constructor
  · rintro ⟨member, atResource⟩
    obtain ⟨registration, isRegistered, ownBuilt⟩ := back scopes member
    exact ⟨registration, isRegistered, ownBuilt,
      (Registration.builtAs_of_build ownBuilt).resource ▸ atResource⟩
  · rintro ⟨registration, isRegistered, ownBuilt, atResource⟩
    obtain ⟨own, member, alsoBuilt⟩ := onward registration isRegistered
    rw [ownBuilt] at alsoBuilt
    obtain rfl := Except.ok.inj alsoBuilt
    exact ⟨member, (Registration.builtAs_of_build ownBuilt).resource.trans atResource⟩

theorem Assembles.exists_build (assembles : Assembles registrations registry)
    {registration : Registration} (member : registration ∈ registrations) :
    ∃ scopes, registration.build = .ok scopes := by
  obtain ⟨built, each, _⟩ := assembles
  obtain ⟨scopes, _, ownBuilt⟩ := (Text.exists_of_forall₂ each).1 registration member
  exact ⟨scopes, ownBuilt⟩

/-- Whether a rule is registered for a resource under a name. -/
def Registers (registrations : List Registration) (resource : ResourceType) (scope : ScopeName)
    (rule : ScopeRule) : Prop :=
  ∃ registration ∈ registrations, registration.resource = resource ∧
    (scope, rule) ∈ registration.rules

/-- Whether the provider of a resource supplies a rule for a name. -/
def Provides (registrations : List Registration) (resource : ResourceType) (scope : ScopeName)
    (rule : ScopeRule) : Prop :=
  ∃ registration ∈ registrations, registration.resource = resource ∧
    ∃ provider, registration.provider = some provider ∧ provider resource scope = some rule

theorem Assembles.registered?_iff (assembles : Assembles registrations registry) :
    registry.registered? resource scope = some rule ↔
      Registers registrations resource scope rule := by
  rw [registered?, Option.bind_eq_some_iff]
  constructor
  · rintro ⟨scopes, found, isRule⟩
    obtain ⟨registration, member, ownBuilt, atResource⟩ := assembles.find?_iff.1 found
    have holds := (Registration.builtAs_of_build ownBuilt).rules
    exact ⟨registration, member, atResource, (holds scope rule).1 isRule⟩
  · rintro ⟨registration, member, atResource, listed⟩
    obtain ⟨scopes, ownBuilt⟩ := assembles.exists_build member
    have holds := (Registration.builtAs_of_build ownBuilt).rules
    exact ⟨scopes, assembles.find?_iff.2 ⟨registration, member, ownBuilt, atResource⟩,
      (holds scope rule).2 listed⟩

theorem Assembles.provided?_iff (assembles : Assembles registrations registry) :
    registry.provided? resource scope = some rule ↔
      Provides registrations resource scope rule := by
  rw [provided?, Option.bind_eq_some_iff]
  constructor
  · rintro ⟨scopes, found, supplied⟩
    obtain ⟨provider, isProvider, isRule⟩ := Option.bind_eq_some_iff.1 supplied
    obtain ⟨registration, member, ownBuilt, atResource⟩ := assembles.find?_iff.1 found
    have same := (Registration.builtAs_of_build ownBuilt).provider
    exact ⟨registration, member, atResource, provider, same ▸ isProvider, isRule⟩
  · rintro ⟨registration, member, atResource, provider, isProvider, isRule⟩
    obtain ⟨scopes, ownBuilt⟩ := assembles.exists_build member
    have same := (Registration.builtAs_of_build ownBuilt).provider
    refine ⟨scopes, assembles.find?_iff.2 ⟨registration, member, ownBuilt, atResource⟩, ?_⟩
    rw [same, isProvider]
    exact isRule

/-- What a name is resolved to, for all that is registered. -/
inductive Resolves (registrations : List Registration) (resource : ResourceType)
    (scope : ScopeName) (action : Action) : Except AccessError ScopeRule → Prop where
  | registered {rule : ScopeRule} (isRegistered : Registers registrations resource scope rule) :
      Resolves registrations resource scope action (.ok rule)
  | builtin (unregistered : ∀ rule, ¬ Registers registrations resource scope rule)
      (isAll : scope = ScopeName.all) :
      Resolves registrations resource scope action (.ok ScopeRule.all)
  | provided {rule : ScopeRule}
      (unregistered : ∀ rule, ¬ Registers registrations resource scope rule)
      (notAll : scope ≠ ScopeName.all)
      (isProvided : Provides registrations resource scope rule) :
      Resolves registrations resource scope action (.ok rule)
  | unknown (unregistered : ∀ rule, ¬ Registers registrations resource scope rule)
      (notAll : scope ≠ ScopeName.all)
      (unprovided : ∀ rule, ¬ Provides registrations resource scope rule) :
      Resolves registrations resource scope action (.error (.unknownScope scope resource action))

theorem Assembles.resolves (assembles : Assembles registrations registry)
    (resource : ResourceType) (scope : ScopeName) (action : Action) :
    Resolves registrations resource scope action (registry.resolve resource scope action) := by
  unfold resolve
  cases registered : registry.registered? resource scope with
  | some rule => exact Resolves.registered (assembles.registered?_iff.1 registered)
  | none =>
      have unregistered : ∀ rule, ¬ Registers registrations resource scope rule := by
        intro rule isRegistered
        rw [assembles.registered?_iff.2 isRegistered] at registered
        cases registered
      dsimp only
      split
      next isAll => exact Resolves.builtin unregistered isAll
      next notAll =>
        cases provided : registry.provided? resource scope with
        | some rule =>
            exact Resolves.provided unregistered notAll (assembles.provided?_iff.1 provided)
        | none =>
            refine Resolves.unknown unregistered notAll ?_
            intro rule isProvided
            rw [assembles.provided?_iff.2 isProvided] at provided
            cases provided

/-- Nothing else is what the name is resolved to. -/
theorem Assembles.resolve_eq (assembles : Assembles registrations registry)
    {answer : Except AccessError ScopeRule}
    (resolves : Resolves registrations resource scope action answer) :
    registry.resolve resource scope action = answer := by
  have unregistered (none : ∀ rule, ¬ Registers registrations resource scope rule) :
      registry.registered? resource scope = Option.none := by
    apply Option.eq_none_iff_forall_ne_some.2
    intro rule registered
    exact none rule (assembles.registered?_iff.1 registered)
  unfold resolve
  cases resolves with
  | registered isRegistered => rw [assembles.registered?_iff.2 isRegistered]
  | builtin none isAll =>
      rw [unregistered none]
      dsimp only
      rw [if_pos isAll]
  | provided none notAll isProvided =>
      rw [unregistered none]
      dsimp only
      rw [if_neg notAll, assembles.provided?_iff.2 isProvided]
  | unknown none notAll unprovided =>
      have nothing : registry.provided? resource scope = Option.none := by
        apply Option.eq_none_iff_forall_ne_some.2
        intro rule provided
        exact unprovided rule (assembles.provided?_iff.1 provided)
      rw [unregistered none]
      dsimp only
      rw [if_neg notAll, nothing]

/-- Whether registrations differ in their order and the order of their rules only. -/
def Reordered (registrations others : List Registration) : Prop :=
  ∃ middle, registrations.Perm middle ∧ List.Forall₂ Registration.Reordered middle others

theorem Assembles.of_reordered (assembles : Assembles registrations registry)
    (reordered : Reordered registrations others) : Assembles others registry := by
  obtain ⟨built, each, registered⟩ := assembles
  obtain ⟨middle, permuted, inOrder⟩ := reordered
  obtain ⟨moved, movedEach, movedBack⟩ := List.perm_comp_forall₂ permuted.symm each
  refine ⟨moved, ?_, registerAll_of_perm registered movedBack.symm⟩
  -- Now registrations and scopes stand in the same order, and only rules are still moved.
  clear permuted movedBack
  induction inOrder generalizing moved with
  | nil => exact movedEach
  | cons own _ inductionHypothesis =>
      cases movedEach with
      | cons ownBuilt rest =>
          exact List.Forall₂.cons (Registration.build_of_reordered own ownBuilt)
            (inductionHypothesis _ rest)

/-- Exactly well-formed rules are built, exactly distinct resources are registered, and a
name is resolved to what the registrations have for it: the rule that is registered, the
builtin one or the provider's. No order of the registrations makes another registry. -/
theorem registry_resolves_registrations :
    (∀ registration : Registration,
      ((∃ scopes, registration.build = .ok scopes) ↔
        Registration.WellFormed registration.rules) ∧
      ∀ error, registration.build = .error error ↔ registration.FirstDefect error) ∧
    (∀ built : List ResourceScopes,
      ((∃ registry, empty.registerAll built = .ok registry) ↔
        (built.map ResourceScopes.resource).Nodup) ∧
      ∀ error, empty.registerAll built = .error error → FirstRepeated built error) ∧
    (∀ app model otherApp otherModel,
      ResourceType.ofParts app model = ResourceType.ofParts otherApp otherModel ↔
        app = otherApp ∧ SameModel model otherModel) ∧
    (∀ registrations registry,
      ofRegistrations registrations = .ok registry ↔ Assembles registrations registry) ∧
    (∀ registrations registry, Assembles registrations registry →
      ∀ resource scope action answer, registry.resolve resource scope action = answer ↔
        Resolves registrations resource scope action answer) ∧
    ∀ registrations others registry, Assembles registrations registry →
      Reordered registrations others → Assembles others registry := by
  refine ⟨?_, ?_, ?_, ?_, ?_, ?_⟩
  · exact fun registration => ⟨Registration.build_eq_ok_iff,
      fun error => Registration.build_eq_error_iff⟩
  · exact fun built => ⟨registerAll_eq_ok_iff, fun error => firstRepeated_of_registerAll⟩
  · exact fun _ _ _ _ => ResourceType.ofParts_eq_iff
  · exact fun registrations registry => addAll_eq_ok_iff
  · intro registrations registry assembles resource scope action answer
    constructor
    · rintro rfl
      exact assembles.resolves resource scope action
    · exact assembles.resolve_eq
  · exact fun registrations others registry assembles => assembles.of_reordered

end Registry

namespace Shop

def paid : ScopeName × ScopeRule := (⟨"paid"⟩, ScopeRule.all)

def northern : ScopeName × ScopeRule := (⟨"region_north"⟩, .fixed .never)

/-- Orders with two rules, and every region from a provider. -/
def orderScopes (rules : List (ScopeName × ScopeRule)) : Registration where
  resource := ⟨"shop", "order"⟩
  rules := rules
  permissionsVia := none
  provider := some (fun _ scope =>
    if "region_".toList.isPrefixOf scope.text.toList then some ScopeRule.all else none)

def invoiceScopes : Registration where
  resource := ⟨"shop", "invoice"⟩
  rules := []
  permissionsVia := none
  provider := none

/-- In either order, a region that is registered is not the provider's, and a name that
neither has is unknown. -/
theorem shop_registers_in_either_order :
    ∃ registry,
      Registry.ofRegistrations [orderScopes [paid, northern], invoiceScopes] = .ok registry ∧
      Registry.Assembles [invoiceScopes, orderScopes [northern, paid]] registry ∧
      (∀ action, registry.resolve ⟨"shop", "order"⟩ ⟨"region_north"⟩ action =
        .ok (.fixed .never)) ∧
      ∀ action, registry.resolve ⟨"shop", "invoice"⟩ ⟨"region_north"⟩ action =
        .error (.unknownScope ⟨"region_north"⟩ ⟨"shop", "invoice"⟩ action) := by
  obtain ⟨_, _, _, assembled, resolves, independent⟩ := Registry.registry_resolves_registrations
  obtain ⟨registry, isBuilt⟩ : ∃ registry,
      Registry.ofRegistrations [orderScopes [paid, northern], invoiceScopes] = .ok registry :=
    ⟨_, rfl⟩
  have assembles := (assembled _ _).1 isBuilt
  have rulesSwapped : (orderScopes [paid, northern]).Reordered (orderScopes [northern, paid]) :=
    ⟨rfl, rfl, rfl, List.Perm.swap _ _ _⟩
  have same : invoiceScopes.Reordered invoiceScopes := ⟨rfl, rfl, rfl, List.Perm.refl _⟩
  have swapped : Registry.Reordered [orderScopes [paid, northern], invoiceScopes]
      [invoiceScopes, orderScopes [northern, paid]] :=
    ⟨_, List.Perm.swap _ _ _, .cons same (.cons rulesSwapped .nil)⟩
  refine ⟨registry, isBuilt, independent _ _ _ assembles swapped, ?_, ?_⟩
  · intro action
    apply (resolves _ _ assembles _ _ action _).2
    exact .registered ⟨orderScopes [paid, northern], List.mem_cons_self, rfl,
      List.mem_cons_of_mem _ List.mem_cons_self⟩
  · intro action
    have nothing : ∀ registration ∈ [orderScopes [paid, northern], invoiceScopes],
        registration.resource = ⟨"shop", "invoice"⟩ →
          registration.rules = [] ∧ registration.provider = none := by
      intro registration member atResource
      rcases List.mem_cons.1 member with rfl | isLast
      · exact absurd atResource (by decide)
      · obtain rfl := List.mem_singleton.1 isLast
        exact ⟨rfl, rfl⟩
    apply (resolves _ _ assembles _ _ action _).2
    refine .unknown ?_ (by decide) ?_
    · rintro rule ⟨registration, member, atResource, listed⟩
      rw [(nothing registration member atResource).1] at listed
      cases listed
    · rintro rule ⟨registration, member, atResource, provider, isProvider, _⟩
      rw [(nothing registration member atResource).2] at isProvider
      cases isProvider

end Shop

end RowAccess
