import RowAccess.Grant.Held
import RowAccess.Proofs.Ordered.Map

/-!
Contract: held permissions are the grants that permission strings select.

A key is held where a selected grant names it, and then with exactly the scopes
of such grants, so that a grant without scope makes a key held with no scope. A
selected scope on a key that may not carry one refuses them all; the first such
grant, by permission string and then in order of insertion, is the one named.

Owns:
- misplaced grants, the first of them, and the grants that permission strings select.
- all grants of a map, and its grants as a set of insertions.
- the collection of held permissions, and when it fails.
-/

namespace RowAccess

/-! ## Misplaced grants -/

theorem Action.parse?_eq_none_iff {text : String} :
    parse? text = none ↔ ∀ action : Action, text ≠ action.label := by
  constructor
  · intro unknown action same
    rw [same, parse?_label] at unknown
    cases unknown
  · intro noLabel
    cases parsed : parse? text with
    | none => rfl
    | some action => exact absurd (label_of_parse? parsed).symm (noLabel action)

theorem PermissionAction.crud?_parse (text : String) :
    (parse text).crud? = Action.parse? text := by
  unfold parse
  split
  next action parsed => exact parsed.symm
  next unknown => exact unknown.symm

namespace PermissionGrant

/-- Whether a grant carries a scope on a key that has no parts, or whose action
is none of the four. -/
def Misplaced (grant : PermissionGrant) : Prop :=
  grant.scope ≠ none ∧
    ∀ parts, PermissionKey.parts? grant.permission = some parts →
      ∀ action : Action, parts.action ≠ action.label

theorem isCrud_eq_false_iff {grant : PermissionGrant} :
    grant.isCrud = false ↔
      ∀ parts, PermissionKey.parts? grant.permission = some parts →
        ∀ action : Action, parts.action ≠ action.label := by
  unfold isCrud
  cases PermissionKey.parts? grant.permission with
  | none => simp
  | some parts => simp [PermissionAction.crud?_parse, Action.parse?_eq_none_iff]

theorem defect?_eq_some_iff {grant : PermissionGrant} {error : AccessError} :
    grant.defect? = some error ↔
      grant.Misplaced ∧ error = .scopedCustomAction grant.permission := by
  have misplaced : grant.Misplaced ↔ (grant.scope.isSome && !grant.isCrud) = true := by
    unfold Misplaced
    rw [← isCrud_eq_false_iff, ← Option.isSome_iff_ne_none]
    simp
  unfold defect?
  rw [misplaced]
  split
  next isMisplaced => simp [isMisplaced, eq_comm]
  next isSound => simp [isSound]

theorem defect?_eq_none_iff {grant : PermissionGrant} :
    grant.defect? = none ↔ ¬ grant.Misplaced := by
  rw [Option.eq_none_iff_forall_ne_some]
  constructor
  · intro sound misplaced
    exact sound _ (defect?_eq_some_iff.2 ⟨misplaced, rfl⟩)
  · intro sound error defect
    exact sound (defect?_eq_some_iff.1 defect).1

end PermissionGrant

namespace PermissionMap

variable {map : PermissionMap} {strings : OrderedSet String} {name : String}
  {grant : PermissionGrant}

/-! ## Grants of a map -/

theorem grantsFor_insert (map : PermissionMap) (name other : String) (grant : PermissionGrant) :
    (map.insert name grant).grantsFor other =
      if other = name then map.grantsFor name ++ [grant] else map.grantsFor other := by
  unfold insert
  simp only [grantsFor, OrderedMap.find?_insert]
  split <;> rfl

/-- A string has the grants inserted under it, in the order of their insertion. -/
theorem grantsFor_ofList (inserted : List (String × PermissionGrant)) (name : String) :
    (ofList inserted).grantsFor name =
      (inserted.filter (fun entry => entry.1 = name)).map Prod.snd := by
  have fromAny : ∀ map : PermissionMap,
      (inserted.foldl (fun map entry => map.insert entry.1 entry.2) map).grantsFor name =
        map.grantsFor name ++ (inserted.filter (fun entry => entry.1 = name)).map Prod.snd := by
    induction inserted with
    | nil => simp
    | cons entry rest inductionHypothesis =>
        intro map
        rw [List.foldl_cons, inductionHypothesis, grantsFor_insert, List.filter_cons]
        by_cases same : entry.1 = name
        · simp [same]
        · simp [same, Ne.symm same]
  exact fromAny empty

theorem mem_grantsFor_ofList {inserted : List (String × PermissionGrant)} :
    grant ∈ (ofList inserted).grantsFor name ↔ (name, grant) ∈ inserted := by
  rw [grantsFor_ofList]
  simp

theorem mem_keys_of_mem_grantsFor (member : grant ∈ map.grantsFor name) :
    name ∈ map.entries.keys := by
  by_contra absent
  have unbound : map.entries.find? name = none := by
    unfold OrderedMap.find?
    rw [OrderedMap.find?_eq_none_of_absent absent]
    rfl
  rw [grantsFor, unbound] at member
  cases member

theorem allGrants_eq_flatMap (map : PermissionMap) :
    map.allGrants = map.entries.keys.flatMap map.grantsFor := by
  unfold allGrants OrderedMap.values OrderedMap.keys
  rw [List.flatMap_map, List.flatMap_def]
  congr 1
  apply List.map_congr_left
  rintro ⟨name, grants⟩ entry
  have found : map.entries.find? name = some grants :=
    (OrderedMap.mem_iff_find?_of_nodup map.entries.nodup_keys).1 entry
  rw [grantsFor, found]
  rfl

theorem mem_allGrants : grant ∈ map.allGrants ↔ ∃ name, grant ∈ map.grantsFor name := by
  rw [allGrants_eq_flatMap, List.mem_flatMap]
  constructor
  · rintro ⟨name, _, member⟩
    exact ⟨name, member⟩
  · rintro ⟨name, member⟩
    exact ⟨name, mem_keys_of_mem_grantsFor member, member⟩

/-- A valid map has no misplaced grant under any string. -/
theorem sound_of_validate (valid : map.validate = .ok ()) (member : grant ∈ map.grantsFor name) :
    ¬ grant.Misplaced := by
  unfold validate at valid
  split at valid
  next => cases valid
  next noDefect =>
    apply PermissionGrant.defect?_eq_none_iff.1
    exact List.findSome?_eq_none_iff.1 noDefect grant (mem_allGrants.2 ⟨name, member⟩)

/-! ## The first misplaced grant -/

theorem findSome?_flatMap {α β γ : Type} (parts : α → List β) (test : β → Option γ)
    (whole : List α) :
    (whole.flatMap parts).findSome? test =
      whole.findSome? (fun part => (parts part).findSome? test) := by
  induction whole with
  | nil => rfl
  | cons part rest inductionHypothesis =>
      rw [List.flatMap_cons, List.findSome?_append, inductionHypothesis, List.findSome?_cons]
      cases (parts part).findSome? test <;> rfl

/-- The first defect under names in order is that of a misplaced grant before which none
stands, neither under a lower name nor under its own. -/
theorem exists_first_misplaced {names : List String}
    (increasing : names.Pairwise (fun left right => compare left right = .lt))
    (misplaced : ∃ grant ∈ names.flatMap map.grantsFor, grant.Misplaced) :
    ∃ first : PermissionGrant,
      (names.flatMap map.grantsFor).findSome? PermissionGrant.defect? =
        some (.scopedCustomAction first.permission) ∧
      first.Misplaced ∧ ∃ name ∈ names,
        (∃ before after, map.grantsFor name = before ++ first :: after ∧
          ∀ earlier ∈ before, ¬ earlier.Misplaced) ∧
        ∀ other ∈ names, compare other name = .lt →
          ∀ earlier ∈ map.grantsFor other, ¬ earlier.Misplaced := by
  obtain ⟨error, found⟩ : ∃ error,
      (names.flatMap map.grantsFor).findSome? PermissionGrant.defect? = some error := by
    obtain ⟨grant, member, isMisplaced⟩ := misplaced
    apply Option.isSome_iff_exists.1
    rw [List.findSome?_isSome_iff]
    refine ⟨grant, member, ?_⟩
    rw [PermissionGrant.defect?_eq_some_iff.2 ⟨isMisplaced, rfl⟩]
    rfl
  have foundUnder := found
  rw [findSome?_flatMap, List.findSome?_eq_some_iff] at foundUnder
  obtain ⟨namesBefore, name, namesAfter, rfl, foundHere, earlierNames⟩ := foundUnder
  obtain ⟨before, first, after, grants, defect, earlierGrants⟩ :=
    List.findSome?_eq_some_iff.1 foundHere
  obtain ⟨isMisplaced, rfl⟩ := PermissionGrant.defect?_eq_some_iff.1 defect
  refine ⟨first, found, isMisplaced, name, List.mem_append_cons_self,
    ⟨before, after, grants, ?_⟩, ?_⟩
  · intro earlier member
    exact PermissionGrant.defect?_eq_none_iff.1 (earlierGrants earlier member)
  · intro other listed below earlier member
    rw [List.pairwise_append] at increasing
    have isBefore : other ∈ namesBefore := by
      rcases List.mem_append.1 listed with inBefore | fromName
      · exact inBefore
      · rcases List.mem_cons.1 fromName with isName | inAfter
        · rw [isName, Std.ReflOrd.compare_self] at below
          cases below
        · have above := (List.pairwise_cons.1 increasing.2.1).1 other inAfter
          rw [Std.OrientedCmp.gt_of_lt above] at below
          cases below
    have noDefect := List.findSome?_eq_none_iff.1 (earlierNames other isBefore)
    exact PermissionGrant.defect?_eq_none_iff.1 (noDefect earlier member)

/-! ## Selected grants -/

/-- Whether a permission string counts for a principal who has the given ones. -/
def Counts (strings : OrderedSet String) (name : String) : Prop :=
  name = HeldPermissions.defaultString ∨ name ∈ strings.toList

/-- Whether a grant is configured under a string that counts. -/
def Selects (map : PermissionMap) (strings : OrderedSet String) (grant : PermissionGrant) : Prop :=
  ∃ name, Counts strings name ∧ grant ∈ map.grantsFor name

theorem Selects.not_misplaced (selects : map.Selects strings grant)
    (valid : map.validate = .ok ()) : ¬ grant.Misplaced := by
  obtain ⟨name, _, member⟩ := selects
  exact sound_of_validate valid member

/-- What strings select does not depend on the order in which grants were inserted. -/
theorem selects_ofList_of_perm {inserted reordered : List (String × PermissionGrant)}
    (permuted : reordered.Perm inserted) :
    (ofList reordered).Selects strings grant ↔ (ofList inserted).Selects strings grant := by
  unfold Selects
  simp only [mem_grantsFor_ofList, permuted.mem_iff]

theorem Selects.mono {more : OrderedSet String} (selects : map.Selects strings grant)
    (subset : ∀ name ∈ strings.toList, name ∈ more.toList) : map.Selects more grant := by
  obtain ⟨name, counts, member⟩ := selects
  exact ⟨name, counts.imp_right (subset name), member⟩

/-- Whether a misplaced grant stands before all others that are selected, by
permission string and then in order of insertion. -/
def FirstMisplaced (map : PermissionMap) (strings : OrderedSet String)
    (grant : PermissionGrant) : Prop :=
  grant.Misplaced ∧ ∃ name, Counts strings name ∧
    (∃ before after, map.grantsFor name = before ++ grant :: after ∧
      ∀ earlier ∈ before, ¬ earlier.Misplaced) ∧
    ∀ other, Counts strings other → compare other name = .lt →
      ∀ earlier ∈ map.grantsFor other, ¬ earlier.Misplaced

end PermissionMap

namespace HeldPermissions

variable {map : PermissionMap} {strings : OrderedSet String}

theorem counts_iff {name : String} :
    name ∈ (strings.insert defaultString).toList ↔ PermissionMap.Counts strings name :=
  OrderedSet.mem_insert

theorem mem_selected {grant : PermissionGrant} :
    grant ∈ selected map strings ↔ map.Selects strings grant := by
  unfold selected PermissionMap.Selects
  simp only [List.mem_flatMap, counts_iff]

/-- A misplaced grant among the selected ones fails the collection by the first
of them. -/
theorem collect_of_misplaced
    (misplaced : ∃ grant, map.Selects strings grant ∧ grant.Misplaced) :
    ∃ first, map.FirstMisplaced strings first ∧
      collect map strings = .error (.scopedCustomAction first.permission) := by
  obtain ⟨grant, selects, isMisplaced⟩ := misplaced
  obtain ⟨first, found, firstMisplaced, name, listed, position, earlierNames⟩ :=
    PermissionMap.exists_first_misplaced (strings.insert defaultString).increasing
      ⟨grant, mem_selected.2 selects, isMisplaced⟩
  have collected : collect map strings = .error (.scopedCustomAction first.permission) := by
    unfold collect selected
    simp only [found]
  refine ⟨first, ⟨firstMisplaced, name, counts_iff.1 listed, position, ?_⟩, collected⟩
  intro other counts
  exact earlierNames other (counts_iff.2 counts)

/-! ## Collection by key -/

theorem isSome_find?_hold {held : HeldPermissions} {grant : PermissionGrant}
    {key : PermissionKey} :
    ((held.hold grant).find? key).isSome ↔
      (held.find? key).isSome ∨ grant.permission = key := by
  unfold hold
  rw [OrderedMap.find?_insert]
  by_cases same : key = grant.permission
  · simp [same]
  · simp [same, Ne.symm same]

theorem mem_scopesOf_hold {held : HeldPermissions} {grant : PermissionGrant}
    {key : PermissionKey} {scope : ScopeName} :
    scope ∈ ((held.hold grant).scopesOf key).toList ↔
      scope ∈ (held.scopesOf key).toList ∨ grant = ⟨key, some scope⟩ := by
  obtain ⟨granted, own⟩ := grant
  have bound : (held.hold ⟨granted, own⟩).scopesOf key =
      if key = granted then own.elim (held.scopesOf granted) (held.scopesOf granted).insert
      else held.scopesOf key := by
    unfold hold
    rw [scopesOf, OrderedMap.find?_insert]
    cases own <;> split <;> rfl
  rw [bound]
  by_cases same : key = granted
  · rw [if_pos same, same]
    cases own with
    | none => simp
    | some other =>
        rw [Option.elim_some, OrderedSet.mem_insert, or_comm]
        simp [eq_comm]
  · rw [if_neg same]
    simp [Ne.symm same]

/-- Whether the scopes held by key are those of a list of grants. -/
structure Reflects (held : HeldPermissions) (grants : List PermissionGrant) : Prop where
  keys : ∀ key, (held.find? key).isSome ↔ ∃ grant ∈ grants, grant.permission = key
  scopes : ∀ key scope,
    scope ∈ (held.scopesOf key).toList ↔ (⟨key, some scope⟩ : PermissionGrant) ∈ grants

theorem reflects_empty : Reflects OrderedMap.empty [] where
  keys := by simp [OrderedMap.find?_empty]
  scopes := by simp [scopesOf, OrderedMap.find?_empty, OrderedSet.empty]

theorem Reflects.hold {held : HeldPermissions} {grants : List PermissionGrant}
    (reflects : Reflects held grants) (grant : PermissionGrant) :
    Reflects (held.hold grant) (grants ++ [grant]) where
  keys := by
    intro key
    rw [isSome_find?_hold, reflects.keys]
    simp [or_and_right, exists_or]
  scopes := by
    intro key scope
    rw [mem_scopesOf_hold, reflects.scopes, List.mem_append, List.mem_singleton, eq_comm]

/-- Grants held in turn, from any start, are reflected with those before them. -/
theorem Reflects.foldl {held : HeldPermissions} {grants : List PermissionGrant}
    (reflects : Reflects held grants) (further : List PermissionGrant) :
    Reflects (further.foldl HeldPermissions.hold held) (grants ++ further) := by
  induction further generalizing held grants with
  | nil =>
      rw [List.append_nil]
      exact reflects
  | cons grant rest inductionHypothesis =>
      have next := inductionHypothesis (reflects.hold grant)
      rw [List.append_assoc, List.singleton_append] at next
      exact next

/-- Without misplaced grants the collection succeeds and reflects what is selected. -/
theorem collect_of_sound (sound : ∀ grant, map.Selects strings grant → ¬ grant.Misplaced) :
    ∃ held, collect map strings = .ok held ∧ Reflects held (selected map strings) := by
  have noDefect : (selected map strings).findSome? PermissionGrant.defect? = none := by
    rw [List.findSome?_eq_none_iff]
    intro grant member
    exact PermissionGrant.defect?_eq_none_iff.2 (sound grant (mem_selected.1 member))
  refine ⟨(selected map strings).foldl hold OrderedMap.empty, ?_, reflects_empty.foldl _⟩
  unfold collect
  simp only [noDefect]

end HeldPermissions

end RowAccess
