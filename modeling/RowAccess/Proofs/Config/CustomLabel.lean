import RowAccess.Proofs.Config.Conversion
import RowAccess.Proofs.Identity.Resource

/-!
Contract: scopes on the key of an action label.

A key is all that is known of a grant's action: what stands before the first underscore
behind the application. So a label that has none of the four actions there is a custom
one, on which no scope is accepted, in a map as well as in a configuration. A label that
goes on with an underscore behind one of the four is no label of its own: its key is
that of the action on a model with a longer name, and takes scopes as such.

Owns:
- the labels that begin with one of the four actions.
- the validation of grants on the key of any label.
-/

namespace RowAccess

/-! ## Labels -/

/-- Whether a label is that of an action, or goes on behind it with an underscore. -/
def Action.Begins (action : Action) (label : String) : Prop :=
  label = action.label ∨ ∃ more, label = action.label ++ "_" ++ more

theorem Action.begins_iff {action : Action} {label : String} :
    action.Begins label ↔
      label = action.label ∨ action.label.toList ++ ['_'] <+: label.toList := by
  refine or_congr_right ⟨?_, ?_⟩
  · rintro ⟨more, rfl⟩
    exact ⟨more.toList, by simp⟩
  · rintro ⟨more, grown⟩
    refine ⟨String.ofList more, String.toList_injective ?_⟩
    rw [← grown]
    simp

instance (action : Action) (label : String) : Decidable (action.Begins label) :=
  decidable_of_iff _ Action.begins_iff.symm

theorem Action.begins_of_joined {action : Action} {label : String} {model rest : List Char}
    (joined : label.toList ++ '_' :: model = action.label.toList ++ '_' :: rest) :
    action.Begins label := by
  rcases List.append_eq_append_iff.1 joined with ⟨more, grown, cut⟩ | ⟨more, grown, cut⟩
  · cases more with
    | nil =>
        rw [List.append_nil] at grown
        exact Or.inl (String.toList_injective grown.symm)
    | cons head tail =>
        obtain ⟨rfl, _⟩ := List.cons_eq_cons.1 cut
        -- No action goes on behind an underscore.
        refine absurd ?_ action.underscore_not_mem_label
        rw [grown]
        exact List.mem_append_cons_self
  · cases more with
    | nil =>
        rw [List.append_nil] at grown
        exact Or.inl (String.toList_injective grown)
    | cons head tail =>
        obtain ⟨rfl, _⟩ := List.cons_eq_cons.1 cut
        refine Action.begins_iff.2 (Or.inr ⟨tail, ?_⟩)
        rw [grown, List.append_assoc, List.singleton_append]

/-! ## Keys of labels -/

variable {resource : ResourceType} {label : String} {grant : PermissionGrant}

/-- A grant with a scope is misplaced if its key, together with what was cut off around
it and holds no point in front, is that of a label which begins with no action. -/
theorem PermissionGrant.misplaced_of_custom (noPoint : '.' ∉ resource.app.toList)
    (custom : ∀ action : Action, ¬ action.Begins label) {before after : List Char}
    (around : (resource.permissionKey label).text.toList =
      before ++ grant.permission.text.toList ++ after)
    (noPointBefore : '.' ∉ before) (hasScope : grant.scope ≠ none) : grant.Misplaced := by
  refine ⟨hasScope, ?_⟩
  intro parts divided action isAction
  obtain ⟨whole, noPointApp, _⟩ := PermissionKey.joined_of_parts? divided
  have same : resource.app.toList ++ '.' :: (label.toList ++ '_' :: resource.model.toList) =
      (before ++ parts.app.toList) ++
        '.' :: (action.label.toList ++ '_' :: (parts.model.toList ++ after)) := by
    rw [← resource.toList_permissionKey, around, whole, isAction]
    simp
  have absent : '.' ∉ before ++ parts.app.toList := by
    rw [List.mem_append, not_or]
    exact ⟨noPointBefore, noPointApp⟩
  exact custom action (Action.begins_of_joined (Text.eq_of_first_cut noPoint absent same).2)

/-- The key of a label that goes on behind an action is that of the action on a longer
model. -/
theorem ResourceType.permissionKey_continued (resource : ResourceType) (action : Action)
    (more : String) :
    resource.permissionKey (action.label ++ "_" ++ more) =
      permissionKey ⟨resource.app, more ++ "_" ++ resource.model⟩ action.label := by
  unfold permissionKey
  simp [String.append_assoc]

theorem PermissionGrant.not_misplaced_of_continued (parsed : resource.Parsed) {action : Action}
    {more : String} (onKey : grant.permission =
      resource.permissionKey (action.label ++ "_" ++ more)) : ¬ grant.Misplaced := by
  obtain ⟨noPoint, appNonempty, _⟩ := parsed.shape
  have divided := PermissionKey.parts?_permissionKey_of_shape
    ⟨resource.app, more ++ "_" ++ resource.model⟩ noPoint appNonempty (by simp) action
  rw [← resource.permissionKey_continued, ← onKey] at divided
  exact fun misplaced => misplaced.2 _ divided action rfl

/-! ## Configurations -/

theorem AccessConfig.check_eq_error_of_misplaced {config : AccessConfig} {name : String}
    {settings : List GrantSetting} {setting : GrantSetting}
    (written : config.permissions.find? name = some settings) (member : setting ∈ settings)
    (misplaced : setting.converted.Misplaced) : ∃ defect, config.check = .error defect := by
  cases checked : config.check with
  | error defect => exact ⟨defect, rfl⟩
  | ok done =>
      exact absurd misplaced
        (not_misplaced_of_check checked (converted_mem_grantsFor written member))

/-! ## Grants on a label -/

/-- What becomes of grants on the key of a label: those without a scope count in no
validation. One with a scope fails the validation of every map that it stands in, and of
every configuration that it is written in with or without blanks around it, unless the
label begins with one of the four actions. If it goes on behind one of these, the key is
that of the action on a longer model, and scopes on it are accepted like any others. -/
structure ResourceType.TakesGrants (resource : ResourceType) (label : String) : Prop where
  unscoped : ∀ before after name,
    (PermissionMap.ofList
        (before ++ (name, ⟨resource.permissionKey label, none⟩) :: after)).validate = .ok () ↔
      (PermissionMap.ofList (before ++ after)).validate = .ok ()
  refused : (∀ action : Action, ¬ action.Begins label) →
    ∀ (map : PermissionMap) (name : String) (scope : ScopeName),
      ⟨resource.permissionKey label, some scope⟩ ∈ map.grantsFor name →
        ∃ first, map.Foremost first ∧
          map.validate = .error (.scopedCustomAction first.permission)
  invalid : (∀ action : Action, ¬ action.Begins label) →
    ∀ (config : AccessConfig) (name : String) (settings : List GrantSetting)
      (setting : GrantSetting), config.permissions.find? name = some settings →
        setting ∈ settings → setting.scope ≠ none →
          Text.trim setting.permission = Text.trim (resource.permissionKey label).text →
            ∃ defect, config.check = .error defect
  continued : ∀ (action : Action) (more : String), label = action.label ++ "_" ++ more →
    resource.permissionKey label =
        permissionKey ⟨resource.app, more ++ "_" ++ resource.model⟩ action.label ∧
      ∀ before after name scope,
        (PermissionMap.ofList (before ++
            (name, ⟨resource.permissionKey label, scope⟩) :: after)).validate = .ok () ↔
          (PermissionMap.ofList (before ++ after)).validate = .ok ()

/-- On a resource that was read, every label takes grants by what it begins with. -/
theorem ResourceType.Parsed.takesGrants (parsed : resource.Parsed) (label : String) :
    resource.TakesGrants label where
  unscoped := by
    intro before after name
    exact PermissionMap.validate_ofList_insert_iff (fun misplaced => misplaced.1 rfl)
      before after name
  refused := by
    intro custom map name scope member
    refine PermissionMap.validate_of_misplaced member ?_
    exact PermissionGrant.misplaced_of_custom parsed.shape.1 custom
      (List.append_nil _).symm List.not_mem_nil (Option.some_ne_none scope)
  invalid := by
    intro custom config name settings setting written member hasScope sameKey
    obtain ⟨before, after, around, blanks⟩ :=
      Text.exists_around_trim (resource.permissionKey label).text
    have noPointBefore : '.' ∉ before := by
      intro point
      exact absurd (blanks '.' point) (by decide)
    have convertedScope : setting.converted.scope ≠ none := by
      unfold GrantSetting.converted
      simpa using hasScope
    refine AccessConfig.check_eq_error_of_misplaced written member ?_
    rw [← sameKey] at around
    exact PermissionGrant.misplaced_of_custom parsed.shape.1 custom around noPointBefore
      convertedScope
  continued := by
    rintro action more rfl
    refine ⟨resource.permissionKey_continued action more, ?_⟩
    intro before after name scope
    exact PermissionMap.validate_ofList_insert_iff
      (PermissionGrant.not_misplaced_of_continued parsed rfl) before after name

namespace Desk

/-- No scope is accepted on closing a ticket, while closing may be held without one. -/
theorem desk_close_takes_no_scope :
    ResourceType.Parsed ⟨"desk", "ticket"⟩ ∧
    (∃ first, PermissionMap.Foremost
        (PermissionMap.ofList [("clerk", ⟨⟨"desk.close_ticket"⟩, some ⟨"own"⟩⟩)]) first ∧
      (PermissionMap.ofList [("clerk", ⟨⟨"desk.close_ticket"⟩, some ⟨"own"⟩⟩)]).validate =
        .error (.scopedCustomAction first.permission)) ∧
    (∃ defect, (clerkConfig " desk.close_ticket").check = .error defect) ∧
    (PermissionMap.ofList [("clerk", ⟨⟨"desk.close_ticket"⟩, none⟩)]).validate = .ok () := by
  have parsed : ResourceType.Parsed ⟨"desk", "ticket"⟩ := ⟨"desk.ticket", by decide +kernel⟩
  have taken := parsed.takesGrants "close"
  have custom : ∀ action : Action, ¬ action.Begins "close" := by
    intro action
    cases action <;> decide +kernel
  refine ⟨parsed, ?_, ?_, ?_⟩
  · exact taken.refused custom _ "clerk" ⟨"own"⟩
      (PermissionMap.mem_grantsFor_ofList.2 List.mem_cons_self)
  · exact taken.invalid custom (clerkConfig " desk.close_ticket") "clerk" _ _ rfl
      List.mem_cons_self (Option.some_ne_none "own") (by decide +kernel)
  · exact (taken.unscoped [] [] "clerk").2 rfl

/-- Viewing all tickets is not told apart from viewing an `all_ticket`, so that a scope
is accepted on it. -/
theorem desk_view_all_takes_scope :
    ResourceType.Parsed ⟨"desk", "ticket"⟩ ∧ (∀ action : Action, "view_all" ≠ action.label) ∧
    (PermissionMap.ofList
      [("clerk", ⟨ResourceType.permissionKey ⟨"desk", "ticket"⟩ "view_all",
        some ⟨"own"⟩⟩)]).validate = .ok () ∧
    (clerkConfig (ResourceType.permissionKey ⟨"desk", "ticket"⟩ "view_all").text).check =
      .ok () := by
  refine ⟨⟨"desk.ticket", by decide +kernel⟩, ?_, ?_, ?_⟩
  · intro action
    cases action <;> decide
  · decide +kernel
  · decide +kernel

end Desk

end RowAccess
