import RowAccess.Identity.Resource
import RowAccess.Proofs.Text.Split
import RowAccess.Request.Action

/-!
Contract: a permission key says of which resource and which action it is.

A key joins three texts, and only the last one may contain what joins them: the
application of a parsed resource has no point, and no action has an underscore.
So the first point and the first underscore behind it are those that were put
there, however the texts are chosen, and no two pairs share a key. Any key that
has parts is those parts joined again.

Owns:
- what parsing guarantees of a resource, and the label that it is read from.
- the parts of the key of a parsed resource, and the key of given parts.
-/

namespace RowAccess

/-- Whether a resource is what some label is read as. -/
def ResourceType.Parsed (resource : ResourceType) : Prop :=
  ∃ label, ResourceType.parse? label = some resource

/-- The characters of a key are the joined characters of its three texts. -/
theorem ResourceType.toList_permissionKey (resource : ResourceType) (action : String) :
    (resource.permissionKey action).text.toList =
      resource.app.toList ++ '.' :: (action.toList ++ '_' :: resource.model.toList) := by
  unfold ResourceType.permissionKey
  simp

/-- A label is read as what stands before and behind its first point. -/
theorem ResourceType.parts_of_parse? {label : String} {resource : ResourceType}
    (isRead : parse? label = some resource) :
    ∃ app model, label.toList = app ++ '.' :: model ∧ '.' ∉ app ∧ app ≠ [] ∧ model ≠ [] ∧
      resource = ofParts (String.ofList app) (String.ofList model) := by
  unfold parse? at isRead
  split at isRead
  next app model cut =>
    obtain ⟨whole, absent⟩ := Text.splitFirst_eq_some cut
    split at isRead
    next => cases isRead
    next sound =>
      simp only [Bool.or_eq_true, List.isEmpty_iff, not_or] at sound
      obtain ⟨⟨appNonempty, modelNonempty⟩, _⟩ := sound
      cases isRead
      exact ⟨app, model, whole, absent, appNonempty, modelNonempty, rfl⟩
  next => cases isRead

theorem ResourceType.Parsed.shape {resource : ResourceType} (parsed : resource.Parsed) :
    '.' ∉ resource.app.toList ∧ resource.app.toList ≠ [] ∧ resource.model.toList ≠ [] := by
  obtain ⟨label, isRead⟩ := parsed
  obtain ⟨app, model, _, noPoint, appNonempty, modelNonempty, rfl⟩ := parts_of_parse? isRead
  refine ⟨?_, ?_, ?_⟩
  · simpa [ofParts] using noPoint
  · simpa [ofParts] using appNonempty
  · simpa [ofParts] using modelNonempty

/-- What is read of an application without points and a model is both of them, the model
in lower case. -/
theorem ResourceType.eq_ofParts_of_parse? {app model : String} {resource : ResourceType}
    (noPoint : '.' ∉ app.toList) (isRead : parse? (app ++ "." ++ model) = some resource) :
    resource = ofParts app model := by
  obtain ⟨before, behind, whole, absent, _, _, rfl⟩ := parts_of_parse? isRead
  have joined : app.toList ++ '.' :: model.toList = before ++ '.' :: behind := by
    rw [← whole]
    simp
  obtain ⟨sameApp, sameModel⟩ := Text.eq_of_first_cut noPoint absent joined
  rw [← sameApp, ← sameModel, String.ofList_toList, String.ofList_toList]

theorem isUpper_iff {character : Char} :
    character.isUpper = true ↔ 65 ≤ character.toNat ∧ character.toNat ≤ 90 := by
  have bounds : character.isUpper =
      decide (character.val ≥ 'A'.val ∧ character.val ≤ 'Z'.val) := rfl
  rw [bounds, decide_eq_true_iff, ge_iff_le, UInt32.le_iff_toNat_le, UInt32.le_iff_toNat_le]
  rfl

theorem toNat_toLower (character : Char) :
    character.toLower.toNat =
      if 65 ≤ character.toNat ∧ character.toNat ≤ 90 then character.toNat + 32
      else character.toNat := by
  have bounds : character.val ≥ 'A'.val ∧ character.val ≤ 'Z'.val ↔
      65 ≤ character.toNat ∧ character.toNat ≤ 90 :=
    decide_eq_true_iff.symm.trans isUpper_iff
  by_cases upper : 65 ≤ character.toNat ∧ character.toNat ≤ 90
  · have lowered : character.toLower.val = character.val + 32 := by
      unfold Char.toLower
      rw [dif_pos (bounds.2 upper)]
      rfl
    have same : character.val.toNat = character.toNat := rfl
    have small : (32 : UInt32).toNat = 32 := rfl
    rw [if_pos upper, Char.toNat, lowered, UInt32.toNat_add]
    omega
  · have same : character.toLower = character := dif_neg (fun fits => upper (bounds.1 fits))
    rw [if_neg upper, same]

theorem toLower_toLower (character : Char) : character.toLower.toLower = character.toLower := by
  rw [← Char.toNat_inj, toNat_toLower, toNat_toLower]
  split
  · rw [if_neg (by omega)]
  · rfl

theorem ResourceType.Parsed.lower {resource : ResourceType} (parsed : resource.Parsed) :
    resource.model.map Char.toLower = resource.model := by
  obtain ⟨label, isRead⟩ := parsed
  obtain ⟨_, model, _, _, _, _, rfl⟩ := parts_of_parse? isRead
  apply String.toList_injective
  unfold ofParts
  rw [String.toList_map, String.toList_map, List.map_map]
  exact List.map_congr_left (fun character _ => toLower_toLower character)

/-- A resource with parts that fit, and a model in lower case, is read from its label. -/
theorem ResourceType.parsed_of_shape {resource : ResourceType}
    (noPoint : '.' ∉ resource.app.toList) (appNonempty : resource.app.toList ≠ [])
    (modelNonempty : resource.model.toList ≠ []) (plain : '.' ∉ resource.model.toList)
    (lower : resource.model.toList.map Char.toLower = resource.model.toList) :
    resource.Parsed := by
  refine ⟨resource.label, ?_⟩
  have characters : resource.label.toList =
      resource.app.toList ++ '.' :: resource.model.toList := by
    unfold ResourceType.label
    simp
  have isLower : resource.model.map Char.toLower = resource.model := by
    apply String.toList_injective
    rw [String.toList_map]
    exact lower
  unfold ResourceType.parse?
  rw [characters, Text.splitFirst_append noPoint]
  simp [ofParts, appNonempty, modelNonempty, plain, isLower]

namespace Action

theorem underscore_not_mem_label (action : Action) : '_' ∉ action.label.toList := by
  cases action <;> decide

theorem label_ne_nil (action : Action) : action.label.toList ≠ [] := by
  cases action <;> decide

theorem label_injective {left right : Action} (same : left.label = right.label) :
    left = right := by
  have parsed := parse?_label left
  rw [same, parse?_label] at parsed
  cases parsed
  rfl

end Action

namespace PermissionKey

/-- The parts of the key of an action on a resource that was read. -/
def partsOf (resource : ResourceType) (action : Action) : PermissionKeyParts :=
  ⟨resource.app, action.label, resource.model⟩

theorem parts?_permissionKey_of_shape (resource : ResourceType)
    (noPoint : '.' ∉ resource.app.toList) (appNonempty : resource.app.toList ≠ [])
    (modelNonempty : resource.model.toList ≠ []) (action : Action) :
    parts? (resource.permissionKey action.label) = some (partsOf resource action) := by
  unfold parts? partsOf
  rw [resource.toList_permissionKey, Text.splitFirst_append noPoint]
  dsimp only
  rw [Text.splitFirst_append action.underscore_not_mem_label]
  simp [appNonempty, modelNonempty, action.label_ne_nil]

theorem parts?_permissionKey {resource : ResourceType} (parsed : resource.Parsed)
    (action : Action) :
    parts? (resource.permissionKey action.label) = some (partsOf resource action) := by
  obtain ⟨noPoint, appNonempty, modelNonempty⟩ := parsed.shape
  exact parts?_permissionKey_of_shape resource noPoint appNonempty modelNonempty action

theorem eq_of_partsOf_eq {left right : ResourceType} {first second : Action}
    (same : partsOf left first = partsOf right second) : left = right ∧ first = second := by
  obtain ⟨leftApp, leftModel⟩ := left
  obtain ⟨rightApp, rightModel⟩ := right
  unfold partsOf at same
  simp only [PermissionKeyParts.mk.injEq] at same
  obtain ⟨sameApp, sameLabel, sameModel⟩ := same
  refine ⟨?_, Action.label_injective sameLabel⟩
  rw [sameApp, sameModel]

/-- No two pairs of a resource that was read and an action share a key. -/
theorem permissionKey_injective {left right : ResourceType} {first second : Action}
    (leftParsed : left.Parsed) (rightParsed : right.Parsed)
    (same : left.permissionKey first.label = right.permissionKey second.label) :
    left = right ∧ first = second := by
  have parts := parts?_permissionKey leftParsed first
  rw [same, parts?_permissionKey rightParsed second] at parts
  exact eq_of_partsOf_eq (Option.some.inj parts).symm

/-- A key that has parts is its parts joined, cut at the first point and at the first
underscore behind it. -/
theorem joined_of_parts? {key : PermissionKey} {parts : PermissionKeyParts}
    (divided : parts? key = some parts) :
    key.text.toList =
        parts.app.toList ++ '.' :: (parts.action.toList ++ '_' :: parts.model.toList) ∧
      '.' ∉ parts.app.toList ∧ '_' ∉ parts.action.toList := by
  unfold parts? at divided
  split at divided
  next => cases divided
  next app rest atPoint =>
    split at divided
    next => cases divided
    next action model atUnderscore =>
      split at divided
      next => cases divided
      next =>
        cases divided
        obtain ⟨whole, noPoint⟩ := Text.splitFirst_eq_some atPoint
        obtain ⟨behind, noUnderscore⟩ := Text.splitFirst_eq_some atUnderscore
        simp only [String.toList_ofList]
        rw [whole, behind]
        exact ⟨rfl, noPoint, noUnderscore⟩

theorem text_of_parts? {key : PermissionKey} {parts : PermissionKeyParts}
    (divided : parts? key = some parts) :
    key.text = parts.app ++ "." ++ parts.action ++ "_" ++ parts.model := by
  apply String.toList_injective
  rw [(joined_of_parts? divided).1]
  simp

/-- A key has the parts of a pair exactly if it is the key of the pair. -/
theorem parts?_eq_partsOf_iff {key : PermissionKey} {resource : ResourceType}
    (parsed : resource.Parsed) (action : Action) :
    parts? key = some (partsOf resource action) ↔ resource.permissionKey action.label = key := by
  constructor
  · intro divided
    have joined := text_of_parts? divided
    obtain ⟨text⟩ := key
    exact congrArg Label.mk joined.symm
  · rintro rfl
    exact parts?_permissionKey parsed action

end PermissionKey

end RowAccess
