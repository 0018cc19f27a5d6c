import RowAccess.Proofs.Grant.Held

/-!
Contract: a map is valid if and only if no grant in it is misplaced.

Otherwise the first misplaced grant, by permission string and then in order of
insertion, is the one named. A grant that is not misplaced may be inserted anywhere
without changing whether a map is valid.

Owns:
- the first misplaced grant of a map.
- the outcome of validation.
-/

namespace RowAccess.PermissionMap

variable {map : PermissionMap} {name : String} {grant : PermissionGrant}

/-- A map without misplaced grants is valid. -/
theorem validate_of_sound (sound : ∀ name, ∀ grant ∈ map.grantsFor name, ¬ grant.Misplaced) :
    map.validate = .ok () := by
  have noDefect : map.allGrants.findSome? PermissionGrant.defect? = none := by
    rw [List.findSome?_eq_none_iff]
    intro grant member
    obtain ⟨name, under⟩ := mem_allGrants.1 member
    exact PermissionGrant.defect?_eq_none_iff.2 (sound name grant under)
  unfold validate
  rw [noDefect]

/-- Whether a misplaced grant stands before all others, by permission string and then
in order of insertion. -/
def Foremost (map : PermissionMap) (grant : PermissionGrant) : Prop :=
  grant.Misplaced ∧ ∃ name,
    (∃ before after, map.grantsFor name = before ++ grant :: after ∧
      ∀ earlier ∈ before, ¬ earlier.Misplaced) ∧
    ∀ other, compare other name = .lt → ∀ earlier ∈ map.grantsFor other, ¬ earlier.Misplaced

/-- A misplaced grant anywhere in a map fails its validation by the first of them. -/
theorem validate_of_misplaced (member : grant ∈ map.grantsFor name)
    (misplaced : grant.Misplaced) :
    ∃ first, map.Foremost first ∧
      map.validate = .error (.scopedCustomAction first.permission) := by
  have listed : grant ∈ map.entries.keys.flatMap map.grantsFor := by
    rw [← allGrants_eq_flatMap]
    exact mem_allGrants.2 ⟨name, member⟩
  have increasing : map.entries.keys.Pairwise (fun left right => compare left right = .lt) :=
    map.entries.increasing
  obtain ⟨first, found, firstMisplaced, own, _, position, earlierNames⟩ :=
    exists_first_misplaced increasing ⟨grant, listed, misplaced⟩
  refine ⟨first, ⟨firstMisplaced, own, position, ?_⟩, ?_⟩
  · intro other below earlier member
    exact earlierNames other (mem_keys_of_mem_grantsFor member) below earlier member
  · unfold validate
    rw [allGrants_eq_flatMap, found]

theorem validate_ofList_eq_ok_iff {inserted : List (String × PermissionGrant)} :
    (ofList inserted).validate = .ok () ↔ ∀ entry ∈ inserted, ¬ entry.2.Misplaced := by
  constructor
  · rintro valid ⟨name, grant⟩ member
    exact sound_of_validate valid (mem_grantsFor_ofList.2 member)
  · intro sound
    apply validate_of_sound
    intro name grant member
    exact sound (name, grant) (mem_grantsFor_ofList.1 member)

/-- A grant that is not misplaced does not count in the validation, wherever it was
inserted. -/
theorem validate_ofList_insert_iff (sound : ¬ grant.Misplaced)
    (before after : List (String × PermissionGrant)) (name : String) :
    (ofList (before ++ (name, grant) :: after)).validate = .ok () ↔
      (ofList (before ++ after)).validate = .ok () := by
  rw [validate_ofList_eq_ok_iff, validate_ofList_eq_ok_iff]
  simp only [List.forall_mem_append, List.forall_mem_cons]
  rw [and_iff_right sound]

end RowAccess.PermissionMap
