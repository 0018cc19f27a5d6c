import Mathlib.Data.String.Basic
import RowAccess.Proofs.Config.Conversion
import RowAccess.Proofs.Text.Blank

/-!
Contract: the limits of paths, as far as they bind the path of the audit file.

What is checked is the path without blanks around it, and what is opened is the path as
it is configured. So the limits bind the path that is opened but for blanks around it,
which are blanks around its components. A path that neither begins nor ends with a blank
is within the limits as it stands, and one that does may not be.

Owns:
- paths within the limits.
- the path that an accepted configuration opens for audit events.
-/

namespace RowAccess

/-! ## Paths -/

namespace Location

/-- Whether a path is not blank and keeps the limits of paths. -/
structure WithinLimits (path : String) : Prop where
  notBlank : Text.trim path ≠ ""
  bytes : path.utf8ByteSize ≤ maxBytes
  componentBytes : ∀ component ∈ components path, component.utf8ByteSize ≤ maxComponentBytes

variable {path : String} {part : List Char}

theorem defect?_eq_none_iff : defect? path = none ↔
    path.utf8ByteSize ≤ maxBytes ∧
      ∀ component ∈ components path, component.utf8ByteSize ≤ maxComponentBytes := by
  have short : ((components path).any
      (fun component => maxComponentBytes < component.utf8ByteSize)) = false ↔
      ∀ component ∈ components path, component.utf8ByteSize ≤ maxComponentBytes := by
    rw [List.any_eq_false]
    simp only [decide_eq_true_iff, not_lt]
  unfold defect?
  by_cases long : maxBytes < path.utf8ByteSize
  · rw [if_pos long]
    exact iff_of_false nofun (fun both => not_le.2 long both.1)
  · rw [if_neg long, ← short]
    cases (components path).any (fun component => maxComponentBytes < component.utf8ByteSize) with
    | true => exact iff_of_false nofun (fun both => nomatch both.2)
    | false => exact iff_of_true rfl ⟨not_lt.1 long, rfl⟩

/-- The components are the parts of the path's text, but for those behind the first one
that name nothing, and with the root for an empty first one. -/
theorem mem_components_iff {first : List Char} {rest : List (List Char)} {component : String}
    (cut : Text.splitEvery separator path.toList = first :: rest) :
    component ∈ components path ↔
      (first.isEmpty = false ∧ component = String.ofList first) ∨
      (first.isEmpty = true ∧ path.isEmpty = false ∧ component = "/") ∨
      ∃ part ∈ rest, isNamed part = true ∧ component = String.ofList part := by
  have inRest : component ∈ (rest.filter isNamed).map String.ofList ↔
      ∃ part ∈ rest, isNamed part = true ∧ component = String.ofList part := by
    simp only [List.mem_map, List.mem_filter, and_assoc, eq_comm]
  unfold components
  rw [cut, ← inRest]
  dsimp only
  generalize (rest.filter isNamed).map String.ofList = named
  by_cases absolute : first.isEmpty = true
  · rw [if_pos absolute]
    by_cases empty : path.isEmpty = true
    · rw [if_pos empty]
      simp [absolute, empty]
    · rw [if_neg empty]
      simp [absolute, empty]
  · rw [if_neg absolute]
    simp [absolute]

/-- A component is a part of the path's text, unless it is the root. -/
theorem part_of_component {component : String} (member : component ∈ components path) :
    component = "/" ∨ component.toList ∈ Text.splitEvery separator path.toList := by
  cases cut : Text.splitEvery separator path.toList with
  | nil => exact absurd cut (Text.splitEvery_ne_nil separator path.toList)
  | cons first rest =>
      rcases (mem_components_iff cut).1 member with
        ⟨_, rfl⟩ | ⟨_, _, isRoot⟩ | ⟨part, inRest, _, rfl⟩
      · rw [String.toList_ofList]
        exact Or.inr List.mem_cons_self
      · exact Or.inl isRoot
      · rw [String.toList_ofList]
        exact Or.inr (List.mem_cons_of_mem first inRest)

/-- A name is its own component. -/
theorem components_of_name (nonempty : path.toList ≠ []) (name : separator ∉ path.toList) :
    components path = [path] := by
  have notEmpty : ¬ path.toList.isEmpty = true := fun empty => nonempty (List.isEmpty_iff.1 empty)
  unfold components
  rw [Text.splitEvery_eq_splitOn, List.splitOn_eq_singleton name]
  dsimp only
  rw [if_neg notEmpty, String.ofList_toList]
  rfl

/-- Where the components are short, so are the parts of the path's text that vanish. -/
theorem utf8ByteSize_part_le
    (short : ∀ component ∈ components path, component.utf8ByteSize ≤ maxComponentBytes)
    (member : part ∈ Text.splitEvery separator path.toList) :
    (String.ofList part).utf8ByteSize ≤ maxComponentBytes := by
  -- With blanks around it, a part that vanishes would be a component of its own.
  have vanishing : ∀ vanished : List Char, isNamed vanished = false →
      (String.ofList vanished).utf8ByteSize ≤ maxComponentBytes := by
    intro vanished unnamed
    have isShort : vanished = [] ∨ vanished = ['.'] := by
      by_contra both
      rw [not_or] at both
      simp [isNamed, both.1, both.2] at unnamed
    rcases isShort with rfl | rfl
    · decide
    · decide
  cases cut : Text.splitEvery separator path.toList with
  | nil =>
      rw [cut] at member
      cases member
  | cons first rest =>
      rw [cut] at member
      rcases List.mem_cons.1 member with rfl | inRest
      · cases part with
        | nil => exact vanishing [] rfl
        | cons head tail => exact short _ ((mem_components_iff cut).2 (Or.inl ⟨rfl, rfl⟩))
      · cases named : isNamed part with
        | false => exact vanishing part named
        | true =>
            exact short _
              ((mem_components_iff cut).2 (Or.inr (Or.inr ⟨part, inRest, named, rfl⟩)))

/-- Blanks around a path are blanks around its components. -/
theorem utf8ByteSize_trim_component_le (short : ∀ component ∈ components (Text.trim path),
      component.utf8ByteSize ≤ maxComponentBytes) {component : String}
    (member : component ∈ components path) :
    (Text.trim component).utf8ByteSize ≤ maxComponentBytes := by
  rcases part_of_component member with rfl | isPart
  · decide
  · have solid : Text.isBlank separator = false := by decide
    obtain ⟨bare, bareMember, padded⟩ := (Text.exists_of_forall₂
      (Text.splitEvery_of_padded solid (Text.padded_trim path))).1 _ isPart
    have same := Text.trim_eq_of_padded padded
    rw [String.ofList_toList] at same
    rw [same]
    exact (Text.utf8ByteSize_trim_le _).trans (utf8ByteSize_part_le short bareMember)

end Location

/-! ## Configurations -/

namespace AuditSettings

/-- Whether a path is the one that a file of audit events is opened at, whatever
directories and files there are. -/
structure OpensAt (settings : AuditSettings) (path : String) : Prop where
  configured : settings.path = some path
  opened (tree : StoredTree) : settings.opened? tree =
    match openLines path tree with
    | some next => .ok (some (path, next))
    | none => .error .auditFile

theorem opensAt {settings : AuditSettings} {path : String} (isFile : settings.target = .file)
    (configured : settings.path = some path) : settings.OpensAt path := by
  obtain ⟨target, written⟩ := settings
  obtain rfl : target = .file := isFile
  obtain rfl : written = some path := configured
  exact ⟨rfl, fun tree => rfl⟩

/-- A path with a defect cannot be opened. -/
theorem opened?_of_defect {settings : AuditSettings} {path : String}
    (opensAt : settings.OpensAt path) (defect : Location.defect? path ≠ none)
    (tree : StoredTree) : settings.opened? tree = .error .auditFile := by
  rw [opensAt.opened, openLines]
  cases found : Location.defect? path with
  | none => exact absurd found defect
  | some _ => rfl

/-- Blanks around a path are not checked. -/
theorem check_eq_of_trim {path other : String} (same : Text.trim path = Text.trim other) :
    check ⟨.file, some path⟩ = check ⟨.file, some other⟩ := by
  unfold check
  dsimp only
  rw [same]

/-- A checked path is within the limits when there are no blanks around it. -/
theorem exists_path_of_check {settings : AuditSettings} (checked : settings.check = .ok ())
    (isFile : settings.target = .file) :
    ∃ path, settings.path = some path ∧ Location.WithinLimits (Text.trim path) := by
  unfold check at checked
  rw [isFile] at checked
  cases configured : settings.path with
  | none =>
      rw [configured] at checked
      cases checked
  | some path =>
      rw [configured] at checked
      obtain ⟨notBlank, limited⟩ := Checked.bind_eq_ok.1 checked
      rw [demand_eq_ok] at notBlank
      have noDefect : Location.defect? (Text.trim path) = none := by
        unfold checkPath at limited
        cases defect : Location.defect? (Text.trim path) with
        | none => rfl
        | some found =>
            rw [defect] at limited
            cases limited
      obtain ⟨bytes, componentBytes⟩ := Location.defect?_eq_none_iff.1 noDefect
      have again := Text.trim_eq_of_padded (Text.padded_trim path)
      rw [String.ofList_toList, String.ofList_toList] at again
      refine ⟨path, rfl, ?_, bytes, componentBytes⟩
      rw [← again]
      rintro empty
      rw [empty] at notBlank
      cases notBlank

end AuditSettings

namespace AccessConfig

theorem audit_of_check {config : AccessConfig} (accepted : config.check = .ok ()) :
    config.audit.check = .ok () := by
  unfold check at accepted
  simp only [Checked.bind_eq_ok] at accepted
  obtain ⟨_, _, _, audit, _⟩ := accepted
  exact audit

/-- The path that an accepted configuration opens for audit events has blanks around a
path within the limits, and its components have blanks around what keeps the limit of
components. If it neither begins nor ends with a blank, it is within the limits itself. -/
theorem audit_path_within_limits {config : AccessConfig} (accepted : config.check = .ok ())
    (isFile : config.audit.target = .file) :
    ∃ path, config.audit.OpensAt path ∧
      Text.Padded path.toList (Text.trim path).toList ∧
      Location.WithinLimits (Text.trim path) ∧
      (∀ component ∈ Location.components path,
        (Text.trim component).utf8ByteSize ≤ Location.maxComponentBytes) ∧
      ((∀ character, path.toList.head? = some character → Text.isBlank character = false) →
        (∀ character, path.toList.getLast? = some character → Text.isBlank character = false) →
        Location.WithinLimits path) := by
  obtain ⟨path, configured, limited⟩ :=
    AuditSettings.exists_path_of_check (audit_of_check accepted) isFile
  refine ⟨path, AuditSettings.opensAt isFile configured, Text.padded_trim path, limited, ?_, ?_⟩
  · intro component member
    exact Location.utf8ByteSize_trim_component_le limited.componentBytes member
  · intro first last
    rw [Text.trim_eq_self first last] at limited
    exact limited

end AccessConfig

namespace Desk

/-- Audit events in a file. -/
def auditConfig (path : String) : AccessConfig :=
  { AccessConfig.standard with audit := ⟨.file, some path⟩ }

/-- The name of a file with blanks behind it. -/
def blankTail (count : Nat) : String := "audit.log" ++ String.ofList (List.replicate count ' ')

theorem toList_blankTail (count : Nat) :
    (blankTail count).toList = "audit.log".toList ++ List.replicate count ' ' := by
  have behind : (String.ofList (List.replicate count ' ')).toList = List.replicate count ' ' :=
    String.toList_ofList
  rw [blankTail, String.toList_append, behind]

theorem trim_blankTail (count : Nat) : Text.trim (blankTail count) = Text.trim "audit.log" := by
  have blank : ∀ character ∈ List.replicate count ' ', Text.isBlank character = true := by
    intro character member
    rw [List.eq_of_mem_replicate member]
    decide
  have same := Text.trim_eq_of_padded (Text.padded_append "audit.log".toList blank)
  rw [← toList_blankTail, String.ofList_toList, String.ofList_toList] at same
  exact same

theorem utf8ByteSize_blankTail (count : Nat) : (blankTail count).utf8ByteSize = 9 + count := by
  have blanks : (String.ofList (List.replicate count ' ')).utf8ByteSize = count := by
    rw [String.utf8ByteSize_ofList]
    induction count with
    | zero => rfl
    | succ count inductionHypothesis =>
        rw [List.replicate_succ, String.utf8Len_cons, inductionHypothesis]
        rfl
  rw [blankTail, String.utf8ByteSize_append, blanks]
  rfl

/-- The blanks count among the bytes of the only component. -/
theorem not_withinLimits_blankTail {count : Nat} (many : 246 < count) :
    ¬ Location.WithinLimits (blankTail count) ∧ Location.defect? (blankTail count) ≠ none := by
  have name : Location.separator ∉ (blankTail count).toList := by
    rw [toList_blankTail, List.mem_append, not_or]
    refine ⟨by decide, fun member => ?_⟩
    cases List.eq_of_mem_replicate member
  have nonempty : (blankTail count).toList ≠ [] := by
    rw [toList_blankTail]
    exact List.append_ne_nil_of_left_ne_nil (by decide) _
  have long : ¬ ∀ component ∈ Location.components (blankTail count),
      component.utf8ByteSize ≤ Location.maxComponentBytes := by
    intro short
    rw [Location.components_of_name nonempty name] at short
    have own := short (blankTail count) List.mem_cons_self
    rw [utf8ByteSize_blankTail, Location.maxComponentBytes] at own
    omega
  exact ⟨fun limited => long limited.componentBytes,
    fun noDefect => long (Location.defect?_eq_none_iff.1 noDefect).2⟩

theorem check_auditConfig_eq {path other : String} (same : Text.trim path = Text.trim other) :
    (auditConfig path).check = (auditConfig other).check := by
  have alike : (auditConfig path).audit.check = (auditConfig other).audit.check :=
    AuditSettings.check_eq_of_trim same
  rw [AccessConfig.check, AccessConfig.check, alike]
  rfl

/-- A path with a line end behind it. -/
theorem desk_audit_path_is_limited :
    (auditConfig "logs/audit.jsonl\n").check = .ok () ∧
    (auditConfig "logs/audit.jsonl\n").audit.target = .file ∧
    ∃ path, (auditConfig "logs/audit.jsonl\n").audit.OpensAt path ∧
      ∀ component ∈ Location.components path,
        (Text.trim component).utf8ByteSize ≤ Location.maxComponentBytes := by
  have accepted : (auditConfig "logs/audit.jsonl\n").check = .ok () := by decide +kernel
  obtain ⟨path, opensAt, _, _, components, _⟩ :=
    AccessConfig.audit_path_within_limits accepted rfl
  exact ⟨accepted, rfl, path, opensAt, components⟩

/-- With 250 blanks, the name is longer than a component may be. It is accepted, and then
cannot be opened anywhere. -/
theorem desk_audit_path_breaks_limit :
    (auditConfig (blankTail 250)).check = .ok () ∧
    (auditConfig (blankTail 250)).audit.OpensAt (blankTail 250) ∧
    ¬ Location.WithinLimits (blankTail 250) ∧
    ∀ tree, (auditConfig (blankTail 250)).audit.opened? tree = .error .auditFile := by
  have accepted : (auditConfig "audit.log").check = .ok () := by decide +kernel
  have opensAt : (auditConfig (blankTail 250)).audit.OpensAt (blankTail 250) :=
    AuditSettings.opensAt rfl rfl
  obtain ⟨beyond, defect⟩ := not_withinLimits_blankTail (show 246 < 250 by decide)
  exact ⟨(check_auditConfig_eq (trim_blankTail 250)).trans accepted, opensAt, beyond,
    AuditSettings.opened?_of_defect opensAt defect⟩

end Desk

end RowAccess
