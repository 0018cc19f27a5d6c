import Mathlib.Data.List.Forall2
import RowAccess.Config.Build
import RowAccess.Proofs.Grant.Validation
import RowAccess.Proofs.Token.Binding
import RowAccess.Session.Basic

/-!
Contract: what an accepted configuration is converted to.

Checking and conversion read the same texts each in their own way. Whatever the
check lets pass is converted as it stands: every grant under its string, into a map
that no request can find a misplaced grant in; every relation to the one path of its
scope; and the settings of a gate that tokens can be shown to.

Owns:
- what the check of each part guarantees.
- the permission map, the relation scopes and the gate of an accepted configuration.
-/

namespace RowAccess

/-! ## Checks -/

theorem demand_eq_ok {condition : Bool} {defect : ConfigDefect} :
    demand condition defect = .ok () ↔ condition = true := by
  unfold demand
  cases condition <;> simp

namespace Checked

variable {α : Type}

theorem bind_eq_ok {first : Checked Unit} {next : Unit → Checked α} {value : α} :
    (first >>= next) = .ok value ↔ first = .ok () ∧ next () = .ok value := by
  cases first with
  | error defect => exact iff_of_false nofun (fun both => nomatch both.1)
  | ok done => exact ⟨fun ended => ⟨rfl, ended⟩, fun both => both.2⟩

theorem forM_eq_ok {check : α → Checked Unit} {items : List α} :
    items.forM check = .ok () ↔ ∀ item ∈ items, check item = .ok () := by
  induction items with
  | nil => exact iff_of_true rfl (fun _ member => absurd member List.not_mem_nil)
  | cons item rest inductionHypothesis =>
      have first : (item :: rest).forM check = check item >>= fun _ => rest.forM check := rfl
      rw [first, bind_eq_ok, inductionHypothesis, List.forall_mem_cons]

end Checked

namespace AccessConfig

/-- What an accepted configuration has passed. -/
theorem parts_of_check {config : AccessConfig} (accepted : config.check = .ok ()) :
    checkPermissions config.permissions = .ok () ∧ config.tokenAuth.check = .ok () ∧
      checkRelations config.relations = .ok () := by
  unfold check at accepted
  simp only [Checked.bind_eq_ok] at accepted
  obtain ⟨permissions, token, _, _, relations⟩ := accepted
  exact ⟨permissions, token, relations⟩

end AccessConfig

/-! ## Grants -/

/-- The grant that a setting is converted to. -/
def GrantSetting.converted (grant : GrantSetting) : PermissionGrant :=
  ⟨⟨Text.trim grant.permission⟩, grant.scope.map (fun scope => ⟨Text.trim scope⟩)⟩

/-- A checked setting is not a misplaced grant. -/
theorem GrantSetting.not_misplaced {grant : GrantSetting} {name : String}
    (checked : grant.check name = .ok ()) : ¬ grant.converted.Misplaced := by
  rintro ⟨hasScope, custom⟩
  unfold GrantSetting.check at checked
  dsimp only at checked
  split at checked
  · cases checked
  · split at checked
    next => cases checked
    next parts divided =>
      split at checked
      next unscoped => exact hasScope (by unfold converted; rw [unscoped]; rfl)
      next scope _ =>
        split at checked
        next => cases checked
        next =>
          rw [demand_eq_ok, PermissionAction.crud?_parse] at checked
          obtain ⟨action, isAction⟩ := Option.isSome_iff_exists.1 checked
          exact custom parts divided action (Action.label_of_parse? isAction).symm

/-- What is written under a name, among entries with one name each. -/
theorem grants_of_name (entries : List (String × List GrantSetting))
    (nodup : (entries.map Prod.fst).Nodup) (name : String) :
    ((entries.flatMap (fun entry => entry.2.map (fun grant => (entry.1, grant.converted)))).filter
        (fun granted => granted.1 = name)).map Prod.snd =
      (((entries.find? (fun entry => entry.1 = name)).map Prod.snd).getD []).map
        GrantSetting.converted := by
  have ofEntry : ∀ entry : String × List GrantSetting,
      ((entry.2.map (fun grant => (entry.1, grant.converted))).filter
        (fun granted => granted.1 = name)).map Prod.snd =
          if entry.1 = name then entry.2.map GrantSetting.converted else [] := by
    intro entry
    by_cases same : entry.1 = name
    · simp [List.filter_map, Function.comp_def, same]
    · simp [List.filter_map, Function.comp_def, same]
  induction entries with
  | nil => rfl
  | cons entry rest inductionHypothesis =>
      rw [List.map_cons, List.nodup_cons] at nodup
      rw [List.flatMap_cons, List.filter_append, List.map_append, ofEntry,
        inductionHypothesis nodup.2, List.find?_cons]
      by_cases same : entry.1 = name
      · rw [OrderedMap.find?_eq_none_of_absent (same ▸ nodup.1)]
        simp [same]
      · simp [same]

namespace AccessConfig

variable {config : AccessConfig}

/-- The configured grants of a string are those that were written under it. -/
theorem grantsFor_permissionMap (config : AccessConfig) (name : String) :
    config.permissionMap.grantsFor name =
      ((config.permissions.find? name).getD []).map GrantSetting.converted := by
  unfold permissionMap
  rw [PermissionMap.grantsFor_ofList]
  exact grants_of_name config.permissions.entries config.permissions.nodup_keys name

theorem converted_mem_grantsFor {name : String} {settings : List GrantSetting}
    {setting : GrantSetting} (written : config.permissions.find? name = some settings)
    (member : setting ∈ settings) :
    setting.converted ∈ config.permissionMap.grantsFor name := by
  rw [config.grantsFor_permissionMap, written]
  exact List.mem_map_of_mem member

theorem not_misplaced_of_check (accepted : config.check = .ok ()) {name : String}
    {grant : PermissionGrant} (member : grant ∈ config.permissionMap.grantsFor name) :
    ¬ grant.Misplaced := by
  rw [grantsFor_permissionMap] at member
  obtain ⟨setting, written, rfl⟩ := List.mem_map.1 member
  obtain ⟨permissions, _, _⟩ := parts_of_check accepted
  unfold checkPermissions at permissions
  rw [Checked.bind_eq_ok, Checked.forM_eq_ok] at permissions
  cases found : config.permissions.find? name with
  | none =>
      rw [found] at written
      cases written
  | some grants =>
      rw [found] at written
      have entry := (OrderedMap.mem_iff_find?_of_nodup config.permissions.nodup_keys).2 found
      have checked := permissions.2 (name, grants) entry
      unfold checkPermissionString at checked
      simp only [Checked.bind_eq_ok, Checked.forM_eq_ok] at checked
      obtain ⟨_, _, _, each⟩ := checked
      exact GrantSetting.not_misplaced (each setting written)

/-- No grant that is selected from the permission map of an accepted configuration is
misplaced, so that every collection succeeds. -/
theorem exists_collect_of_check (accepted : config.check = .ok ()) (strings : OrderedSet String) :
    ∃ held, HeldPermissions.collect config.permissionMap strings = .ok held := by
  have sound : ∀ grant, config.permissionMap.Selects strings grant → ¬ grant.Misplaced := by
    rintro grant ⟨name, _, member⟩
    exact not_misplaced_of_check accepted member
  obtain ⟨held, collected, _⟩ := HeldPermissions.collect_of_sound sound
  exact ⟨held, collected⟩

/-- What cannot be loaded is due to the source of permission strings. -/
theorem load_eq_error (accepted : config.check = .ok ()) {source : GrantSource}
    {principal : Principal} {error : AccessError}
    (failed : HeldPermissions.load config.permissionMap source principal = .error error) :
    ∃ cause, source principal = .error cause ∧ error = .store cause := by
  unfold HeldPermissions.load at failed
  cases supplied : source principal with
  | error cause =>
      rw [supplied] at failed
      cases failed
      exact ⟨cause, rfl, rfl⟩
  | ok strings =>
      obtain ⟨held, collected⟩ := exists_collect_of_check accepted strings
      rw [supplied] at failed
      exact nomatch collected.symm.trans failed

end AccessConfig

/-! ## Relations -/

namespace RelationSetting

/-- Whether a relation is about a scope of a resource. -/
def isFor (resource : ResourceType) (scope : ScopeName) (relation : RelationSetting) : Bool :=
  ResourceType.parse? (Text.trim relation.resource) = some resource &&
    Text.trim relation.scope = scope.text

theorem read_eq_ok {relation : RelationSetting} {bound : BoundRelation}
    (isRead : relation.read = .ok bound) :
    ResourceType.parse? (Text.trim relation.resource) = some bound.resource ∧
      Text.trim relation.scope = bound.scope.text ∧
      FieldPath.parse? (Text.trim relation.path) = some bound.path := by
  unfold read at isRead
  split at isRead
  next => cases isRead
  next resource isResource =>
    split at isRead
    next => cases isRead
    next =>
      dsimp only at isRead
      split at isRead
      next => cases isRead
      next =>
        split at isRead
        next => cases isRead
        next path isPath =>
          cases isRead
          exact ⟨isResource, rfl, isPath⟩

/-- What a relation is about, as it was read. -/
def subject (bound : BoundRelation) : ResourceType × ScopeName := (bound.resource, bound.scope)

theorem isFor_iff_of_read {relation : RelationSetting} {bound : BoundRelation}
    (isRead : relation.read = .ok bound) (resource : ResourceType) (scope : ScopeName) :
    relation.isFor resource scope = true ↔ decide (subject bound = (resource, scope)) = true := by
  obtain ⟨isResource, isScope, _⟩ := read_eq_ok isRead
  obtain ⟨scope⟩ := scope
  unfold isFor subject
  rw [isResource, isScope]
  obtain ⟨own, ⟨name⟩, path⟩ := bound
  simp

/-- Checked relations are read, and no two of them are about the same scope. -/
theorem read_of_checkEach {seen : List (ResourceType × ScopeName)}
    {relations : List RelationSetting} (checked : checkEach seen relations = .ok ()) :
    ∃ bounds, List.Forall₂ (fun relation bound => relation.read = .ok bound) relations bounds ∧
      (bounds.map subject).Nodup ∧ ∀ bound ∈ bounds, subject bound ∉ seen := by
  induction relations generalizing seen with
  | nil => exact ⟨[], .nil, List.nodup_nil, fun _ member => absurd member List.not_mem_nil⟩
  | cons relation rest inductionHypothesis =>
      unfold checkEach at checked
      cases isRead : relation.read with
      | error defect =>
          rw [isRead] at checked
          cases checked
      | ok bound =>
          rw [isRead] at checked
          obtain ⟨isNew, others⟩ := Checked.bind_eq_ok.1 checked
          rw [demand_eq_ok] at isNew
          obtain ⟨bounds, each, nodup, unseen⟩ := inductionHypothesis others
          refine ⟨bound :: bounds, .cons isRead each, ?_, ?_⟩
          · refine List.nodup_cons.2 ⟨fun again => ?_, nodup⟩
            obtain ⟨other, member, same⟩ := List.mem_map.1 again
            exact unseen other member (same ▸ List.mem_cons_self)
          · intro other member
            rcases List.mem_cons.1 member with rfl | inRest
            · simpa [subject] using isNew
            · exact fun before => unseen other inRest (List.mem_cons_of_mem _ before)

theorem mapM_read {relations : List RelationSetting} {bounds : List BoundRelation}
    (each : List.Forall₂ (fun relation bound => relation.read = .ok bound) relations bounds) :
    relations.mapM read = .ok bounds := by
  induction each with
  | nil => rfl
  | cons isRead _ inductionHypothesis =>
      rw [List.mapM_cons, isRead, inductionHypothesis]
      rfl

/-- Where nothing is about the same scope twice, at most one relation is about one. -/
theorem filter_subject {bounds : List BoundRelation} (nodup : (bounds.map subject).Nodup)
    (sought : ResourceType × ScopeName) :
    bounds.filter (fun bound => decide (subject bound = sought)) = [] ∨
      ∃ bound, bounds.filter (fun bound => decide (subject bound = sought)) = [bound] := by
  have isSought : ∀ bound ∈ bounds.filter (fun bound => decide (subject bound = sought)),
      subject bound = sought :=
    fun bound member => of_decide_eq_true (List.mem_filter.1 member).2
  have distinct := nodup.sublist
    ((List.filter_sublist (p := fun bound => decide (subject bound = sought))).map subject)
  generalize bounds.filter (fun bound => decide (subject bound = sought)) = found
    at isSought distinct ⊢
  match found with
  | [] => exact Or.inl rfl
  | [bound] => exact Or.inr ⟨bound, rfl⟩
  | first :: second :: rest =>
      have same : subject first = subject second :=
        (isSought first List.mem_cons_self).trans
          (isSought second (List.mem_cons_of_mem first List.mem_cons_self)).symm
      rw [List.map_cons, List.nodup_cons] at distinct
      exact absurd (List.mem_map.2 ⟨second, List.mem_cons_self, same.symm⟩) distinct.1

/-- The path of a scope is that of the relation about it. -/
theorem find?_scope {bounds : List BoundRelation} (nodup : (bounds.map subject).Nodup)
    (resource : ResourceType) (scope : ScopeName) :
    (OrderedMap.ofList ((bounds.filter (fun bound => bound.resource = resource)).map
        (fun bound => (bound.scope, bound.path)))).find? scope =
      (bounds.filter (fun bound => decide (subject bound = (resource, scope)))).head?.map
        BoundRelation.path := by
  have keys : (((bounds.filter (fun bound => bound.resource = resource)).map
      (fun bound => (bound.scope, bound.path))).map Prod.fst).Nodup := by
    have distinct := nodup.sublist
      ((List.filter_sublist (p := fun bound => decide (bound.resource = resource))).map subject)
    rw [List.map_map]
    refine List.Nodup.of_map (fun scope => (resource, scope)) ?_
    rw [List.map_map]
    refine (List.map_congr_left (fun bound member => ?_)) ▸ distinct
    have isResource := of_decide_eq_true (List.mem_filter.1 member).2
    simp [subject, isResource]
  have bound := OrderedMap.find?_insertAll (OrderedMap.empty : OrderedMap ScopeName FieldPath)
    ((bounds.filter (fun bound => bound.resource = resource)).map
      (fun bound => (bound.scope, bound.path))) scope
  rw [OrderedMap.find?_empty, Option.or_none, OrderedMap.find?_reverse_of_nodup keys] at bound
  refine bound.trans ?_
  rw [List.find?_map, List.find?_filter, List.head?_filter, Option.map_map]
  simp only [subject, Prod.mk.injEq, Function.comp_def, Bool.decide_and, Bool.decide_eq_true]

end RelationSetting

namespace AccessConfig

variable {config : AccessConfig}

/-- The relations of an accepted configuration can all be read. -/
theorem relationScopes_of_read {bounds : List BoundRelation} (resource : ResourceType)
    (related : RelatedLookup)
    (each : List.Forall₂ (fun relation bound => RelationSetting.read relation = .ok bound)
      config.relations bounds) :
    config.relationScopes resource related =
      let own := bounds.filter (fun bound => bound.resource = resource)
      let paths := OrderedMap.ofList (own.map (fun bound => (bound.scope, bound.path)))
      .ok (if own.isEmpty then none else some ⟨paths, related⟩) := by
  unfold relationScopes relationsOf
  rw [RelationSetting.mapM_read each]
  dsimp only [bind, Except.bind, pure, Except.pure]
  split <;> rfl

/-- The relation scopes of a resource, for an accepted configuration: there are none
where no relation is read as one of it, and otherwise each name has the path of the one
relation about it, or no path. -/
theorem relationScopes_of_check (accepted : config.check = .ok ()) (resource : ResourceType)
    (related : RelatedLookup) :
    ∃ found, config.relationScopes resource related = .ok found ∧
      (found = none ↔ ∀ relation ∈ config.relations,
        ResourceType.parse? (Text.trim relation.resource) ≠ some resource) ∧
      ∀ scopes, found = some scopes → scopes.related = related ∧ ∀ scope,
        (∃ relation path, config.relations.filter (RelationSetting.isFor resource scope) =
            [relation] ∧
          FieldPath.parse? (Text.trim relation.path) = some path ∧
          scopes.path? scope = some path) ∨
        config.relations.filter (RelationSetting.isFor resource scope) = [] ∧
          scopes.path? scope = none := by
  obtain ⟨_, _, relations⟩ := parts_of_check accepted
  unfold checkRelations at relations
  obtain ⟨bounds, each, nodup, _⟩ :=
    RelationSetting.read_of_checkEach (Checked.bind_eq_ok.1 relations).2
  refine ⟨_, relationScopes_of_read resource related each, ?_, ?_⟩
  · have alike := List.rel_filter (R := fun relation bound =>
        RelationSetting.read relation = .ok bound)
      (p := fun relation => ResourceType.parse? (Text.trim relation.resource) = some resource)
      (q := fun bound => bound.resource = resource)
      (fun relation bound isRead => by simp [(RelationSetting.read_eq_ok isRead).1]) each
    have lengths := alike.length_eq
    have unbound : (bounds.filter (fun bound => bound.resource = resource)).isEmpty = true ↔
        ∀ relation ∈ config.relations,
          ResourceType.parse? (Text.trim relation.resource) ≠ some resource := by
      rw [List.isEmpty_iff, ← List.length_eq_zero_iff, ← lengths, List.length_eq_zero_iff,
        List.filter_eq_nil_iff]
      simp only [decide_eq_true_eq, ne_eq]
    rw [← unbound]
    split
    next isEmpty => exact iff_of_true rfl isEmpty
    next isFull => exact iff_of_false nofun isFull
  · intro scopes isSome
    split at isSome
    · cases isSome
    · cases isSome
      refine ⟨rfl, fun scope => ?_⟩
      have alike := List.rel_filter (R := fun relation bound =>
          RelationSetting.read relation = .ok bound)
        (p := RelationSetting.isFor resource scope)
        (q := fun bound => RelationSetting.subject bound = (resource, scope))
        (fun relation bound isRead =>
          RelationSetting.isFor_iff_of_read isRead resource scope) each
      have found := RelationSetting.find?_scope nodup resource scope
      unfold RelationScopes.path?
      rcases RelationSetting.filter_subject nodup (resource, scope) with none | ⟨bound, one⟩
      · rw [none] at alike found
        exact Or.inr ⟨List.forall₂_nil_right_iff.1 alike, found⟩
      · rw [one] at alike found
        obtain ⟨relation, rest, isRead, others, only⟩ := List.forall₂_cons_right_iff.1 alike
        rw [List.forall₂_nil_right_iff.1 others] at only
        exact Or.inl ⟨relation, bound.path, only, (RelationSetting.read_eq_ok isRead).2.2, found⟩

end AccessConfig

/-! ## The gate -/

/-- Checked settings leave room for the scheme, a space and a byte. -/
theorem TokenSettings.room_of_check {settings : TokenSettings}
    (checked : settings.check = .ok ()) :
    settings.scheme.utf8ByteSize + 1 < settings.maxHeaderBytes := by
  unfold TokenSettings.check at checked
  simp only [Checked.bind_eq_ok, demand_eq_ok] at checked
  obtain ⟨_, _, _, _, room⟩ := checked
  exact of_decide_eq_true (Bool.and_eq_true_iff.1 room).1

/-- A token that fits behind the scheme is read back. -/
theorem GateSettings.token?_of_fits (settings : GateSettings) {token : TokenValue}
    (fits : settings.scheme.utf8ByteSize + 1 + token.text.utf8ByteSize ≤
      settings.maxHeaderBytes) :
    settings.token? (settings.scheme ++ " " ++ token.text) = some token := by
  refine GateSettings.token?_eq_some_iff.2 ⟨?_, rfl⟩
  rw [String.utf8ByteSize_append, String.utf8ByteSize_append]
  exact fits

/-! ## Conversion -/

/-- What the parts of a configuration are converted to: the grants of each string, in
order and without blanks; a valid map; lookups of permissions that fail for no
misplaced grant; the relation scopes of each resource; and a gate that reads every
token that fits, of which there is one. -/
structure AccessConfig.Converts (config : AccessConfig) : Prop where
  grants : ∀ name, config.permissionMap.grantsFor name =
    ((config.permissions.find? name).getD []).map (fun grant =>
      ⟨⟨Text.trim grant.permission⟩, grant.scope.map (fun scope => ⟨Text.trim scope⟩)⟩)
  valid : config.permissionMap.validate = .ok ()
  loads : ∀ (source : GrantSource) (principal : Principal) (error : AccessError),
    HeldPermissions.load config.permissionMap source principal = .error error →
      ∃ cause, source principal = .error cause ∧ error = .store cause
  resolves : ∀ evaluator : Evaluator, evaluator.permissions = config.permissionMap →
    ∀ (session : Session) (key : PermissionKey),
      (∀ resource action,
        (evaluator.resolveGrants resource action session).1 ≠ .error (.scopedCustomAction key)) ∧
      ∀ keys, (evaluator.hasAnyPermission keys session).1 ≠ .error (.scopedCustomAction key)
  relations : ∀ (resource : ResourceType) (related : RelatedLookup),
    ∃ found, config.relationScopes resource related = .ok found ∧
      (found = none ↔ ∀ relation ∈ config.relations,
        ResourceType.parse? (Text.trim relation.resource) ≠ some resource) ∧
      ∀ scopes, found = some scopes → scopes.related = related ∧ ∀ scope,
        (∃ relation path, config.relations.filter (RelationSetting.isFor resource scope) =
            [relation] ∧
          FieldPath.parse? (Text.trim relation.path) = some path ∧
          scopes.path? scope = some path) ∨
        config.relations.filter (RelationSetting.isFor resource scope) = [] ∧
          scopes.path? scope = none
  tokens : ∀ token : TokenValue, 1 ≤ token.text.utf8ByteSize →
    config.tokenAuth.scheme.utf8ByteSize + 1 + token.text.utf8ByteSize ≤
        config.tokenAuth.maxHeaderBytes →
      config.tokenAuth.gate.token? (config.tokenAuth.scheme ++ " " ++ token.text) = some token
  presentable : ∃ token : TokenValue, 1 ≤ token.text.utf8ByteSize ∧
    config.tokenAuth.scheme.utf8ByteSize + 1 + token.text.utf8ByteSize ≤
      config.tokenAuth.maxHeaderBytes

namespace AccessConfig

variable {config : AccessConfig}

/-- What a principal holds cannot be found out only where the source fails. -/
theorem heldPermissions_eq_error (accepted : config.check = .ok ()) {evaluator : Evaluator}
    (configured : evaluator.permissions = config.permissionMap) {session : Session}
    {error : AccessError} (failed : (evaluator.heldPermissions session).1 = .error error) :
    ∃ cause, error = .store cause := by
  unfold Evaluator.heldPermissions at failed
  cases cached : session.context.held with
  | some held =>
      rw [cached] at failed
      cases failed
  | none =>
      rw [cached, configured] at failed
      dsimp only at failed
      cases loaded : HeldPermissions.load config.permissionMap evaluator.grantSource
          session.context.principal with
      | ok held =>
          rw [loaded] at failed
          cases failed
      | error cause =>
          rw [loaded] at failed
          cases failed
          obtain ⟨reason, _, isStore⟩ := load_eq_error accepted loaded
          exact ⟨reason, isStore⟩

theorem resolveGrants_ne_misplaced (accepted : config.check = .ok ()) {evaluator : Evaluator}
    (configured : evaluator.permissions = config.permissionMap) (session : Session)
    (resource : ResourceType) (action : Action) (key : PermissionKey) :
    (evaluator.resolveGrants resource action session).1 ≠ .error (.scopedCustomAction key) := by
  have held : ∀ error, (evaluator.heldPermissions
      (session.updateContext RequestContext.markChecked)).1 = .error error →
        ∃ cause, error = .store cause :=
    fun _ => heldPermissions_eq_error accepted configured
  unfold Evaluator.resolveGrants
  dsimp only
  split
  · intro failed
    cases failed
  · generalize evaluator.heldPermissions (session.updateContext RequestContext.markChecked) =
      looked at held ⊢
    obtain ⟨found, next⟩ := looked
    cases found with
    | error error =>
        obtain ⟨cause, rfl⟩ := held error rfl
        intro failed
        cases failed
    | ok permissions =>
        intro failed
        dsimp only at failed
        split at failed <;> cases failed

theorem hasAnyPermission_ne_misplaced (accepted : config.check = .ok ()) {evaluator : Evaluator}
    (configured : evaluator.permissions = config.permissionMap) (session : Session)
    (keys : List PermissionKey) (key : PermissionKey) :
    (evaluator.hasAnyPermission keys session).1 ≠ .error (.scopedCustomAction key) := by
  have held : ∀ error, (evaluator.heldPermissions session).1 = .error error →
      ∃ cause, error = .store cause :=
    fun _ => heldPermissions_eq_error accepted configured
  unfold Evaluator.hasAnyPermission
  split
  · intro failed
    cases failed
  · generalize evaluator.heldPermissions session = looked at held ⊢
    obtain ⟨found, next⟩ := looked
    cases found with
    | error error =>
        obtain ⟨cause, rfl⟩ := held error rfl
        intro failed
        cases failed
    | ok permissions =>
        intro failed
        cases failed

/-- An accepted configuration is converted without loss and without an error. -/
theorem accepted_converts (accepted : config.check = .ok ()) : config.Converts where
  grants := config.grantsFor_permissionMap
  valid := PermissionMap.validate_of_sound (fun _ _ member =>
    not_misplaced_of_check accepted member)
  loads := fun _ _ _ failed => load_eq_error accepted failed
  resolves := fun _ configured session key =>
    ⟨fun resource action =>
      resolveGrants_ne_misplaced accepted configured session resource action key,
      fun keys => hasAnyPermission_ne_misplaced accepted configured session keys key⟩
  relations := relationScopes_of_check accepted
  tokens := fun _ _ fits => GateSettings.token?_of_fits config.tokenAuth.gate fits
  presentable := by
    have room := TokenSettings.room_of_check (parts_of_check accepted).2.1
    exact ⟨⟨"x"⟩, Nat.le_refl 1, room⟩

end AccessConfig

namespace Desk

/-- Clerks see the picked tickets and may close any, and the tickets of an active
owner have a scope; blanks stand around some of what was written. -/
def deskConfig : AccessConfig :=
  { AccessConfig.standard with
    permissions := OrderedMap.ofList
      [("clerk", [⟨" desk.view_ticket", some "picked "⟩, ⟨"desk.close_ticket", none⟩])]
    relations := [⟨" desk.Ticket", "active ", "owner__active"⟩] }

/-- Clerks hold one key, for what is their own. -/
def clerkConfig (permission : String) : AccessConfig :=
  { AccessConfig.standard with
    permissions := OrderedMap.ofList [("clerk", [⟨permission, some "own"⟩])] }

/-- The desk's configuration is accepted; the scope of active owners has the path it
was given, and a name that nothing is about has none. -/
theorem desk_config_converts :
    deskConfig.check = .ok () ∧
    deskConfig.permissionMap.grantsFor "clerk" =
      [⟨⟨"desk.view_ticket"⟩, some ⟨"picked"⟩⟩, ⟨⟨"desk.close_ticket"⟩, none⟩] ∧
    deskConfig.tokenAuth.gate.token? "Token key" = some ⟨"key"⟩ := by
  have accepted : deskConfig.check = .ok () := by decide +kernel
  have converts := AccessConfig.accepted_converts accepted
  refine ⟨accepted, ?_, converts.tokens ⟨"key"⟩ (by decide) (by decide)⟩
  rw [converts.grants "clerk"]
  decide +kernel

end Desk

end RowAccess
