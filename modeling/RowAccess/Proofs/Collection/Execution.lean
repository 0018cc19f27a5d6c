import RowAccess.Proofs.Collection.Subset
import RowAccess.Proofs.Filter.Simplification

/-!
Contract: what executing a query yields.

A query that is executed yields, in key order, exactly the records on which
each of its filters holds. It is executed where it ranges over the collection's
resource and each filter can be materialized, or where some filter never holds.

Owns:
- materialization in a collection as materialization by its resolver.
- the rows of a query, and when there are any to speak of.
- execution as a scan with the materialized predicate.
- the order of the records of a collection.
- the query for one key.
-/

namespace RowAccess

/-- Whether a filter holds for a record; a failure does not. -/
def Filter.holds (resolver : SubsetResolver) (record : Record) (filter : Filter) : Bool :=
  match filter.admits resolver record with
  | .ok holds => holds
  | .error _ => false

theorem Filter.holds_eq_true {resolver : SubsetResolver} {record : Record} {filter : Filter} :
    filter.holds resolver record = true ↔ filter.admits resolver record = .ok true := by
  unfold Filter.holds
  cases filter.admits resolver record with
  | error error => simp
  | ok holds => simp

namespace Collection

variable {collection : Collection}

/-! ## Outcomes -/

section Outcomes

variable {α β : Type} {outcome : Except StoreError α} {next : α → β}

theorem map_eq_error {error : StoreError} (failed : outcome.map next = .error error) :
    outcome = .error error := by
  cases outcome with
  | error other =>
      cases failed
      rfl
  | ok value => cases failed

theorem map_eq_ok {answer : β} (answered : outcome.map next = .ok answer) :
    ∃ value, outcome = .ok value ∧ next value = answer := by
  cases outcome with
  | error error => cases answered
  | ok value =>
      cases answered
      exact ⟨value, rfl, rfl⟩

theorem map_isOk_iff :
    (∃ answer, outcome.map next = .ok answer) ↔ ∃ value, outcome = .ok value := by
  cases outcome with
  | error error => simp [Except.map]
  | ok value => simp [Except.map]

end Outcomes

/-! ## Materialization -/

mutual

theorem materialize_eq (collection : Collection) :
    ∀ filter : Filter,
      collection.materialize filter = (filter.materialize collection.resolve).outcome
  | .always => by
      simp only [materialize, Filter.materialize, Inquiry.outcome_pure]
  | .never => by
      simp only [materialize, Filter.materialize, Inquiry.outcome_pure]
  | .condition _ => by
      simp only [materialize, Filter.materialize, Inquiry.outcome_pure]
  | .all children => by
      simp only [materialize, Filter.materialize]
      rw [materializeEach_eq collection children, ← Inquiry.outcome_map]
  | .any children => by
      simp only [materialize, Filter.materialize]
      rw [materializeEach_eq collection children, ← Inquiry.outcome_map]
  | .not child => by
      simp only [materialize, Filter.materialize]
      rw [materialize_eq collection child, ← Inquiry.outcome_map]
  | .keyIn subset => by
      simp only [materialize, Filter.materialize]
      rw [← outcome_keysOf, ← Inquiry.outcome_map]

theorem materializeEach_eq (collection : Collection) :
    ∀ filters : List Filter,
      collection.materializeEach filters =
        (Filter.materializeEach collection.resolve filters).outcome
  | [] => by
      simp only [materializeEach, Filter.materializeEach, Inquiry.outcome_pure]
  | filter :: rest => by
      simp only [materializeEach, Filter.materializeEach]
      rw [materialize_eq collection filter, materializeEach_eq collection rest]
      cases made : (filter.materialize collection.resolve).outcome with
      | error error => rw [Inquiry.outcome_bind_of_error _ made]
      | ok head =>
          rw [Inquiry.outcome_bind_of_ok _ made]
          exact (Inquiry.outcome_map _ _).symm

end

/-- Whether every subset in a filter can be resolved in the collection. -/
def Materializes (collection : Collection) (filter : Filter) : Prop :=
  ∃ made, collection.materialize filter = .ok made

theorem decided_of_materializes {filter : Filter} (materializes : collection.Materializes filter)
    (record : Record) : ∃ holds, filter.admits collection.resolve record = .ok holds := by
  obtain ⟨made, materialized⟩ := materializes
  rw [materialize_eq] at materialized
  obtain ⟨holds, found, _⟩ := Filter.settles_of_materialize record filter materialized
  exact ⟨holds, found⟩

theorem materializeEach_isOk_iff {filters : List Filter} :
    (∃ made, collection.materializeEach filters = .ok made) ↔
      ∀ filter ∈ filters, collection.Materializes filter := by
  induction filters with
  | nil => simp [materializeEach]
  | cons filter rest inductionHypothesis =>
      rw [List.forall_mem_cons, ← inductionHypothesis]
      simp only [materializeEach, Materializes]
      cases collection.materialize filter with
      | error error => simp
      | ok made =>
          rw [map_isOk_iff]
          simp

theorem materializes_any_iff {filters : List Filter} :
    collection.Materializes (.any filters) ↔
      ∀ filter ∈ filters, collection.Materializes filter := by
  rw [← materializeEach_isOk_iff]
  simp only [Materializes, materialize]
  exact map_isOk_iff

theorem materializes_keyIn_iff {subset : Subset} :
    collection.Materializes (.keyIn subset) ↔ collection.Resolves subset := by
  simp only [Materializes, materialize, Resolves]
  exact map_isOk_iff

theorem materializes_of_isAlways {filter : Filter} (constant : filter.isAlways = true) :
    collection.Materializes filter := by
  rw [Filter.eq_always_of_isAlways constant]
  exact ⟨.always, by simp only [materialize]⟩

theorem materializes_of_isNever {filter : Filter} (constant : filter.isNever = true) :
    collection.Materializes filter := by
  rw [Filter.eq_never_of_isNever constant]
  exact ⟨.never, by simp only [materialize]⟩

theorem materializes_anyOf_iff {children : List Filter} :
    collection.Materializes (Filter.anyOf children) ↔
      ∀ child ∈ children, collection.Materializes child := by
  match children with
  | [] =>
      exact iff_of_true (materializes_of_isNever rfl)
        (fun _ member => absurd member List.not_mem_nil)
  | [child] => exact (List.forall_mem_singleton).symm
  | _ :: _ :: _ => exact materializes_any_iff

/-- A filter that always holds makes the other alternatives irrelevant. -/
theorem materializes_disjunction_iff {filters : List Filter} :
    collection.Materializes (Filter.disjunction filters) ↔
      filters.any Filter.isAlways = true ∨
        ∀ filter ∈ filters, collection.Materializes filter := by
  unfold Filter.disjunction
  split
  next someAlways =>
    exact iff_of_true (materializes_of_isAlways rfl) (Or.inl someAlways)
  next noAlways =>
    rw [materializes_anyOf_iff, or_iff_right noAlways]
    constructor
    · intro each filter member
      by_cases constant : filter.isNever = true
      · exact materializes_of_isNever constant
      · exact each filter (List.mem_filter.2 ⟨member, by simpa using constant⟩)
    · intro each filter member
      exact each filter (List.mem_of_mem_filter member)

/-! ## Admission -/

theorem admits_keyIn_eq_true {subset : Subset} {record : Record} :
    (Filter.keyIn subset).admits collection.resolve record = .ok true ↔
      collection.Selects subset record.key := by
  unfold Filter.admits Selects
  simp only [Filter.evaluate]
  rw [Inquiry.outcome_bind_eq_ok, outcome_keysOf]
  simp [OrderedSet.contains]

theorem admits_disjunction_eq_true {filters : List Filter} {record : Record}
    (materializes : collection.Materializes (Filter.disjunction filters)) :
    (Filter.disjunction filters).admits collection.resolve record = .ok true ↔
      ∃ filter ∈ filters, filter.admits collection.resolve record = .ok true := by
  rw [Filter.admits_disjunction]
  split
  next someAlways =>
    obtain ⟨filter, member, constant⟩ := List.any_eq_true.1 someAlways
    refine iff_of_true rfl ⟨filter, member, ?_⟩
    rw [Filter.eq_always_of_isAlways constant]
    rfl
  next noAlways =>
    have each := (materializes_disjunction_iff.1 materializes).resolve_left noAlways
    exact Filter.admits_any_eq_true (fun filter member =>
      decided_of_materializes (each filter member) record)

/-! ## Rows -/

theorem select_of_decided {filter : Filter} {test : Record → Bool} {records : List Record}
    (decided : ∀ record ∈ records,
      filter.admits SubsetResolver.localOnly record = .ok (test record)) :
    select filter records = .ok (records.filter test) := by
  induction records with
  | nil => rfl
  | cons record rest inductionHypothesis =>
      have tail := inductionHypothesis (fun other member =>
        decided other (List.mem_cons_of_mem record member))
      unfold select
      rw [decided record List.mem_cons_self, tail, List.filter_cons]

/-- The materialized filters of a query select the records on which the query's
own filters hold. -/
theorem select_materialized {filters made : List Filter}
    (materialized : collection.materializeEach filters = .ok made) (records : List Record) :
    select (Filter.conjunction made) records =
      .ok (records.filter
        (fun record => filters.all (Filter.holds collection.resolve record))) := by
  rw [materializeEach_eq] at materialized
  refine select_of_decided (fun record _ => ?_)
  have settles := Filter.Settles.all (Filter.settles_of_materializeEach record filters materialized)
  obtain ⟨holds, found, decided⟩ := settles
  have agrees : filters.all (Filter.holds collection.resolve record) = holds := by
    rw [Bool.eq_iff_iff, List.all_eq_true]
    simp only [Filter.holds_eq_true]
    rw [← Filter.admits_all_eq_true, found]
    simp
  have madeAdmits : (Filter.all made).admits SubsetResolver.localOnly record = .ok holds := by
    unfold Filter.admits
    rw [decided]
    rfl
  -- The simplified conjunction drops constants only, so it agrees with the plain one.
  rw [agrees, Filter.admits_conjunction, madeAdmits]
  split
  next someNever =>
    obtain ⟨filter, member, constant⟩ := List.any_eq_true.1 someNever
    cases holds
    · rfl
    · have admitted := Filter.admits_all_eq_true.1 madeAdmits filter member
      rw [Filter.eq_never_of_isNever constant] at admitted
      cases admitted
  next => rfl

theorem all_holds_of_never {filters : List Filter} (someNever : filters.any Filter.isNever = true)
    (record : Record) : filters.all (Filter.holds collection.resolve record) = false := by
  obtain ⟨filter, member, constant⟩ := List.any_eq_true.1 someNever
  rw [List.all_eq_false]
  refine ⟨filter, member, ?_⟩
  rw [Filter.eq_never_of_isNever constant]
  exact Bool.false_ne_true

/-- The rows of an executed query are the records on which all its filters hold. -/
theorem rows_of_execute {query : Query} {rows : List Record}
    (executed : collection.execute query = .ok rows) :
    rows = collection.records.values.filter (fun record =>
      query.filters.all (Filter.holds collection.resolve record)) := by
  obtain ⟨resource, filters⟩ := query
  simp only [execute] at executed
  split at executed
  next => cases executed
  next =>
    split at executed
    next someNever =>
      cases executed
      refine (List.filter_eq_nil_iff.2 (fun record _ => ?_)).symm
      exact ne_true_of_eq_false (all_holds_of_never someNever record)
    next =>
      split at executed
      next => cases executed
      next made materialized =>
        rw [select_materialized materialized] at executed
        cases executed
        rfl

theorem mem_rows_of_execute {query : Query} {rows : List Record}
    (executed : collection.execute query = .ok rows) (record : Record) :
    record ∈ rows ↔
      record ∈ collection.records.values ∧
      ∀ filter ∈ query.filters, filter.admits collection.resolve record = .ok true := by
  rw [rows_of_execute executed, List.mem_filter, List.all_eq_true]
  simp only [Filter.holds_eq_true]

theorem checkResource_isOk_iff {resource : ResourceType} :
    (∃ checked, collection.checkResource resource = .ok checked) ↔
      resource = collection.resource := by
  unfold checkResource
  split
  next same => simp [same]
  next other => simp [other]

/-- A query is executed where it ranges over the resource and its filters can be
materialized, which a filter that never holds makes needless. -/
theorem execute_isOk_iff {query : Query} :
    (∃ rows, collection.execute query = .ok rows) ↔
      query.resource = collection.resource ∧
        (query.filters.any Filter.isNever = true ∨
          ∀ filter ∈ query.filters, collection.Materializes filter) := by
  obtain ⟨resource, filters⟩ := query
  simp only [execute, Query.resource, Query.filters]
  rw [← checkResource_isOk_iff, ← materializeEach_isOk_iff]
  cases collection.checkResource resource with
  | error error => simp
  | ok checked =>
      cases constant : filters.any Filter.isNever with
      | true => simp
      | false =>
          cases materialized : collection.materializeEach filters with
          | error error => simp
          | ok made => simp [select_materialized materialized]

/-! ## Predicates -/

/-- Materializing a filter neither makes it a constant nor changes the constant it is. -/
theorem constants_of_materialize {filter made : Filter}
    (materialized : collection.materialize filter = .ok made) :
    made.isAlways = filter.isAlways ∧ made.isNever = filter.isNever := by
  cases filter with
  | always | never | condition =>
      simp only [materialize] at materialized
      cases materialized
      exact ⟨rfl, rfl⟩
  | all | any | not | keyIn =>
      simp only [materialize] at materialized
      obtain ⟨_, _, rfl⟩ := map_eq_ok materialized
      exact ⟨rfl, rfl⟩

theorem materializeEach_cons (filter : Filter) (rest : List Filter) :
    collection.materializeEach (filter :: rest) =
      (collection.materialize filter).bind (fun made =>
        (collection.materializeEach rest).map (fun others => made :: others)) := by
  simp only [materializeEach]
  cases collection.materialize filter with
  | error error => rfl
  | ok made => rfl

theorem any_isNever_of_materializeEach {filters made : List Filter}
    (materialized : collection.materializeEach filters = .ok made) :
    made.any Filter.isNever = filters.any Filter.isNever := by
  induction filters generalizing made with
  | nil =>
      simp only [materializeEach] at materialized
      cases materialized
      rfl
  | cons filter rest inductionHypothesis =>
      rw [materializeEach_cons] at materialized
      cases here : collection.materialize filter with
      | error error =>
          rw [here] at materialized
          cases materialized
      | ok head =>
          rw [here] at materialized
          obtain ⟨others, there, rfl⟩ := map_eq_ok materialized
          rw [List.any_cons, List.any_cons, inductionHypothesis there,
            (constants_of_materialize here).2]

/-- Filters that always hold are materialized in vain. -/
theorem materializeEach_filter (filters : List Filter) :
    collection.materializeEach (filters.filter (fun filter => !filter.isAlways)) =
      (collection.materializeEach filters).map
        (List.filter (fun filter => !filter.isAlways)) := by
  induction filters with
  | nil => simp [materializeEach, Except.map]
  | cons filter rest inductionHypothesis =>
      rw [materializeEach_cons]
      cases here : collection.materialize filter with
      | error error =>
          have kept : filter.isAlways = false := by
            cases filter <;> first | rfl | simp [materialize] at here
          rw [List.filter_cons_of_pos (by simp [kept]), materializeEach_cons, here]
          rfl
      | ok made =>
          have same := (constants_of_materialize here).1
          by_cases constant : filter.isAlways = true
          · rw [List.filter_cons_of_neg (by simp [constant]), inductionHypothesis]
            cases collection.materializeEach rest with
            | error error => rfl
            | ok others => simp [Except.bind, Except.map, same, constant]
          · rw [List.filter_cons_of_pos (by simpa using constant), materializeEach_cons, here,
              inductionHypothesis]
            cases collection.materializeEach rest with
            | error error => rfl
            | ok others => simp [Except.bind, Except.map, same, constant]

theorem materialize_allOf (children : List Filter) :
    collection.materialize (Filter.allOf children) =
      (collection.materializeEach children).map Filter.allOf := by
  match children with
  | [] => simp [Filter.allOf, materialize, materializeEach, Except.map]
  | [child] =>
      simp only [Filter.allOf, materializeEach]
      cases collection.materialize child with
      | error error => rfl
      | ok made => rfl
  | first :: second :: rest =>
      simp only [Filter.allOf, materialize, materializeEach]
      cases collection.materialize first with
      | error error => rfl
      | ok one =>
          cases collection.materialize second with
          | error error => rfl
          | ok other =>
              cases collection.materializeEach rest with
              | error error => rfl
              | ok others => rfl

theorem materialize_conjunction (filters : List Filter) :
    collection.materialize (Filter.conjunction filters) =
      if filters.any Filter.isNever then .ok .never
      else (collection.materializeEach filters).map Filter.conjunction := by
  unfold Filter.conjunction
  by_cases someNever : filters.any Filter.isNever = true
  · rw [if_pos someNever, if_pos someNever]
    simp only [materialize]
  · rw [if_neg someNever, if_neg someNever, materialize_allOf, materializeEach_filter]
    cases materialized : collection.materializeEach filters with
    | error error => rfl
    | ok made =>
        simp only [Except.map]
        rw [any_isNever_of_materializeEach materialized, if_neg someNever]

/-- A query is executed by testing each record with the materialized predicate. -/
theorem execute_eq (query : Query) :
    collection.execute query =
      (collection.checkResource query.resource).bind (fun _ =>
        (collection.materialize query.predicate).bind (fun made =>
          select made collection.records.values)) := by
  obtain ⟨resource, filters⟩ := query
  simp only [execute, Query.resource, Query.predicate, Query.filters]
  rw [materialize_conjunction]
  cases collection.checkResource resource with
  | error error => rfl
  | ok checked =>
      dsimp only [Except.bind]
      split
      next =>
        have nothing : select .never collection.records.values =
            .ok (collection.records.values.filter (fun _ => false)) :=
          select_of_decided (fun _ _ => rfl)
        exact (nothing.trans (by rw [List.filter_false])).symm
      next =>
        cases collection.materializeEach filters with
        | error error => rfl
        | ok made => rfl

/-! ## Order -/

/-- Whether every record stands under its own key. -/
def Keyed (collection : Collection) : Prop :=
  ∀ entry ∈ collection.records.entries, entry.2.key = entry.1

theorem keyed_empty (resource : ResourceType) : (Collection.empty resource).Keyed :=
  fun _ member => absurd member List.not_mem_nil

theorem Keyed.insert (keyed : collection.Keyed) (record : Record) :
    (collection.insert record).Keyed := by
  intro entry member
  rcases mem_insertEntry member with isNew | old
  · rw [isNew]
  · exact keyed entry old

theorem keyed_ofRecords (resource : ResourceType) (records : List Record) :
    (Collection.ofRecords resource records).Keyed := by
  have extended : ∀ collection : Collection, collection.Keyed →
      (records.foldl Collection.insert collection).Keyed := by
    induction records with
    | nil => exact fun _ keyed => keyed
    | cons record rest inductionHypothesis =>
        exact fun collection keyed => inductionHypothesis _ (keyed.insert record)
  exact extended _ (keyed_empty resource)

theorem resource_ofRecords (resource : ResourceType) (records : List Record) :
    (Collection.ofRecords resource records).resource = resource := by
  have kept : ∀ collection : Collection,
      (records.foldl Collection.insert collection).resource = collection.resource := by
    induction records with
    | nil => exact fun _ => rfl
    | cons record rest inductionHypothesis =>
        exact fun collection => inductionHypothesis (collection.insert record)
  exact kept _

/-- The records of a collection stand in strictly increasing order of their keys. -/
theorem Keyed.increasing (keyed : collection.Keyed) :
    (collection.records.values.map Record.key).Pairwise
      (fun left right => compare left right = .lt) := by
  have sameKeys : collection.records.values.map Record.key = collection.records.keys := by
    unfold OrderedMap.values OrderedMap.keys
    rw [List.map_map]
    exact List.map_congr_left keyed
  rw [sameKeys]
  exact collection.records.increasing

theorem Keyed.rows_increasing (keyed : collection.Keyed) {query : Query} {rows : List Record}
    (executed : collection.execute query = .ok rows) :
    (rows.map Record.key).Pairwise (fun left right => compare left right = .lt) := by
  rw [rows_of_execute executed]
  exact keyed.increasing.sublist (List.filter_sublist.map Record.key)

/-! ## Single rows -/

theorem Keyed.exists_key_iff (keyed : collection.Keyed) {key : RecordKey} :
    (∃ record ∈ collection.records.values, record.key = key) ↔
      (collection.get? key).isSome = true := by
  unfold get? OrderedMap.find? OrderedMap.values
  rw [Option.isSome_map, List.find?_isSome]
  simp only [List.mem_map, decide_eq_true_iff]
  constructor
  · rintro ⟨_, ⟨entry, member, rfl⟩, same⟩
    exact ⟨entry, member, (keyed entry member).symm.trans same⟩
  · rintro ⟨entry, member, same⟩
    exact ⟨entry.2, ⟨entry, member, rfl⟩, (keyed entry member).trans same⟩

/-- A query for one key resolves to the key of a record that is there, and else to
nothing. -/
theorem Keyed.resolve_single (keyed : collection.Keyed) (key : RecordKey) :
    collection.resolve (.query ((Query.ofResource collection.resource).narrow
        (Filter.keyEquals key))) =
      .ok (if (collection.get? key).isSome then OrderedSet.singleton key
        else OrderedSet.empty) := by
  have known : collection.resolve (.explicit (OrderedSet.ofList [key])) =
      .ok (OrderedSet.ofList [key]) := by
    simp only [resolve]
  have materializes : collection.Materializes (Filter.keyEquals key) :=
    materializes_keyIn_iff.2 ⟨_, known⟩
  obtain ⟨rows, executed⟩ :
      ∃ rows, collection.execute ((Query.ofResource collection.resource).narrow
        (Filter.keyEquals key)) = .ok rows :=
    execute_isOk_iff.2 ⟨rfl, Or.inr (List.forall_mem_singleton.2 materializes)⟩
  have found : ∀ record, record ∈ rows ↔
      record ∈ collection.records.values ∧ record.key = key := by
    intro record
    rw [mem_rows_of_execute executed]
    refine and_congr_right (fun _ => List.forall_mem_singleton.trans ?_)
    unfold Filter.keyEquals
    rw [admits_keyIn_eq_true, selects_iff_of_resolve known, OrderedSet.mem_ofList,
      List.mem_singleton]
  have candidates : ∀ candidate, candidate ∈ (keysOf rows).toList ↔
      (collection.get? key).isSome = true ∧ candidate = key := by
    intro candidate
    unfold keysOf
    rw [OrderedSet.mem_ofList, List.mem_map, ← keyed.exists_key_iff]
    constructor
    · rintro ⟨record, member, rfl⟩
      obtain ⟨stored, same⟩ := (found record).1 member
      exact ⟨⟨record, stored, same⟩, same⟩
    · rintro ⟨⟨record, stored, same⟩, rfl⟩
      exact ⟨record, (found record).2 ⟨stored, same⟩, same⟩
  simp only [resolve]
  rw [executed]
  refine congrArg Except.ok (OrderedSet.eq_of_mem_iff (fun candidate => ?_))
  rw [candidates]
  split
  next isThere => simp [isThere, OrderedSet.singleton]
  next isMissing => simp [isMissing, OrderedSet.empty]

end Collection

end RowAccess
