import RowAccess.Proofs.Collection.Execution

/-!
Contract: queries nested in queries are executed exactly.

A filter of a query may test membership in the answer of another query, to any
depth. Executing the outer query fails only where it or a query within it ranges over
another resource than the collection's, and says so; otherwise its rows are the
stored records on which each of its filters holds. A subset accordingly resolves to
the explicit keys and the keys of the executed queries that it is made of.

Owns:
- the resources over which a query and the queries within it range.
- the parts of a subset.
- the failures of execution, of materialization and of resolution.
-/

namespace RowAccess

mutual

/-- The resources over which the queries in a filter range, at any depth. -/
def Filter.resources : Filter → List ResourceType
  | .always => []
  | .never => []
  | .all children => Filter.resourcesOfEach children
  | .any children => Filter.resourcesOfEach children
  | .not child => Filter.resources child
  | .condition _ => []
  | .keyIn subset => Subset.resources subset

def Filter.resourcesOfEach : List Filter → List ResourceType
  | [] => []
  | child :: rest => Filter.resources child ++ Filter.resourcesOfEach rest

def Subset.resources : Subset → List ResourceType
  | .explicit _ => []
  | .query query => Query.resources query
  | .union members => Subset.resourcesOfEach members

def Subset.resourcesOfEach : List Subset → List ResourceType
  | [] => []
  | member :: rest => Subset.resources member ++ Subset.resourcesOfEach rest

/-- The resource of a query and those of the queries within it. -/
def Query.resources : Query → List ResourceType
  | .mk resource filters => resource :: Filter.resourcesOfEach filters

end

/-- The parts of a subset: itself and, of a union, the parts of its members. -/
inductive Subset.Part : Subset → Subset → Prop
  | self (subset : Subset) : Part subset subset
  | member {part member : Subset} {members : List Subset} (inUnion : member ∈ members)
      (inMember : Part part member) : Part part (.union members)

namespace Subset

theorem part_explicit_iff {part : Subset} {keys : KeySet} :
    Part part (.explicit keys) ↔ part = .explicit keys := by
  constructor
  · rintro ⟨⟩
    rfl
  · rintro rfl
    exact .self _

theorem part_query_iff {part : Subset} {query : Query} :
    Part part (.query query) ↔ part = .query query := by
  constructor
  · rintro ⟨⟩
    rfl
  · rintro rfl
    exact .self _

theorem part_union_iff {part : Subset} {members : List Subset} :
    Part part (.union members) ↔
      part = .union members ∨ ∃ member ∈ members, Part part member := by
  constructor
  · intro isPart
    cases isPart with
    | self => exact Or.inl rfl
    | member inUnion inMember => exact Or.inr ⟨_, inUnion, inMember⟩
  · rintro (rfl | ⟨member, inUnion, inMember⟩)
    · exact .self _
    · exact .member inUnion inMember

/-! Induction over the unions in a subset, where a query counts as a whole. -/

mutual

theorem inductionOnMembers {motive : Subset → Prop}
    (explicit : ∀ keys, motive (.explicit keys)) (query : ∀ query, motive (.query query))
    (union : ∀ members, (∀ member ∈ members, motive member) → motive (.union members)) :
    ∀ subset : Subset, motive subset
  | .explicit keys => explicit keys
  | .query own => query own
  | .union members => union members (inductionOnEach explicit query union members)

theorem inductionOnEach {motive : Subset → Prop}
    (explicit : ∀ keys, motive (.explicit keys)) (query : ∀ query, motive (.query query))
    (union : ∀ members, (∀ member ∈ members, motive member) → motive (.union members)) :
    ∀ members : List Subset, ∀ member ∈ members, motive member
  | [] => fun _ inList => absurd inList List.not_mem_nil
  | first :: rest => fun member inList => by
      rcases List.mem_cons.1 inList with isFirst | inRest
      · rw [isFirst]
        exact inductionOnMembers explicit query union first
      · exact inductionOnEach explicit query union rest member inRest

end

end Subset

namespace Collection

variable {collection : Collection}

/-! ## Failures -/

/-- The failure of a query over another resource. -/
def mismatch (collection : Collection) (resource : ResourceType) : StoreError :=
  ⟨.invalid,
    "query over " ++ resource.label ++ " sent to collection " ++ collection.resource.label⟩

/-- Whether a failure is that of a query over one of some resources, which is not the
collection's. -/
def Misdirected (collection : Collection) (resources : List ResourceType) (error : StoreError) :
    Prop :=
  ∃ foreign ∈ resources, foreign ≠ collection.resource ∧ error = collection.mismatch foreign

theorem Misdirected.mono {some all : List ResourceType} {error : StoreError}
    (misdirected : collection.Misdirected some error) (included : some ⊆ all) :
    collection.Misdirected all error := by
  obtain ⟨foreign, member, other, failure⟩ := misdirected
  exact ⟨foreign, included member, other, failure⟩

theorem checkResource_eq_error {resource : ResourceType} {error : StoreError}
    (refused : collection.checkResource resource = .error error) :
    resource ≠ collection.resource ∧ error = collection.mismatch resource := by
  unfold checkResource at refused
  split at refused
  next => cases refused
  next other =>
    cases refused
    exact ⟨other, rfl⟩

/-- Once the filters of a query are materialized, nothing can fail any more. -/
theorem execute_eq_error {resource : ResourceType} {filters : List Filter} {error : StoreError}
    (failed : collection.execute (.mk resource filters) = .error error) :
    (resource ≠ collection.resource ∧ error = collection.mismatch resource) ∨
      collection.materializeEach filters = .error error := by
  simp only [execute] at failed
  split at failed
  next refused =>
    cases failed
    exact Or.inl (checkResource_eq_error refused)
  next =>
    split at failed
    next => cases failed
    next =>
      split at failed
      next materialized =>
        cases failed
        exact Or.inr materialized
      next made materialized =>
        rw [select_materialized materialized] at failed
        cases failed

mutual

theorem misdirected_resolve {error : StoreError} :
    ∀ subset : Subset, collection.resolve subset = .error error →
      collection.Misdirected subset.resources error
  | .explicit keys, failed => by
      simp only [resolve] at failed
      cases failed
  | .query query, failed => by
      simp only [resolve] at failed
      exact misdirected_execute query (map_eq_error failed)
  | .union members, failed => by
      rw [resolve_union] at failed
      exact misdirected_resolveAll OrderedSet.empty members failed

theorem misdirected_resolveAll {error : StoreError} (collected : KeySet) :
    ∀ members : List Subset, collection.resolveAll collected members = .error error →
      collection.Misdirected (Subset.resourcesOfEach members) error
  | [], failed => by
      simp only [resolveAll] at failed
      cases failed
  | member :: rest, failed => by
      simp only [Subset.resourcesOfEach]
      cases resolved : collection.resolve member with
      | error other =>
          rw [resolveAll_cons_of_error collected rest resolved] at failed
          cases failed
          exact (misdirected_resolve member resolved).mono (List.subset_append_left _ _)
      | ok keys =>
          rw [resolveAll_cons_of_ok collected rest resolved] at failed
          exact (misdirected_resolveAll _ rest failed).mono (List.subset_append_right _ _)

theorem misdirected_execute {error : StoreError} :
    ∀ query : Query, collection.execute query = .error error →
      collection.Misdirected query.resources error
  | .mk resource filters, failed => by
      simp only [Query.resources]
      rcases execute_eq_error failed with ⟨other, mismatched⟩ | materialized
      · exact ⟨resource, List.mem_cons_self, other, mismatched⟩
      · exact (misdirected_materializeEach filters materialized).mono (List.subset_cons_self _ _)

theorem misdirected_materialize {error : StoreError} :
    ∀ filter : Filter, collection.materialize filter = .error error →
      collection.Misdirected filter.resources error
  | .always, failed | .never, failed | .condition _, failed => by
      simp only [materialize] at failed
      cases failed
  | .all children, failed | .any children, failed => by
      simp only [materialize] at failed
      exact misdirected_materializeEach children (map_eq_error failed)
  | .not child, failed => by
      simp only [materialize] at failed
      exact misdirected_materialize child (map_eq_error failed)
  | .keyIn subset, failed => by
      simp only [materialize] at failed
      exact misdirected_resolve subset (map_eq_error failed)

theorem misdirected_materializeEach {error : StoreError} :
    ∀ filters : List Filter, collection.materializeEach filters = .error error →
      collection.Misdirected (Filter.resourcesOfEach filters) error
  | [], failed => by
      simp only [materializeEach] at failed
      cases failed
  | filter :: rest, failed => by
      simp only [materializeEach] at failed
      simp only [Filter.resourcesOfEach]
      split at failed
      next materialized =>
        cases failed
        exact (misdirected_materialize filter materialized).mono (List.subset_append_left _ _)
      next =>
        exact (misdirected_materializeEach rest (map_eq_error failed)).mono
          (List.subset_append_right _ _)

end

/-! ## Parts of subsets -/

/-- Whether a key set holds a key, or the rows of an executed query do. A union holds
nothing of its own. -/
def Yields (collection : Collection) (key : RecordKey) : Subset → Prop
  | .explicit keys => key ∈ keys.toList
  | .query query => ∃ rows, collection.execute query = .ok rows ∧ key ∈ rows.map Record.key
  | .union _ => False

theorem resolves_query_iff {query : Query} :
    collection.Resolves (.query query) ↔ ∃ rows, collection.execute query = .ok rows := by
  unfold Resolves
  simp only [resolve]
  exact map_isOk_iff

theorem selects_query_iff {query : Query} {key : RecordKey} :
    collection.Selects (.query query) key ↔ collection.Yields key (.query query) := by
  unfold Selects Yields
  simp only [resolve]
  cases collection.execute query with
  | error error => simp [Except.map]
  | ok rows => simp [Except.map, keysOf, OrderedSet.mem_ofList]

/-- A subset resolves where every query it is made of is executed. -/
theorem resolves_iff_parts {subset : Subset} :
    collection.Resolves subset ↔
      ∀ query, Subset.Part (.query query) subset → ∃ rows, collection.execute query = .ok rows := by
  induction subset using Subset.inductionOnMembers with
  | explicit keys =>
      have resolved : collection.resolve (.explicit keys) = .ok keys := by
        simp only [resolve]
      refine iff_of_true ⟨keys, resolved⟩ (fun query isPart => ?_)
      cases Subset.part_explicit_iff.1 isPart
  | query own =>
      rw [resolves_query_iff]
      constructor
      · intro executed query isPart
        cases Subset.part_query_iff.1 isPart
        exact executed
      · exact fun each => each own (.self _)
  | union members inductionHypothesis =>
      rw [resolves_union_iff]
      constructor
      · intro each query isPart
        rcases Subset.part_union_iff.1 isPart with same | ⟨member, inUnion, inMember⟩
        · cases same
        · exact (inductionHypothesis member inUnion).1 (each member inUnion) query inMember
      · intro each member inUnion
        exact (inductionHypothesis member inUnion).2 (fun query inMember =>
          each query (.member inUnion inMember))

/-- What a subset selects, some part of it yields. -/
theorem selects_iff_parts {subset : Subset} {key : RecordKey}
    (resolves : collection.Resolves subset) :
    collection.Selects subset key ↔
      ∃ part, Subset.Part part subset ∧ collection.Yields key part := by
  induction subset using Subset.inductionOnMembers with
  | explicit keys =>
      have resolved : collection.resolve (.explicit keys) = .ok keys := by
        simp only [resolve]
      rw [selects_iff_of_resolve resolved]
      constructor
      · exact fun member => ⟨.explicit keys, .self _, member⟩
      · rintro ⟨part, isPart, yields⟩
        cases Subset.part_explicit_iff.1 isPart
        exact yields
  | query own =>
      rw [selects_query_iff]
      constructor
      · exact fun yields => ⟨.query own, .self _, yields⟩
      · rintro ⟨part, isPart, yields⟩
        cases Subset.part_query_iff.1 isPart
        exact yields
  | union members inductionHypothesis =>
      have each := resolves_union_iff.1 resolves
      rw [selects_union_iff resolves]
      constructor
      · rintro ⟨member, inUnion, selected⟩
        obtain ⟨part, inMember, yields⟩ :=
          (inductionHypothesis member inUnion (each member inUnion)).1 selected
        exact ⟨part, .member inUnion inMember, yields⟩
      · rintro ⟨part, isPart, yields⟩
        obtain rfl | ⟨member, inUnion, inMember⟩ := Subset.part_union_iff.1 isPart
        · cases yields
        · exact ⟨member, inUnion, (inductionHypothesis member inUnion (each member inUnion)).2
            ⟨part, inMember, yields⟩⟩

/-! ## Exact execution -/

/-- Whether the answer to a query is the one that its filters call for: the stored
records, in key order, on which each of them holds. It is withheld only for a query
over another resource, at whatever depth. -/
structure Answers (collection : Collection) (query : Query)
    (answer : Except StoreError (List Record)) : Prop where
  rows : ∀ found, answer = .ok found →
    (found.map Record.key).Pairwise (fun left right => compare left right = .lt) ∧
    ∀ record, record ∈ found ↔
      record ∈ collection.records.values ∧
      ∀ filter ∈ query.filters, filter.admits collection.resolve record = .ok true
  fails : ∀ error, answer = .error error → collection.Misdirected query.resources error
  succeeds : (∀ resource ∈ query.resources, resource = collection.resource) →
    ∃ found, answer = .ok found

/-- Whether the answer to a subset is the union of what its parts yield. -/
structure Unites (collection : Collection) (subset : Subset) (answer : Except StoreError KeySet) :
    Prop where
  keys : ∀ found, answer = .ok found → ∀ key, key ∈ found.toList ↔
    ∃ part, Subset.Part part subset ∧ collection.Yields key part
  resolves : (∃ found, answer = .ok found) ↔
    ∀ query, Subset.Part (.query query) subset → ∃ rows, collection.execute query = .ok rows
  fails : ∀ error, answer = .error error → collection.Misdirected subset.resources error

theorem Keyed.answers_execute (keyed : collection.Keyed) (query : Query) :
    collection.Answers query (collection.execute query) where
  rows := fun _ executed => ⟨keyed.rows_increasing executed, mem_rows_of_execute executed⟩
  fails := fun _ failed => misdirected_execute query failed
  succeeds := by
    intro sameResource
    cases executed : collection.execute query with
    | ok rows => exact ⟨rows, rfl⟩
    | error error =>
        obtain ⟨foreign, member, other, _⟩ := misdirected_execute query executed
        exact absurd (sameResource foreign member) other

theorem unites_resolve (collection : Collection) (subset : Subset) :
    collection.Unites subset (collection.resolve subset) where
  keys := by
    intro found resolved key
    rw [← selects_iff_of_resolve resolved]
    exact selects_iff_parts ⟨found, resolved⟩
  resolves := resolves_iff_parts
  fails := fun _ failed => misdirected_resolve subset failed

/-- Every query on every collection has an answer: each record is tested with the
materialized predicate, which may take other queries to the same collection. The answer
is the one that the filters call for, whatever queries are nested in them; every subset
resolves to what its parts yield. -/
theorem nested_queries_are_exact (resource : ResourceType) (records : List Record) :
    let collection := Collection.ofRecords resource records
    (∀ query, collection.execute query =
      (collection.checkResource query.resource).bind (fun _ =>
        (collection.materialize query.predicate).bind (fun made =>
          select made collection.records.values))) ∧
    (∀ query, collection.Answers query (collection.execute query)) ∧
    ∀ subset, collection.Unites subset (collection.resolve subset) := by
  intro collection
  have keyed : collection.Keyed := keyed_ofRecords resource records
  exact ⟨execute_eq, keyed.answers_execute, unites_resolve collection⟩

end Collection

namespace Shop

def invoices : ResourceType := ⟨"shop", "invoice"⟩

def order (key : String) : Record := ⟨⟨key⟩, OrderedMap.empty⟩

/-- Three orders, not stored in the order of their keys. -/
def counter : Collection := Collection.ofRecords orders [order "3", order "1", order "2"]

/-- Those of the orders other than the second that are among all orders but the third. -/
def narrowed : Query :=
  .mk orders
    [allButSecond, .keyIn (.query (.mk orders [.not (Filter.keyEquals ⟨"3"⟩)]))]

/-- Those orders that are among the invoices. -/
def invoiced : Query := .mk orders [.keyIn (.query (Query.ofResource invoices))]

/-- The nested queries leave the first order, the only one that every filter admits;
the query over invoices is refused. -/
theorem shop_executes_nested_queries :
    counter.execute narrowed = .ok [order "1"] ∧
    (∀ record ∈ counter.records.values,
      (∀ filter ∈ narrowed.filters, filter.admits counter.resolve record = .ok true) ↔
        record = order "1") ∧
    ∃ error, counter.execute invoiced = .error error ∧
      counter.Misdirected invoiced.resources error := by
  obtain ⟨_, answers, _⟩ :=
    Collection.nested_queries_are_exact orders [order "3", order "1", order "2"]
  have executed : counter.execute narrowed = .ok [order "1"] := rfl
  refine ⟨executed, fun record stored => ?_, ⟨_, rfl, ?_⟩⟩
  · have selected := ((answers narrowed).rows _ executed).2 record
    rw [List.mem_singleton] at selected
    rw [selected]
    exact ⟨fun admitted => ⟨stored, admitted⟩, And.right⟩
  · exact (answers invoiced).fails _ rfl

end Shop

end RowAccess
