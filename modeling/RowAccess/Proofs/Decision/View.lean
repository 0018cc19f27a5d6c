import RowAccess.Decision.View
import RowAccess.Proofs.Collection.Execution
import RowAccess.Proofs.Decision.Poll

/-!
Contract: the rows that granted scopes let a view show.

The filter put on a view admits a record where one of the contributions of the
granted scopes does. A query narrowed by it can be executed where it can be
executed for each contribution alone, and it then shows the union of their rows.

Owns:
- what one contribution admits of a collection.
- the combined filter, its rows and their union property.
-/

namespace RowAccess

namespace ViewScope

variable {collection : Collection} {record : Record} {contributions : List ViewScope}

/-- Whether a contribution admits a record of a collection. -/
def Admits (collection : Collection) (record : Record) : ViewScope → Prop
  | .filter admitted => admitted.admits collection.resolve record = .ok true
  | .subset admitted => collection.Selects admitted record.key
  | .noMatch => False

/-- Whether a contribution can be resolved in a collection. -/
def Materializes (collection : Collection) : ViewScope → Prop
  | .filter admitted => collection.Materializes admitted
  | .subset admitted => collection.Resolves admitted
  | .noMatch => True

/-- Whether a contribution admits everything, whatever else is granted. -/
def isAlways : ViewScope → Bool
  | .filter admitted => admitted.isAlways
  | _ => false

/-- Whether a contribution is nothing, or a filter that never holds. -/
def isVoid : ViewScope → Bool
  | .filter admitted => admitted.isNever
  | .subset _ => false
  | .noMatch => true

/-! ## Splitting contributions -/

theorem exists_filter_or_subset (contributions : List ViewScope) {claim : ViewScope → Prop}
    (noMatch : ¬ claim .noMatch) :
    (∃ contribution ∈ contributions, claim contribution) ↔
      (∃ admitted ∈ contributions.filterMap filter?, claim (.filter admitted)) ∨
        ∃ admitted ∈ contributions.filterMap subset?, claim (.subset admitted) := by
  simp only [List.mem_filterMap]
  constructor
  · rintro ⟨contribution, member, holds⟩
    cases contribution with
    | filter admitted => exact Or.inl ⟨admitted, ⟨_, member, rfl⟩, holds⟩
    | subset admitted => exact Or.inr ⟨admitted, ⟨_, member, rfl⟩, holds⟩
    | noMatch => exact absurd holds noMatch
  · rintro (⟨admitted, ⟨contribution, member, found⟩, holds⟩ |
      ⟨admitted, ⟨contribution, member, found⟩, holds⟩)
    · cases contribution <;> cases found
      exact ⟨_, member, holds⟩
    · cases contribution <;> cases found
      exact ⟨_, member, holds⟩

theorem forall_filter_and_subset (contributions : List ViewScope) {claim : ViewScope → Prop}
    (noMatch : claim .noMatch) :
    (∀ contribution ∈ contributions, claim contribution) ↔
      (∀ admitted ∈ contributions.filterMap filter?, claim (.filter admitted)) ∧
        ∀ admitted ∈ contributions.filterMap subset?, claim (.subset admitted) := by
  have notDenied : ¬ ¬ claim .noMatch := fun denied => denied noMatch
  have dual : (∃ contribution ∈ contributions, ¬ claim contribution) ↔ _ :=
    exists_filter_or_subset contributions notDenied
  have negated := not_congr dual
  push Not at negated
  exact negated

/-! ## The combined filter -/

/-- The combined filter is the disjunction of the granted filters and, where
there are granted subsets, of membership in their union. -/
theorem combine_eq (contributions : List ViewScope) :
    combine contributions =
      if contributions.filterMap subset? = [] then
        Filter.disjunction (contributions.filterMap filter?)
      else
        Filter.disjunction
          [Filter.disjunction (contributions.filterMap filter?),
            .keyIn (Subset.unionOf (contributions.filterMap subset?))] := by
  unfold combine
  split
  next isEmpty => rw [if_pos isEmpty]
  next nonempty => rw [if_neg nonempty]

theorem isNever_combine : (combine contributions).isNever = contributions.all isVoid := by
  have split : contributions.all isVoid = true ↔
      (contributions.filterMap filter?).all Filter.isNever = true ∧
        contributions.filterMap subset? = [] := by
    have parts : (∀ contribution ∈ contributions, contribution.isVoid = true) ↔ _ :=
      forall_filter_and_subset contributions rfl
    rw [List.all_eq_true, parts, List.all_eq_true, List.eq_nil_iff_forall_not_mem]
    simp [isVoid]
  rw [Bool.eq_iff_iff, split, combine_eq]
  by_cases isEmpty : contributions.filterMap subset? = []
  · rw [if_pos isEmpty, Filter.isNever_disjunction]
    exact (and_iff_left isEmpty).symm
  · rw [if_neg isEmpty, Filter.isNever_disjunction]
    simp [isEmpty, Filter.isNever]

/-- Membership in a subset beside a disjunction is constantly true only where
the disjunction is. -/
theorem any_isAlways_pair (filters : List Filter) (subset : Subset) :
    [Filter.disjunction filters, .keyIn subset].any Filter.isAlways =
      filters.any Filter.isAlways := by
  rw [List.any_cons, Filter.isAlways_disjunction]
  exact Bool.or_false _

theorem materializes_combine_iff :
    collection.Materializes (combine contributions) ↔
      contributions.any isAlways = true ∨
        ∀ contribution ∈ contributions, contribution.Materializes collection := by
  have someAlways : contributions.any isAlways = true ↔
      (contributions.filterMap filter?).any Filter.isAlways = true := by
    rw [List.any_eq_true, exists_filter_or_subset contributions Bool.false_ne_true,
      List.any_eq_true]
    simp [isAlways]
  have subsets : collection.Resolves (Subset.unionOf (contributions.filterMap subset?)) ↔
      ∀ admitted ∈ contributions.filterMap subset?,
        ViewScope.Materializes collection (.subset admitted) :=
    Collection.resolves_unionOf_iff
  rw [someAlways, forall_filter_and_subset contributions trivial, ← subsets, combine_eq]
  by_cases isEmpty : contributions.filterMap subset? = []
  · rw [if_pos isEmpty, Collection.materializes_disjunction_iff]
    have resolves : collection.Resolves (Subset.unionOf (contributions.filterMap subset?)) :=
      subsets.2 (fun admitted member => absurd (isEmpty ▸ member) List.not_mem_nil)
    exact or_congr_right (and_iff_left resolves).symm
  · rw [if_neg isEmpty, Collection.materializes_disjunction_iff, any_isAlways_pair]
    refine or_congr_right' (fun noAlways => ?_)
    rw [List.forall_mem_cons, List.forall_mem_singleton,
      Collection.materializes_disjunction_iff, or_iff_right noAlways,
      Collection.materializes_keyIn_iff]
    rfl

/-- The combined filter admits what some contribution admits. -/
theorem admits_combine_eq_true (materializes : collection.Materializes (combine contributions)) :
    (combine contributions).admits collection.resolve record = .ok true ↔
      ∃ contribution ∈ contributions, contribution.Admits collection record := by
  rw [exists_filter_or_subset contributions id]
  rw [combine_eq] at materializes ⊢
  by_cases isEmpty : contributions.filterMap subset? = []
  · rw [if_pos isEmpty] at materializes ⊢
    rw [Collection.admits_disjunction_eq_true materializes, isEmpty]
    simp [Admits]
  · rw [if_neg isEmpty] at materializes ⊢
    have parts := Collection.materializes_disjunction_iff.1 materializes
    rw [any_isAlways_pair, List.forall_mem_cons, List.forall_mem_singleton,
      Collection.materializes_keyIn_iff] at parts
    have filters : collection.Materializes
        (Filter.disjunction (contributions.filterMap filter?)) := by
      rcases parts with someAlways | ⟨each, _⟩
      · exact Collection.materializes_disjunction_iff.2 (Or.inl someAlways)
      · exact each
    rw [Collection.admits_disjunction_eq_true materializes, List.exists_mem_cons_iff,
      Collection.admits_disjunction_eq_true filters]
    -- The union counts only where no filter admits, so that none is constantly true and
    -- the union has been resolved.
    refine or_congr_right' (fun notAdmitted => ?_)
    have noAlways : ¬ (contributions.filterMap filter?).any Filter.isAlways = true := by
      intro someAlways
      obtain ⟨filter, member, constant⟩ := List.any_eq_true.1 someAlways
      refine notAdmitted ⟨filter, member, ?_⟩
      rw [Filter.eq_always_of_isAlways constant]
      rfl
    have resolves := (parts.resolve_left noAlways).2
    simp only [List.mem_singleton, exists_eq_left]
    rw [Collection.admits_keyIn_eq_true, Collection.selects_unionOf_iff resolves]
    rfl

/-! ## Queries narrowed by the combined filter -/

variable {base : Query} {rows : List Record}

theorem execute_narrow_isOk_iff :
    (∃ rows, collection.execute (base.narrow (combine contributions)) = .ok rows) ↔
      base.resource = collection.resource ∧
        (base.filters.any Filter.isNever = true ∨ contributions.all isVoid = true ∨
          (∀ filter ∈ base.filters, collection.Materializes filter) ∧
            collection.Materializes (combine contributions)) := by
  have filtersEq : (base.narrow (combine contributions)).filters =
      base.filters ++ [combine contributions] := rfl
  have resourceEq : (base.narrow (combine contributions)).resource = base.resource := rfl
  rw [Collection.execute_isOk_iff, resourceEq, filtersEq, List.any_append, Bool.or_eq_true,
    List.forall_mem_append, List.forall_mem_singleton, ← isNever_combine, or_assoc]
  simp only [List.any_cons, List.any_nil, Bool.or_false]

/-- A narrowed query shows what the base query's filters and some contribution
admit. -/
theorem mem_rows_of_execute_narrow {record : Record}
    (executed : collection.execute (base.narrow (combine contributions)) = .ok rows) :
    record ∈ rows ↔
      record ∈ collection.records.values ∧
        (∀ filter ∈ base.filters, filter.admits collection.resolve record = .ok true) ∧
          ∃ contribution ∈ contributions, contribution.Admits collection record := by
  have filtersEq : (base.narrow (combine contributions)).filters =
      base.filters ++ [combine contributions] := rfl
  rw [Collection.mem_rows_of_execute executed, filtersEq, List.forall_mem_append,
    List.forall_mem_singleton]
  refine and_congr_right (fun _ => and_congr_right (fun baseHolds => ?_))
  -- A base filter that never holds lets the query run unresolved, but then admits nothing.
  have materializes : collection.Materializes (combine contributions) := by
    rcases (execute_narrow_isOk_iff.1 ⟨rows, executed⟩).2 with someNever | allVoid | both
    · obtain ⟨filter, member, constant⟩ := List.any_eq_true.1 someNever
      have admitted := baseHolds filter member
      rw [Filter.eq_never_of_isNever constant] at admitted
      cases admitted
    · exact Collection.materializes_of_isNever (isNever_combine.trans allVoid)
    · exact both.2
  exact admits_combine_eq_true materializes

theorem materializes_of_isVoid {contribution : ViewScope} (void : contribution.isVoid = true) :
    contribution.Materializes collection := by
  cases contribution with
  | filter admitted => exact Collection.materializes_of_isNever void
  | subset admitted => cases void
  | noMatch => trivial

/-- A contribution alone can be resolved where its filter can. -/
theorem materializes_combine_singleton {contribution : ViewScope} :
    collection.Materializes (combine [contribution]) ↔
      contribution.Materializes collection := by
  rw [materializes_combine_iff, List.forall_mem_singleton]
  refine or_iff_right_of_imp (fun constant => ?_)
  cases contribution with
  | filter admitted =>
      exact Collection.materializes_of_isAlways (by simpa [isAlways] using constant)
  | subset admitted => cases constant
  | noMatch => trivial

/-- A narrowed query can be executed where it can be for each contribution alone. -/
theorem execute_narrow_of_each (sameResource : base.resource = collection.resource)
    (each : ∀ contribution ∈ contributions,
      ∃ rows, collection.execute (base.narrow (combine [contribution])) = .ok rows) :
    ∃ rows, collection.execute (base.narrow (combine contributions)) = .ok rows := by
  refine execute_narrow_isOk_iff.2 ⟨sameResource, ?_⟩
  by_cases someNever : base.filters.any Filter.isNever = true
  · exact Or.inl someNever
  refine Or.inr ?_
  -- Any contribution that is not void forces the base query's own filters to resolve.
  have single : ∀ contribution ∈ contributions, contribution.isVoid = true ∨
      (∀ filter ∈ base.filters, collection.Materializes filter) ∧
        contribution.Materializes collection := by
    intro contribution member
    have executed := (execute_narrow_isOk_iff.1 (each contribution member)).2
    rw [or_iff_right someNever, materializes_combine_singleton] at executed
    simpa using executed
  by_cases allVoid : contributions.all isVoid = true
  · exact Or.inl allVoid
  refine Or.inr ⟨?_, materializes_combine_iff.2 (Or.inr ?_)⟩
  · obtain ⟨contribution, member, notVoid⟩ :=
      List.all_eq_false.1 (eq_false_of_ne_true allVoid)
    exact ((single contribution member).resolve_left notVoid).1
  · intro contribution member
    rcases single contribution member with void | both
    · exact materializes_of_isVoid void
    · exact both.2

end ViewScope

/-! ## The filter of granted scopes -/

namespace Registry

variable {registry : Registry} {context : ScopeContext} {grants : OrderedSet ScopeName}

/-- A view's filter combines the contributions of the granted scopes, none of
which fails. -/
theorem viewFilter_eq_ok {filter : Filter}
    (found : registry.viewFilter context grants = .ok filter) :
    ∃ contributions,
      (registry.viewPoll context grants).outcome = .ok contributions ∧
        filter = ViewScope.combine contributions := by
  unfold viewFilter at found
  split at found
  next => cases found
  next =>
    cases polled : (registry.viewPoll context grants).outcome with
    | error error =>
        rw [polled] at found
        cases found
    | ok contributions =>
        rw [polled] at found
        cases found
        exact ⟨contributions, rfl, rfl⟩

/-- Each contribution is that of a granted scope. -/
theorem mem_contributions_iff {contributions : List ViewScope}
    (polled : (registry.viewPoll context grants).outcome = .ok contributions)
    (contribution : ViewScope) :
    contribution ∈ contributions ↔
      ∃ scope ∈ grants.toList, registry.viewScope context scope = .ok contribution :=
  Poll.mem_values_iff polled contribution

/-- Each granted scope makes a contribution. -/
theorem exists_contribution {contributions : List ViewScope}
    (polled : (registry.viewPoll context grants).outcome = .ok contributions)
    {scope : ScopeName} (member : scope ∈ grants.toList) :
    ∃ contribution, registry.viewScope context scope = .ok contribution :=
  Poll.outcome_collect_isOk_iff.1 ⟨contributions, polled⟩ scope member

theorem viewFilter_singleton {scope : ScopeName} {contribution : ViewScope}
    (contributed : registry.viewScope context scope = .ok contribution) :
    registry.viewFilter context (OrderedSet.singleton scope) =
      .ok (ViewScope.combine [contribution]) := by
  have polled : (registry.viewPoll context (OrderedSet.singleton scope)).outcome =
      .ok [contribution] :=
    Poll.outcome_collect_eq_ok.2 (congrArg (fun outcome => [outcome]) contributed)
  unfold viewFilter
  rw [polled]
  rfl

end Registry

end RowAccess
