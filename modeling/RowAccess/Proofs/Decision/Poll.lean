import RowAccess.Decision.Poll

/-!
Contract: what a poll over a list of scopes knows in the end.

Every scope is asked once and in order, whatever the others say. The outcome is
the values of all scopes, or the failure of the first scope that fails.

Owns:
- the scopes asked, the fallbacks and the failure of a finished poll.
- the outcome of a poll, and the least scope that decides it.
-/

namespace RowAccess

/-- The failure of a scope. -/
def Verdict.failure? {α : Type} (verdict : Verdict α) : Option AccessError :=
  match verdict.outcome with
  | .ok _ => none
  | .error error => some error

/-- The value of a scope that did not fail. -/
def Verdict.value? {α : Type} (verdict : Verdict α) : Option α :=
  match verdict.outcome with
  | .ok value => some value
  | .error _ => none

namespace Poll

variable {α : Type} {judge : ScopeName → Verdict α} {scopes : List ScopeName}

/-- Taking down more scopes appends what they say to a poll. -/
theorem foldl_add (judge : ScopeName → Verdict α) (scopes : List ScopeName) (poll : Poll α) :
    scopes.foldl (fun current scope => current.add scope (judge scope)) poll =
      { asked := poll.asked ++ scopes
        values := poll.values ++ scopes.filterMap (fun scope => (judge scope).value?)
        failure := poll.failure.or (scopes.findSome? (fun scope => (judge scope).failure?))
        fallbacks := poll.fallbacks ++ scopes.flatMap (fun scope => (judge scope).fallbacks) } := by
  induction scopes generalizing poll with
  | nil => simp
  | cons scope rest inductionHypothesis =>
      rw [List.foldl_cons, inductionHypothesis]
      obtain ⟨asked, values, failure, fallbacks⟩ := poll
      cases found : (judge scope).outcome with
      | error error =>
          cases failure <;> simp [add, Verdict.value?, Verdict.failure?, found]
      | ok value =>
          cases failure <;> simp [add, Verdict.value?, Verdict.failure?, found]

theorem asked_collect : (collect judge scopes).asked = scopes := by
  unfold collect
  rw [foldl_add]
  rfl

theorem fallbacks_collect :
    (collect judge scopes).fallbacks = scopes.flatMap (fun scope => (judge scope).fallbacks) := by
  unfold collect
  rw [foldl_add]
  rfl

theorem outcome_collect :
    (collect judge scopes).outcome =
      match scopes.findSome? (fun scope => (judge scope).failure?) with
      | some error => .error error
      | none => .ok (scopes.filterMap (fun scope => (judge scope).value?)) := by
  unfold collect outcome
  rw [foldl_add]
  rfl

theorem outcome_collect_nil : (collect judge []).outcome = .ok [] := rfl

/-- The first scope's failure stands; otherwise its value stands before those of
the rest. -/
theorem outcome_collect_cons (scope : ScopeName) (rest : List ScopeName) :
    (collect judge (scope :: rest)).outcome =
      match (judge scope).outcome with
      | .error error => .error error
      | .ok value => (collect judge rest).outcome.map (fun values => value :: values) := by
  rw [outcome_collect, outcome_collect, List.findSome?_cons, List.filterMap_cons]
  cases found : (judge scope).outcome with
  | error error => simp only [Verdict.failure?, found]
  | ok value =>
      have noFailure : (judge scope).failure? = none := by
        simp only [Verdict.failure?, found]
      have hasValue : (judge scope).value? = some value := by
        simp only [Verdict.value?, found]
      simp only [noFailure, hasValue]
      cases rest.findSome? (fun scope => (judge scope).failure?) <;> rfl

/-- A poll succeeds where every scope does, with their values in order. -/
theorem outcome_collect_eq_ok {values : List α} :
    (collect judge scopes).outcome = .ok values ↔
      scopes.map (fun scope => (judge scope).outcome) = values.map Except.ok := by
  induction scopes generalizing values with
  | nil =>
      rw [outcome_collect_nil]
      cases values <;> simp
  | cons scope rest inductionHypothesis =>
      rw [outcome_collect_cons, List.map_cons]
      cases values with
      | nil =>
          cases (judge scope).outcome with
          | error error => simp
          | ok value => cases (collect judge rest).outcome <;> simp [Except.map]
      | cons value others =>
          rw [List.map_cons, List.cons.injEq, ← inductionHypothesis]
          cases (judge scope).outcome with
          | error error => simp
          | ok own => cases (collect judge rest).outcome <;> simp [Except.map]

theorem outcome_collect_isOk_iff :
    (∃ values, (collect judge scopes).outcome = .ok values) ↔
      ∀ scope ∈ scopes, ∃ value, (judge scope).outcome = .ok value := by
  induction scopes with
  | nil => simp [outcome_collect_nil]
  | cons scope rest inductionHypothesis =>
      rw [outcome_collect_cons, List.forall_mem_cons, ← inductionHypothesis]
      cases (judge scope).outcome with
      | error error => simp
      | ok value => cases (collect judge rest).outcome <;> simp [Except.map]

/-- A value of a poll that succeeds is the value of some scope. -/
theorem mem_values_iff {values : List α} (found : (collect judge scopes).outcome = .ok values)
    (value : α) :
    value ∈ values ↔ ∃ scope ∈ scopes, (judge scope).outcome = .ok value := by
  rw [← List.mem_map, outcome_collect_eq_ok.1 found, List.mem_map]
  simp

/-- The failure of the least failing scope. -/
def LeastFailure (judge : ScopeName → Verdict α) (scopes : List ScopeName)
    (error : AccessError) : Prop :=
  ∃ scope ∈ scopes, (judge scope).outcome = .error error ∧
    ∀ other ∈ scopes, compare other scope = .lt → ∃ value, (judge other).outcome = .ok value

theorem leastFailure_cons_of_error {scope : ScopeName} {rest : List ScopeName}
    {own error : AccessError} (below : ∀ other ∈ rest, compare scope other = .lt)
    (failed : (judge scope).outcome = .error own) :
    LeastFailure judge (scope :: rest) error ↔ own = error := by
  constructor
  · rintro ⟨least, member, leastFailed, smaller⟩
    rcases List.mem_cons.1 member with rfl | inRest
    · rw [failed] at leastFailed
      exact Except.error.inj leastFailed
    · obtain ⟨value, succeeded⟩ := smaller scope List.mem_cons_self (below least inRest)
      rw [failed] at succeeded
      cases succeeded
  · rintro rfl
    refine ⟨scope, List.mem_cons_self, failed, ?_⟩
    intro other member smaller
    rcases List.mem_cons.1 member with rfl | inRest
    · rw [Std.ReflOrd.compare_self] at smaller
      cases smaller
    · rw [Std.OrientedCmp.gt_of_lt (below other inRest)] at smaller
      cases smaller

theorem leastFailure_cons_of_ok {scope : ScopeName} {rest : List ScopeName} {value : α}
    {error : AccessError} (succeeded : (judge scope).outcome = .ok value) :
    LeastFailure judge (scope :: rest) error ↔ LeastFailure judge rest error := by
  constructor
  · rintro ⟨least, member, leastFailed, smaller⟩
    rcases List.mem_cons.1 member with rfl | inRest
    · rw [succeeded] at leastFailed
      cases leastFailed
    · exact ⟨least, inRest, leastFailed,
        fun other inTail => smaller other (List.mem_cons_of_mem scope inTail)⟩
  · rintro ⟨least, inRest, leastFailed, smaller⟩
    refine ⟨least, List.mem_cons_of_mem scope inRest, leastFailed, ?_⟩
    exact List.forall_mem_cons.2 ⟨fun _ => ⟨value, succeeded⟩, smaller⟩

/-- Over scopes in increasing order, a poll fails with the failure of the least
failing scope. -/
theorem outcome_collect_eq_error
    (increasing : scopes.Pairwise (fun left right => compare left right = .lt))
    {error : AccessError} :
    (collect judge scopes).outcome = .error error ↔ LeastFailure judge scopes error := by
  induction scopes with
  | nil =>
      rw [outcome_collect_nil]
      simp [LeastFailure]
  | cons scope rest inductionHypothesis =>
      obtain ⟨below, restIncreasing⟩ := List.pairwise_cons.1 increasing
      rw [outcome_collect_cons]
      cases found : (judge scope).outcome with
      | error own =>
          rw [leastFailure_cons_of_error below found]
          simp
      | ok value =>
          rw [leastFailure_cons_of_ok found, ← inductionHypothesis restIncreasing]
          cases (collect judge rest).outcome with
          | error failure => simp [Except.map]
          | ok values => simp [Except.map]

theorem exists_leastFailure
    (increasing : scopes.Pairwise (fun left right => compare left right = .lt))
    (failing : ∃ scope ∈ scopes, ∃ error, (judge scope).outcome = .error error) :
    ∃ error, LeastFailure judge scopes error := by
  cases found : (collect judge scopes).outcome with
  | error error => exact ⟨error, (outcome_collect_eq_error increasing).1 found⟩
  | ok values =>
      obtain ⟨scope, member, error, failed⟩ := failing
      obtain ⟨value, succeeded⟩ := outcome_collect_isOk_iff.1 ⟨values, found⟩ scope member
      rw [failed] at succeeded
      cases succeeded

end Poll

end RowAccess
