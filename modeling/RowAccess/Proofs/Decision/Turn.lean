import Mathlib.Tactic.ByContra
import RowAccess.Decision.Write

/-!
Contract: scopes judged in turn.

A list of scopes is judged from left to right up to the first that does not
hold. Its outcome is that of this scope, or truth where there is none, and lists
judged one after the other are one list.

Owns:
- verdicts over lists of scopes, and over lists of lists.
- the first scope that does not hold.
- the scopes of a list that are judged at all, and the fallbacks they use.
-/

namespace RowAccess

namespace Verdict

variable {judge other : ScopeName → Verdict Bool} {scopes : List ScopeName}

theorem allOf_cons_of_true {scope : ScopeName} (rest : List ScopeName)
    (holds : (judge scope).outcome = .ok true) :
    allOf judge (scope :: rest) =
      ⟨(allOf judge rest).outcome, (judge scope).fallbacks ++ (allOf judge rest).fallbacks⟩ := by
  simp only [allOf, holds]

theorem allOf_cons_of_not_true {scope : ScopeName} (rest : List ScopeName)
    (unheld : (judge scope).outcome ≠ .ok true) :
    allOf judge (scope :: rest) = judge scope := by
  simp only [allOf]

theorem allOf_congr (same : ∀ scope ∈ scopes, judge scope = other scope) :
    allOf judge scopes = allOf other scopes := by
  induction scopes with
  | nil => rfl
  | cons scope rest inductionHypothesis =>
      have tail := inductionHypothesis
        (fun later member => same later (List.mem_cons_of_mem _ member))
      simp only [allOf, same scope List.mem_cons_self, tail]

theorem allOf_append (first second : List ScopeName) :
    allOf judge (first ++ second) =
      match (allOf judge first).outcome with
      | .ok true =>
          ⟨(allOf judge second).outcome,
            (allOf judge first).fallbacks ++ (allOf judge second).fallbacks⟩
      | outcome => ⟨outcome, (allOf judge first).fallbacks⟩ := by
  induction first with
  | nil => rfl
  | cons scope rest inductionHypothesis =>
      rw [List.cons_append]
      by_cases holds : (judge scope).outcome = .ok true
      · rw [allOf_cons_of_true _ holds, allOf_cons_of_true _ holds, inductionHypothesis]
        dsimp only
        split
        · simp
        · rfl
      · rw [allOf_cons_of_not_true _ holds, allOf_cons_of_not_true _ holds]
        split
        · contradiction
        · rfl

/-- Lists of scopes judged in turn are one list judged in turn. -/
theorem allOf_flatMap (parts : ScopeName → List ScopeName) :
    allOf judge (scopes.flatMap parts) = allOf (fun scope => allOf judge (parts scope)) scopes := by
  induction scopes with
  | nil => rfl
  | cons scope rest inductionHypothesis =>
      rw [List.flatMap_cons, allOf_append, inductionHypothesis]
      rfl

/-- A list holds where each of its scopes does. -/
theorem outcome_allOf_of_true
    (each : ∀ scope ∈ scopes, (judge scope).outcome = .ok true) :
    (allOf judge scopes).outcome = .ok true := by
  induction scopes with
  | nil => rfl
  | cons scope rest inductionHypothesis =>
      rw [allOf_cons_of_true rest (each scope List.mem_cons_self)]
      exact inductionHypothesis (fun later member => each later (List.mem_cons_of_mem _ member))

/-- The first scope that does not hold decides a list. -/
theorem outcome_allOf_of_first {before after : List ScopeName} {stop : ScopeName}
    (earlier : ∀ scope ∈ before, (judge scope).outcome = .ok true)
    (unheld : (judge stop).outcome ≠ .ok true) :
    (allOf judge (before ++ stop :: after)).outcome = (judge stop).outcome := by
  rw [allOf_append, outcome_allOf_of_true earlier, allOf_cons_of_not_true after unheld]

/-- An outcome taken from scopes in their order: that of the first which does not
hold, or truth where all of them hold. -/
structure InTurn (outcomes : ScopeName → Except AccessError Bool) (scopes : List ScopeName)
    (outcome : Except AccessError Bool) : Prop where
  held : (∀ scope ∈ scopes, outcomes scope = .ok true) → outcome = .ok true
  stopped : ∀ before stop after, scopes = before ++ stop :: after →
    (∀ scope ∈ before, outcomes scope = .ok true) → outcomes stop ≠ .ok true →
      outcome = outcomes stop

theorem inTurn_allOf (judge : ScopeName → Verdict Bool) (scopes : List ScopeName) :
    InTurn (fun scope => (judge scope).outcome) scopes (allOf judge scopes).outcome where
  held := outcome_allOf_of_true
  stopped := by
    rintro before stop after rfl earlier unheld
    exact outcome_allOf_of_first earlier unheld

/-- A list with a scope that does not hold has a first such scope. -/
theorem exists_first_unheld (failing : ∃ scope ∈ scopes, (judge scope).outcome ≠ .ok true) :
    ∃ before stop after, scopes = before ++ stop :: after ∧
      (∀ scope ∈ before, (judge scope).outcome = .ok true) ∧
      (judge stop).outcome ≠ .ok true := by
  induction scopes with
  | nil =>
      obtain ⟨_, member, _⟩ := failing
      exact absurd member List.not_mem_nil
  | cons scope rest inductionHypothesis =>
      by_cases holds : (judge scope).outcome = .ok true
      · have further : ∃ later ∈ rest, (judge later).outcome ≠ .ok true := by
          obtain ⟨later, member, unheld⟩ := failing
          rcases List.mem_cons.1 member with isScope | inRest
          · exact absurd (isScope ▸ holds) unheld
          · exact ⟨later, inRest, unheld⟩
        obtain ⟨before, stop, after, split, earlier, unheld⟩ := inductionHypothesis further
        refine ⟨scope :: before, stop, after, ?_, ?_, unheld⟩
        · rw [split, List.cons_append]
        · exact List.forall_mem_cons.2 ⟨holds, earlier⟩
      · exact ⟨[], scope, rest, rfl, fun _ member => absurd member List.not_mem_nil, holds⟩

theorem outcome_allOf_eq_true :
    (allOf judge scopes).outcome = .ok true ↔
      ∀ scope ∈ scopes, (judge scope).outcome = .ok true := by
  constructor
  · intro holds scope member
    by_contra unheld
    obtain ⟨before, stop, after, rfl, earlier, stopUnheld⟩ :=
      exists_first_unheld ⟨scope, member, unheld⟩
    rw [outcome_allOf_of_first earlier stopUnheld] at holds
    exact stopUnheld holds
  · exact outcome_allOf_of_true

/-- The scopes of a list that are judged: those up to the first that does not hold, with
this one. -/
def evaluated (judge : ScopeName → Verdict Bool) : List ScopeName → List ScopeName
  | [] => []
  | scope :: rest =>
      match (judge scope).outcome with
      | .ok true => scope :: evaluated judge rest
      | _ => [scope]

/-- A list uses the fallbacks of the scopes that are judged, in their order. -/
theorem fallbacks_allOf (judge : ScopeName → Verdict Bool) (scopes : List ScopeName) :
    (allOf judge scopes).fallbacks =
      (evaluated judge scopes).flatMap (fun scope => (judge scope).fallbacks) := by
  induction scopes with
  | nil => rfl
  | cons scope rest inductionHypothesis =>
      unfold evaluated
      split
      next holds =>
        rw [allOf_cons_of_true rest holds, List.flatMap_cons, inductionHypothesis]
      next unheld =>
        rw [allOf_cons_of_not_true rest unheld, List.flatMap_singleton]

end Verdict

end RowAccess
