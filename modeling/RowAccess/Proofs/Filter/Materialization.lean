import Mathlib.Data.List.Forall2
import RowAccess.Filter.Evaluation

/-!
Contract: materialization keeps what a filter says.

A materialized filter decides every record without asking a resolver, and it
decides it as the filter it was made from does with the resolver that made it.
Making it asks once for each subset whose keys are not known locally, from left
to right, and fails only as one of these look-ups does.

Owns:
- the outcome of inquiries in sequence, and inquiries that ask for subsets in turn.
- the relation between a filter and a filter that stands for it on a record.
- the subsets of a filter, and which of them materialization asks for.
-/

namespace RowAccess

namespace Inquiry

variable {α β : Type}

@[simp] theorem outcome_pure (value : α) : (Inquiry.pure value).outcome = .ok value := rfl

@[simp] theorem pure_bind (value : α) (next : α → Inquiry β) :
    (Inquiry.pure value).bind next = next value := by
  simp [Inquiry.bind, Inquiry.pure]

theorem bind_pure (first : Inquiry α) : first.bind Inquiry.pure = first := by
  obtain ⟨outcome, asked⟩ := first
  cases outcome with
  | error error => rfl
  | ok value => simp [Inquiry.bind, Inquiry.pure]

theorem map_map {γ : Type} (first : Inquiry α) (next : α → β) (last : β → γ) :
    (first.bind (fun value => Inquiry.pure (next value))).bind
        (fun value => Inquiry.pure (last value)) =
      first.bind (fun value => Inquiry.pure (last (next value))) := by
  obtain ⟨outcome, asked⟩ := first
  cases outcome with
  | error error => rfl
  | ok value => simp [Inquiry.bind, Inquiry.pure]

theorem outcome_bind_of_ok {first : Inquiry α} {value : α} (next : α → Inquiry β)
    (found : first.outcome = .ok value) : (first.bind next).outcome = (next value).outcome := by
  unfold Inquiry.bind
  rw [found]

theorem outcome_bind_of_error {first : Inquiry α} {error : StoreError} (next : α → Inquiry β)
    (failed : first.outcome = .error error) : (first.bind next).outcome = .error error := by
  unfold Inquiry.bind
  rw [failed]

theorem outcome_bind_eq_ok {first : Inquiry α} {next : α → Inquiry β} {answer : β} :
    (first.bind next).outcome = .ok answer ↔
      ∃ value, first.outcome = .ok value ∧ (next value).outcome = .ok answer := by
  cases found : first.outcome with
  | error error =>
      rw [outcome_bind_of_error next found]
      simp
  | ok value =>
      rw [outcome_bind_of_ok next found]
      simp

theorem outcome_map (first : Inquiry α) (next : α → β) :
    (first.bind (fun value => Inquiry.pure (next value))).outcome = first.outcome.map next := by
  cases found : first.outcome with
  | error error => exact outcome_bind_of_error _ found
  | ok value => exact outcome_bind_of_ok _ found

/-! ## Asking in turn -/

/-- Whether an inquiry asks for subsets from left to right, up to the first that
cannot be resolved, and fails only with the failure of that one. -/
inductive InTurn (resolver : SubsetResolver) : Inquiry α → List Subset → Prop
  | answered {value : α} {subsets : List Subset}
      (resolved : ∀ subset ∈ subsets, ∃ keys, resolver subset = .ok keys) :
      InTurn resolver ⟨.ok value, subsets⟩ subsets
  | stopped {error : StoreError} {earlier later : List Subset} {subset : Subset}
      (resolved : ∀ other ∈ earlier, ∃ keys, resolver other = .ok keys)
      (failed : resolver subset = .error error) :
      InTurn resolver ⟨.error error, earlier ++ [subset]⟩ (earlier ++ subset :: later)

namespace InTurn

variable {resolver : SubsetResolver} {first : Inquiry α} {early late subsets : List Subset}

theorem pure (resolver : SubsetResolver) (value : α) : InTurn resolver (Inquiry.pure value) [] :=
  .answered (fun _ member => absurd member List.not_mem_nil)

theorem bind {next : α → Inquiry β} (here : InTurn resolver first early)
    (there : ∀ value, InTurn resolver (next value) late) :
    InTurn resolver (first.bind next) (early ++ late) := by
  cases here with
  | answered resolved =>
      rename_i value
      have continued := there value
      unfold Inquiry.bind
      dsimp only
      revert continued
      generalize next value = second
      intro continued
      cases continued with
      | answered resolvedLater =>
          exact .answered (fun subset member =>
            (List.mem_append.1 member).elim (resolved subset) (resolvedLater subset))
      | stopped resolvedLater failed =>
          rw [← List.append_assoc, ← List.append_assoc]
          exact .stopped (fun subset member =>
            (List.mem_append.1 member).elim (resolved subset) (resolvedLater subset)) failed
  | stopped resolved failed =>
      rw [List.append_assoc, List.cons_append]
      exact .stopped resolved failed

theorem map (here : InTurn resolver first subsets) (next : α → β) :
    InTurn resolver (first.bind (fun value => Inquiry.pure (next value))) subsets := by
  have mapped := here.bind (fun value => pure resolver (next value))
  rw [List.append_nil] at mapped
  exact mapped

/-- The keys of a subset are asked for only where they are not known locally. -/
theorem keysOf (resolver : SubsetResolver) (subset : Subset) :
    InTurn resolver (Inquiry.keysOf resolver subset)
      ([subset].filter (fun asked => asked.localKeys?.isNone)) := by
  unfold Inquiry.keysOf
  cases known : subset.localKeys? with
  | some keys =>
      rw [List.filter_cons_of_neg (by simp [known])]
      exact pure resolver keys
  | none =>
      rw [List.filter_cons_of_pos (by simp [known])]
      cases found : resolver subset with
      | ok keys =>
          refine .answered (fun other member => ?_)
          rw [List.mem_singleton.1 member]
          exact ⟨keys, found⟩
      | error error =>
          have unasked : ∀ other ∈ ([] : List Subset), ∃ keys, resolver other = .ok keys :=
            fun _ member => absurd member List.not_mem_nil
          exact stopped unasked found

theorem asked_of_ok {value : α} (inTurn : InTurn resolver first subsets)
    (found : first.outcome = .ok value) : first.asked = subsets := by
  cases inTurn with
  | answered resolved => rfl
  | stopped resolved failed => cases found

theorem exists_of_error {error : StoreError} (inTurn : InTurn resolver first subsets)
    (failure : first.outcome = .error error) :
    ∃ subset ∈ subsets, resolver subset = .error error ∧ first.asked.getLast? = some subset := by
  cases inTurn with
  | answered resolved => cases failure
  | stopped resolved failed =>
      cases failure
      exact ⟨_, List.mem_append_right _ List.mem_cons_self, failed, List.getLast?_concat⟩

theorem isOk_iff (inTurn : InTurn resolver first subsets) :
    (∃ value, first.outcome = .ok value) ↔
      ∀ subset ∈ subsets, ∃ keys, resolver subset = .ok keys := by
  cases inTurn with
  | answered resolved => exact iff_of_true ⟨_, rfl⟩ resolved
  | stopped resolved failed =>
      refine iff_of_false (fun ⟨_, found⟩ => nomatch found) (fun each => ?_)
      obtain ⟨keys, found⟩ := each _ (List.mem_append_right _ List.mem_cons_self)
      rw [failed] at found
      cases found

end InTurn

end Inquiry

namespace Filter

variable {resolver : SubsetResolver} {record : Record}

/-- A filter that decides a record by itself, as another one does with a resolver. -/
def Settles (resolver : SubsetResolver) (record : Record) (filter settled : Filter) : Prop :=
  ∃ holds, filter.admits resolver record = .ok holds ∧
    ∀ other, evaluate other record settled = Inquiry.pure holds

theorem Settles.refl {filter : Filter} {holds : Bool}
    (decided : ∀ other, evaluate other record filter = Inquiry.pure holds) :
    Settles resolver record filter filter := by
  refine ⟨holds, ?_, decided⟩
  unfold admits
  rw [decided resolver]
  rfl

theorem Settles.not {child settled : Filter} (settles : Settles resolver record child settled) :
    Settles resolver record (.not child) (.not settled) := by
  obtain ⟨holds, found, decided⟩ := settles
  refine ⟨!holds, ?_, fun other => ?_⟩
  · unfold admits at found ⊢
    simp only [evaluate]
    rw [Inquiry.outcome_bind_of_ok _ found]
    rfl
  · simp only [evaluate, decided other, Inquiry.pure_bind]

theorem Settles.all {children settled : List Filter}
    (each : List.Forall₂ (Settles resolver record) children settled) :
    Settles resolver record (.all children) (.all settled) := by
  induction each with
  | nil => exact Settles.refl (fun _ => rfl)
  | @cons child made rest others settles _ inductionHypothesis =>
      obtain ⟨holds, found, decided⟩ := settles
      obtain ⟨restHolds, restFound, restDecided⟩ := inductionHypothesis
      refine ⟨if holds then restHolds else false, ?_, fun other => ?_⟩
      · unfold admits at found restFound ⊢
        simp only [evaluate, evaluateAll] at restFound ⊢
        rw [Inquiry.outcome_bind_of_ok _ found]
        cases holds
        · rfl
        · exact restFound
      · have tail := restDecided other
        simp only [evaluate, evaluateAll] at tail ⊢
        rw [decided other, Inquiry.pure_bind, tail]
        cases holds <;> rfl

theorem Settles.any {children settled : List Filter}
    (each : List.Forall₂ (Settles resolver record) children settled) :
    Settles resolver record (.any children) (.any settled) := by
  induction each with
  | nil => exact Settles.refl (fun _ => rfl)
  | @cons child made rest others settles _ inductionHypothesis =>
      obtain ⟨holds, found, decided⟩ := settles
      obtain ⟨restHolds, restFound, restDecided⟩ := inductionHypothesis
      refine ⟨if holds then true else restHolds, ?_, fun other => ?_⟩
      · unfold admits at found restFound ⊢
        simp only [evaluate, evaluateAny] at restFound ⊢
        rw [Inquiry.outcome_bind_of_ok _ found]
        cases holds
        · exact restFound
        · rfl
      · have tail := restDecided other
        simp only [evaluate, evaluateAny] at tail ⊢
        rw [decided other, Inquiry.pure_bind, tail]
        cases holds <;> rfl

theorem Settles.keyIn {subset : Subset} {keys : KeySet}
    (found : (Inquiry.keysOf resolver subset).outcome = .ok keys) :
    Settles resolver record (.keyIn subset) (.keyIn (.explicit keys)) := by
  refine ⟨keys.contains record.key, ?_, fun other => ?_⟩
  · unfold admits
    simp only [evaluate]
    rw [Inquiry.outcome_bind_of_ok _ found]
    rfl
  · simp only [evaluate, Inquiry.keysOf, Subset.localKeys?, Inquiry.pure_bind]

mutual

/-- A materialized filter stands for the filter it was made from. -/
theorem settles_of_materialize (record : Record) {made : Filter} :
    ∀ filter : Filter, (materialize resolver filter).outcome = .ok made →
      Settles resolver record filter made
  | .always, materialized => by
      cases materialized
      exact Settles.refl (fun _ => rfl)
  | .never, materialized => by
      cases materialized
      exact Settles.refl (fun _ => rfl)
  | .all children, materialized => by
      simp only [materialize] at materialized
      obtain ⟨settled, eachMade, ⟨⟩⟩ := Inquiry.outcome_bind_eq_ok.1 materialized
      exact Settles.all (settles_of_materializeEach record children eachMade)
  | .any children, materialized => by
      simp only [materialize] at materialized
      obtain ⟨settled, eachMade, ⟨⟩⟩ := Inquiry.outcome_bind_eq_ok.1 materialized
      exact Settles.any (settles_of_materializeEach record children eachMade)
  | .not child, materialized => by
      simp only [materialize] at materialized
      obtain ⟨settled, childMade, ⟨⟩⟩ := Inquiry.outcome_bind_eq_ok.1 materialized
      exact Settles.not (settles_of_materialize record child childMade)
  | .condition test, materialized => by
      cases materialized
      exact Settles.refl (fun _ => rfl)
  | .keyIn subset, materialized => by
      simp only [materialize] at materialized
      obtain ⟨keys, found, ⟨⟩⟩ := Inquiry.outcome_bind_eq_ok.1 materialized
      exact Settles.keyIn found

theorem settles_of_materializeEach (record : Record) {made : List Filter} :
    ∀ filters : List Filter, (materializeEach resolver filters).outcome = .ok made →
      List.Forall₂ (Settles resolver record) filters made
  | [], materialized => by
      cases materialized
      exact .nil
  | filter :: rest, materialized => by
      simp only [materializeEach] at materialized
      obtain ⟨head, headMade, continued⟩ := Inquiry.outcome_bind_eq_ok.1 materialized
      obtain ⟨tail, tailMade, ⟨⟩⟩ := Inquiry.outcome_bind_eq_ok.1 continued
      exact .cons (settles_of_materialize record filter headMade)
        (settles_of_materializeEach record rest tailMade)

end

/-! ## What materialization asks for -/

mutual

/-- The subsets in which a filter tests membership, from left to right. -/
def subsets : Filter → List Subset
  | .always => []
  | .never => []
  | .all children => subsetsOfEach children
  | .any children => subsetsOfEach children
  | .not child => subsets child
  | .condition _ => []
  | .keyIn subset => [subset]

def subsetsOfEach : List Filter → List Subset
  | [] => []
  | child :: rest => subsets child ++ subsetsOfEach rest

end

/-- The subsets whose keys are not known locally. -/
def unresolved (subsets : List Subset) : List Subset :=
  subsets.filter (fun subset => subset.localKeys?.isNone)

theorem mem_unresolved {subset : Subset} {subsets : List Subset} :
    subset ∈ unresolved subsets ↔ subset ∈ subsets ∧ subset.localKeys? = none := by
  rw [unresolved, List.mem_filter, Option.isNone_iff_eq_none]

mutual

theorem inTurn_materialize (resolver : SubsetResolver) :
    ∀ filter : Filter,
      Inquiry.InTurn resolver (materialize resolver filter) (unresolved filter.subsets)
  | .always => .pure resolver _
  | .never => .pure resolver _
  | .condition _ => .pure resolver _
  | .all children => by
      simp only [materialize, subsets]
      exact (inTurn_materializeEach resolver children).map Filter.all
  | .any children => by
      simp only [materialize, subsets]
      exact (inTurn_materializeEach resolver children).map Filter.any
  | .not child => by
      simp only [materialize, subsets]
      exact (inTurn_materialize resolver child).map Filter.not
  | .keyIn subset => by
      simp only [materialize, subsets]
      exact (Inquiry.InTurn.keysOf resolver subset).map (fun keys => Filter.keyIn (.explicit keys))

theorem inTurn_materializeEach (resolver : SubsetResolver) :
    ∀ filters : List Filter,
      Inquiry.InTurn resolver (materializeEach resolver filters)
        (unresolved (subsetsOfEach filters))
  | [] => .pure resolver _
  | filter :: rest => by
      simp only [materializeEach, subsetsOfEach, unresolved, List.filter_append]
      exact (inTurn_materialize resolver filter).bind (fun made =>
        (inTurn_materializeEach resolver rest).map (fun others => made :: others))

end

/-- A filter can be materialized where each subset that it does not know locally can
be resolved, and asks once for each of these. What it becomes decides every record by
itself, as the filter decides it with the resolver. A filter that cannot be
materialized has last asked for a subset that the resolver refuses with the same
failure. -/
theorem materialized_decides_alone (resolver : SubsetResolver) (filter : Filter) :
    ((∃ made, (materialize resolver filter).outcome = .ok made) ↔
      ∀ subset ∈ filter.subsets, subset.localKeys? = none → ∃ keys, resolver subset = .ok keys) ∧
    (∀ made, (materialize resolver filter).outcome = .ok made →
      (materialize resolver filter).asked = unresolved filter.subsets ∧
      ∀ record, ∃ holds, filter.admits resolver record = .ok holds ∧
        ∀ other, made.admits other record = .ok holds ∧ (evaluate other record made).asked = []) ∧
    (∀ error, (materialize resolver filter).outcome = .error error →
      ∃ subset ∈ filter.subsets, subset.localKeys? = none ∧ resolver subset = .error error ∧
        (materialize resolver filter).asked.getLast? = some subset) := by
  have inTurn := inTurn_materialize resolver filter
  refine ⟨?_, ?_, ?_⟩
  · rw [inTurn.isOk_iff]
    simp only [mem_unresolved, and_imp]
  · intro made materialized
    refine ⟨inTurn.asked_of_ok materialized, fun record => ?_⟩
    obtain ⟨holds, found, decided⟩ := settles_of_materialize record filter materialized
    refine ⟨holds, found, fun other => ?_⟩
    unfold admits
    rw [decided other]
    exact ⟨rfl, rfl⟩
  · intro error failure
    obtain ⟨subset, member, failed, last⟩ := inTurn.exists_of_error failure
    obtain ⟨inFilter, unknown⟩ := mem_unresolved.1 member
    exact ⟨subset, inFilter, unknown, failed, last⟩

end Filter

/-! ## A small shop -/

namespace Shop

def orders : ResourceType := ⟨"shop", "order"⟩

/-- All orders but the second one. -/
def allButSecond : Filter :=
  .all [.keyIn (.query (Query.ofResource orders)), .not (Filter.keyEquals ⟨"2"⟩)]

/-- Answers every subset with the first two orders. -/
def firstTwo : SubsetResolver := fun _ => .ok (OrderedSet.ofList [⟨"1"⟩, ⟨"2"⟩])

def closed : SubsetResolver := fun _ => .error ⟨.io, "shop is closed"⟩

/-- Of the first two orders, what the filter becomes admits the first one only, and
does so in a shop that is closed; there the filter itself cannot be materialized. -/
theorem shop_filter_decides_alone :
    (∃ made, (allButSecond.materialize firstTwo).outcome = .ok made ∧
      made.admits closed ⟨⟨"1"⟩, OrderedMap.empty⟩ = .ok true ∧
      made.admits closed ⟨⟨"2"⟩, OrderedMap.empty⟩ = .ok false) ∧
    ∃ subset ∈ allButSecond.subsets,
      subset.localKeys? = none ∧ closed subset = .error ⟨.io, "shop is closed"⟩ := by
  obtain ⟨resolvable, decides, _⟩ := Filter.materialized_decides_alone firstTwo allButSecond
  obtain ⟨_, _, fails⟩ := Filter.materialized_decides_alone closed allButSecond
  constructor
  · obtain ⟨made, materialized⟩ := resolvable.2 (fun _ _ _ => ⟨_, rfl⟩)
    refine ⟨made, materialized, ?_, ?_⟩
    · obtain ⟨holds, admitted, decided⟩ :=
        (decides made materialized).2 ⟨⟨"1"⟩, OrderedMap.empty⟩
      rw [(decided closed).1, ← admitted]
      rfl
    · obtain ⟨holds, admitted, decided⟩ :=
        (decides made materialized).2 ⟨⟨"2"⟩, OrderedMap.empty⟩
      rw [(decided closed).1, ← admitted]
      rfl
  · obtain ⟨subset, member, unknown, refused, _⟩ := fails ⟨.io, "shop is closed"⟩ rfl
    exact ⟨subset, member, unknown, refused⟩

end Shop

end RowAccess
