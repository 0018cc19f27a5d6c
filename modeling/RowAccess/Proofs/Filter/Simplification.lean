import RowAccess.Filter.Evaluation
import RowAccess.Proofs.Filter.Materialization

/-!
Contract: what the simplifying constructors keep of a list of filters.

A simplified conjunction is the conjunction without its constants: a filter that
is never decides it alone, and otherwise it is evaluated as the list is. The
simplified disjunction is dual, and a simplified negation is evaluated as the plain
one. So a simplified filter decides whatever the plain one decides, and all that it
may lose is a failure.

Owns:
- evaluation of conjunctions and disjunctions, child by child.
- evaluation and form of the simplified filters.
- the relation between a filter and a simpler one that stands in for it.
-/

namespace RowAccess.Filter

variable {resolver : SubsetResolver} {record : Record}

/-! ## Raw conjunctions and disjunctions -/

theorem admits_all_cons (child : Filter) (rest : List Filter) :
    (Filter.all (child :: rest)).admits resolver record =
      match child.admits resolver record with
      | .error error => .error error
      | .ok true => (Filter.all rest).admits resolver record
      | .ok false => .ok false := by
  unfold admits
  simp only [evaluate, evaluateAll]
  cases found : (evaluate resolver record child).outcome with
  | error error => rw [Inquiry.outcome_bind_of_error _ found]
  | ok holds =>
      rw [Inquiry.outcome_bind_of_ok _ found]
      cases holds <;> rfl

theorem admits_any_cons (child : Filter) (rest : List Filter) :
    (Filter.any (child :: rest)).admits resolver record =
      match child.admits resolver record with
      | .error error => .error error
      | .ok true => .ok true
      | .ok false => (Filter.any rest).admits resolver record := by
  unfold admits
  simp only [evaluate, evaluateAny]
  cases found : (evaluate resolver record child).outcome with
  | error error => rw [Inquiry.outcome_bind_of_error _ found]
  | ok holds =>
      rw [Inquiry.outcome_bind_of_ok _ found]
      cases holds <;> rfl

/-- A conjunction holds where every child does. -/
theorem admits_all_eq_true {filters : List Filter} :
    (Filter.all filters).admits resolver record = .ok true ↔
      ∀ filter ∈ filters, filter.admits resolver record = .ok true := by
  induction filters with
  | nil => exact iff_of_true rfl (fun _ member => absurd member List.not_mem_nil)
  | cons child rest inductionHypothesis =>
      rw [admits_all_cons, List.forall_mem_cons]
      cases child.admits resolver record with
      | error error => simp
      | ok holds =>
          cases holds
          · simp
          · simpa using inductionHypothesis

/-- A disjunction without failing children holds where some child does. -/
theorem admits_any_eq_true {filters : List Filter}
    (decided : ∀ filter ∈ filters, ∃ holds, filter.admits resolver record = .ok holds) :
    (Filter.any filters).admits resolver record = .ok true ↔
      ∃ filter ∈ filters, filter.admits resolver record = .ok true := by
  induction filters with
  | nil =>
      refine iff_of_false ?_ ?_
      · intro holds
        cases holds
      · rintro ⟨_, member, _⟩
        exact absurd member List.not_mem_nil
  | cons child rest inductionHypothesis =>
      have tail := inductionHypothesis (fun filter member =>
        decided filter (List.mem_cons_of_mem child member))
      obtain ⟨holds, found⟩ := decided child List.mem_cons_self
      rw [admits_any_cons, List.exists_mem_cons_iff, found]
      cases holds
      · simpa using tail
      · simp

/-! ## Simplified conjunctions, disjunctions and negations -/

theorem eq_always_of_isAlways {filter : Filter} (constant : filter.isAlways = true) :
    filter = .always := by
  cases filter <;> first | rfl | cases constant

theorem eq_never_of_isNever {filter : Filter} (constant : filter.isNever = true) :
    filter = .never := by
  cases filter <;> first | rfl | cases constant

/-- A conjunction or a disjunction of one filter is evaluated as that filter is. -/
theorem evaluate_singleton (child : Filter) :
    evaluate resolver record (.all [child]) = evaluate resolver record child ∧
      evaluate resolver record (.any [child]) = evaluate resolver record child := by
  constructor
  all_goals
    simp only [evaluate, evaluateAll, evaluateAny]
    refine Eq.trans (congrArg (evaluate resolver record child).bind ?_) (Inquiry.bind_pure _)
    funext holds
    cases holds <;> rfl

theorem evaluate_allOf (children : List Filter) :
    evaluate resolver record (allOf children) = evaluate resolver record (.all children) := by
  match children with
  | [] => simp only [allOf, evaluate, evaluateAll]
  | [child] => exact (evaluate_singleton child).1.symm
  | _ :: _ :: _ => rfl

theorem evaluate_anyOf (children : List Filter) :
    evaluate resolver record (anyOf children) = evaluate resolver record (.any children) := by
  match children with
  | [] => simp only [anyOf, evaluate, evaluateAny]
  | [child] => exact (evaluate_singleton child).2.symm
  | _ :: _ :: _ => rfl

theorem evaluateAll_filter (filters : List Filter) :
    evaluateAll resolver record (filters.filter (fun filter => !filter.isAlways)) =
      evaluateAll resolver record filters := by
  induction filters with
  | nil => rfl
  | cons child rest inductionHypothesis =>
      by_cases constant : child.isAlways = true
      · rw [List.filter_cons_of_neg (by simp [constant]), inductionHypothesis,
          eq_always_of_isAlways constant]
        simp only [evaluateAll, evaluate, Inquiry.pure_bind, if_true]
      · rw [List.filter_cons_of_pos (by simp [constant])]
        simp only [evaluateAll, inductionHypothesis]

theorem evaluateAny_filter (filters : List Filter) :
    evaluateAny resolver record (filters.filter (fun filter => !filter.isNever)) =
      evaluateAny resolver record filters := by
  induction filters with
  | nil => rfl
  | cons child rest inductionHypothesis =>
      by_cases constant : child.isNever = true
      · rw [List.filter_cons_of_neg (by simp [constant]), inductionHypothesis,
          eq_never_of_isNever constant]
        simp [evaluateAny, evaluate]
      · rw [List.filter_cons_of_pos (by simp [constant])]
        simp only [evaluateAny, inductionHypothesis]

theorem evaluate_conjunction (filters : List Filter) :
    evaluate resolver record (conjunction filters) =
      if filters.any isNever then Inquiry.pure false
      else evaluate resolver record (.all filters) := by
  unfold conjunction
  split
  · simp only [evaluate]
  · rw [evaluate_allOf]
    simp only [evaluate, evaluateAll_filter]

theorem evaluate_disjunction (filters : List Filter) :
    evaluate resolver record (disjunction filters) =
      if filters.any isAlways then Inquiry.pure true
      else evaluate resolver record (.any filters) := by
  unfold disjunction
  split
  · simp only [evaluate]
  · rw [evaluate_anyOf]
    simp only [evaluate, evaluateAny_filter]

/-- A simplified negation is evaluated as the plain one. -/
theorem evaluate_negation (filter : Filter) :
    evaluate resolver record (negation filter) = evaluate resolver record (.not filter) := by
  cases filter with
  | always => simp [negation, evaluate]
  | never => simp [negation, evaluate]
  | not child =>
      simp only [negation, evaluate, Inquiry.map_map, Bool.not_not]
      exact (Inquiry.bind_pure _).symm
  | all children => rfl
  | any children => rfl
  | condition test => rfl
  | keyIn subset => rfl

theorem admits_conjunction (filters : List Filter) :
    (conjunction filters).admits resolver record =
      if filters.any isNever then .ok false
      else (Filter.all filters).admits resolver record := by
  unfold admits
  rw [evaluate_conjunction]
  split <;> rfl

theorem admits_disjunction (filters : List Filter) :
    (disjunction filters).admits resolver record =
      if filters.any isAlways then .ok true
      else (Filter.any filters).admits resolver record := by
  unfold admits
  rw [evaluate_disjunction]
  split <;> rfl

/-- A simplified disjunction is constantly true only where one of its filters is. -/
theorem isAlways_disjunction (filters : List Filter) :
    (disjunction filters).isAlways = filters.any isAlways := by
  unfold disjunction
  split
  next someAlways => exact someAlways.symm
  next noAlways =>
    have kept : ∀ child ∈ filters.filter (fun filter => !filter.isNever),
        child.isAlways = false := by
      intro child member
      have inList := List.mem_of_mem_filter member
      exact eq_false_of_ne_true (fun constant =>
        noAlways (List.any_eq_true.2 ⟨child, inList, constant⟩))
    rw [eq_false_of_ne_true noAlways]
    generalize filters.filter (fun filter => !filter.isNever) = children at kept
    match children with
    | [] => rfl
    | [child] => exact kept child List.mem_cons_self
    | _ :: _ :: _ => rfl

/-- A simplified disjunction is constantly false only where all its filters are. -/
theorem isNever_disjunction (filters : List Filter) :
    (disjunction filters).isNever = filters.all isNever := by
  unfold disjunction
  split
  next someAlways =>
    obtain ⟨filter, member, constant⟩ := List.any_eq_true.1 someAlways
    refine (List.all_eq_false.2 ⟨filter, member, ?_⟩).symm
    rw [eq_always_of_isAlways constant]
    exact Bool.false_ne_true
  next =>
    have kept : ∀ child ∈ filters.filter (fun filter => !filter.isNever),
        child.isNever = false := by
      intro child member
      exact Bool.not_eq_true' _ ▸ (List.mem_filter.1 member).2
    cases remaining : filters.filter (fun filter => !filter.isNever) with
    | nil =>
        have allNever : ∀ filter ∈ filters, filter.isNever = true := by
          intro filter member
          have dropped := List.filter_eq_nil_iff.1 remaining filter member
          simpa using dropped
        exact (List.all_eq_true.2 allNever).symm
    | cons child rest =>
        have member : child ∈ filters.filter (fun filter => !filter.isNever) :=
          remaining ▸ List.mem_cons_self
        have notNever := kept child member
        have someOther : filters.all isNever = false :=
          List.all_eq_false.2
            ⟨child, List.mem_of_mem_filter member, ne_true_of_eq_false notNever⟩
        rw [someOther]
        cases rest with
        | nil => exact notNever
        | cons _ _ => rfl

/-! ## What simplification keeps -/

/-- Whether a filter stands in for another one: it decides a record as the other one
does, fails only as the other one does, and asks for the same subsets or for none. -/
structure StandsIn (resolver : SubsetResolver) (record : Record) (plain simple : Filter) :
    Prop where
  decides : ∀ holds, plain.admits resolver record = .ok holds →
    simple.admits resolver record = .ok holds
  fails : ∀ error, simple.admits resolver record = .error error →
    plain.admits resolver record = .error error
  asks : (evaluate resolver record simple).asked = (evaluate resolver record plain).asked ∨
    (evaluate resolver record simple).asked = []

theorem StandsIn.of_evaluate_eq {plain simple : Filter}
    (same : evaluate resolver record simple = evaluate resolver record plain) :
    StandsIn resolver record plain simple := by
  have admitted : simple.admits resolver record = plain.admits resolver record :=
    congrArg Inquiry.outcome same
  refine ⟨fun holds decided => ?_, fun error failed => ?_, Or.inl (congrArg Inquiry.asked same)⟩
  · rw [admitted, decided]
  · rw [← admitted, failed]

/-- A filter with a fixed verdict stands in for one that never has the opposite verdict. -/
theorem StandsIn.of_constant {plain simple : Filter} {verdict : Bool}
    (fixed : evaluate resolver record simple = Inquiry.pure verdict)
    (unopposed : plain.admits resolver record ≠ .ok (!verdict)) :
    StandsIn resolver record plain simple := by
  have admitted : simple.admits resolver record = .ok verdict := congrArg Inquiry.outcome fixed
  refine ⟨fun holds decided => ?_, fun error failed => ?_, Or.inr (congrArg Inquiry.asked fixed)⟩
  · have agrees : holds = verdict := by
      by_contra differs
      rw [decided, Bool.eq_not_of_ne differs] at unopposed
      exact unopposed rfl
    rw [admitted, agrees]
  · rw [admitted] at failed
    cases failed

theorem standsIn_conjunction (filters : List Filter) :
    StandsIn resolver record (.all filters) (conjunction filters) := by
  by_cases someNever : filters.any isNever = true
  · have evaluated : evaluate resolver record (conjunction filters) = Inquiry.pure false := by
      rw [evaluate_conjunction, if_pos someNever]
    refine StandsIn.of_constant evaluated (fun held => ?_)
    obtain ⟨filter, member, constant⟩ := List.any_eq_true.1 someNever
    have admitted := admits_all_eq_true.1 held filter member
    rw [eq_never_of_isNever constant] at admitted
    cases admitted
  · apply StandsIn.of_evaluate_eq
    rw [evaluate_conjunction, if_neg someNever]

/-- A disjunction with a filter that always holds is not false. -/
theorem admits_any_ne_false {filters : List Filter} (someAlways : Filter.always ∈ filters) :
    (Filter.any filters).admits resolver record ≠ .ok false := by
  induction filters with
  | nil => cases someAlways
  | cons child rest inductionHypothesis =>
      rw [admits_any_cons]
      rcases List.mem_cons.1 someAlways with isFirst | inRest
      · rw [← isFirst]
        exact fun same => nomatch same
      · cases child.admits resolver record with
        | error error => exact fun same => nomatch same
        | ok holds =>
            cases holds
            · exact inductionHypothesis inRest
            · exact fun same => nomatch same

theorem standsIn_disjunction (filters : List Filter) :
    StandsIn resolver record (.any filters) (disjunction filters) := by
  by_cases someAlways : filters.any isAlways = true
  · have evaluated : evaluate resolver record (disjunction filters) = Inquiry.pure true := by
      rw [evaluate_disjunction, if_pos someAlways]
    refine StandsIn.of_constant evaluated (admits_any_ne_false ?_)
    obtain ⟨filter, member, constant⟩ := List.any_eq_true.1 someAlways
    rw [← eq_always_of_isAlways constant]
    exact member
  · apply StandsIn.of_evaluate_eq
    rw [evaluate_disjunction, if_neg someAlways]

/-- The form of simplified filters: a constant, one of the filters, or two or more of
them joined in their order, none of which is a constant. -/
def Joined (join : List Filter → Filter) (filters : List Filter) (simple : Filter) : Prop :=
  simple = .always ∨ simple = .never ∨ simple ∈ filters ∨
    ∃ children, simple = join children ∧ 2 ≤ children.length ∧ children.Sublist filters ∧
      ∀ child ∈ children, child ≠ .always ∧ child ≠ .never

/-- The filters of a list without constants that are kept of a longer one: none of
them, one of them, or their join. -/
theorem Joined.of_kept {join : List Filter → Filter} {filters kept : List Filter}
    {nothing simple : Filter} (constant : nothing = .always ∨ nothing = .never)
    (form : simple = match kept with
      | [] => nothing
      | [child] => child
      | children => join children)
    (part : kept.Sublist filters)
    (proper : ∀ child ∈ kept, child ≠ .always ∧ child ≠ .never) :
    Joined join filters simple := by
  match kept with
  | [] =>
      rw [form]
      exact constant.elim Or.inl (fun isNever => Or.inr (Or.inl isNever))
  | [child] =>
      rw [form]
      exact Or.inr (Or.inr (Or.inl (part.subset List.mem_cons_self)))
  | first :: second :: rest =>
      refine Or.inr (Or.inr (Or.inr ⟨first :: second :: rest, form, ?_, part, proper⟩))
      simp

/-- What is left of a list once some filters are dropped, where none is of another kind. -/
theorem spared_of_mem_filter {dropped refused : Filter → Bool} {filters : List Filter}
    {child : Filter} (noneRefused : ¬ filters.any refused = true)
    (member : child ∈ filters.filter (fun filter => !dropped filter)) :
    dropped child = false ∧ refused child = false := by
  obtain ⟨inList, notDropped⟩ := List.mem_filter.1 member
  refine ⟨by simpa using notDropped, ?_⟩
  by_contra isRefused
  exact noneRefused (List.any_eq_true.2 ⟨child, inList, by simpa using isRefused⟩)

theorem joined_conjunction (filters : List Filter) :
    Joined .all filters (conjunction filters) := by
  unfold conjunction
  split
  next => exact Or.inr (Or.inl rfl)
  next noNever =>
    refine Joined.of_kept (Or.inl rfl) rfl List.filter_sublist (fun child member => ?_)
    obtain ⟨notAlways, notNever⟩ := spared_of_mem_filter noNever member
    constructor
    · rintro rfl
      cases notAlways
    · rintro rfl
      cases notNever

theorem joined_disjunction (filters : List Filter) :
    Joined .any filters (disjunction filters) := by
  unfold disjunction
  split
  next => exact Or.inl rfl
  next noAlways =>
    refine Joined.of_kept (Or.inr rfl) rfl List.filter_sublist (fun child member => ?_)
    obtain ⟨notNever, notAlways⟩ := spared_of_mem_filter noAlways member
    constructor
    · rintro rfl
      cases notAlways
    · rintro rfl
      cases notNever

/-- The simplified forms stand in for the plain ones on every record and with every
resolver, and simplifying a list invents no filter and keeps no constant beside
another one. -/
theorem simplified_stands_in (filters : List Filter) (filter : Filter) :
    (∀ resolver record,
      StandsIn resolver record (.all filters) (conjunction filters) ∧
      StandsIn resolver record (.any filters) (disjunction filters) ∧
      StandsIn resolver record (.not filter) (negation filter)) ∧
    Joined .all filters (conjunction filters) ∧
    Joined .any filters (disjunction filters) := by
  refine ⟨fun resolver record => ⟨?_, ?_, ?_⟩, ?_, ?_⟩
  · exact standsIn_conjunction filters
  · exact standsIn_disjunction filters
  · exact StandsIn.of_evaluate_eq (evaluate_negation filter)
  · exact joined_conjunction filters
  · exact joined_disjunction filters

end RowAccess.Filter

namespace RowAccess.Shop

/-- The first two orders, none of which is wanted. -/
def unwanted : List Filter := [.keyIn (.query (Query.ofResource orders)), .never]

/-- What the plain conjunction decides in an open shop the simplified one decides as
well, and it decides the same in a closed one, where the plain one fails. -/
theorem shop_decides_while_closed :
    (Filter.all unwanted).admits firstTwo ⟨⟨"1"⟩, OrderedMap.empty⟩ = .ok false ∧
    (Filter.conjunction unwanted).admits firstTwo ⟨⟨"1"⟩, OrderedMap.empty⟩ = .ok false ∧
    (Filter.all unwanted).admits closed ⟨⟨"1"⟩, OrderedMap.empty⟩ =
      .error ⟨.io, "shop is closed"⟩ ∧
    (Filter.conjunction unwanted).admits closed ⟨⟨"1"⟩, OrderedMap.empty⟩ = .ok false := by
  obtain ⟨standsIn, _, _⟩ := Filter.simplified_stands_in unwanted .never
  have decided : (Filter.all unwanted).admits firstTwo ⟨⟨"1"⟩, OrderedMap.empty⟩ = .ok false := rfl
  exact ⟨decided, (standsIn firstTwo ⟨⟨"1"⟩, OrderedMap.empty⟩).1.decides false decided, rfl, rfl⟩

end RowAccess.Shop
