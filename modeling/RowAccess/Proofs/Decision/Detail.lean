import Mathlib.Data.Option.Basic
import RowAccess.Proofs.Decision.Poll
import RowAccess.Decision.Write
import RowAccess.Scope.Relation

/-!
Contract: decisions do not depend on the details of failures.

What a function, a look-up or a resolver says when it fails is a detail: a text,
and of a store the kind of its failure too. Replacing details by others leaves
every outcome a failure of the same cause or the same value, through the rules of
relations, the evaluation of filters, the verdicts of scopes and the polls.

Owns:
- agreement of outcomes and of runs up to failures, and errors of the same cause.
- rules, registries, resolvers and look-ups that are the same but for details.
- agreement of view filters and of decisions on writes.
-/

namespace RowAccess

/-! ## Outcomes -/

/-- Whether two outcomes are the same value, or failures that stand in a relation. -/
inductive AgreeUpTo {ε α : Type} (failures : ε → ε → Prop) :
    Except ε α → Except ε α → Prop
  | value (value : α) : AgreeUpTo failures (.ok value) (.ok value)
  | failure {left right : ε} (alike : failures left right) :
      AgreeUpTo failures (.error left) (.error right)

/-- Whether two outcomes are the same value, or failures of whatever details. -/
abbrev SameButDetail {ε α : Type} (left right : Except ε α) : Prop :=
  AgreeUpTo (fun _ _ => True) left right

theorem AgreeUpTo.exists_eq {ε α : Type} {failures : ε → ε → Prop} {left right : Except ε α}
    (agree : AgreeUpTo failures left right) :
    (∃ value, left = .ok value ∧ right = .ok value) ∨
      ∃ leftError rightError, left = .error leftError ∧ right = .error rightError ∧
        failures leftError rightError := by
  cases agree with
  | value value => exact Or.inl ⟨value, rfl, rfl⟩
  | failure alike => exact Or.inr ⟨_, _, rfl, rfl, alike⟩

theorem AgreeUpTo.map {ε α β : Type} {failures : ε → ε → Prop} {left right : Except ε α}
    (agree : AgreeUpTo failures left right) (answer : α → β) :
    AgreeUpTo failures (left.map answer) (right.map answer) := by
  cases agree with
  | value value => exact .value (answer value)
  | failure alike => exact .failure alike

/-- Whether two runs have outcomes that agree up to failures, and leave states that
stand in a relation. -/
structure AgreeOn {ε α σ : Type} (failures : ε → ε → Prop) (states : σ → σ → Prop)
    (left right : Except ε α × σ) : Prop where
  outcome : AgreeUpTo failures left.1 right.1
  state : states left.2 right.2

theorem AgreeOn.exists_eq {ε α σ : Type} {failures : ε → ε → Prop} {states : σ → σ → Prop}
    {left right : Except ε α × σ} (agree : AgreeOn failures states left right) :
    (∃ value leftNext rightNext, left = (.ok value, leftNext) ∧ right = (.ok value, rightNext) ∧
      states leftNext rightNext) ∨
    ∃ leftError rightError leftNext rightNext, left = (.error leftError, leftNext) ∧
      right = (.error rightError, rightNext) ∧ failures leftError rightError ∧
      states leftNext rightNext := by
  obtain ⟨leftOutcome, leftNext⟩ := left
  obtain ⟨rightOutcome, rightNext⟩ := right
  obtain ⟨outcome, state⟩ := agree
  cases outcome with
  | value value => exact Or.inl ⟨value, _, _, rfl, rfl, state⟩
  | failure alike => exact Or.inr ⟨_, _, _, _, rfl, rfl, alike, state⟩

/-- What is made of a value has no part in the agreement. -/
theorem AgreeOn.map {ε α β σ : Type} {failures : ε → ε → Prop} {states : σ → σ → Prop}
    {left right : Except ε α × σ} (agree : AgreeOn failures states left right) (answer : α → β) :
    AgreeOn failures states (left.1.map answer, left.2) (right.1.map answer, right.2) :=
  ⟨agree.outcome.map answer, agree.state⟩

theorem SameButDetail.of {ε α : Type} (outcome : Except ε α) : SameButDetail outcome outcome := by
  cases outcome with
  | error error => exact .failure trivial
  | ok value => exact .value value

/-- Whether two errors have the same cause: the text of a scope that failed and the
failure of a store are details. -/
inductive AccessError.SameCause : AccessError → AccessError → Prop
  | same (error : AccessError) : SameCause error error
  | scopeFailed (scope : ScopeName) (resource : ResourceType) (left right : String) :
      SameCause (.scopeFailed scope resource left) (.scopeFailed scope resource right)
  | store (left right : StoreError) : SameCause (.store left) (.store right)

/-- Whether two outcomes are the same value, or errors of the same cause. -/
abbrev SameAnswer {α : Type} (left right : Except AccessError α) : Prop :=
  AgreeUpTo AccessError.SameCause left right

theorem SameAnswer.of {α : Type} (answer : Except AccessError α) : SameAnswer answer answer := by
  cases answer with
  | error error => exact .failure (.same error)
  | ok value => exact .value value

/-! ## Rules -/

/-- Whether two tests of records are the same but for details. -/
def RecordFunction.SameButDetail (left right : RecordFunction) : Prop :=
  ∀ context record values, RowAccess.SameButDetail (left context record values)
    (right context record values)

def SubsetFunction.SameButDetail (left right : SubsetFunction) : Prop :=
  ∀ context subset values, RowAccess.SameButDetail (left context subset values)
    (right context subset values)

inductive DeleteHandler.SameButDetail : DeleteHandler → DeleteHandler → Prop
  | object {left right : RecordFunction} (object : left.SameButDetail right) :
      SameButDetail (.object left) (.object right)
  | subset {left right : SubsetFunction} (subset : left.SameButDetail right) :
      SameButDetail (.subset left) (.subset right)
  | either {left right : RecordFunction} {leftSubset rightSubset : SubsetFunction}
      (object : left.SameButDetail right) (subset : leftSubset.SameButDetail rightSubset) :
      SameButDetail (.either left leftSubset) (.either right rightSubset)

structure ScopeHandlers.SameButDetail (left right : ScopeHandlers) : Prop where
  view : Option.Rel (fun left right : ViewFunction =>
    ∀ context, RowAccess.SameButDetail (left context) (right context)) left.view right.view
  add : Option.Rel RecordFunction.SameButDetail left.add right.add
  change : Option.Rel RecordFunction.SameButDetail left.change right.change
  delete : Option.Rel DeleteHandler.SameButDetail left.delete right.delete

inductive ScopeRule.SameButDetail : ScopeRule → ScopeRule → Prop
  | fixed (filter : Filter) : SameButDetail (.fixed filter) (.fixed filter)
  | dynamic {left right : DynamicScope}
      (same : ∀ context, RowAccess.SameButDetail (left context) (right context)) :
      SameButDetail (.dynamic left) (.dynamic right)
  | handlers {left right : ScopeHandlers} (same : left.SameButDetail right) :
      SameButDetail (.handlers left) (.handlers right)
  | composite (members : List ScopeName) :
      SameButDetail (.composite members) (.composite members)

/-- Whether two registries have the same names, and rules that are the same but for
details behind them. -/
structure Registry.SameButDetail (left right : Registry) : Prop where
  permissionResource : ∀ resource,
    left.permissionResource resource = right.permissionResource resource
  registered : ∀ resource scope, Option.Rel ScopeRule.SameButDetail
    (left.registered? resource scope) (right.registered? resource scope)
  provided : ∀ resource scope, Option.Rel ScopeRule.SameButDetail
    (left.provided? resource scope) (right.provided? resource scope)

def SubsetResolver.SameButDetail (left right : SubsetResolver) : Prop :=
  ∀ subset, RowAccess.SameButDetail (left subset) (right subset)

structure Authority.SameButDetail (left right : Authority) : Prop where
  registry : left.registry.SameButDetail right.registry
  resolver : left.resolver.SameButDetail right.resolver

/-- A name resolves to rules that are the same but for details, or to neither. -/
theorem Registry.SameButDetail.resolve {left right : Registry} (same : left.SameButDetail right)
    (resource : ResourceType) (scope : ScopeName) (action : Action) :
    (∃ leftRule rightRule, left.resolve resource scope action = .ok leftRule ∧
      right.resolve resource scope action = .ok rightRule ∧ leftRule.SameButDetail rightRule) ∨
    (∃ error, left.resolve resource scope action = .error error ∧
      right.resolve resource scope action = .error error) := by
  have registered := same.registered resource scope
  have provided := same.provided resource scope
  unfold Registry.resolve
  generalize left.registered? resource scope = leftRegistered at registered ⊢
  generalize right.registered? resource scope = rightRegistered at registered ⊢
  cases registered with
  | some rules => exact Or.inl ⟨_, _, rfl, rfl, rules⟩
  | none =>
      by_cases isAll : scope = ScopeName.all
      · simp only [if_pos isAll]
        exact Or.inl ⟨_, _, rfl, rfl, .fixed _⟩
      · simp only [if_neg isAll]
        generalize left.provided? resource scope = leftProvided at provided ⊢
        generalize right.provided? resource scope = rightProvided at provided ⊢
        cases provided with
        | some rules => exact Or.inl ⟨_, _, rfl, rfl, rules⟩
        | none => exact Or.inr ⟨_, rfl, rfl⟩

/-! ## Relations -/

def RelatedLookup.SameButDetail (left right : RelatedLookup) : Prop :=
  ∀ resource field key, RowAccess.SameButDetail (left resource field key)
    (right resource field key)

section Relations

variable {left right : RelatedLookup} (same : left.SameButDetail right)
variable (resource : ResourceType) (path : FieldPath)

include same

theorem Relation.fetch_same (key : Json) :
    SameButDetail (Relation.fetch ⟨resource, path, left⟩ key)
      (Relation.fetch ⟨resource, path, right⟩ key) := by
  unfold Relation.fetch
  dsimp only
  split
  next fields => exact .value _
  next =>
    rcases (same resource path.first key).exists_eq with
      ⟨found, isLeft, isRight⟩ | ⟨_, _, isLeft, isRight, _⟩
    · rw [isLeft, isRight]
      exact .value found
    · rw [isLeft, isRight]
      exact .failure trivial

theorem Relation.reaches_same (key : Option Json) (absent : Bool) :
    SameButDetail (Relation.reaches ⟨resource, path, left⟩ key absent)
      (Relation.reaches ⟨resource, path, right⟩ key absent) := by
  unfold Relation.reaches
  dsimp only
  cases path.rest? with
  | none => exact .value _
  | some rest =>
      cases key with
      | none => exact .value _
      | some value =>
          dsimp only
          rcases (Relation.fetch_same same resource path value).exists_eq with
            ⟨target, isLeft, isRight⟩ | ⟨_, _, isLeft, isRight, _⟩
          · rw [isLeft, isRight]
            cases target <;> exact .value _
          · rw [isLeft, isRight]
            exact .failure trivial

theorem Relation.changeAllowed_same (record : Record) (values : Fields) :
    SameButDetail (Relation.changeAllowed ⟨resource, path, left⟩ record values)
      (Relation.changeAllowed ⟨resource, path, right⟩ record values) := by
  have current : SameButDetail (Relation.deleteAllowed ⟨resource, path, left⟩ record)
      (Relation.deleteAllowed ⟨resource, path, right⟩ record) :=
    Relation.reaches_same same resource path _ false
  unfold Relation.changeAllowed
  rcases current.exists_eq with ⟨allowed, isLeft, isRight⟩ | ⟨_, _, isLeft, isRight, _⟩
  · rw [isLeft, isRight]
    cases allowed with
    | false => exact .value false
    | true => exact Relation.reaches_same same resource path _ true
  · rw [isLeft, isRight]
    exact .failure trivial

theorem Relation.rule_same :
    (Relation.rule ⟨resource, path, left⟩).SameButDetail
      (Relation.rule ⟨resource, path, right⟩) :=
  .handlers
    { view := .some (fun _ => .value _)
      add := .some (fun _ _ _ => Relation.reaches_same same resource path _ true)
      change := .some (fun _ record values =>
        Relation.changeAllowed_same same resource path record values)
      delete := .some (.object (fun _ _ _ => Relation.reaches_same same resource path _ false)) }

/-- Relation scopes over look-ups that are the same but for details are so too. -/
theorem RelationScopes.provider_same (paths : OrderedMap ScopeName FieldPath) (scope : ScopeName) :
    Option.Rel ScopeRule.SameButDetail
      (RelationScopes.provider ⟨paths, left⟩ resource scope)
      (RelationScopes.provider ⟨paths, right⟩ resource scope) := by
  unfold RelationScopes.provider RelationScopes.path?
  cases paths.find? scope with
  | none => exact .none
  | some path => exact .some (Relation.rule_same same resource path)

end Relations

/-! ## Filters -/

/-- An inquiry that goes on alike from alike beginnings ends alike. -/
theorem Inquiry.bind_same {α β : Type} {left right : Inquiry α} {leftNext rightNext : α → Inquiry β}
    (first : SameButDetail left.outcome right.outcome)
    (next : ∀ value, SameButDetail (leftNext value).outcome (rightNext value).outcome) :
    SameButDetail (left.bind leftNext).outcome (right.bind rightNext).outcome := by
  obtain ⟨leftOutcome, leftAsked⟩ := left
  obtain ⟨rightOutcome, rightAsked⟩ := right
  change SameButDetail leftOutcome rightOutcome at first
  cases first with
  | value value => exact next value
  | failure => exact .failure trivial

theorem Inquiry.keysOf_same {left right : SubsetResolver} (same : left.SameButDetail right)
    (subset : Subset) :
    SameButDetail (Inquiry.keysOf left subset).outcome (Inquiry.keysOf right subset).outcome := by
  unfold Inquiry.keysOf
  split
  · exact .value _
  · exact same subset

section Filters

variable {left right : SubsetResolver} (record : Record)

mutual

/-- By the structure of filters: only membership in a subset asks a resolver. -/
theorem Filter.evaluate_same (same : left.SameButDetail right) : (filter : Filter) →
    SameButDetail (Filter.evaluate left record filter).outcome
      (Filter.evaluate right record filter).outcome
  | .always => .value true
  | .never => .value false
  | .all children => by
      unfold Filter.evaluate
      exact evaluateAll_same same children
  | .any children => by
      unfold Filter.evaluate
      exact evaluateAny_same same children
  | .not child => by
      unfold Filter.evaluate
      exact Inquiry.bind_same (evaluate_same same child) (fun _ => .value _)
  | .condition test => .value _
  | .keyIn subset => by
      unfold Filter.evaluate
      exact Inquiry.bind_same (Inquiry.keysOf_same same subset) (fun _ => .value _)

theorem Filter.evaluateAll_same (same : left.SameButDetail right) : (children : List Filter) →
    SameButDetail (Filter.evaluateAll left record children).outcome
      (Filter.evaluateAll right record children).outcome
  | [] => .value true
  | child :: rest => by
      unfold Filter.evaluateAll
      refine Inquiry.bind_same (evaluate_same same child) (fun holds => ?_)
      cases holds with
      | false => exact .value false
      | true => exact evaluateAll_same same rest

theorem Filter.evaluateAny_same (same : left.SameButDetail right) : (children : List Filter) →
    SameButDetail (Filter.evaluateAny left record children).outcome
      (Filter.evaluateAny right record children).outcome
  | [] => .value false
  | child :: rest => by
      unfold Filter.evaluateAny
      refine Inquiry.bind_same (evaluate_same same child) (fun holds => ?_)
      cases holds with
      | false => exact evaluateAny_same same rest
      | true => exact .value true

end

end Filters

/-! ## Verdicts -/

namespace WriteRequest

variable (request : WriteRequest) (scope : ScopeName)

theorem filterHolds_same {left right : SubsetResolver} (same : left.SameButDetail right)
    (filter : Filter) :
    SameAnswer (request.filterHolds left filter) (request.filterHolds right filter) := by
  unfold filterHolds Filter.admits
  rcases (Filter.evaluate_same request.candidate same filter).exists_eq with
    ⟨holds, isLeft, isRight⟩ | ⟨_, _, isLeft, isRight, _⟩
  · rw [isLeft, isRight]
    exact .value holds
  · rw [isLeft, isRight]
    exact .failure (.store _ _)

theorem named_same {left right : Except ScopeFailure Bool} (same : SameButDetail left right) :
    SameAnswer (request.named scope left) (request.named scope right) := by
  cases same with
  | value holds => exact .value holds
  | failure => exact .failure (.scopeFailed scope _ _ _)

theorem recordVerdict_same {left right : Option RecordFunction}
    (same : Option.Rel RecordFunction.SameButDetail left right) :
    SameAnswer (request.recordVerdict scope left).outcome
      (request.recordVerdict scope right).outcome := by
  cases same with
  | none => exact .failure (.same _)
  | some function => exact request.named_same scope (function _ _ _)

/-- A fallback is used, and stands or falls, in both cases. -/
theorem deleteVerdict_same {left right : Option DeleteHandler}
    (same : Option.Rel DeleteHandler.SameButDetail left right) :
    SameAnswer (request.deleteVerdict scope left).outcome
      (request.deleteVerdict scope right).outcome := by
  cases same with
  | none => exact .failure (.same _)
  | some handler =>
      cases handler with
      | object object => exact request.named_same scope (object _ _ _)
      | subset subset => exact request.named_same scope (subset _ _ _)
      | either object subset =>
          unfold deleteVerdict
          dsimp only
          rcases (object request.context request.record request.values).exists_eq with
            ⟨holds, isLeft, isRight⟩ | ⟨_, _, isLeft, isRight, _⟩
          · rw [isLeft, isRight]
            exact .value holds
          · rw [isLeft, isRight]
            dsimp only
            rcases (subset request.context request.singleRow request.values).exists_eq with
              ⟨holds, insteadLeft, insteadRight⟩ | ⟨_, _, insteadLeft, insteadRight, _⟩
            · rw [insteadLeft, insteadRight]
              exact .value holds
            · rw [insteadLeft, insteadRight]
              exact .failure (.scopeFailed scope _ _ _)

theorem handlerVerdict_same {left right : ScopeHandlers} (same : left.SameButDetail right) :
    SameAnswer (request.handlerVerdict scope left).outcome
      (request.handlerVerdict scope right).outcome := by
  unfold handlerVerdict
  split
  next => exact request.recordVerdict_same scope same.add
  next => exact request.recordVerdict_same scope same.change
  next => exact request.deleteVerdict_same scope same.delete
  next => exact .failure (.same _)

end WriteRequest

theorem Verdict.allOf_same {left right : ScopeName → Verdict Bool}
    (same : ∀ member, SameAnswer (left member).outcome (right member).outcome)
    (members : List ScopeName) :
    SameAnswer (Verdict.allOf left members).outcome (Verdict.allOf right members).outcome := by
  induction members with
  | nil => exact .value true
  | cons member rest inductionHypothesis =>
      unfold Verdict.allOf
      dsimp only
      rcases (same member).exists_eq with
        ⟨holds, isLeft, isRight⟩ | ⟨_, _, isLeft, isRight, alike⟩
      · rw [isLeft, isRight]
        cases holds with
        | false => exact .value false
        | true => exact inductionHypothesis
      · rw [isLeft, isRight]
        exact .failure alike

namespace Authority

variable {left right : Authority}

/-- A scope has the same verdict as soon as the members of composites have it with
one composite less to pass. -/
theorem scopeVerdict_same_of_members (same : left.SameButDetail right) (request : WriteRequest)
    (remaining : Nat) (scope : ScopeName)
    (members : ∀ next, remaining = next + 1 → ∀ member,
      SameAnswer (left.scopeVerdict request next member).outcome
        (right.scopeVerdict request next member).outcome) :
    SameAnswer (left.scopeVerdict request remaining scope).outcome
      (right.scopeVerdict request remaining scope).outcome := by
  unfold scopeVerdict
  rcases same.registry.resolve request.context.resource scope request.context.action with
    ⟨leftRule, rightRule, isLeft, isRight, rules⟩ | ⟨error, isLeft, isRight⟩
  · rw [isLeft, isRight]
    cases rules with
    | fixed filter => exact request.filterHolds_same same.resolver filter
    | dynamic functions =>
        dsimp only
        rcases (functions request.context).exists_eq with
          ⟨found, givesLeft, givesRight⟩ | ⟨_, _, givesLeft, givesRight, _⟩
        · rw [givesLeft, givesRight]
          cases found with
          | none => exact .value false
          | some filter => exact request.filterHolds_same same.resolver filter
        · rw [givesLeft, givesRight]
          exact .failure (.scopeFailed scope _ _ _)
    | handlers handlers => exact request.handlerVerdict_same scope handlers
    | composite names =>
        cases remaining with
        | zero => exact .failure (.same _)
        | succ next => exact Verdict.allOf_same (members next rfl) names
  · rw [isLeft, isRight]
    exact .failure (.same error)

theorem scopeVerdict_same (same : left.SameButDetail right) (request : WriteRequest)
    (remaining : Nat) (scope : ScopeName) :
    SameAnswer (left.scopeVerdict request remaining scope).outcome
      (right.scopeVerdict request remaining scope).outcome := by
  induction remaining generalizing scope with
  | zero => exact scopeVerdict_same_of_members same request 0 scope nofun
  | succ next inductionHypothesis =>
      refine scopeVerdict_same_of_members same request (next + 1) scope (fun below isNext => ?_)
      cases isNext
      exact inductionHypothesis

end Authority

/-! ## Polls -/

theorem Poll.collect_same {α : Type} {left right : ScopeName → Verdict α}
    (same : ∀ scope, SameAnswer (left scope).outcome (right scope).outcome)
    (scopes : List ScopeName) :
    SameAnswer (Poll.collect left scopes).outcome (Poll.collect right scopes).outcome := by
  induction scopes with
  | nil => exact .value []
  | cons scope rest inductionHypothesis =>
      rw [Poll.outcome_collect_cons, Poll.outcome_collect_cons]
      rcases (same scope).exists_eq with ⟨value, isLeft, isRight⟩ | ⟨_, _, isLeft, isRight, alike⟩
      · rw [isLeft, isRight]
        exact inductionHypothesis.map _
      · rw [isLeft, isRight]
        exact .failure alike

/-- A decision on a write is the same but for details. -/
theorem Authority.tally_same {left right : Authority} (same : left.SameButDetail right)
    (request : WriteRequest) (grants : OrderedSet ScopeName) :
    SameAnswer (Authority.tally request (left.writePoll request grants))
      (Authority.tally request (right.writePoll request grants)) := by
  have polls : SameAnswer (left.writePoll request grants).outcome
      (right.writePoll request grants).outcome :=
    Poll.collect_same (scopeVerdict_same same request maxCompositionDepth) grants.toList
  unfold Authority.tally
  rcases polls.exists_eq with ⟨outcomes, isLeft, isRight⟩ | ⟨_, _, isLeft, isRight, alike⟩
  · rw [isLeft, isRight]
    exact SameAnswer.of _
  · rw [isLeft, isRight]
    exact .failure alike

namespace Registry

variable {left right : Registry}

theorem viewScope_same (same : left.SameButDetail right) (context : ScopeContext)
    (scope : ScopeName) :
    SameAnswer (left.viewScope context scope) (right.viewScope context scope) := by
  unfold viewScope
  rcases same.resolve context.resource scope .view with
    ⟨leftRule, rightRule, isLeft, isRight, rules⟩ | ⟨error, isLeft, isRight⟩
  · rw [isLeft, isRight]
    cases rules with
    | fixed filter => exact .value _
    | dynamic functions =>
        dsimp only
        rcases (functions context).exists_eq with
          ⟨found, givesLeft, givesRight⟩ | ⟨_, _, givesLeft, givesRight, _⟩
        · rw [givesLeft, givesRight]
          exact .value _
        · rw [givesLeft, givesRight]
          exact .failure (.scopeFailed scope _ _ _)
    | @handlers left right handlers =>
        have views := handlers.view
        dsimp only
        generalize left.view = leftView at views ⊢
        generalize right.view = rightView at views ⊢
        cases views with
        | none => exact .failure (.same _)
        | some functions =>
            dsimp only
            rcases (functions context).exists_eq with
              ⟨found, givesLeft, givesRight⟩ | ⟨_, _, givesLeft, givesRight, _⟩
            · rw [givesLeft, givesRight]
              exact .value _
            · rw [givesLeft, givesRight]
              exact .failure (.scopeFailed scope _ _ _)
    | composite names => exact .failure (.same _)
  · rw [isLeft, isRight]
    exact .failure (.same error)

/-- The filter on a view is the same but for details. -/
theorem viewFilter_same (same : left.SameButDetail right) (context : ScopeContext)
    (grants : OrderedSet ScopeName) :
    SameAnswer (left.viewFilter context grants) (right.viewFilter context grants) := by
  unfold viewFilter
  split
  · exact .failure (.same _)
  · exact (Poll.collect_same (viewScope_same same context) grants.toList).map ViewScope.combine

end Registry

end RowAccess
