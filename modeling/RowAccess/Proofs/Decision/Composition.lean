import RowAccess.Proofs.Decision.Turn
import RowAccess.Proofs.Filter.Simplification
import RowAccess.Proofs.Scope.Unfolding

/-!
Contract: a composite scope is judged by the leaves of its unfolding.

Where no path through its composites is longer than the limit, a scope is judged
by its leaves alone, taken depth first and from left to right up to the first
that does not hold. Where some path is longer, a scope never holds. Leaves that
are fixed filters decide as the one filter that joins them.

Owns:
- the rules of judgement by depth, and their only result.
- the verdict of a scope by the ends of its unfolding.
-/

namespace RowAccess

namespace Authority

variable {authority : Authority} {request : WriteRequest} {scope : ScopeName}

/-- The composites among the scopes of a write. -/
def composition (authority : Authority) (request : WriteRequest) : Composition :=
  authority.registry.composition request.context.resource request.context.action

/-! ## Judging one scope -/

theorem resolve_of_composition {members : List ScopeName}
    (composed : authority.composition request scope = some members) :
    authority.registry.resolve request.context.resource scope request.context.action =
      .ok (.composite members) := by
  unfold composition Registry.composition at composed
  split at composed
  next resolved =>
    rw [resolved, Option.some.inj composed]
  next => cases composed

theorem scopeVerdict_of_leaf (limit : Nat) (isLeaf : authority.composition request scope = none) :
    authority.scopeVerdict request limit scope = authority.scopeVerdict request 0 scope := by
  unfold composition Registry.composition at isLeaf
  unfold scopeVerdict
  split
  next => rfl
  next => rfl
  next => rfl
  next => rfl
  next resolved =>
    rw [resolved] at isLeaf
    cases isLeaf

theorem scopeVerdict_beyond_limit {members : List ScopeName}
    (composed : authority.composition request scope = some members) :
    authority.scopeVerdict request 0 scope =
      Verdict.of (.error (.compositionTooDeep scope request.context.resource)) := by
  unfold scopeVerdict
  rw [resolve_of_composition composed]

theorem scopeVerdict_of_composite {members : List ScopeName} (limit : Nat)
    (composed : authority.composition request scope = some members) :
    authority.scopeVerdict request (limit + 1) scope =
      Verdict.allOf (authority.scopeVerdict request limit) members := by
  rw [scopeVerdict, resolve_of_composition composed]

/-- A scope is judged by the ends of its unfolding, in their order. -/
theorem scopeVerdict_eq_allOf_ends (limit : Nat) (scope : ScopeName) :
    authority.scopeVerdict request limit scope =
      Verdict.allOf (authority.scopeVerdict request 0)
        ((authority.composition request).ends limit scope) := by
  have single : ∀ stop, Verdict.allOf (authority.scopeVerdict request 0) [stop] =
      authority.scopeVerdict request 0 stop := by
    intro stop
    by_cases holds : (authority.scopeVerdict request 0 stop).outcome = .ok true
    · rw [Verdict.allOf_cons_of_true [] holds]
      simp [Verdict.allOf, Verdict.of, ← holds]
    · exact Verdict.allOf_cons_of_not_true [] holds
  induction limit generalizing scope with
  | zero => exact (single scope).symm
  | succ limit inductionHypothesis =>
      cases composed : authority.composition request scope with
      | none => rw [Composition.ends_of_leaf _ composed, single, scopeVerdict_of_leaf _ composed]
      | some members =>
          rw [scopeVerdict_of_composite limit composed,
            Composition.ends_of_composite limit composed, Verdict.allOf_flatMap]
          exact Verdict.allOf_congr (fun member _ => inductionHypothesis member)

/-! ## Judgement by depth -/

/-- The rules by which a scope is judged below a number of composites. A
judgement is a finite derivation, which nothing in the rules but the limit on
composites provides for. -/
inductive Judged (authority : Authority) (request : WriteRequest) :
    Nat → ScopeName → Verdict Bool → Prop
  | leaf {depth : Nat} {scope : ScopeName}
      (isLeaf : authority.composition request scope = none) :
      Judged authority request depth scope (authority.scopeVerdict request 0 scope)
  | tooDeep {depth : Nat} {scope : ScopeName} {members : List ScopeName}
      (composed : authority.composition request scope = some members)
      (deep : maxCompositionDepth ≤ depth) :
      Judged authority request depth scope
        (Verdict.of (.error (.compositionTooDeep scope request.context.resource)))
  | composite {depth : Nat} {scope : ScopeName} {members : List ScopeName}
      {judge : ScopeName → Verdict Bool}
      (composed : authority.composition request scope = some members)
      (shallow : depth < maxCompositionDepth)
      (each : ∀ member ∈ members, Judged authority request (depth + 1) member (judge member)) :
      Judged authority request depth scope (Verdict.allOf judge members)

theorem Judged.eq {depth : Nat} {verdict : Verdict Bool}
    (judged : authority.Judged request depth scope verdict) :
    verdict = authority.scopeVerdict request (maxCompositionDepth - depth) scope := by
  induction judged with
  | leaf isLeaf => exact (scopeVerdict_of_leaf _ isLeaf).symm
  | tooDeep composed deep =>
      rw [Nat.sub_eq_zero_of_le deep, scopeVerdict_beyond_limit composed]
  | @composite depth scope members judge composed shallow each inductionHypothesis =>
      have remaining : maxCompositionDepth - depth = maxCompositionDepth - (depth + 1) + 1 := by
        omega
      rw [remaining, scopeVerdict_of_composite _ composed]
      exact Verdict.allOf_congr inductionHypothesis

theorem judged_scopeVerdict (authority : Authority) (request : WriteRequest) (depth : Nat)
    (scope : ScopeName) :
    authority.Judged request depth scope
      (authority.scopeVerdict request (maxCompositionDepth - depth) scope) := by
  generalize remains : maxCompositionDepth - depth = remaining
  induction remaining generalizing depth scope with
  | zero =>
      cases composed : authority.composition request scope with
      | none => exact .leaf composed
      | some members =>
          rw [scopeVerdict_beyond_limit composed]
          exact .tooDeep composed (by omega)
  | succ remaining inductionHypothesis =>
      cases composed : authority.composition request scope with
      | none =>
          rw [scopeVerdict_of_leaf _ composed]
          exact .leaf composed
      | some members =>
          rw [scopeVerdict_of_composite _ composed]
          apply Judged.composite composed (by omega)
          intro member _
          exact inductionHypothesis (depth + 1) member (by omega)

/-! ## Paths beyond the limit -/

theorem outcome_beyond_limit {stop : ScopeName} {members : List ScopeName}
    (composed : authority.composition request stop = some members) :
    (authority.scopeVerdict request 0 stop).outcome =
      .error (.compositionTooDeep stop request.context.resource) := by
  rw [scopeVerdict_beyond_limit composed]
  rfl

theorem isLeaf_of_holds {leaf : ScopeName}
    (holds : (authority.scopeVerdict request 0 leaf).outcome = .ok true) :
    authority.composition request leaf = none := by
  cases composed : authority.composition request leaf with
  | none => rfl
  | some members =>
      rw [outcome_beyond_limit composed] at holds
      cases holds

/-- A scope that holds does so by all the ends of its unfolding, which are leaves. -/
theorem ends_hold {limit : Nat}
    (holds : (authority.scopeVerdict request limit scope).outcome = .ok true) :
    ∀ leaf ∈ (authority.composition request).ends limit scope,
      authority.composition request leaf = none ∧
        (authority.scopeVerdict request 0 leaf).outcome = .ok true := by
  rw [scopeVerdict_eq_allOf_ends, Verdict.outcome_allOf_eq_true] at holds
  intro leaf isEnd
  exact ⟨isLeaf_of_holds (holds leaf isEnd), holds leaf isEnd⟩

/-- Where some path is too long, a scope is decided by its first leaf that does
not hold or by the first composite that is too deep. -/
theorem scopeVerdict_of_not_within {limit : Nat}
    (beyond : ¬ (authority.composition request).Within limit scope) :
    (authority.scopeVerdict request limit scope).outcome ≠ .ok true ∧
    ∃ before stop after,
      (authority.composition request).ends limit scope = before ++ stop :: after ∧
      (∀ leaf ∈ before, authority.composition request leaf = none ∧
        (authority.scopeVerdict request 0 leaf).outcome = .ok true) ∧
      (authority.composition request stop = none ∧
          (authority.scopeVerdict request limit scope).outcome =
            (authority.scopeVerdict request 0 stop).outcome ∨
        (authority.scopeVerdict request limit scope).outcome =
          .error (.compositionTooDeep stop request.context.resource)) := by
  have failing : ∃ stop ∈ (authority.composition request).ends limit scope,
      (authority.scopeVerdict request 0 stop).outcome ≠ .ok true := by
    rw [Composition.within_iff_ends] at beyond
    push Not at beyond
    obtain ⟨stop, isEnd, composed⟩ := beyond
    obtain ⟨members, composed⟩ := Option.ne_none_iff_exists'.1 composed
    refine ⟨stop, isEnd, ?_⟩
    rw [outcome_beyond_limit composed]
    simp
  obtain ⟨before, stop, after, split, earlier, unheld⟩ := Verdict.exists_first_unheld failing
  have decided : (authority.scopeVerdict request limit scope).outcome =
      (authority.scopeVerdict request 0 stop).outcome := by
    rw [scopeVerdict_eq_allOf_ends, split]
    exact Verdict.outcome_allOf_of_first earlier unheld
  refine ⟨decided ▸ unheld, before, stop, after, split, ?_, ?_⟩
  · intro leaf isBefore
    exact ⟨isLeaf_of_holds (earlier leaf isBefore), earlier leaf isBefore⟩
  · cases composed : authority.composition request stop with
    | none => exact Or.inl ⟨rfl, decided⟩
    | some members => exact Or.inr (decided.trans (outcome_beyond_limit composed))

/-! ## Leaves that are fixed filters -/

theorem scopeVerdict_of_fixed {filter : Filter} (limit : Nat)
    (fixed : authority.registry.resolve request.context.resource scope request.context.action =
      .ok (.fixed filter)) :
    authority.scopeVerdict request limit scope =
      Verdict.of (request.filterHolds authority.resolver filter) := by
  unfold scopeVerdict
  rw [fixed]

theorem composition_of_fixed {filter : Filter}
    (fixed : authority.registry.resolve request.context.resource scope request.context.action =
      .ok (.fixed filter)) : authority.composition request scope = none := by
  unfold composition Registry.composition
  rw [fixed]

theorem filterHolds_all_cons (request : WriteRequest) (resolver : SubsetResolver)
    (child : Filter) (rest : List Filter) :
    request.filterHolds resolver (.all (child :: rest)) =
      match request.filterHolds resolver child with
      | .ok true => request.filterHolds resolver (.all rest)
      | outcome => outcome := by
  unfold WriteRequest.filterHolds
  rw [Filter.admits_all_cons]
  cases child.admits resolver request.candidate with
  | error error => rfl
  | ok holds => cases holds <;> rfl

/-- Filters judged in turn are their conjunction, errors included. -/
theorem allOf_filterHolds (request : WriteRequest) (resolver : SubsetResolver)
    (filterOf : ScopeName → Filter) (scopes : List ScopeName) :
    Verdict.allOf (fun scope => Verdict.of (request.filterHolds resolver (filterOf scope))) scopes =
      Verdict.of (request.filterHolds resolver (.all (scopes.map filterOf))) := by
  induction scopes with
  | nil => rfl
  | cons scope rest inductionHypothesis =>
      rw [List.map_cons, filterHolds_all_cons]
      by_cases holds : request.filterHolds resolver (filterOf scope) = .ok true
      · rw [Verdict.allOf_cons_of_true rest holds, inductionHypothesis, holds]
        rfl
      · rw [Verdict.allOf_cons_of_not_true rest holds]
        split
        · contradiction
        · rfl

/-- The one filter that joins the filters of a scope's leaves as its composites
join their members. -/
def nestedFilter (authority : Authority) (request : WriteRequest) (filterOf : ScopeName → Filter) :
    Nat → ScopeName → Filter :=
  (authority.composition request).unfold filterOf .all

theorem scopeVerdict_of_fixed_leaves {filterOf : ScopeName → Filter} {limit : Nat}
    (fixed : ∀ leaf ∈ (authority.composition request).ends limit scope,
      authority.registry.resolve request.context.resource leaf request.context.action =
        .ok (.fixed (filterOf leaf))) :
    authority.scopeVerdict request limit scope =
      Verdict.of (request.filterHolds authority.resolver
        (authority.nestedFilter request filterOf limit scope)) := by
  induction limit generalizing scope with
  | zero => exact scopeVerdict_of_fixed 0 (fixed scope List.mem_cons_self)
  | succ limit inductionHypothesis =>
      cases composed : authority.composition request scope with
      | none =>
          rw [Composition.ends_of_leaf _ composed, List.forall_mem_singleton] at fixed
          unfold nestedFilter
          rw [Composition.unfold_of_leaf _ composed]
          exact scopeVerdict_of_fixed _ fixed
      | some members =>
          rw [Composition.ends_of_composite limit composed] at fixed
          have each : ∀ member ∈ members, authority.scopeVerdict request limit member =
              Verdict.of (request.filterHolds authority.resolver
                (authority.nestedFilter request filterOf limit member)) := by
            intro member isMember
            apply inductionHypothesis
            intro leaf isEnd
            exact fixed leaf (List.mem_flatMap.2 ⟨member, isMember, isEnd⟩)
          unfold nestedFilter at each ⊢
          rw [scopeVerdict_of_composite limit composed,
            Composition.unfold_of_composite limit composed, Verdict.allOf_congr each]
          exact allOf_filterHolds request authority.resolver _ members

/-! ## Scopes and their leaves -/

/-- A leaf that holds does so by a rule that is no composite. -/
theorem exists_rule_of_leaf {leaf : ScopeName}
    (isLeaf : authority.composition request leaf = none)
    (holds : (authority.scopeVerdict request 0 leaf).outcome = .ok true) :
    ∃ rule,
      authority.registry.resolve request.context.resource leaf request.context.action = .ok rule ∧
        ∀ members, rule ≠ .composite members := by
  cases resolved :
      authority.registry.resolve request.context.resource leaf request.context.action with
  | error error =>
      unfold scopeVerdict at holds
      rw [resolved] at holds
      cases holds
  | ok rule =>
      refine ⟨rule, rfl, ?_⟩
      rintro members rfl
      unfold composition Registry.composition at isLeaf
      rw [resolved] at isLeaf
      cases isLeaf

/-- A name that does not resolve is unknown, and fails as such. -/
theorem scopeVerdict_of_unresolved {error : AccessError} (limit : Nat)
    (unresolved : authority.registry.resolve request.context.resource scope
      request.context.action = .error error) :
    error = .unknownScope scope request.context.resource request.context.action ∧
      authority.scopeVerdict request limit scope = Verdict.of (.error error) := by
  constructor
  · unfold Registry.resolve at unresolved
    split at unresolved
    · cases unresolved
    · split at unresolved
      · cases unresolved
      · split at unresolved
        · cases unresolved
        · exact (Except.error.inj unresolved).symm
  · unfold scopeVerdict
    rw [unresolved]

/-- Judging a scope comes to one end, whatever its composites. Within the limit the
scope is decided by the leaves of its unfolding, in turn; beyond it, and so on
every cycle, it never holds. Leaves that are fixed filters decide as one filter. -/
theorem scope_decides_by_its_leaves (authority : Authority) (request : WriteRequest)
    (scope : ScopeName) :
    let resource := request.context.resource
    let action := request.context.action
    let composition := authority.composition request
    let ends := composition.ends maxCompositionDepth scope
    let alone := authority.scopeVerdict request 0
    let verdict := authority.scopeVerdict request maxCompositionDepth scope
    (∀ other, authority.Judged request 0 scope other ↔ other = verdict) ∧
    (∀ leaf error, authority.registry.resolve resource leaf action = .error error →
      error = .unknownScope leaf resource action ∧ (alone leaf).outcome = .error error) ∧
    ((∀ path, composition.Path scope path → path.length ≤ maxCompositionDepth) →
      (∀ leaf ∈ ends, composition leaf = none) ∧
      (∀ more, composition.ends (maxCompositionDepth + more) scope = ends) ∧
      Verdict.InTurn (fun leaf => (alone leaf).outcome) ends verdict.outcome ∧
      ∀ filterOf : ScopeName → Filter,
        (∀ leaf ∈ ends, authority.registry.resolve resource leaf action =
          .ok (.fixed (filterOf leaf))) →
        ∀ (other : Authority) (single : ScopeName), other.resolver = authority.resolver →
          other.registry.resolve resource single action =
            .ok (.fixed (authority.nestedFilter request filterOf maxCompositionDepth scope)) →
          other.scopeVerdict request maxCompositionDepth single = verdict) ∧
    (∀ path, composition.Path scope path →
      maxCompositionDepth < path.length ∨ ¬ path.Nodup →
      verdict.outcome ≠ .ok true ∧
      ∃ before stop after, ends = before ++ stop :: after ∧
        (∀ leaf ∈ before, composition leaf = none ∧ (alone leaf).outcome = .ok true) ∧
        (composition stop = none ∧ verdict.outcome = (alone stop).outcome ∨
          verdict.outcome = .error (.compositionTooDeep stop resource))) := by
  intro resource action composition ends alone verdict
  refine ⟨?_, ?_, ?_, ?_⟩
  · intro other
    constructor
    · exact Judged.eq
    · rintro rfl
      exact judged_scopeVerdict authority request 0 scope
  · intro leaf error unresolved
    obtain ⟨unknown, judged⟩ := scopeVerdict_of_unresolved 0 unresolved
    exact ⟨unknown, congrArg Verdict.outcome judged⟩
  · intro within
    refine ⟨Composition.within_iff_ends.1 within, Composition.unfold_add within, ?_, ?_⟩
    · have inTurn := Verdict.inTurn_allOf alone ends
      rw [← scopeVerdict_eq_allOf_ends] at inTurn
      exact inTurn
    · intro filterOf fixed other single sameResolver joined
      have decided : verdict = _ := scopeVerdict_of_fixed_leaves fixed
      rw [decided, scopeVerdict_of_fixed maxCompositionDepth joined, sameResolver]
  · intro path onward tooFar
    have beyond : ¬ composition.Within maxCompositionDepth scope := by
      rcases tooFar with long | repeated
      · intro within
        have bound := within path onward
        omega
      · exact onward.not_within_of_repeated repeated maxCompositionDepth
    exact scopeVerdict_of_not_within beyond

end Authority

/-! ## An archive with composites -/

namespace Archive

def boxes : ResourceType := ⟨"archive", "box"⟩

def small : ScopeName := ⟨"small"⟩

def light : ScopeName := ⟨"light"⟩

def portable : ScopeName := ⟨"portable"⟩

def lendable : ScopeName := ⟨"lendable"⟩

def joined : ScopeName := ⟨"joined"⟩

def endless : ScopeName := ⟨"endless"⟩

/-- The filter of each fixed scope: small boxes are the first and the second, and
light ones the first. -/
def filterOf (scope : ScopeName) : Filter :=
  if scope = small then .keyIn (.explicit (OrderedSet.ofList [⟨"1"⟩, ⟨"2"⟩]))
  else Filter.keyEquals ⟨"1"⟩

/-- Scopes of which two composites share members, one filter joins the leaves of
these, and one composite is its own member. -/
def registration : Registration where
  resource := boxes
  rules :=
    [(small, .fixed (filterOf small)),
      (light, .fixed (filterOf light)),
      (portable, .composite [small, light]),
      (lendable, .composite [portable, small]),
      (joined, .fixed (.all [.all [filterOf small, filterOf light], filterOf small])),
      (endless, .composite [small, endless])]
  permissionsVia := none
  provider := none

def authority : Authority where
  registry := (Registry.ofRegistrations [registration]).toOption.getD Registry.empty
  resolver := SubsetResolver.localOnly

def change (key : RecordKey) : WriteRequest :=
  ⟨⟨Principal.anonymous, boxes, .change, .put, none⟩, ⟨key, OrderedMap.empty⟩, OrderedMap.empty⟩

/-- The second box is refused by the second leaf, as the joined filter refuses it,
and a scope that returns to itself never holds. -/
theorem archive_composites_decide :
    (authority.composition (change ⟨"2"⟩)).ends maxCompositionDepth lendable =
      [small, light, small] ∧
    (authority.scopeVerdict (change ⟨"2"⟩) maxCompositionDepth lendable).outcome = .ok false ∧
    authority.scopeVerdict (change ⟨"2"⟩) maxCompositionDepth joined =
      authority.scopeVerdict (change ⟨"2"⟩) maxCompositionDepth lendable ∧
    (authority.composition (change ⟨"1"⟩)).Path endless [endless, endless] ∧
    (authority.scopeVerdict (change ⟨"1"⟩) maxCompositionDepth endless).outcome ≠ .ok true := by
  have leaves : (authority.composition (change ⟨"2"⟩)).ends maxCompositionDepth lendable =
      [small, light, small] := rfl
  have fixed : ∀ leaf ∈ (authority.composition (change ⟨"2"⟩)).ends maxCompositionDepth lendable,
      authority.registry.resolve boxes leaf .change = .ok (.fixed (filterOf leaf)) := by
    rw [leaves]
    intro leaf isEnd
    simp only [List.mem_cons, List.not_mem_nil, or_false] at isEnd
    rcases isEnd with rfl | rfl | rfl <;> rfl
  have within : (authority.composition (change ⟨"2"⟩)).Within maxCompositionDepth lendable :=
    Composition.within_iff_ends.2 (fun leaf isEnd =>
      Authority.composition_of_fixed (fixed leaf isEnd))
  obtain ⟨_, _, inTurn, asOneFilter⟩ :=
    (Authority.scope_decides_by_its_leaves authority (change ⟨"2"⟩) lendable).2.2.1 within
  have composed : authority.composition (change ⟨"1"⟩) endless = some [small, endless] := rfl
  have cycle : (authority.composition (change ⟨"1"⟩)).Path endless [endless, endless] :=
    .down composed (List.mem_cons_of_mem small List.mem_cons_self) (.last composed)
  have beyond := (Authority.scope_decides_by_its_leaves authority (change ⟨"1"⟩) endless).2.2.2
    [endless, endless] cycle (Or.inr (by simp))
  refine ⟨leaves, ?_, asOneFilter filterOf fixed authority joined rfl rfl, cycle, beyond.1⟩
  have smallHolds : ∀ scope ∈ [small],
      (authority.scopeVerdict (change ⟨"2"⟩) 0 scope).outcome = .ok true := by
    intro scope member
    rw [List.mem_singleton.1 member]
    rfl
  have lightRefuses : (authority.scopeVerdict (change ⟨"2"⟩) 0 light).outcome = .ok false := rfl
  rw [inTurn.stopped [small] light [small] leaves smallHolds (by rw [lightRefuses]; simp),
    lightRefuses]

end Archive

end RowAccess
