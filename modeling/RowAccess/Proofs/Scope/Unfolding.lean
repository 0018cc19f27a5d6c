import RowAccess.Scope.Registry

/-!
Contract: what a scope consists of, through the composites below it.

A composite unfolds into its members, and each of these in turn. Followed depth
first and from left to right, an unfolding ends at scopes that are no
composites, and at composites that are one too many on their path. Where no path
passes more composites than the limit, the unfolding ends at leaves only and is
the same under any greater limit. A path that meets a composite twice can be
made as long as one likes.

Owns:
- which scopes are composites, and the paths through them.
- unfolding a scope up to a limit, and where it ends.
-/

namespace RowAccess

/-- Says of every scope whether it is a composite, and of which members. -/
abbrev Composition := ScopeName → Option (List ScopeName)

/-- The composites of a resource; a name without a rule is none. -/
def Registry.composition (registry : Registry) (resource : ResourceType) (action : Action) :
    Composition := fun scope =>
  match registry.resolve resource scope action with
  | .ok (.composite members) => some members
  | _ => none

namespace Composition

variable {composition : Composition}

/-- The composites that are passed on a way down from a scope, each of them a
member of the one before it. -/
inductive Path (composition : Composition) : ScopeName → List ScopeName → Prop
  | last {scope : ScopeName} {members : List ScopeName}
      (composed : composition scope = some members) : Path composition scope [scope]
  | down {scope member : ScopeName} {members rest : List ScopeName}
      (composed : composition scope = some members) (isMember : member ∈ members)
      (onward : Path composition member rest) : Path composition scope (scope :: rest)

/-- Whether every path from a scope passes at most a number of composites. -/
def Within (composition : Composition) (limit : Nat) (scope : ScopeName) : Prop :=
  ∀ path, composition.Path scope path → path.length ≤ limit

/-- What leaves make of a scope when the members of every composite are joined.
A composite beyond the limit counts as a leaf. -/
def unfold {β : Type} (composition : Composition) (leaf : ScopeName → β) (join : List β → β) :
    Nat → ScopeName → β
  | 0, scope => leaf scope
  | limit + 1, scope =>
      match composition scope with
      | none => leaf scope
      | some members => join (members.map (composition.unfold leaf join limit))

/-- The scopes at which an unfolding ends, depth first and from left to right. -/
def ends (composition : Composition) : Nat → ScopeName → List ScopeName :=
  composition.unfold (fun scope => [scope]) List.flatten

/-! ## Unfolding -/

section Unfold

variable {β : Type} {leaf : ScopeName → β} {join : List β → β} {scope : ScopeName}

theorem unfold_of_leaf (limit : Nat) (isLeaf : composition scope = none) :
    composition.unfold leaf join limit scope = leaf scope := by
  cases limit with
  | zero => rfl
  | succ limit => simp only [unfold, isLeaf]

theorem unfold_of_composite {members : List ScopeName} (limit : Nat)
    (composed : composition scope = some members) :
    composition.unfold leaf join (limit + 1) scope =
      join (members.map (composition.unfold leaf join limit)) := by
  simp only [unfold, composed]

end Unfold

theorem ends_of_leaf {scope : ScopeName} (limit : Nat) (isLeaf : composition scope = none) :
    composition.ends limit scope = [scope] :=
  unfold_of_leaf limit isLeaf

theorem ends_of_composite {scope : ScopeName} {members : List ScopeName} (limit : Nat)
    (composed : composition scope = some members) :
    composition.ends (limit + 1) scope = members.flatMap (composition.ends limit) := by
  rw [List.flatMap_def]
  exact unfold_of_composite limit composed

/-! ## Limits -/

theorem within_of_leaf {scope : ScopeName} (limit : Nat) (isLeaf : composition scope = none) :
    composition.Within limit scope := by
  intro path onward
  cases onward with
  | last composed => simp [isLeaf] at composed
  | down composed => simp [isLeaf] at composed

theorem not_within_zero {scope : ScopeName} {members : List ScopeName}
    (composed : composition scope = some members) : ¬ composition.Within 0 scope := by
  intro within
  have short := within [scope] (.last composed)
  simp at short

theorem within_succ_iff {scope : ScopeName} {members : List ScopeName} {limit : Nat}
    (composed : composition scope = some members) :
    composition.Within (limit + 1) scope ↔
      ∀ member ∈ members, composition.Within limit member := by
  constructor
  · intro within member isMember path onward
    have bound := within (scope :: path) (.down composed isMember onward)
    simpa using bound
  · intro each path onward
    cases onward with
    | last => simp
    | down composedAgain isMember onward =>
        rw [composed] at composedAgain
        cases composedAgain
        have bound := each _ isMember _ onward
        simpa using bound

/-- Within the limit an unfolding ends at leaves only, and beyond it at some
composite. -/
theorem within_iff_ends {limit : Nat} {scope : ScopeName} :
    composition.Within limit scope ↔
      ∀ stop ∈ composition.ends limit scope, composition stop = none := by
  induction limit generalizing scope with
  | zero =>
      have single : composition.ends 0 scope = [scope] := rfl
      rw [single, List.forall_mem_singleton]
      constructor
      · intro within
        cases composed : composition scope with
        | none => rfl
        | some members => exact absurd within (not_within_zero composed)
      · exact within_of_leaf 0
  | succ limit inductionHypothesis =>
      cases composed : composition scope with
      | none =>
          rw [ends_of_leaf _ composed, List.forall_mem_singleton]
          exact iff_of_true (within_of_leaf _ composed) composed
      | some members =>
          rw [within_succ_iff composed, ends_of_composite limit composed]
          simp only [inductionHypothesis, List.mem_flatMap]
          constructor
          · rintro each stop ⟨member, isMember, isEnd⟩
            exact each member isMember stop isEnd
          · intro each member isMember stop isEnd
            exact each stop ⟨member, isMember, isEnd⟩

/-- A greater limit changes nothing where no path reaches the limit. -/
theorem unfold_add {β : Type} {leaf : ScopeName → β} {join : List β → β} {limit : Nat}
    {scope : ScopeName} (within : composition.Within limit scope) (more : Nat) :
    composition.unfold leaf join (limit + more) scope =
      composition.unfold leaf join limit scope := by
  induction limit generalizing scope with
  | zero =>
      have isLeaf := within_iff_ends.1 within scope List.mem_cons_self
      rw [unfold_of_leaf _ isLeaf, unfold_of_leaf _ isLeaf]
  | succ limit inductionHypothesis =>
      cases composed : composition scope with
      | none => rw [unfold_of_leaf _ composed, unfold_of_leaf _ composed]
      | some members =>
          have each := (within_succ_iff composed).1 within
          rw [Nat.succ_add, unfold_of_composite _ composed, unfold_of_composite _ composed]
          congr 1
          apply List.map_congr_left
          intro member isMember
          exact inductionHypothesis (each member isMember)

/-- An unfolding that ends nowhere passes a composite without members. -/
theorem exists_hollow_of_ends_eq_nil {limit : Nat} {scope : ScopeName}
    (noEnds : composition.ends limit scope = []) :
    ∃ path hollow, composition.Path scope path ∧ hollow ∈ path ∧ composition hollow = some [] := by
  induction limit generalizing scope with
  | zero => cases noEnds
  | succ limit inductionHypothesis =>
      cases composed : composition scope with
      | none =>
          rw [ends_of_leaf _ composed] at noEnds
          cases noEnds
      | some members =>
          cases members with
          | nil => exact ⟨[scope], scope, .last composed, List.mem_cons_self, composed⟩
          | cons member rest =>
              rw [ends_of_composite limit composed, List.flatMap_eq_nil_iff] at noEnds
              obtain ⟨path, hollow, onward, passed, isHollow⟩ :=
                inductionHypothesis (noEnds member List.mem_cons_self)
              exact ⟨scope :: path, hollow, .down composed List.mem_cons_self onward,
                List.mem_cons_of_mem scope passed, isHollow⟩

/-! ## Paths that meet a composite twice -/

/-- A path can be left at any of its composites for another path from there. -/
theorem Path.splice {scope turn : ScopeName} {path other : List ScopeName}
    (onward : composition.Path scope path) (passed : turn ∈ path)
    (away : composition.Path turn other) :
    ∃ joined, composition.Path scope joined ∧ other.length ≤ joined.length := by
  induction onward with
  | last composed =>
      have isScope := List.mem_singleton.1 passed
      exact ⟨other, isScope ▸ away, Nat.le_refl _⟩
  | @down scope member members rest composed isMember onward inductionHypothesis =>
      rcases List.mem_cons.1 passed with isScope | further
      · exact ⟨other, isScope ▸ away, Nat.le_refl _⟩
      · obtain ⟨joined, viaMember, longer⟩ := inductionHypothesis further
        refine ⟨scope :: joined, .down composed isMember viaMember, ?_⟩
        simp only [List.length_cons]
        omega

/-- Below a composite that returns to itself, paths have no greatest length. -/
theorem not_within_of_return {scope member : ScopeName} {members rest : List ScopeName}
    (composed : composition scope = some members) (isMember : member ∈ members)
    (onward : composition.Path member rest) (returns : scope ∈ rest) (limit : Nat) :
    ¬ composition.Within limit scope := by
  induction limit with
  | zero => exact not_within_zero composed
  | succ limit inductionHypothesis =>
      intro within
      apply inductionHypothesis
      intro path away
      -- Going once round the cycle first gives a longer path.
      obtain ⟨joined, viaMember, longer⟩ := onward.splice returns away
      have bound := within (scope :: joined) (.down composed isMember viaMember)
      simp only [List.length_cons] at bound
      omega

theorem Path.not_within_of_repeated {scope : ScopeName} {path : List ScopeName}
    (onward : composition.Path scope path) (repeated : ¬ path.Nodup) (limit : Nat) :
    ¬ composition.Within limit scope := by
  induction onward generalizing limit with
  | last composed => exact absurd (List.pairwise_singleton _ _) repeated
  | @down scope member members rest composed isMember onward inductionHypothesis =>
      by_cases returns : scope ∈ rest
      · exact not_within_of_return composed isMember onward returns limit
      · have furtherOn : ¬ rest.Nodup :=
          fun distinct => repeated (List.nodup_cons.2 ⟨returns, distinct⟩)
        cases limit with
        | zero => exact not_within_zero composed
        | succ limit =>
            rw [within_succ_iff composed]
            intro each
            exact inductionHypothesis furtherOn limit (each member isMember)

end Composition

end RowAccess
