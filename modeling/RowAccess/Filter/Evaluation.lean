import RowAccess.Filter.Basic
import RowAccess.Store.Error

/-!
Contract: evaluation of filters against records.

Only membership in a subset whose keys are not known locally asks a resolver.
Conjunctions and disjunctions go from left to right and stop at the first child
that decides. Evaluation also tells which subsets it asked for, in order, so
that what a filter costs is part of its meaning.

Owns:
- evaluation, and materialization of every subset of a filter.
- the resolver that knows explicit keys only.
-/

namespace RowAccess

/-- Resolves a subset to its keys. -/
abbrev SubsetResolver := Subset → Except StoreError KeySet

/-- A resolver that runs no query. -/
def SubsetResolver.localOnly : SubsetResolver := fun subset =>
  match subset.localKeys? with
  | some keys => .ok keys
  | none => .error ⟨.invalid, "query subsets require a record source"⟩

/-- An outcome together with the subsets a resolver was asked for. -/
structure Inquiry (α : Type) where
  outcome : Except StoreError α
  asked : List Subset

namespace Inquiry

variable {α β : Type}

def pure (value : α) : Inquiry α := ⟨.ok value, []⟩

/-- Goes on with a value; a failure ends the inquiry. -/
def bind (first : Inquiry α) (next : α → Inquiry β) : Inquiry β :=
  match first.outcome with
  | .ok value => ⟨(next value).outcome, first.asked ++ (next value).asked⟩
  | .error error => ⟨.error error, first.asked⟩

instance : Monad Inquiry where
  pure := Inquiry.pure
  bind := Inquiry.bind

/-- The keys of a subset, which asks the resolver only when they are not known. -/
def keysOf (resolver : SubsetResolver) (subset : Subset) : Inquiry KeySet :=
  match subset.localKeys? with
  | some keys => pure keys
  | none => ⟨resolver subset, [subset]⟩

end Inquiry

namespace Filter

mutual

def evaluate (resolver : SubsetResolver) (record : Record) : Filter → Inquiry Bool
  | .always => Inquiry.pure true
  | .never => Inquiry.pure false
  | .all children => evaluateAll resolver record children
  | .any children => evaluateAny resolver record children
  | .not child => (evaluate resolver record child).bind (fun holds => Inquiry.pure (!holds))
  | .condition test => Inquiry.pure (test.holds record)
  | .keyIn subset =>
      (Inquiry.keysOf resolver subset).bind (fun keys =>
        Inquiry.pure (keys.contains record.key))

/-- Stops at the first child that does not hold. -/
def evaluateAll (resolver : SubsetResolver) (record : Record) : List Filter → Inquiry Bool
  | [] => Inquiry.pure true
  | child :: rest =>
      (evaluate resolver record child).bind (fun holds =>
        if holds then evaluateAll resolver record rest else Inquiry.pure false)

/-- Stops at the first child that holds. -/
def evaluateAny (resolver : SubsetResolver) (record : Record) : List Filter → Inquiry Bool
  | [] => Inquiry.pure false
  | child :: rest =>
      (evaluate resolver record child).bind (fun holds =>
        if holds then Inquiry.pure true else evaluateAny resolver record rest)

end

/-- Whether a record matches, or why a subset could not be resolved. -/
def admits (filter : Filter) (resolver : SubsetResolver) (record : Record) :
    Except StoreError Bool :=
  (evaluate resolver record filter).outcome

mutual

/-- The filter with every subset resolved to an explicit key set. -/
def materialize (resolver : SubsetResolver) : Filter → Inquiry Filter
  | .always => Inquiry.pure .always
  | .never => Inquiry.pure .never
  | .all children =>
      (materializeEach resolver children).bind (fun made => Inquiry.pure (.all made))
  | .any children =>
      (materializeEach resolver children).bind (fun made => Inquiry.pure (.any made))
  | .not child => (materialize resolver child).bind (fun made => Inquiry.pure (.not made))
  | .condition test => Inquiry.pure (.condition test)
  | .keyIn subset =>
      (Inquiry.keysOf resolver subset).bind (fun keys => Inquiry.pure (.keyIn (.explicit keys)))

def materializeEach (resolver : SubsetResolver) : List Filter → Inquiry (List Filter)
  | [] => Inquiry.pure []
  | child :: rest =>
      (materialize resolver child).bind (fun made =>
        (materializeEach resolver rest).bind (fun others => Inquiry.pure (made :: others)))

end

end Filter

end RowAccess
