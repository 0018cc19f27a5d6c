import RowAccess.Decision.Write
import RowAccess.Proofs.Scope.Registration
import RowAccess.Proofs.Scope.Relation

/-!
Contract: the decisions about a record under one relation scope.

What a view of the scope shows may be deleted, and where the reference of a record is
absent, null or embedded, nothing else. A change that does not name the reference is
decided as a deletion, failures included, and every change as the deletion of the
record as it is and the addition of it as it would be written.

A change that is allowed leaves a reference, with one exception. Where the path goes on
below the reference, a change that sets the reference to null is decided as a deletion:
the addition takes the null for a reference that is not there yet, and leaves it to
validation.

Owns:
- the scopes that a provider of relation scopes stands behind.
- the agreement of their decisions, action by action.
- the reference that an allowed change leaves.
-/

namespace RowAccess

/-- Whether a name is that of a relation scope: it has a path, and the registry knows it
by nothing else. -/
structure RelationScopes.Governs (scopes : RelationScopes) (registry : Registry)
    (resource : ResourceType) (scope : ScopeName) (path : FieldPath) : Prop where
  listed : scopes.path? scope = some path
  supplied : ∀ rule, scopes.provider resource scope = some rule →
    registry.resolve resource scope .view = .ok rule

/-- What a scope decides about a record that something is done with. -/
def Authority.decision (authority : Authority) (context : ScopeContext) (scope : ScopeName)
    (remaining : Nat) (action : Action) (record : Record) (values : Fields) :
    Except AccessError Bool :=
  (authority.scopeVerdict ⟨{ context with action := action }, record, values⟩ remaining
    scope).outcome

theorem WriteRequest.named_eq_mapError (request : WriteRequest) (scope : ScopeName)
    (outcome : Except ScopeFailure Bool) :
    request.named scope outcome = outcome.mapError (request.context.failed scope) := by
  cases outcome <;> rfl

theorem Except.mapError_eq_ok {ε ε' α : Type} {change : ε → ε'} {outcome : Except ε α}
    {value : α} : outcome.mapError change = .ok value ↔ outcome = .ok value := by
  cases outcome <;> simp [Except.mapError]

namespace RelationScopes

/-- The relation along a path. -/
def along (scopes : RelationScopes) (resource : ResourceType) (path : FieldPath) : Relation :=
  ⟨resource, path, scopes.related⟩

namespace Governs

variable {scopes : RelationScopes} {scope : ScopeName} {path : FieldPath}

theorem resolve {registry : Registry} {resource : ResourceType}
    (governs : scopes.Governs registry resource scope path) (action : Action) :
    registry.resolve resource scope action =
      .ok (Relation.rule (scopes.along resource path)) := by
  refine Registry.resolve_of_resolve (governs.supplied _ ?_) action
  unfold provider
  rw [governs.listed]
  rfl

theorem viewScope {registry : Registry} {context : ScopeContext}
    (governs : scopes.Governs registry context.resource scope path) :
    registry.viewScope context scope = .ok (.filter (Filter.notNull path)) := by
  unfold Registry.viewScope
  rw [governs.resolve]
  rfl

/-- The tests of the relation decide, their failures named after the scope. -/
theorem decision_eq {authority : Authority} {context : ScopeContext}
    (governs : scopes.Governs authority.registry context.resource scope path)
    (remaining : Nat) (record : Record) (values : Fields) :
    authority.decision context scope remaining .add record values =
        ((scopes.along context.resource path).addAllowed record values).mapError
          (context.failed scope) ∧
      authority.decision context scope remaining .change record values =
        ((scopes.along context.resource path).changeAllowed record values).mapError
          (context.failed scope) ∧
      authority.decision context scope remaining .delete record values =
        ((scopes.along context.resource path).deleteAllowed record).mapError
          (context.failed scope) := by
  refine ⟨?_, ?_, ?_⟩ <;>
  · unfold Authority.decision Authority.scopeVerdict
    dsimp only
    rw [governs.resolve]
    exact WriteRequest.named_eq_mapError _ scope _

end Governs

end RelationScopes

/-- Whether what may be done with a record agrees with the filter of its view and with
one another, by what the payload says of the reference. -/
structure Record.ActionsAgree (record : Record) (path : FieldPath) (shown : Filter)
    (decision : Action → Fields → Except AccessError Bool) : Prop where
  deletesShown : ∀ resolver values,
    shown.admits resolver record = .ok true → decision .delete values = .ok true
  showsDeleted :
    (∀ reference, record.field? path.first = some reference →
      reference = .null ∨ ∃ fields, reference = .object fields) →
    ∀ resolver values,
      decision .delete values = .ok true → shown.admits resolver record = .ok true
  unnamed : ∀ values others, values.find? path.first = none →
    decision .change values = decision .delete others
  both : ∀ values others, decision .change values = .ok true ↔
    decision .delete others = .ok true ∧ decision .add values = .ok true

namespace RelationScopes

variable {scopes : RelationScopes} {scope : ScopeName} {path : FieldPath}

theorem Governs.actionsAgree {authority : Authority} {context : ScopeContext}
    (governs : scopes.Governs authority.registry context.resource scope path)
    (remaining : Nat) (record : Record) :
    record.ActionsAgree path (Filter.notNull path)
      (fun action => authority.decision context scope remaining action record) where
  deletesShown := by
    intro resolver values shown
    have isPresent : present (record.lookup? path) = true := Except.ok.inj shown
    obtain ⟨_, _, deleted⟩ := governs.decision_eq remaining record values
    rw [deleted, Except.mapError_eq_ok]
    exact Relation.deleteAllowed_of_present isPresent
  showsDeleted := by
    intro embedded resolver values allowed
    obtain ⟨_, _, deleted⟩ := governs.decision_eq remaining record values
    rw [deleted, Except.mapError_eq_ok,
      Relation.deleteAllowed_eq_present (Or.inr embedded)] at allowed
    have isPresent : present (record.lookup? path) = true := Except.ok.inj allowed
    exact congrArg Except.ok isPresent
  unnamed := by
    intro values others unnamed
    obtain ⟨_, changed, _⟩ := governs.decision_eq remaining record values
    obtain ⟨_, _, deleted⟩ := governs.decision_eq remaining record others
    rw [changed, deleted, Relation.changeAllowed_of_unnamed unnamed]
  both := by
    intro values others
    obtain ⟨added, changed, _⟩ := governs.decision_eq remaining record values
    obtain ⟨_, _, deleted⟩ := governs.decision_eq remaining record others
    rw [changed, added, deleted]
    simp only [Except.mapError_eq_ok]
    exact Relation.changeAllowed_eq_true

/-- A relation scope shows the records with the end of its path. What it decides about
a record that is added, changed or deleted agrees with this filter, whatever records
are related. -/
theorem actions_agree (authority : Authority) (context : ScopeContext)
    (governs : scopes.Governs authority.registry context.resource scope path)
    (remaining : Nat) (record : Record) :
    ∃ shown,
      (∀ viewing : ScopeContext, viewing.resource = context.resource →
        authority.registry.viewScope viewing scope = .ok (.filter shown)) ∧
      record.ActionsAgree path shown (fun action =>
        authority.decision context scope remaining action record) := by
  refine ⟨Filter.notNull path, ?_, governs.actionsAgree remaining record⟩
  intro viewing same
  rw [← same] at governs
  exact governs.viewScope

/-- A change that is allowed leaves a reference, unless the path goes on below the
reference and the change sets the reference to null. That is refused where the path
ends at the reference, and decided as a deletion where it goes on. -/
theorem change_keeps_reference (authority : Authority) (context : ScopeContext)
    (governs : scopes.Governs authority.registry context.resource scope path)
    (remaining : Nat) (record : Record) (values : Fields) :
    let decision (action : Action) :=
      authority.decision context scope remaining action record values
    let written := (record.overlay values).field? path.first
    let cleared := values.find? path.first = some .null
    (decision .change = .ok true → present written = true ∨ path.below ≠ [] ∧ cleared) ∧
    (path.below = [] → cleared → decision .change = .ok false) ∧
    (path.below ≠ [] → cleared → decision .change = decision .delete) := by
  obtain ⟨_, changed, deleted⟩ := governs.decision_eq remaining record values
  intro decision written cleared
  have changed : decision .change = _ := changed
  have deleted : decision .delete = _ := deleted
  rw [changed, deleted, Except.mapError_eq_ok]
  refine ⟨Relation.present_of_changeAllowed, ?_, ?_⟩
  · intro single isCleared
    rw [Relation.changeAllowed_of_cleared single isCleared]
    rfl
  · intro several isCleared
    rw [Relation.changeAllowed_of_null several isCleared]

end RelationScopes

/-! ## A fleet with operators -/

namespace Fleet

def jobs : ResourceType := ⟨"fleet", "job"⟩

def contracted : ScopeName := ⟨"contracted"⟩

def company : FieldPath := ⟨"operator", ["external_company"], by decide⟩

/-- Two operators, of whom the first works for a company. -/
def operators : List RelatedRecord :=
  [⟨jobs, "operator", "7", ⟨⟨"7"⟩, OrderedMap.ofList [("external_company", .integer 99)]⟩⟩,
    ⟨jobs, "operator", "8", ⟨⟨"8"⟩, OrderedMap.ofList [("external_company", .null)]⟩⟩]

/-- Jobs whose operator works for a company. -/
def relations : RelationScopes where
  paths := OrderedMap.ofList [(contracted, company)]
  related := RelatedRecord.lookup operators

def registration : Registration where
  resource := jobs
  rules := []
  permissionsVia := none
  provider := some relations.provider

def authority : Authority where
  registry := (Registry.ofRegistrations [registration]).toOption.getD Registry.empty
  resolver := SubsetResolver.localOnly

def job (reference : Json) : Record := ⟨⟨"1"⟩, OrderedMap.ofList [("operator", reference)]⟩

def dispatch : ScopeContext := ⟨Principal.anonymous, jobs, .change, .patch, none⟩

theorem relations_govern_contracted :
    relations.Governs authority.registry jobs contracted company where
  listed := rfl
  supplied := by
    intro rule provided
    cases provided
    rfl

def notes : Fields := OrderedMap.ofList [("notes", .string "ok")]

def answer (record : Record) (action : Action) (values : Fields) : Except AccessError Bool :=
  authority.decision dispatch contracted maxCompositionDepth action record values

/-- A job with its operator embedded may be deleted, as a view shows it. One that refers
to the operator may be deleted too, and so its notes may be changed, but it may not be
given the operator without a company. -/
theorem fleet_actions_agree :
    let embedded := job (.object [("external_company", .integer 99)])
    let referring := job (.string "7")
    let moved := OrderedMap.ofList [("operator", .string "8")]
    answer embedded .delete notes = .ok true ∧
      answer referring .change notes = .ok true ∧
      answer referring .change moved ≠ .ok true := by
  intro embedded referring moved
  obtain ⟨shown, viewed, ofEmbedded⟩ := RelationScopes.actions_agree authority dispatch
    relations_govern_contracted maxCompositionDepth embedded
  obtain ⟨_, _, ofReferring⟩ := RelationScopes.actions_agree authority dispatch
    relations_govern_contracted maxCompositionDepth referring
  refine ⟨?_, ?_, ?_⟩
  · have found := viewed dispatch rfl
    rw [relations_govern_contracted.viewScope] at found
    cases found
    exact ofEmbedded.deletesShown authority.resolver notes rfl
  · exact (ofReferring.unnamed notes notes rfl).trans rfl
  · intro allowed
    have added := ((ofReferring.both moved notes).1 allowed).2
    cases added

/-- The notes of a job may be changed, and it keeps its operator. -/
theorem fleet_change_keeps_operator :
    answer (job (.string "7")) .change notes = .ok true ∧
      present (((job (.string "7")).overlay notes).field? "operator") = true := by
  obtain ⟨kept, _, _⟩ := RelationScopes.change_keeps_reference authority dispatch
    relations_govern_contracted maxCompositionDepth (job (.string "7")) notes
  have allowed : answer (job (.string "7")) .change notes = .ok true := rfl
  refine ⟨allowed, ?_⟩
  rcases kept allowed with written | ⟨_, cleared⟩
  · exact written
  · cases cleared

/-- A change that takes the operator from a job is allowed where the scope asks for the
company of the operator. -/
theorem fleet_change_clears_operator :
    let cleared := OrderedMap.ofList [("operator", .null)]
    relations.Governs authority.registry jobs contracted company ∧
      answer (job (.string "7")) .change cleared = .ok true ∧
      present (((job (.string "7")).overlay cleared).field? company.first) = false :=
  ⟨relations_govern_contracted, rfl, rfl⟩

end Fleet

end RowAccess
