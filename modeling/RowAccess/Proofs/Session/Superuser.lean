import RowAccess.Proofs.Decision.View
import RowAccess.Proofs.Decision.Composition
import RowAccess.Proofs.Scope.Registration
import RowAccess.Proofs.Session.Grants

/-!
Contract: a superuser passes every check, and nothing is looked up for it.

A superuser is granted the builtin scope without a look at what it holds. In a
registry that was built this scope is always true, on whatever resource, so that
every write is allowed and a view is narrowed by nothing: it shows what the query
shows, and fails as the query fails.

Owns:
- queries narrowed by a filter that is always true.
- what is left unconsulted by an access operation.
- the operations of a superuser.
-/

namespace RowAccess

/-! ## Narrowing by what is always true -/

theorem Filter.conjunction_concat_always (filters : List Filter) :
    conjunction (filters ++ [.always]) = conjunction filters := by
  have noNever : (filters ++ [Filter.always]).any isNever = filters.any isNever := by
    simp [isNever]
  have noAlways : (filters ++ [Filter.always]).filter (fun filter => !filter.isAlways) =
      filters.filter (fun filter => !filter.isAlways) := by
    simp [isAlways]
  unfold conjunction
  rw [noNever, noAlways]

namespace Collection

/-- A query narrowed by what is always true is executed as it is, be it with an error. -/
theorem execute_narrow_always (collection : Collection) (base : Query) :
    collection.execute (base.narrow .always) = collection.execute base := by
  have samePredicate : (base.narrow .always).predicate = base.predicate :=
    Filter.conjunction_concat_always base.filters
  rw [execute_eq, execute_eq, samePredicate]
  rfl

end Collection

/-! ## Left unconsulted -/

/-- Whether neither the grant source was asked on the way from one session to
another, nor the cached permissions were touched. -/
structure Session.Unconsulted (before after : Session) : Prop where
  grantLoads : after.grantLoads = before.grantLoads
  held : after.context.held = before.context.held
  principal : after.context.principal = before.context.principal

/-- Whether an operation allows what it is asked for and leaves its session unconsulted. -/
structure Session.Passes (before : Session) (answered : Except AccessError Unit × Session) :
    Prop where
  allowed : answered.1 = .ok ()
  unconsulted : before.Unconsulted answered.2

/-- What a principal may do that is subject to no scope. -/
structure Evaluator.Unrestricted (evaluator : Evaluator) (session : Session) : Prop where
  add : ∀ resource record values,
    session.Passes (evaluator.scopeAdd resource record values session)
  change : ∀ resource record values,
    session.Passes (evaluator.scopeChange resource record values session)
  delete : ∀ resource record values,
    session.Passes (evaluator.scopeDelete resource record values session)
  store : ∀ isNew resource record values,
    session.Passes (evaluator.scopeStore isNew resource record values session)
  changeList : ∀ resource records values,
    session.Passes (evaluator.scopeChangeList resource records values session)
  fileField : ∀ resource record field,
    session.Passes (evaluator.scopeFileField resource record field session)
  view : ∀ base, ∃ narrowed, (evaluator.scopeView base session).1 = .ok narrowed ∧
    (∀ collection : Collection, collection.execute narrowed = collection.execute base) ∧
    session.Unconsulted (evaluator.scopeView base session).2

namespace Evaluator

variable {evaluator : Evaluator} {session : Session}

theorem unconsulted_resolveGrants (resource : ResourceType) (action : Action)
    (superuser : session.context.principal.superuser = true) :
    session.Unconsulted (evaluator.resolveGrants resource action session).2 := by
  rw [session_resolveGrants, if_pos superuser]
  exact ⟨rfl, rfl, rfl⟩

/-- After its grants are resolved, a write audits and logs, and that is all. -/
theorem unconsulted_scopeWrite (action : Action) (resource : ResourceType) (record : Record)
    (values : Fields) (superuser : session.context.principal.superuser = true) :
    session.Unconsulted (evaluator.scopeWrite action resource record values session).2 := by
  have resolving : session.Unconsulted (evaluator.resolveGrants resource action session).2 :=
    unconsulted_resolveGrants resource action superuser
  unfold scopeWrite
  split
  next error next resolved =>
    rw [resolved] at resolving
    exact ⟨resolving.grantLoads, resolving.held, resolving.principal⟩
  next grants next resolved =>
    rw [resolved] at resolving
    dsimp only
    split
    next => exact ⟨resolving.grantLoads, resolving.held, resolving.principal⟩
    next => exact ⟨resolving.grantLoads, resolving.held, resolving.principal⟩

theorem unconsulted_scopeView (base : Query)
    (superuser : session.context.principal.superuser = true) :
    session.Unconsulted (evaluator.scopeView base session).2 := by
  have resolving : session.Unconsulted
      (evaluator.resolveGrants base.resource .view session).2 :=
    unconsulted_resolveGrants base.resource .view superuser
  unfold scopeView
  dsimp only
  split
  next error next resolved =>
    rw [resolved] at resolving
    exact ⟨resolving.grantLoads, resolving.held, resolving.principal⟩
  next grants next resolved =>
    rw [resolved] at resolving
    split
    next => exact ⟨resolving.grantLoads, resolving.held, resolving.principal⟩
    next => exact ⟨resolving.grantLoads, resolving.held, resolving.principal⟩

/-! ## Superusers -/

section

variable (admissible : evaluator.authority.registry.Admissible)
  (superuser : session.context.principal.superuser = true)

include admissible superuser

theorem passes_scopeWrite (action : Action) (resource : ResourceType) (record : Record)
    (values : Fields) :
    session.Passes (evaluator.scopeWrite action resource record values session) where
  allowed := by
    have always := Registry.resolve_all admissible resource action
    have holds : (evaluator.authority.scopeVerdict
        (writeRequest session action resource record values) maxCompositionDepth
          ScopeName.all).outcome = .ok true := by
      rw [Authority.scopeVerdict_of_fixed maxCompositionDepth always]
      rfl
    have polled : (evaluator.authority.writePoll
        (writeRequest session action resource record values)
        (OrderedSet.singleton ScopeName.all)).outcome = .ok [true] :=
      Poll.outcome_collect_eq_ok.2 (congrArg (fun outcome => [outcome]) holds)
    rw [outcome_scopeWrite, grants_of_superuser evaluator resource action superuser]
    unfold Authority.tally
    dsimp only
    rw [polled]
    rfl
  unconsulted := unconsulted_scopeWrite action resource record values superuser

theorem passes_changeEach (resource : ResourceType) (records : List Record) (values : Fields) :
    session.Passes (evaluator.changeEach resource values records session) := by
  induction records generalizing session with
  | nil => exact ⟨rfl, rfl, rfl, rfl⟩
  | cons record rest inductionHypothesis =>
      have first : session.Passes (evaluator.scopeChange resource record values session) :=
        passes_scopeWrite admissible superuser .change resource record values
      unfold changeEach
      split
      next error next changed =>
        rw [changed] at first
        cases first.allowed
      next done next changed =>
        rw [changed] at first
        have stays : next.context.principal.superuser = true := by
          rw [first.unconsulted.principal]
          exact superuser
        have others := inductionHypothesis stays
        refine ⟨others.allowed, ?_, ?_, ?_⟩
        · exact others.unconsulted.grantLoads.trans first.unconsulted.grantLoads
        · exact others.unconsulted.held.trans first.unconsulted.held
        · exact others.unconsulted.principal.trans first.unconsulted.principal

theorem passes_scopeChangeList (resource : ResourceType) (records : List Record)
    (values : Fields) :
    session.Passes (evaluator.scopeChangeList resource records values session) := by
  unfold scopeChangeList
  split
  next => exact ⟨rfl, rfl, rfl, rfl⟩
  next => exact passes_changeEach admissible superuser resource records values

theorem passes_scopeFileField (resource : ResourceType) (record : Record) (field : String) :
    session.Passes (evaluator.scopeFileField resource record field session) := by
  unfold scopeFileField
  dsimp only
  split
  next =>
    have marked : (session.recordDecision .delete).context.principal.superuser = true := superuser
    have passes := passes_scopeWrite admissible marked .change resource record
      (OrderedMap.ofList [(field, Json.null)])
    exact ⟨passes.allowed, passes.unconsulted.grantLoads, passes.unconsulted.held,
      passes.unconsulted.principal⟩
  next => exact passes_scopeWrite admissible superuser .change resource record _

theorem view_of_superuser (base : Query) :
    (evaluator.scopeView base session).1 = .ok (base.narrow .always) := by
  have always := Registry.resolve_all admissible base.resource .view
  have contributed : evaluator.authority.registry.viewScope
      (session.scopeContext base.resource .view) ScopeName.all = .ok (.filter .always) := by
    unfold Registry.viewScope
    rw [show (session.scopeContext base.resource .view).resource = base.resource from rfl, always]
    rfl
  rw [outcome_scopeView, grants_of_superuser evaluator base.resource .view superuser]
  dsimp only
  rw [Registry.viewFilter_singleton contributed]
  rfl

theorem unrestricted_of_superuser : evaluator.Unrestricted session where
  add := passes_scopeWrite admissible superuser .add
  change := passes_scopeWrite admissible superuser .change
  delete := passes_scopeWrite admissible superuser .delete
  store := fun _ => passes_scopeWrite admissible superuser _
  changeList := passes_scopeChangeList admissible superuser
  fileField := passes_scopeFileField admissible superuser
  view := fun base =>
    ⟨base.narrow .always, view_of_superuser admissible superuser base,
      fun collection => collection.execute_narrow_always base,
      unconsulted_scopeView base superuser⟩

end

/-- Of a registry that was built, the builtin scope is always true, on resources
that are not registered as well, and a superuser passes every check. Permission
map, grant source, rules and providers may be what they will. -/
theorem superuser_passes_every_check (evaluator : Evaluator) {registrations : List Registration}
    (built : Registry.ofRegistrations registrations = .ok evaluator.authority.registry) :
    (∀ resource action,
      evaluator.authority.registry.resolve resource ScopeName.all action =
        .ok ScopeRule.all) ∧
    ∀ session : Session, session.context.principal.superuser = true →
      evaluator.Unrestricted session := by
  have admissible := Registry.admissible_ofRegistrations built
  refine ⟨Registry.resolve_all admissible, ?_⟩
  intro session superuser
  exact unrestricted_of_superuser admissible superuser

end Evaluator

namespace Desk

/-- One's own tickets are none, and so is every scope that is not registered. -/
def closedRegistration : Registration where
  resource := tickets
  rules := [(own, .fixed .never)]
  permissionsVia := none
  provider := some (fun _ _ => some (.fixed .never))

/-- A desk where nothing works: its permission map scopes what may not be scoped,
and the source of permission strings is down. -/
def closedDesk : Evaluator where
  authority :=
    { registry := (Registry.ofRegistrations [closedRegistration]).toOption.getD Registry.empty
      resolver := SubsetResolver.localOnly }
  permissions := PermissionMap.ofList [("clerk", ⟨tickets.permissionKey "close", some own⟩)]
  grantSource := fun _ => .error ⟨.io, "directory is down"⟩

/-- A request of one who may do everything. -/
def keeper : Session :=
  Session.start (RequestContext.forPrincipal .put none ⟨⟨"kim"⟩, OrderedSet.empty, true⟩)

/-- Where the map is invalid and no clerk gets through, the keeper changes a list
of tickets and sees what there is, unregistered resources included. -/
theorem desk_keeper_passes :
    closedDesk.permissions.validate ≠ .ok () ∧
    (closedDesk.resolveGrants tickets .view (clerk .get)).1 =
      .error (.store ⟨.io, "directory is down"⟩) ∧
    (closedDesk.scopeChangeList tickets [ticket "1", ticket "2"] OrderedMap.empty keeper).1 =
      .ok () ∧
    closedDesk.authority.registry.resolve ⟨"desk", "drawer"⟩ ScopeName.all .view =
      .ok ScopeRule.all ∧
    ∃ narrowed,
      (closedDesk.scopeView (Query.ofResource ⟨"desk", "drawer"⟩) keeper).1 = .ok narrowed ∧
      ∀ collection : Collection,
        collection.execute narrowed =
          collection.execute (Query.ofResource ⟨"desk", "drawer"⟩) := by
  have built : Registry.ofRegistrations [closedRegistration] =
      .ok closedDesk.authority.registry := rfl
  obtain ⟨builtin, passes⟩ := Evaluator.superuser_passes_every_check closedDesk built
  have unrestricted := passes keeper rfl
  obtain ⟨narrowed, viewed, same, _⟩ := unrestricted.view (Query.ofResource ⟨"desk", "drawer"⟩)
  refine ⟨by decide, rfl, ?_, builtin _ _, narrowed, viewed, same⟩
  exact (unrestricted.changeList tickets [ticket "1", ticket "2"] OrderedMap.empty).allowed

end Desk

end RowAccess
