import RowAccess.Session.Operation

/-!
Contract: resolving grants tells what is held and decides nothing.

A resolution marks the request as checked and may load and cache permissions.
Principal, decisions and audit trail stay as they are, so that the decision made
with the grants is a decision of the session they were resolved in.

Owns:
- what a look-up of permissions leaves as it is.
- sessions that hold given scopes, and the grants of such sessions.
- the outcome of a view and of a write, as functions of the grants.
- a small desk on which results can be read off.
-/

namespace RowAccess

/-- Whether two sessions differ in nothing but what is known about permissions. -/
structure Session.Looked (before after : Session) : Prop where
  principal : after.context.principal = before.context.principal
  method : after.context.method = before.context.method
  requestId : after.context.requestId = before.context.requestId
  decisions : after.context.decisions = before.context.decisions
  depth : after.context.depth = before.context.depth
  trail : after.trail = before.trail

namespace Session

variable {before middle after : Session}

theorem Looked.refl (session : Session) : session.Looked session :=
  ⟨rfl, rfl, rfl, rfl, rfl, rfl⟩

theorem Looked.trans (first : before.Looked middle) (second : middle.Looked after) :
    before.Looked after where
  principal := second.principal.trans first.principal
  method := second.method.trans first.method
  requestId := second.requestId.trans first.requestId
  decisions := second.decisions.trans first.decisions
  depth := second.depth.trans first.depth
  trail := second.trail.trans first.trail

theorem Looked.scopeContext (looked : before.Looked after) (resource : ResourceType)
    (action : Action) :
    after.scopeContext resource action = before.scopeContext resource action := by
  unfold Session.scopeContext
  rw [looked.principal, looked.method, looked.requestId]

theorem Looked.decisionEvent (looked : before.Looked after) (resource : ResourceType)
    (action : Action) (grants : OrderedSet ScopeName) (error : Option AccessError) :
    after.decisionEvent resource action grants error =
      before.decisionEvent resource action grants error := by
  unfold Session.decisionEvent
  rw [looked.principal, looked.requestId]

/-- The session whose principal holds the given scopes under one key, and nothing else. -/
def holding (session : Session) (key : PermissionKey) (scopes : OrderedSet ScopeName) : Session :=
  session.updateContext (fun context => context.cache (OrderedMap.ofList [(key, scopes)]))

theorem looked_markChecked (session : Session) :
    session.Looked (session.updateContext RequestContext.markChecked) :=
  ⟨rfl, rfl, rfl, rfl, rfl, rfl⟩

end Session

namespace Evaluator

variable {evaluator : Evaluator}

/-! ## Resolving grants -/

theorem looked_heldPermissions (evaluator : Evaluator) (session : Session) :
    session.Looked (evaluator.heldPermissions session).2 := by
  unfold heldPermissions
  split
  next => exact Session.Looked.refl session
  next =>
    dsimp only
    split
    next => exact ⟨rfl, rfl, rfl, rfl, rfl, rfl⟩
    next => exact ⟨rfl, rfl, rfl, rfl, rfl, rfl⟩

theorem permissionChecked_heldPermissions (evaluator : Evaluator) (session : Session) :
    (evaluator.heldPermissions session).2.context.permissionChecked =
      session.context.permissionChecked := by
  unfold heldPermissions
  split
  next => rfl
  next =>
    dsimp only
    split
    next => rfl
    next => rfl

/-- What resolving grants leaves is what looking up permissions leaves, in a
session that is marked as checked. -/
theorem session_resolveGrants (evaluator : Evaluator) (resource : ResourceType) (action : Action)
    (session : Session) :
    (evaluator.resolveGrants resource action session).2 =
      if session.context.principal.superuser then
        session.updateContext RequestContext.markChecked
      else (evaluator.heldPermissions (session.updateContext RequestContext.markChecked)).2 := by
  unfold resolveGrants
  dsimp only
  split
  next superuser =>
    have same : session.context.principal.superuser = true := superuser
    rw [if_pos same]
  next ordinary =>
    have same : ¬ session.context.principal.superuser = true := ordinary
    rw [if_neg same]
    split
    next error next found => rw [found]
    next permissions next found =>
      rw [found]
      dsimp only
      split
      next => rfl
      next => rfl

theorem looked_resolveGrants (evaluator : Evaluator) (resource : ResourceType) (action : Action)
    (session : Session) : session.Looked (evaluator.resolveGrants resource action session).2 := by
  have marked := session.looked_markChecked
  rw [session_resolveGrants]
  split
  next => exact marked
  next => exact marked.trans (evaluator.looked_heldPermissions _)

/-- A resolution counts as a check, also where it fails. -/
theorem permissionChecked_resolveGrants (evaluator : Evaluator) (resource : ResourceType)
    (action : Action) (session : Session) :
    (evaluator.resolveGrants resource action session).2.context.permissionChecked = true := by
  rw [session_resolveGrants]
  split
  next => rfl
  next => exact evaluator.permissionChecked_heldPermissions _

theorem grants_of_superuser (evaluator : Evaluator) {session : Session} (resource : ResourceType)
    (action : Action) (superuser : session.context.principal.superuser = true) :
    (evaluator.resolveGrants resource action session).1 =
      .ok (OrderedSet.singleton ScopeName.all) := by
  have marked : (session.updateContext RequestContext.markChecked).context.principal.superuser =
      true := superuser
  unfold resolveGrants
  dsimp only
  rw [if_pos marked]
  rfl

/-- An ordinary principal is granted what is held under the guarding key. -/
theorem grants_of_ordinary (evaluator : Evaluator) {session : Session} (resource : ResourceType)
    (action : Action) (ordinary : ¬ session.context.principal.superuser = true) :
    (evaluator.resolveGrants resource action session).1 =
      (evaluator.heldPermissions (session.updateContext RequestContext.markChecked)).1.bind
        (fun held =>
          match held.find? (evaluator.guardingKey resource action) with
          | some scopes => .ok scopes
          | none =>
              .error (.forbidden session.context.principal.id
                (evaluator.guardingKey resource action))) := by
  have marked : ¬ (session.updateContext RequestContext.markChecked).context.principal.superuser =
      true := ordinary
  have principal : (evaluator.heldPermissions
      (session.updateContext RequestContext.markChecked)).2.context.principal =
        session.context.principal :=
    (evaluator.looked_heldPermissions _).principal
  rw [← principal]
  unfold resolveGrants
  dsimp only
  rw [if_neg marked]
  split
  next error next found =>
    rw [found]
    rfl
  next held next found =>
    rw [found]
    dsimp only [Except.bind]
    cases bound : held.find? (evaluator.guardingKey resource action) <;> rfl

/-- An ordinary principal is granted the scopes it holds under the guarding key. -/
theorem grants_holding (evaluator : Evaluator) (session : Session) (resource : ResourceType)
    (action : Action) (scopes : OrderedSet ScopeName)
    (ordinary : ¬ session.context.principal.superuser = true) :
    (evaluator.resolveGrants resource action
      (session.holding (evaluator.guardingKey resource action) scopes)).1 = .ok scopes := by
  have found : (OrderedMap.ofList [(evaluator.guardingKey resource action, scopes)]).find?
      (evaluator.guardingKey resource action) = some scopes := by
    have bound := OrderedMap.find?_insert OrderedMap.empty
      (evaluator.guardingKey resource action) (evaluator.guardingKey resource action) scopes
    rw [if_pos rfl] at bound
    exact bound
  have looked : (evaluator.heldPermissions
      ((session.holding (evaluator.guardingKey resource action) scopes).updateContext
        RequestContext.markChecked)).1 =
      .ok (OrderedMap.ofList [(evaluator.guardingKey resource action, scopes)]) := rfl
  rw [evaluator.grants_of_ordinary resource action
    (show ¬ (session.holding _ scopes).context.principal.superuser = true from ordinary), looked]
  dsimp only [Except.bind]
  rw [found]

theorem session_hasAnyPermission (evaluator : Evaluator) (keys : List PermissionKey)
    (session : Session) :
    (evaluator.hasAnyPermission keys session).2 =
      if session.context.principal.superuser then session
      else (evaluator.heldPermissions session).2 := by
  unfold hasAnyPermission
  split
  next => rfl
  next =>
    split
    next error next found => rw [found]
    next permissions next found => rw [found]

/-! ## Outcomes -/

/-- A view narrows its query by the filter of the granted scopes. -/
theorem outcome_scopeView (evaluator : Evaluator) (base : Query) (session : Session) :
    (evaluator.scopeView base session).1 =
      match (evaluator.resolveGrants base.resource .view session).1 with
      | .error error => .error error
      | .ok grants =>
          (evaluator.authority.registry.viewFilter
            (session.scopeContext base.resource .view) grants).map base.narrow := by
  have looked := evaluator.looked_resolveGrants base.resource .view session
  rw [← looked.scopeContext]
  unfold scopeView
  dsimp only
  split
  next error next resolved => rw [resolved]
  next grants next resolved =>
    rw [resolved]
    dsimp only
    split
    next error failed => rw [failed]; rfl
    next filter found => rw [found]; rfl

/-- The write a session asks to be decided. -/
def writeRequest (session : Session) (action : Action) (resource : ResourceType)
    (record : Record) (values : Fields) : WriteRequest :=
  ⟨session.scopeContext resource action, record, values⟩

/-- A write is decided by the tally of the granted scopes. -/
theorem outcome_scopeWrite (evaluator : Evaluator) (action : Action) (resource : ResourceType)
    (record : Record) (values : Fields) (session : Session) :
    (evaluator.scopeWrite action resource record values session).1 =
      match (evaluator.resolveGrants resource action session).1 with
      | .error error => .error error
      | .ok grants =>
          Authority.tally (writeRequest session action resource record values)
            (evaluator.authority.writePoll
              (writeRequest session action resource record values) grants) := by
  have looked := evaluator.looked_resolveGrants resource action session
  unfold writeRequest
  rw [← looked.scopeContext]
  unfold scopeWrite
  split
  next error next resolved => rw [resolved]
  next grants next resolved =>
    rw [resolved]
    dsimp only
    split
    next error failed => rw [failed]
    next decided => rw [decided]

end Evaluator

/-! ## A small desk -/

namespace Desk

def tickets : ResourceType := ⟨"desk", "ticket"⟩

def own : ScopeName := ⟨"own"⟩

def picked : ScopeName := ⟨"picked"⟩

/-- A desk where one's own ticket is the first one, and picked tickets are all
that there are, while changing them always fails. -/
def office : Evaluator where
  authority :=
    { registry := ⟨OrderedMap.ofList
        [(tickets,
          { resource := tickets
            rules := OrderedMap.ofList
              [(own, .fixed (Filter.keyEquals ⟨"1"⟩)),
                (picked, .handlers
                  { view := some (fun _ => .ok (.subset (.query (Query.ofResource tickets))))
                    add := none
                    change := some (fun _ _ _ => .error ⟨"desk is closed"⟩)
                    delete := none })]
            permissionsVia := none
            provider := none })]⟩
      resolver := SubsetResolver.localOnly }
  permissions := PermissionMap.empty
  grantSource := GrantSource.ofPrincipal

/-- A request whose principal holds scopes for one action on tickets. -/
def request (method : RequestMethod) (action : Action) (scopes : List ScopeName) : Session :=
  (Session.start (RequestContext.anonymous method none)).holding
    (office.guardingKey tickets action) (OrderedSet.ofList scopes)

def ticket (number : String) : Record := ⟨⟨number⟩, OrderedMap.empty⟩

/-- A request of a clerk, whose permissions have not been looked up yet. -/
def clerk (method : RequestMethod) : Session :=
  Session.start (RequestContext.forPrincipal method none
    ⟨⟨"ada"⟩, OrderedSet.ofList ["clerk"], false⟩)

end Desk

end RowAccess
