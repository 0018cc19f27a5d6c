import RowAccess.Decision.Write
import RowAccess.Request.Context

/-!
Contract: the state that access operations of one request thread through.

Owns:
- the session state: request context, audit trail and number of loads from the
  grant source.
- the resolution of grants, with its cache of held permissions.
-/

namespace RowAccess

/-- What access operations need: the authority of decisions, the permission
map and the source of permission strings. -/
structure Evaluator where
  authority : Authority
  permissions : PermissionMap
  grantSource : GrantSource

structure Session where
  context : RequestContext
  trail : List AuditEvent
  grantLoads : Nat

namespace Session

def start (context : RequestContext) : Session := ⟨context, [], 0⟩

def audit (session : Session) (event : AuditEvent) : Session :=
  { session with trail := session.trail ++ [event] }

def auditAll (session : Session) (events : List AuditEvent) : Session :=
  { session with trail := session.trail ++ events }

def updateContext (session : Session) (update : RequestContext → RequestContext) : Session :=
  { session with context := update session.context }

def scopeContext (session : Session) (resource : ResourceType) (action : Action) :
    ScopeContext where
  principal := session.context.principal
  resource := resource
  action := action
  method := session.context.method
  requestId := session.context.requestId

/-- The audit event of a decision. -/
def decisionEvent (session : Session) (resource : ResourceType) (action : Action)
    (grants : OrderedSet ScopeName) (error : Option AccessError) : AuditEvent :=
  .decision
    { requestId := session.context.requestId
      principal := session.context.principal.id.text
      resource := resource.label
      action := action
      allowed := error.isNone
      scopes := grants.toList.map Label.text
      reason := error.map AccessError.message }

def recordDecision (session : Session) (action : Action) : Session :=
  session.updateContext (fun context => context.record action)

end Session

namespace Evaluator

/-- The permissions of the current principal: cached, or loaded and then
cached. A load that fails leaves nothing in the cache. -/
def heldPermissions (evaluator : Evaluator) (session : Session) :
    Except AccessError HeldPermissions × Session :=
  match session.context.held with
  | some held => (.ok held, session)
  | none =>
      let counted := { session with grantLoads := session.grantLoads + 1 }
      match HeldPermissions.load evaluator.permissions evaluator.grantSource
          session.context.principal with
      | .error error => (.error error, counted)
      | .ok held => (.ok held, counted.updateContext (fun context => context.cache held))

/-- The key that guards an action on a resource. -/
def guardingKey (evaluator : Evaluator) (resource : ResourceType) (action : Action) :
    PermissionKey :=
  (evaluator.authority.registry.permissionResource resource).permissionKey action.label

/-- The scopes granted for an action. A superuser has the builtin scope; any
other principal must hold the guarding key. -/
def resolveGrants (evaluator : Evaluator) (resource : ResourceType) (action : Action)
    (session : Session) : Except AccessError (OrderedSet ScopeName) × Session :=
  let checked := session.updateContext RequestContext.markChecked
  if checked.context.principal.superuser then
    (.ok (OrderedSet.ofList [ScopeName.all]), checked)
  else
    match evaluator.heldPermissions checked with
    | (.error error, next) => (.error error, next)
    | (.ok held, next) =>
        let key := evaluator.guardingKey resource action
        match held.find? key with
        | some scopes => (.ok scopes, next)
        | none => (.error (.forbidden next.context.principal.id key), next)

/-- Whether any of the keys is held. This is a look-up, not a check. -/
def hasAnyPermission (evaluator : Evaluator) (keys : List PermissionKey) (session : Session) :
    Except AccessError Bool × Session :=
  if session.context.principal.superuser then (.ok true, session)
  else
    match evaluator.heldPermissions session with
    | (.error error, next) => (.error error, next)
    | (.ok held, next) => (.ok (keys.any held.contains), next)

end Evaluator

end RowAccess
