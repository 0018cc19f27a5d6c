import RowAccess.Grant.Held

/-!
Contract: the authorization state of one request.

A context carries the principal, the log of decisions that allowed something,
whether a permission was checked at all, the cached permissions of the current
principal, and how many guarded runs are open.

Owns:
- the context type and the changes decisions, authentication and guards make.
-/

namespace RowAccess

structure RequestContext where
  principal : Principal
  authenticated : Bool
  method : RequestMethod
  requestId : Option String
  decisions : List Action
  permissionChecked : Bool
  held : Option HeldPermissions
  csrfExempt : Bool
  depth : Nat
deriving Repr

namespace RequestContext

/-- The context of a request without credentials. -/
def anonymous (method : RequestMethod) (requestId : Option String) : RequestContext where
  principal := Principal.anonymous
  authenticated := false
  method := method
  requestId := requestId
  decisions := []
  permissionChecked := false
  held := none
  csrfExempt := false
  depth := 0

/-- Binds a principal, whose permissions are not known yet. -/
def authenticate (context : RequestContext) (principal : Principal) : RequestContext :=
  { context with principal := principal, authenticated := true, held := none }

def forPrincipal (method : RequestMethod) (requestId : Option String) (principal : Principal) :
    RequestContext :=
  (anonymous method requestId).authenticate principal

/-- The context of a request, bound if a principal is known. -/
def start (method : RequestMethod) (requestId : Option String) :
    Option Principal → RequestContext
  | some principal => forPrincipal method requestId principal
  | none => anonymous method requestId

def markChecked (context : RequestContext) : RequestContext :=
  { context with permissionChecked := true }

def record (context : RequestContext) (action : Action) : RequestContext :=
  { context with decisions := context.decisions ++ [action] }

/-- Declares that the request needs no scope. -/
def markUnscoped (context : RequestContext) : RequestContext :=
  context.markChecked.record context.method.impliedAction

def markCsrfExempt (context : RequestContext) : RequestContext :=
  { context with csrfExempt := true }

def cache (context : RequestContext) (held : HeldPermissions) : RequestContext :=
  { context with held := some held }

/-- Forgets the decisions of earlier guarded runs. -/
def resetEnforcement (context : RequestContext) : RequestContext :=
  { context with permissionChecked := false, decisions := [] }

def withDepth (context : RequestContext) (depth : Nat) : RequestContext :=
  { context with depth := depth }

end RequestContext

end RowAccess
