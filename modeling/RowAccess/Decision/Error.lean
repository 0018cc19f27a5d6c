import RowAccess.Identity.Resource
import RowAccess.Request.Method
import RowAccess.Store.Error

/-!
Contract: why an access decision did not allow a request.

A denial is for the user; a configuration error and a defect are for the
operator. The distinction is what later decides how much a client is told.

Owns:
- the causes, their codes, kinds and texts.
-/

namespace RowAccess

inductive ErrorKind where
  | denied
  | configuration
  | defect
deriving DecidableEq, Repr

/-- What a handler left out, by the action its method implies. -/
inductive Omission where
  | noCheck
  | view
  | delete
  | write
deriving DecidableEq, Repr

def Omission.reason : Omission → String
  | .noCheck => "no permission check was performed"
  | .view => "view scope was not checked"
  | .delete => "delete scope was not checked"
  | .write => "no add, change or delete scope was checked"

inductive AccessError where
  | forbidden (principal : PrincipalId) (permission : PermissionKey)
  | scoping (principal : PrincipalId) (resource : ResourceType) (action : Action)
  | unknownScope (scope : ScopeName) (resource : ResourceType) (action : Action)
  | compositionUnsupported (scope : ScopeName) (resource : ResourceType)
  | compositionTooDeep (scope : ScopeName) (resource : ResourceType)
  | scopedCustomAction (permission : PermissionKey)
  | scopeFailed (scope : ScopeName) (resource : ResourceType) (message : String)
  | checkOmitted (method : RequestMethod) (omission : Omission)
  | store (error : StoreError)
deriving DecidableEq, Repr

namespace AccessError

def kind : AccessError → ErrorKind
  | .forbidden .. | .scoping .. => .denied
  | .unknownScope .. | .compositionUnsupported .. | .compositionTooDeep ..
  | .scopedCustomAction .. => .configuration
  | .scopeFailed .. | .checkOmitted .. | .store _ => .defect

def code : AccessError → String
  | .forbidden .. => "Forbidden"
  | .scoping .. => "ScopingError"
  | .unknownScope .. => "UnknownScope"
  | .compositionUnsupported .. => "CompositionUnsupported"
  | .compositionTooDeep .. => "CompositionTooDeep"
  | .scopedCustomAction .. => "ScopedCustomAction"
  | .scopeFailed .. => "ScopeFailed"
  | .checkOmitted .. => "PermissionCheckOmitted"
  | .store _ => "StoreError"

def message : AccessError → String
  | .forbidden principal permission =>
      s!"principal {principal} lacks permission {permission}"
  | .scoping principal resource action =>
      s!"principal {principal} is not allowed to {action} {resource}"
  | .unknownScope scope resource action =>
      s!"unknown scope {scope} on {resource} for {action}"
  | .compositionUnsupported scope resource =>
      s!"scope composition is not implemented for view ({scope} on {resource})"
  | .compositionTooDeep scope resource =>
      s!"scope composition too deep at {scope} on {resource}"
  | .scopedCustomAction permission =>
      s!"permission {permission} is not a CRUD action and may not carry scopes"
  | .scopeFailed scope resource message =>
      s!"scope {scope} on {resource} failed: {message}"
  | .checkOmitted method omission =>
      s!"permission check omitted for {method} request: " ++ omission.reason
  | .store error => error.message

end AccessError

end RowAccess
