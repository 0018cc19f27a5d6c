import RowAccess.Json.Printer
import RowAccess.Request.Action

/-!
Contract: audit events and their recorded forms.

Every decision, every use of a delete fallback, every presented token and every
enforcement violation is one event. Tokens appear as fingerprints only. The
time of an event is the recorder's business and is zero here.

Owns:
- the event types, their fields in order, and their line and value forms.
-/

namespace RowAccess

inductive TokenOutcome where
  | authenticated
  | notFound
  | expired
  | error
deriving DecidableEq, Repr

def TokenOutcome.label : TokenOutcome → String
  | .authenticated => "authenticated"
  | .notFound => "not_found"
  | .expired => "expired"
  | .error => "error"

structure DecisionEvent where
  requestId : Option String
  principal : String
  resource : String
  action : Action
  allowed : Bool
  scopes : List String
  reason : Option String
deriving DecidableEq, Repr

structure FallbackEvent where
  requestId : Option String
  resource : String
  scope : String
  message : String
deriving DecidableEq, Repr

structure TokenEvent where
  outcome : TokenOutcome
  fingerprint : String
  principal : Option String
  errorCode : Option String
deriving DecidableEq, Repr

structure EnforcementEvent where
  requestId : Option String
  method : String
  reason : String
deriving DecidableEq, Repr

inductive AuditEvent where
  | decision (event : DecisionEvent)
  | fallback (event : FallbackEvent)
  | token (event : TokenEvent)
  | enforcement (event : EnforcementEvent)
deriving DecidableEq, Repr

namespace AuditEvent

def name : AuditEvent → String
  | .decision _ => "scope_decision"
  | .fallback _ => "scope_subset_fallback"
  | .token _ => "token_auth"
  | .enforcement _ => "enforcement_violation"

def names : List String :=
  ["scope_decision", "scope_subset_fallback", "token_auth", "enforcement_violation"]

def optionalText (text : Option String) : Json := Json.ofOption .string text

/-- The fields of an event other than its name and time, in order. -/
def detail : AuditEvent → List (String × Json)
  | .decision event =>
      [("request_id", optionalText event.requestId),
       ("principal_id", .string event.principal),
       ("resource", .string event.resource),
       ("action", .string event.action.label),
       ("allowed", .bool event.allowed),
       ("scopes", Json.strings event.scopes),
       ("reason", optionalText event.reason)]
  | .fallback event =>
      [("request_id", optionalText event.requestId),
       ("resource", .string event.resource),
       ("scope", .string event.scope),
       ("message", .string event.message)]
  | .token event =>
      [("outcome", .string event.outcome.label),
       ("token_fingerprint", .string event.fingerprint),
       ("principal_id", optionalText event.principal),
       ("error_code", optionalText event.errorCode)]
  | .enforcement event =>
      [("request_id", optionalText event.requestId),
       ("method", .string event.method),
       ("reason", .string event.reason)]

/-- The event as a value without its time. -/
def value (event : AuditEvent) : Json :=
  Json.ofFields (("event", .string event.name) :: event.detail)

/-- The event as a line of a file, at time zero. -/
def line (event : AuditEvent) : String :=
  Json.print (.object
    (("event", .string event.name) :: ("timestamp_ms", Json.integer 0) :: event.detail))

end AuditEvent

/-- Where audit events go. -/
inductive AuditSink where
  | memory
  | file
  | noop
deriving DecidableEq, Repr

end RowAccess
