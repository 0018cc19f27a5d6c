import RowAccess.Http.Failure
import RowAccess.Http.Header
import RowAccess.Token.Gate

/-!
Contract: how a request reaches its handler.

A request of a known method gets a context. A principal that an earlier part
bound is taken over; otherwise the gate may bind one. What the gate refuses is
answered at once.

Owns:
- requests, responses and admissions.
- admission with the gate and without it.
-/

namespace RowAccess.Http

structure Request where
  method : String
  headers : Headers
  bound : Option Principal

structure Response where
  status : Nat
  body : Option Json

namespace Response

/-- The answer to a method that is not known. -/
def methodNotAllowed : Response := ⟨405, none⟩

def ofTokenError (error : TokenError) : Response := ⟨error.httpStatus, some error.httpBody⟩

def ofAccessError (error : AccessError) : Response := ⟨error.httpStatus, some error.httpBody⟩

end Response

/-- What a handler is given: the context, the principal bound to the request
and the mark of the gate that no form can have forged it. -/
structure Admission where
  context : RequestContext
  bound : Option Principal
  csrfExempt : Bool

namespace Request

def context? (request : Request) : Except Response RequestContext :=
  match RequestMethod.parse? request.method with
  | none => .error Response.methodNotAllowed
  | some method =>
      .ok (RequestContext.start method request.headers.requestId? request.bound)

/-- Admits a request past the gate. -/
def admitDirectly (request : Request) : Except Response Admission :=
  request.context?.map (fun context => ⟨context, request.bound, false⟩)

/-- The admission that a verdict of the gate leads to. -/
def admission (request : Request) (context : RequestContext) : GateVerdict → Admission
  | .authenticated =>
      ⟨context, some (request.bound.getD context.principal), context.csrfExempt⟩
  | .unauthenticated => ⟨context, request.bound, false⟩

/-- Admits a request through the gate, which reads one header. -/
def admitThrough {σ : Type} [CredentialStore σ] (settings : GateSettings) (header : String)
    (now : Instant) (request : Request) (store : σ) :
    Except Response Admission × σ × List AuditEvent :=
  match request.context? with
  | .error response => (.error response, store, [])
  | .ok context =>
      let ran := Gate.authenticate settings now (request.headers.text? header) context store
      match ran.outcome with
      | .error error => (.error (Response.ofTokenError error), ran.store, ran.events)
      | .ok verdict => (.ok (request.admission ran.context verdict), ran.store, ran.events)

end Request

end RowAccess.Http
