import RowAccess.Handler.Program
import RowAccess.Http.Admission
import RowAccess.Token.Program

/-!
Contract: a service that answers requests one after the other.

All requests share the gate with its store and clock, the transaction manager,
the source of permissions and both audit trails. A request with a program runs
it under guard.

Owns:
- the state of the service and the answer to a request.
-/

namespace RowAccess.Http

/-- What a request asks of the service: the time before it, whether it passes
the gate, and the program of its handler with the status it answers. -/
structure Call where
  time : Option Instant
  request : Request
  throughGate : Bool
  program : Option (List HandlerStep × Nat)

structure Reply where
  response : Response
  admission : Option Admission
  transcript : List (HandlerEntry StepResult)

structure Service where
  gate : GateWorld
  header : String
  environment : HandlerEnvironment
  transactions : Transactions
  trail : List AuditEvent
  grantLoads : Nat

namespace Service

/-- The header that is read unless another one is named. -/
def standardHeader : String := "authorization"

def start (gate : GateWorld) (header : String) (environment : HandlerEnvironment) : Service where
  gate := gate
  header := lowerCase header
  environment := environment
  transactions := Transactions.initial
  trail := []
  grantLoads := 0

def setClock (service : Service) (time : Option Instant) : Service :=
  match time with
  | some now => { service with gate := { service.gate with clock := now } }
  | none => service

/-- Admits a request, through the gate or past it. -/
def admitCall (service : Service) (call : Call) : Except Response Admission × Service :=
  if call.throughGate then
    let gate := service.gate
    let (outcome, store, events) :=
      call.request.admitThrough gate.settings service.header gate.clock
        (WatchedStore.watch gate.faults gate.backend)
    (outcome,
      { service with
        gate := { gate with backend := store.store, trail := gate.trail ++ events } })
  else (call.request.admitDirectly, service)

/-- The body of a guarded response. -/
def doneBody : Json := .string "done"

/-- Runs a program under guard for an admitted request. -/
def handle (service : Service) (admission : Admission) (program : List HandlerStep)
    (status : Nat) : Reply × Service :=
  let session : Session := ⟨admission.context, service.trail, service.grantLoads⟩
  let ran := service.environment.runGuarded program status ⟨session, service.transactions, []⟩
  let response : Response :=
    match ran.1 with
    | .ok answered => ⟨answered, some doneBody⟩
    | .error error => Response.ofAccessError error
  (⟨response, some admission, ran.2.transcript⟩,
    { service with
      transactions := ran.2.transactions
      trail := ran.2.session.trail
      grantLoads := ran.2.session.grantLoads })

def answer (service : Service) (call : Call) : Reply × Service :=
  let admitted := (service.setClock call.time).admitCall call
  match admitted.1 with
  | .error response => (⟨response, none, []⟩, admitted.2)
  | .ok admission =>
      match call.program with
      | none => (⟨⟨200, none⟩, some admission, []⟩, admitted.2)
      | some (program, status) => admitted.2.handle admission program status

/-- Answers calls in turn and keeps the replies in order. -/
def answerAll : List Call → Service → List Reply × Service
  | [], service => ([], service)
  | call :: rest, service =>
      let first := service.answer call
      let others := answerAll rest first.2
      (first.1 :: others.1, others.2)

end Service

end RowAccess.Http
