import RowAccess.Http.Service
import RowAccess.Proofs.Token.Binding

/-!
Contract: what admission makes of the header that the gate reads.

The header counts only in a request that nothing bound before, and there only if
it presents a token. Wherever it does not count the request is admitted as past
the gate: the header can then show in nothing but the identifier of the request,
and in that only if it is the header of identifiers too. The mark that no form
forged a request stands exactly where a token bound it.

Owns:
- requests that differ in one header, and headers that present no token.
- the admission of a request by the gate.
- the answers of a service to requests at the gate.
-/

namespace RowAccess

theorem RequestMethod.parse?_eq_some_iff {text : String} {method : RequestMethod} :
    RequestMethod.parse? text = some method ↔ method.name = text.map Char.toUpper := by
  constructor
  · intro read
    have found : all.find? (fun method => method.name = text.map Char.toUpper) = some method := read
    simpa using List.find?_some found
  · intro named
    unfold RequestMethod.parse?
    rw [← named]
    exact RequestMethod.ofName?_name method

namespace Http

/-! ## One header of a request -/

namespace Headers

/-- The fields of all other names. -/
def without (name : String) (headers : Headers) : Headers :=
  headers.filter (fun field => decide (lowerCase field.1 ≠ lowerCase name))

/-- The fields of one name do not show in those of another one. -/
theorem first?_without {name other : String} (headers : Headers)
    (apart : lowerCase other ≠ lowerCase name) :
    (headers.without name).first? other = headers.first? other := by
  unfold first? without
  rw [List.find?_filter]
  congr 2
  funext field
  by_cases sought : lowerCase field.1 = lowerCase other
  · simp [sought, apart]
  · simp [sought]

theorem requestId?_without {name : String} (headers : Headers)
    (apart : lowerCase requestIdName ≠ lowerCase name) :
    (headers.without name).requestId? = headers.requestId? := by
  unfold requestId? text?
  rw [first?_without headers apart]

theorem first?_without_self (name : String) (headers : Headers) :
    (headers.without name).first? name = none := by
  unfold first? without
  rw [List.find?_filter, Option.map_eq_none_iff, List.find?_eq_none]
  intro field _
  simp

theorem without_without (name : String) (headers : Headers) :
    (headers.without name).without name = headers.without name := by
  unfold without
  rw [List.filter_filter]
  simp

end Headers

namespace Request

/-- Whether two requests are the same up to the fields of one name. -/
structure DiffersOnlyIn (name : String) (left right : Request) : Prop where
  method : left.method = right.method
  bound : left.bound = right.bound
  headers : left.headers.without name = right.headers.without name

/-- The request without the fields of a name. -/
def without (name : String) (request : Request) : Request :=
  { request with headers := request.headers.without name }

theorem differsOnlyIn_without (name : String) (request : Request) :
    (request.without name).DiffersOnlyIn name request :=
  ⟨rfl, rfl, Headers.without_without name request.headers⟩

theorem DiffersOnlyIn.requestId? {name : String} {left right : Request}
    (differs : left.DiffersOnlyIn name right)
    (apart : lowerCase Headers.requestIdName ≠ lowerCase name) :
    left.headers.requestId? = right.headers.requestId? := by
  rw [← Headers.requestId?_without left.headers apart, differs.headers,
    Headers.requestId?_without right.headers apart]

end Request

/-- The admission of a request that brought another identifier. -/
def Admission.identified (requestId : Option String) (admission : Admission) : Admission :=
  { admission with context := { admission.context with requestId := requestId } }

/-- Why the first field of a name presents no token: there is none, it is no text,
it is too long, or it is of another scheme. -/
inductive PresentsNothing (settings : GateSettings) (field : Option String) : Prop
  | absent (missing : field = none)
  | unreadable (value : String) (given : field = some value)
      (character : ∃ character ∈ value.toList, Headers.isReadable character = false)
  | tooLong (value : String) (given : field = some value)
      (size : settings.maxHeaderBytes < value.utf8ByteSize)
  | otherScheme (value : String) (given : field = some value)
      (scheme : ∀ rest, value ≠ settings.scheme ++ " " ++ rest)

theorem PresentsNothing.token? {settings : GateSettings} {headers : Headers} {name : String}
    (nothing : PresentsNothing settings (headers.first? name)) :
    (headers.text? name).bind settings.token? = none := by
  rw [Option.eq_none_iff_forall_ne_some]
  intro token read
  obtain ⟨text, isText, short, wording⟩ := GateSettings.bind_token?_eq_some_iff.1 read
  obtain ⟨isFirst, readable⟩ := Option.filter_eq_some_iff.1 isText
  cases nothing with
  | absent missing => exact nomatch missing.symm.trans isFirst
  | unreadable value given character =>
      obtain ⟨character, member, unreadable⟩ := character
      cases given.symm.trans isFirst
      exact absurd (List.all_eq_true.1 readable character member) (by simp [unreadable])
  | tooLong value given size =>
      cases given.symm.trans isFirst
      exact absurd short (Nat.not_le_of_lt size)
  | otherScheme value given scheme =>
      cases given.symm.trans isFirst
      exact scheme token.text wording

/-! ## Admission -/

/-- Whether what admission makes of a request that has the fields of another one is
the same but for the identifier that these fields bring, and the same altogether
unless it is the header of identifiers in which they differ. -/
structure SameButIdentifier {τ : Type} (name : String) (request : Request)
    (left right : Except Response Admission × τ) : Prop where
  admission : right.1 = left.1.map (Admission.identified request.headers.requestId?)
  rest : right.2 = left.2
  same : lowerCase Headers.requestIdName ≠ lowerCase name → right = left

namespace Request

/-- Past the gate, requests that differ in one header are admitted alike, each with
its own identifier. -/
theorem DiffersOnlyIn.admitDirectly {name : String} {left right : Request}
    (differs : left.DiffersOnlyIn name right) :
    right.admitDirectly =
      left.admitDirectly.map (Admission.identified right.headers.requestId?) := by
  unfold Request.admitDirectly context?
  rw [differs.method, differs.bound]
  cases RequestMethod.parse? right.method with
  | none => rfl
  | some method => cases right.bound <;> rfl

theorem DiffersOnlyIn.sameButIdentifier {σ : Type} {name : String} {left right : Request}
    (differs : left.DiffersOnlyIn name right) (store : σ) :
    SameButIdentifier name right (left.admitDirectly, store, ([] : List AuditEvent))
      (right.admitDirectly, store, []) where
  admission := differs.admitDirectly
  rest := rfl
  same := by
    intro apart
    have alike := differs.requestId? apart
    unfold Request.admitDirectly context?
    rw [differs.method, differs.bound, alike]

variable {σ : Type} [CredentialStore σ]
variable (settings : GateSettings) (header : String) (now : Instant) (request : Request)
variable (store : σ)

/-- The gate's run on a request of a method. -/
def gateRun (method : RequestMethod) : GateRun σ :=
  Gate.authenticate settings now (request.headers.text? header)
    (RequestContext.start method request.headers.requestId? request.bound) store

theorem admitThrough_of_unknown (unknown : RequestMethod.parse? request.method = none) :
    request.admitThrough settings header now store =
      (.error Response.methodNotAllowed, store, []) := by
  unfold admitThrough context?
  rw [unknown]

theorem admitThrough_of_known {method : RequestMethod}
    (known : RequestMethod.parse? request.method = some method) :
    let ran := gateRun settings header now request store method
    request.admitThrough settings header now store =
      (match ran.outcome with
        | .error error => .error (Response.ofTokenError error)
        | .ok verdict => .ok (request.admission ran.context verdict),
        ran.store, ran.events) := by
  unfold admitThrough context? gateRun
  rw [known]
  dsimp only
  cases (Gate.authenticate settings now (request.headers.text? header)
    (RequestContext.start method request.headers.requestId? request.bound) store).outcome <;> rfl

/-- A request that is bound already or presents no token is admitted as past the gate. -/
theorem admitThrough_eq_admitDirectly
    (passes : request.bound ≠ none ∨ (request.headers.text? header).bind settings.token? = none) :
    request.admitThrough settings header now store = (request.admitDirectly, store, []) := by
  unfold admitThrough admitDirectly context? Gate.authenticate
  cases RequestMethod.parse? request.method with
  | none => rfl
  | some method =>
      cases bound : request.bound with
      | some principal =>
          have authenticated : (RequestContext.start method request.headers.requestId?
              (some principal)).authenticated = true := rfl
          simp only [Except.map, if_pos authenticated, admission, bound, Option.getD_some]
          rfl
      | none =>
          have silent := passes.resolve_left (fun isBound => isBound bound)
          have anonymous : ¬ (RequestContext.start method request.headers.requestId?
              none).authenticated = true := Bool.false_ne_true
          simp only [Except.map, if_neg anonymous, silent, admission, bound]

/-- What a token makes of a request that nothing bound before. -/
theorem admission_of_unbound (unbound : request.bound = none) {admission : Admission}
    (admitted : (request.admitThrough settings header now store).1 = .ok admission) :
    (∃ token principal, settings.Presents (request.headers.text? header) token ∧
      (GatePhase.resolve now (.finding token) store).1 = .ok principal ∧
      admission.csrfExempt = true ∧ admission.bound = some principal ∧
      admission.context.principal = principal) ∨
    (∀ token, ¬ settings.Presents (request.headers.text? header) token) ∧
      admission.csrfExempt = false ∧ admission.bound = none := by
  cases known : RequestMethod.parse? request.method with
  | none =>
      rw [admitThrough_of_unknown settings header now request store known] at admitted
      cases admitted
  | some method =>
      rw [admitThrough_of_known settings header now request store known] at admitted
      unfold gateRun Gate.authenticate at admitted
      rw [unbound] at admitted
      simp only [RequestContext.start, RequestContext.anonymous, Bool.false_eq_true,
        if_false] at admitted
      cases read : (request.headers.text? header).bind settings.token? with
      | none =>
          simp only [read, Except.ok.injEq] at admitted
          subst admitted
          refine Or.inr ⟨fun token presents => ?_, rfl, unbound⟩
          rw [GateSettings.bind_token?_eq_some_iff.2 presents] at read
          cases read
      | some token =>
          simp only [read, Gate.present] at admitted
          cases resolved : (GatePhase.resolve now (.finding token) store).1 with
          | error error => simp [resolved, Except.map] at admitted
          | ok principal =>
              simp only [resolved, Except.map, Except.ok.injEq] at admitted
              subst admitted
              have presents := GateSettings.bind_token?_eq_some_iff.1 read
              refine Or.inl ⟨token, principal, presents, resolved, rfl, ?_, rfl⟩
              simp [admission, unbound, Gate.bind, RequestContext.authenticate,
                RequestContext.markCsrfExempt]

/-- What admission by the gate makes of a request, of its header and of the store.
The fields are the requests that are bound already, what of their header shows,
where the mark of the gate stands, headers that present no token, and the requests
that reach their handler and those that do not. -/
structure AdmittedByGate : Prop where
  upstream : ∀ principal, request.bound = some principal →
    (request.admitThrough settings header now store).2 = (store, []) ∧
    ∀ admission, (request.admitThrough settings header now store).1 = .ok admission →
      admission.bound = some principal ∧ admission.csrfExempt = false ∧
      admission.context.principal = principal
  hidden : request.bound ≠ none → ∀ other : Request, request.DiffersOnlyIn header other →
    SameButIdentifier header other
      (request.admitThrough settings header now store)
      (other.admitThrough settings header now store)
  exempt : request.bound = none → ∀ admission,
    (request.admitThrough settings header now store).1 = .ok admission →
      (admission.csrfExempt = true ↔ admission.bound ≠ none) ∧
      (admission.bound ≠ none ↔
        ∃ token principal, settings.Presents (request.headers.text? header) token ∧
          (GatePhase.resolve now (.finding token) store).1 = .ok principal) ∧
      ∀ principal, admission.bound = some principal → admission.context.principal = principal
  plain : PresentsNothing settings (request.headers.first? header) →
    SameButIdentifier header request
      ((request.without header).admitThrough settings header now store)
      (request.admitThrough settings header now store)
  reached : (∃ admission, (request.admitThrough settings header now store).1 = .ok admission) ↔
    ∃ method : RequestMethod, method.name = request.method.map Char.toUpper ∧
      ∀ error, (gateRun settings header now request store method).outcome ≠ .error error
  unknown : (∀ method : RequestMethod, method.name ≠ request.method.map Char.toUpper) →
    request.admitThrough settings header now store = (.error ⟨405, none⟩, store, [])
  refused : ∀ (method : RequestMethod) (error : TokenError),
    method.name = request.method.map Char.toUpper →
      (gateRun settings header now request store method).outcome = .error error →
        (request.admitThrough settings header now store).1 =
          .error ⟨error.httpStatus, some error.httpBody⟩

theorem admittedByGate : AdmittedByGate settings header now request store where
  upstream := by
    intro principal bound
    have isBound : request.bound ≠ none := bound ▸ Option.some_ne_none principal
    rw [admitThrough_eq_admitDirectly settings header now request store (Or.inl isBound)]
    refine ⟨rfl, fun admission admitted => ?_⟩
    unfold Request.admitDirectly context? at admitted
    rw [bound] at admitted
    cases known : RequestMethod.parse? request.method with
    | none =>
        rw [known] at admitted
        cases admitted
    | some method =>
        rw [known] at admitted
        cases admitted
        exact ⟨rfl, rfl, rfl⟩
  hidden := by
    intro isBound other differs
    have otherBound : other.bound ≠ none := differs.bound ▸ isBound
    rw [admitThrough_eq_admitDirectly settings header now request store (Or.inl isBound),
      admitThrough_eq_admitDirectly settings header now other store (Or.inl otherBound)]
    exact differs.sameButIdentifier store
  exempt := by
    intro unbound admission admitted
    rcases admission_of_unbound settings header now request store unbound admitted with
      ⟨token, principal, presents, resolved, exempt, bound, owner⟩ | ⟨silent, exempt, bound⟩
    · have isBound : admission.bound ≠ none := bound ▸ Option.some_ne_none principal
      refine ⟨iff_of_true exempt isBound, iff_of_true isBound ⟨_, _, presents, resolved⟩, ?_⟩
      intro other isOther
      exact owner.trans (Option.some.inj (bound.symm.trans isOther))
    · have unmarked : admission.csrfExempt ≠ true := exempt ▸ Bool.false_ne_true
      refine ⟨iff_of_false unmarked (fun isBound => isBound bound),
        iff_of_false (fun isBound => isBound bound) ?_, ?_⟩
      · rintro ⟨token, _, presents, _⟩
        exact silent token presents
      · intro other isOther
        exact nomatch bound.symm.trans isOther
  plain := by
    intro nothing
    have bare : PresentsNothing settings ((request.without header).headers.first? header) :=
      .absent (Headers.first?_without_self header request.headers)
    rw [admitThrough_eq_admitDirectly settings header now request store (Or.inr nothing.token?),
      admitThrough_eq_admitDirectly settings header now _ store (Or.inr bare.token?)]
    exact (differsOnlyIn_without header request).sameButIdentifier store
  reached := by
    constructor
    · rintro ⟨admission, admitted⟩
      cases known : RequestMethod.parse? request.method with
      | none =>
          rw [admitThrough_of_unknown settings header now request store known] at admitted
          cases admitted
      | some method =>
          rw [admitThrough_of_known settings header now request store known] at admitted
          refine ⟨method, RequestMethod.parse?_eq_some_iff.1 known, fun error refused => ?_⟩
          simp only [refused] at admitted
          cases admitted
    · rintro ⟨method, named, passes⟩
      rw [admitThrough_of_known settings header now request store
        (RequestMethod.parse?_eq_some_iff.2 named)]
      cases ran : (gateRun settings header now request store method).outcome with
      | error error => exact absurd ran (passes error)
      | ok verdict => exact ⟨_, rfl⟩
  unknown := by
    intro unnamed
    refine admitThrough_of_unknown settings header now request store ?_
    rw [Option.eq_none_iff_forall_ne_some]
    exact fun method known => unnamed method (RequestMethod.parse?_eq_some_iff.1 known)
  refused := by
    intro method error named refused
    rw [admitThrough_of_known settings header now request store
      (RequestMethod.parse?_eq_some_iff.2 named)]
    simp only [refused]
    rfl

end Request

/-! ## A service at the gate -/

/-- What a service makes of a call: where the request is admitted the handler runs with
that admission and with what admission left, or there is no handler and the answer is
empty. Where the request is not admitted the handler does not run, and nothing changes
but the gate. What a request that is bound already brings in the header of tokens does
not show, unless it is its identifier. -/
structure Service.HandlesAdmitted (service : Service) (call : Call) : Prop where
  admitted : ∀ admission, ((service.setClock call.time).admitCall call).1 = .ok admission →
    (service.answer call).1.admission = some admission
  handled : ∀ admission program status,
    ((service.setClock call.time).admitCall call).1 = .ok admission →
      call.program = some (program, status) →
        service.answer call =
          ((service.setClock call.time).admitCall call).2.handle admission program status
  unhandled : ∀ admission, ((service.setClock call.time).admitCall call).1 = .ok admission →
    call.program = none →
      service.answer call =
        (⟨⟨200, none⟩, some admission, []⟩, ((service.setClock call.time).admitCall call).2)
  refused : ∀ response, ((service.setClock call.time).admitCall call).1 = .error response →
    (service.answer call).1 = ⟨response, none, []⟩ ∧
      (service.answer call).2.transactions = service.transactions ∧
      (service.answer call).2.trail = service.trail ∧
      (service.answer call).2.grantLoads = service.grantLoads
  hidden : call.throughGate = true → call.request.bound ≠ none →
    lowerCase Headers.requestIdName ≠ lowerCase service.header →
      ∀ other : Request, call.request.DiffersOnlyIn service.header other →
        service.answer { call with request := other } = service.answer call

namespace Service

theorem setClock_header (service : Service) (time : Option Instant) :
    (service.setClock time).header = service.header := by
  cases time <;> rfl

/-- Admission changes nothing but the gate. -/
theorem admitCall_keeps (service : Service) (call : Call) :
    ((service.setClock call.time).admitCall call).2.transactions = service.transactions ∧
    ((service.setClock call.time).admitCall call).2.trail = service.trail ∧
    ((service.setClock call.time).admitCall call).2.grantLoads = service.grantLoads := by
  unfold admitCall setClock
  cases call.time <;> cases call.throughGate <;> exact ⟨rfl, rfl, rfl⟩

theorem handlesAdmitted (service : Service) (call : Call) : service.HandlesAdmitted call where
  admitted := by
    intro admission admitted
    unfold answer
    dsimp only
    rw [admitted]
    cases call.program <;> rfl
  handled := by
    intro admission program status admitted given
    unfold answer
    dsimp only
    rw [admitted, given]
  unhandled := by
    intro admission admitted absent
    unfold answer
    dsimp only
    rw [admitted, absent]
  refused := by
    intro response refused
    have kept := service.admitCall_keeps call
    unfold answer
    dsimp only
    rw [refused]
    exact ⟨rfl, kept⟩
  hidden := by
    intro throughGate isBound apart other differs
    have alike : (service.setClock call.time).admitCall { call with request := other } =
        (service.setClock call.time).admitCall call := by
      unfold admitCall
      rw [throughGate, setClock_header]
      simp only [if_true]
      have byGate := Request.admittedByGate (service.setClock call.time).gate.settings
        service.header (service.setClock call.time).gate.clock call.request
        (WatchedStore.watch (service.setClock call.time).gate.faults
          (service.setClock call.time).gate.backend)
      rw [(byGate.hidden isBound other differs).same apart]
    unfold answer
    rw [alike]

end Service

/-- Admission by a gate, over any store, rests on the token alone, and only in requests
that nothing bound before; a service runs handlers for what is admitted. -/
theorem Service.admission_rests_on_gate (service : Service) (call : Call) :
    (∀ {σ : Type} [CredentialStore σ] (settings : GateSettings) (header : String) (now : Instant)
      (request : Request) (store : σ), request.AdmittedByGate settings header now store) ∧
    service.HandlesAdmitted call :=
  ⟨fun settings header now request store => request.admittedByGate settings header now store,
    service.handlesAdmitted call⟩

end Http

namespace Desk

open Http

/-- Two requests of a session of a clerk, of which only one brings a field. -/
def unnamed : Request := ⟨"GET", [], some ⟨⟨"ada"⟩, OrderedSet.empty, false⟩⟩

def named : Request := { unnamed with headers := [("x-request-id", "r1")] }

/-- Where the gate reads the header of identifiers, what a session brings there does
show: it is the identifier of the request that the handler is given. -/
theorem desk_token_header_names_request :
    unnamed.bound ≠ none ∧ unnamed.DiffersOnlyIn "x-request-id" named ∧
    PresentsNothing .standard (named.headers.first? "x-request-id") ∧
    ((unnamed.admitThrough .standard "x-request-id" ⟨50, 0⟩ keyStore).1.map
      (fun admission => admission.context.requestId)).toOption = some none ∧
    ((named.admitThrough .standard "x-request-id" ⟨50, 0⟩ keyStore).1.map
      (fun admission => admission.context.requestId)).toOption = some (some "r1") := by
  refine ⟨Option.some_ne_none _, ⟨rfl, rfl, ?_⟩, ?_, ?_, ?_⟩
  · decide +kernel
  · refine .otherScheme "r1" (by decide +kernel) (fun rest same => ?_)
    have begun := congrArg (fun text => text.toList.head?) same
    rw [String.toList_append, String.toList_append, List.append_assoc] at begun
    cases begun
  · decide +kernel
  · decide +kernel

end Desk

end RowAccess
