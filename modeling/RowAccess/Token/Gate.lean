import RowAccess.Audit.Event
import RowAccess.Request.Context
import RowAccess.Store.Credentials
import RowAccess.Token.Error
import RowAccess.Token.Header

/-!
Contract: the gate that binds the owner of a token to a request.

A request that is bound already, or presents no token, passes unchanged. A
presented token is resolved by store calls made one at a time: it is looked
up; an expired one is removed; the owner of a live one is loaded and the token
touched. Only a resolved token changes the context, and every presented token
is one audit event.

Owns:
- the phases of a resolution and the call that each of them makes.
- the outcome of the gate and its event.
-/

namespace RowAccess

/-- How far the resolution of a presented token has come. -/
inductive GatePhase where
  | finding (token : TokenValue)
  | removing (token : TokenValue) (expiredAt : Instant)
  | loading (token : TokenValue) (owner : PrincipalId) (now : Instant)
  | touching (token : TokenValue) (principal : Principal) (now : Instant)
  | settled (outcome : Except TokenError Principal)

namespace GatePhase

/-- A bound on the store calls still to make. -/
def rank : GatePhase → Nat
  | .finding _ => 3
  | .loading _ _ _ => 2
  | .removing _ _ | .touching _ _ _ => 1
  | .settled _ => 0

/-- The outcome of a resolution that has ended. -/
def outcome? : GatePhase → Option (Except TokenError Principal)
  | .settled outcome => some outcome
  | _ => none

def failed (error : StoreError) : GatePhase := .settled (.error (.store error))

variable {σ : Type} [CredentialStore σ]

/-- What a look-up leads to when the clock then shows a time. -/
def afterFind (now : Instant) (token : TokenValue) :
    Except StoreError (Option Credential) → GatePhase
  | .error error => failed error
  | .ok none => .settled (.error (.notFound token))
  | .ok (some credential) =>
      if credential.isExpired now then .removing token credential.expiresAt
      else .loading token credential.owner now

def afterRemoval (token : TokenValue) (expiredAt : Instant) :
    Except StoreError Bool → GatePhase
  | .error error => failed error
  | .ok _ => .settled (.error (.expired token expiredAt))

def afterLoad (token : TokenValue) (owner : PrincipalId) (now : Instant) :
    Except StoreError (Option Principal) → GatePhase
  | .error error => failed error
  | .ok none => .settled (.error (.ownerMissing owner))
  | .ok (some principal) => .touching token principal now

def afterTouch (principal : Principal) : Except StoreError Unit → GatePhase
  | .error error => failed error
  | .ok _ => .settled (.ok principal)

/-- Makes the one store call of a phase. The clock is read after a look-up. -/
def step (now : Instant) (phase : GatePhase) (store : σ) : GatePhase × σ :=
  match phase with
  | .finding token =>
      let made := CredentialStore.find token store
      (afterFind now token made.1, made.2)
  | .removing token expiredAt =>
      let made := CredentialStore.deleteIfExists token store
      (afterRemoval token expiredAt made.1, made.2)
  | .loading token owner time =>
      let made := CredentialStore.load owner store
      (afterLoad token owner time made.1, made.2)
  | .touching token principal time =>
      let made := CredentialStore.touch token time store
      (afterTouch principal made.1, made.2)
  | .settled outcome => (.settled outcome, store)

theorem rank_step_lt {now : Instant} {phase : GatePhase} {store : σ}
    (unsettled : phase.outcome? = none) : (step now phase store).1.rank < phase.rank := by
  cases phase with
  | finding token =>
      simp only [step, afterFind]
      split
      · simp [failed, rank]
      · simp [rank]
      · split <;> simp [rank]
  | removing token expiredAt =>
      simp only [step, afterRemoval]
      split <;> simp [failed, rank]
  | loading token owner time =>
      simp only [step, afterLoad]
      split <;> simp [failed, rank]
  | touching token principal time =>
      simp only [step, afterTouch]
      split <;> simp [failed, rank]
  | settled outcome => simp [outcome?] at unsettled

/-- Makes the store calls of a phase and of all that follow it. -/
def resolve (now : Instant) (phase : GatePhase) (store : σ) :
    Except TokenError Principal × σ :=
  match _current : phase.outcome? with
  | some outcome => (outcome, store)
  | none =>
      let made := phase.step now store
      resolve now made.1 made.2
termination_by phase.rank
decreasing_by exact rank_step_lt _current

end GatePhase

/-- Whether a request that the gate let pass is bound to a principal. -/
inductive GateVerdict where
  | unauthenticated
  | authenticated
deriving DecidableEq, Repr

def GateVerdict.name : GateVerdict → String
  | .unauthenticated => "Unauthenticated"
  | .authenticated => "Authenticated"

/-- A request after the gate, with the store and the events the gate caused. -/
structure GateRun (σ : Type) where
  outcome : Except TokenError GateVerdict
  context : RequestContext
  store : σ
  events : List AuditEvent

namespace Gate

/-- The audit event of a presented token. -/
def tokenEvent (token : TokenValue) : Except TokenError Principal → AuditEvent
  | .ok principal =>
      .token ⟨.authenticated, token.fingerprint, some principal.id.text, none⟩
  | .error error =>
      .token
        { outcome :=
            match error with
            | .notFound _ => .notFound
            | .expired _ _ => .expired
            | .ownerMissing _ | .store _ => .error
          fingerprint := token.fingerprint
          principal := none
          errorCode := some error.code }

/-- Binds a resolved principal. Its request needs no protection against forged
forms, since a token does not come from a browser by itself. -/
def bind (principal : Principal) (context : RequestContext) : RequestContext :=
  (context.authenticate principal).markCsrfExempt

variable {σ : Type} [CredentialStore σ]

/-- Resolves a presented token for a request that is not bound yet. -/
def present (now : Instant) (token : TokenValue) (context : RequestContext) (store : σ) :
    GateRun σ :=
  let resolved := GatePhase.resolve now (.finding token) store
  { outcome := resolved.1.map (fun _ => .authenticated)
    context :=
      match resolved.1 with
      | .ok principal => bind principal context
      | .error _ => context
    store := resolved.2
    events := [tokenEvent token resolved.1] }

def authenticate (settings : GateSettings) (now : Instant) (header : Option String)
    (context : RequestContext) (store : σ) : GateRun σ :=
  if context.authenticated then ⟨.ok .authenticated, context, store, []⟩
  else
    match header.bind settings.token? with
    | none => ⟨.ok .unauthenticated, context, store, []⟩
    | some token => present now token context store

end Gate

end RowAccess
