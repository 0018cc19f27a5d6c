import RowAccess.Proofs.Store.Mirror
import RowAccess.Proofs.Token.Binding

/-!
Contract: the gate does the same on stores that mirror each other.

A resolution makes the same calls on a store in memory and on one that mirrors
it on a file, and settles on the same outcome, with its instants in UTC. That
needs the time of its touch to be one that can be stored; where it is not, the
touch fails on the file, and nothing is bound.

Owns:
- outcomes in UTC, and calls that are answered alike.
- mirroring of backends and of watched backends, kept by every call.
- the gate on each of two stores that mirror each other.
- the gate on a file with a clock whose time cannot be stored.
-/

namespace RowAccess

/-! ## Results in UTC -/

def TokenError.inUtc : TokenError → TokenError
  | .expired token expiredAt => .expired token expiredAt.utc
  | error => error

def GatePhase.inUtc : GatePhase → GatePhase
  | .removing token expiredAt => .removing token expiredAt.utc
  | .settled outcome => .settled (outcome.mapError TokenError.inUtc)
  | phase => phase

/-! ## Stores -/

/-- What a call answers on each of two related stores. -/
structure Answers {σ α : Type} (Related : σ → σ → Prop) (translate : α → α)
    (left right : Except StoreError α × σ) : Prop where
  outcome : right.1 = left.1.map translate
  store : Related left.2 right.2

/-- A store in memory and one on a file that mirrors it. -/
inductive CredentialBackend.Mirrored : CredentialBackend → CredentialBackend → Prop
  | intro {memory : MemoryStore} {durable : DurableStore} (mirrors : durable.Mirrors memory) :
      Mirrored (.memory memory) (.durable durable)

namespace CredentialBackend.Mirrored

/-- A call that a store on a file answers like one in memory. -/
theorem answers {α : Type} {translate : α → α} {answer : α} {memory : MemoryStore}
    {made : Except StoreError α × DurableStore}
    (answered : ∃ next, made = (.ok (translate answer), next) ∧ next.Mirrors memory) :
    Answers Mirrored translate (.ok answer, .memory memory) (mapDurable made) := by
  obtain ⟨next, same, mirrors⟩ := answered
  rw [same]
  exact ⟨rfl, .intro mirrors⟩

variable {left right : CredentialBackend}

theorem find (mirrored : Mirrored left right) (token : TokenValue) :
    Answers Mirrored (Option.map Credential.utc) (CredentialStore.find token left)
      (CredentialStore.find token right) := by
  cases mirrored with
  | intro mirrors => exact answers (mirrors.find token)

theorem load (mirrored : Mirrored left right) (owner : PrincipalId) :
    Answers Mirrored id (CredentialStore.load owner left) (CredentialStore.load owner right) := by
  cases mirrored with
  | intro mirrors => exact answers (mirrors.load owner)

theorem delete (mirrored : Mirrored left right) (token : TokenValue) :
    Answers Mirrored id (CredentialStore.deleteIfExists token left)
      (CredentialStore.deleteIfExists token right) := by
  cases mirrored with
  | intro mirrors => exact answers (mirrors.delete token)

theorem touch (mirrored : Mirrored left right) (token : TokenValue) {time : Instant}
    (inRange : Timestamp.InRange time.nanos) :
    Answers Mirrored id (CredentialStore.touch token time left)
      (CredentialStore.touch token time right) := by
  cases mirrored with
  | intro mirrors => exact answers (mirrors.touch token inRange)

theorem insertPrincipal (mirrored : Mirrored left right) (principal : Principal) :
    Answers Mirrored id (left.insertPrincipal principal) (right.insertPrincipal principal) := by
  cases mirrored with
  | intro mirrors => exact answers (mirrors.insertPrincipal principal)

theorem insertCredential (mirrored : Mirrored left right) {credential : Credential}
    (storable : credential.Storable) :
    Answers Mirrored id (left.insertCredential credential) (right.insertCredential credential) := by
  cases mirrored with
  | intro mirrors => exact answers (mirrors.insertCredential storable)

end CredentialBackend.Mirrored

/-- Watched backends that mirror each other, with the same calls behind them and the
same faults ahead. -/
structure WatchedStore.Mirrored (left right : WatchedStore CredentialBackend) : Prop where
  calls : right.calls = left.calls
  faults : right.faults = left.faults
  store : left.store.Mirrored right.store

/-- A fault meets both calls, or both are made. -/
theorem WatchedStore.Mirrored.call {left right : WatchedStore CredentialBackend}
    (mirrored : left.Mirrored right) {α : Type} {translate : α → α} (kind : StoreCall)
    {perform : CredentialBackend → Except StoreError α × CredentialBackend}
    (answers : Answers CredentialBackend.Mirrored translate (perform left.store)
      (perform right.store)) :
    Answers WatchedStore.Mirrored translate (WatchedStore.call kind perform left)
      (WatchedStore.call kind perform right) := by
  unfold WatchedStore.call
  rw [mirrored.calls, mirrored.faults]
  cases left.faults left.calls kind with
  | some fault => exact ⟨rfl, rfl, rfl, mirrored.store⟩
  | none => exact ⟨answers.outcome, rfl, rfl, answers.store⟩

/-! ## The time of the touch -/

namespace GatePhase

/-- Whether the time that a phase will touch with, if it has one by now, fits. -/
def Touches (Fits : Instant → Prop) : GatePhase → Prop
  | .loading _ _ time | .touching _ _ time => Fits time
  | _ => True

variable {σ : Type} [CredentialStore σ] {now : Instant} {phase : GatePhase} {store : σ}

/-- A resolution touches with the time of its own clock. -/
theorem touches_step {Fits : Instant → Prop} (fits : Fits now) (touches : phase.Touches Fits) :
    (phase.step now store).1.Touches Fits := by
  cases phase with
  | finding token =>
      simp only [step, afterFind]
      split
      · trivial
      · trivial
      · split
        · trivial
        · exact fits
  | removing token expiredAt =>
      simp only [step, afterRemoval]
      split <;> trivial
  | loading token owner time =>
      simp only [step, afterLoad]
      split
      · trivial
      · trivial
      · exact touches
  | touching token principal time =>
      simp only [step, afterTouch]
      split <;> trivial
  | settled outcome => trivial

/-- A principal is bound by a touch that was answered, and by no other call. -/
theorem touched_of_bound {principal : Principal}
    (bound : (phase.step now store).1 = .settled (.ok principal)) :
    phase = .settled (.ok principal) ∨
      ∃ token time, phase = .touching token principal time ∧
        (CredentialStore.touch token time store).1 = .ok () := by
  cases phase with
  | finding token =>
      simp only [step, afterFind] at bound
      split at bound
      · cases bound
      · cases bound
      · split at bound <;> cases bound
  | removing token expiredAt =>
      simp only [step, afterRemoval] at bound
      split at bound <;> cases bound
  | loading token owner time =>
      simp only [step, afterLoad] at bound
      split at bound <;> cases bound
  | touching token other time =>
      simp only [step, afterTouch] at bound
      split at bound
      next => cases bound
      next done answered =>
        cases bound
        exact Or.inr ⟨token, time, rfl, answered⟩
  | settled outcome => exact Or.inl bound

end GatePhase

/-! ## Resolutions -/

namespace GatePhase

theorem afterFind_inUtc (now : Instant) (token : TokenValue)
    (found : Except StoreError (Option Credential)) :
    afterFind now token (found.map (Option.map Credential.utc)) =
      (afterFind now token found).inUtc := by
  match found with
  | .error _ | .ok none => rfl
  | .ok (some credential) =>
      have sameExpiry : credential.utc.isExpired now = credential.isExpired now := rfl
      show (if credential.utc.isExpired now then _ else _) = _
      rw [sameExpiry]
      simp only [afterFind]
      split <;> rfl

theorem afterRemoval_inUtc (token : TokenValue) (expiredAt : Instant)
    (removed : Except StoreError Bool) :
    afterRemoval token expiredAt.utc (removed.map id) =
      (afterRemoval token expiredAt removed).inUtc := by
  cases removed <;> rfl

theorem afterLoad_inUtc (token : TokenValue) (owner : PrincipalId) (time : Instant)
    (loaded : Except StoreError (Option Principal)) :
    afterLoad token owner time (loaded.map id) = (afterLoad token owner time loaded).inUtc := by
  match loaded with
  | .error _ | .ok none | .ok (some _) => rfl

theorem afterTouch_inUtc (principal : Principal) (touched : Except StoreError Unit) :
    afterTouch principal (touched.map id) = (afterTouch principal touched).inUtc := by
  cases touched <;> rfl

variable {left right : WatchedStore CredentialBackend} {now : Instant} {phase : GatePhase}

/-- Each call of a resolution is answered alike. -/
theorem mirrored_step (now : Instant) (mirrored : left.Mirrored right)
    (timely : phase.Touches (fun time => Timestamp.InRange time.nanos)) :
    (phase.inUtc.step now right).1 = (phase.step now left).1.inUtc ∧
      (phase.step now left).2.Mirrored (phase.inUtc.step now right).2 := by
  cases phase with
  | finding token =>
      have answers := mirrored.call (.find token) (mirrored.store.find token)
      refine ⟨?_, answers.store⟩
      exact (congrArg (afterFind now token) answers.outcome).trans (afterFind_inUtc now token _)
  | removing token expiredAt =>
      have answers := mirrored.call (.delete token) (mirrored.store.delete token)
      refine ⟨?_, answers.store⟩
      exact (congrArg (afterRemoval token expiredAt.utc) answers.outcome).trans
        (afterRemoval_inUtc token expiredAt _)
  | loading token owner time =>
      have answers := mirrored.call (.load owner) (mirrored.store.load owner)
      refine ⟨?_, answers.store⟩
      exact (congrArg (afterLoad token owner time) answers.outcome).trans
        (afterLoad_inUtc token owner time _)
  | touching token principal time =>
      have answers := mirrored.call (.touch token time) (mirrored.store.touch token timely)
      refine ⟨?_, answers.store⟩
      exact (congrArg (afterTouch principal) answers.outcome).trans
        (afterTouch_inUtc principal _)
  | settled outcome => exact ⟨rfl, mirrored⟩

/-- And so are all calls of a resolution. -/
theorem mirrored_resolve (mirrored : left.Mirrored right) (inRange : Timestamp.InRange now.nanos)
    (timely : phase.Touches (fun time => Timestamp.InRange time.nanos)) :
    (phase.inUtc.resolve now right).1 =
        (phase.resolve now left).1.mapError TokenError.inUtc ∧
      (phase.resolve now left).2.Mirrored (phase.inUtc.resolve now right).2 := by
  fun_induction GatePhase.resolve now phase left generalizing right with
  | case1 phase store outcome ended =>
      rw [eq_settled ended, inUtc, resolve]
      exact ⟨rfl, mirrored⟩
  | case2 phase store unsettled made =>
      rename_i inductionHypothesis
      have unsettledInUtc : phase.inUtc.outcome? = none := by
        cases phase with
        | settled outcome => cases unsettled
        | _ => rfl
      obtain ⟨same, still⟩ := mirrored_step now mirrored timely
      rw [resolve_of_unsettled right unsettledInUtc, same]
      exact inductionHypothesis still (touches_step inRange timely)

end GatePhase

/-! ## The gate -/

theorem Gate.tokenEvent_inUtc (token : TokenValue) (outcome : Except TokenError Principal) :
    Gate.tokenEvent token (outcome.mapError TokenError.inUtc) = Gate.tokenEvent token outcome := by
  match outcome with
  | .ok _ | .error (.notFound _) | .error (.expired _ _) | .error (.ownerMissing _)
  | .error (.store _) => rfl

/-- What the gate does to a request, on each of two stores that mirror each other. -/
structure GateRun.Mirrored (left right : GateRun (WatchedStore CredentialBackend)) : Prop where
  outcome : right.outcome = left.outcome.mapError TokenError.inUtc
  context : right.context = left.context
  events : right.events = left.events
  store : left.store.Mirrored right.store

theorem Gate.mirrored_authenticate (settings : GateSettings) {now : Instant}
    (inRange : Timestamp.InRange now.nanos) (header : Option String) (context : RequestContext)
    {left right : WatchedStore CredentialBackend} (mirrored : left.Mirrored right) :
    GateRun.Mirrored (Gate.authenticate settings now header context left)
      (Gate.authenticate settings now header context right) := by
  unfold Gate.authenticate
  split
  next => exact ⟨rfl, rfl, rfl, mirrored⟩
  split
  next => exact ⟨rfl, rfl, rfl, mirrored⟩
  next token _ =>
    have begun : GatePhase.Touches (fun time => Timestamp.InRange time.nanos) (.finding token) :=
      trivial
    obtain ⟨same, still⟩ := GatePhase.mirrored_resolve mirrored inRange begun
    change (GatePhase.resolve now (.finding token) right).1 = _ at same
    change WatchedStore.Mirrored _ (GatePhase.resolve now (.finding token) right).2 at still
    unfold Gate.present
    generalize GatePhase.resolve now (.finding token) left = leftMade at same still
    generalize GatePhase.resolve now (.finding token) right = rightMade at same still
    obtain ⟨outcome, leftStore⟩ := leftMade
    obtain ⟨rightOutcome, rightStore⟩ := rightMade
    cases same
    refine ⟨?_, ?_, ?_, still⟩
    · cases outcome <;> rfl
    · cases outcome <;> rfl
    · exact congrArg (fun event => [event]) (Gate.tokenEvent_inUtc token outcome)

/-! ## Clocks beyond the range -/

theorem touch_watched_of_not_inRange (watched : WatchedStore DurableStore) (token : TokenValue)
    {time : Instant} (beyond : ¬ Timestamp.InRange time.nanos) :
    (CredentialStore.touch token time watched).1 ≠ .ok () := by
  show (WatchedStore.call _ (CredentialStore.touch token time) watched).1 ≠ _
  unfold WatchedStore.call
  rw [DurableStore.touch_of_not_inRange watched.store token beyond]
  cases watched.faults watched.calls (.touch token time) <;> exact nofun

namespace GatePhase

/-- Whether a phase has bound nobody, and touches with no time that can be stored. -/
def Untimely (phase : GatePhase) : Prop :=
  phase.Touches (fun time => ¬ Timestamp.InRange time.nanos) ∧
    ∀ principal, phase ≠ .settled (.ok principal)

variable {watched : WatchedStore DurableStore} {now : Instant} {phase : GatePhase}

theorem untimely_step (beyond : ¬ Timestamp.InRange now.nanos) (untimely : phase.Untimely) :
    (phase.step now watched).1.Untimely := by
  obtain ⟨touches, unbound⟩ := untimely
  refine ⟨touches_step beyond touches, fun principal bound => ?_⟩
  rcases touched_of_bound bound with settled | ⟨token, time, rfl, answered⟩
  · exact unbound principal settled
  · exact touch_watched_of_not_inRange watched token touches answered

theorem untimely_resolve (beyond : ¬ Timestamp.InRange now.nanos) (untimely : phase.Untimely)
    (principal : Principal) : (phase.resolve now watched).1 ≠ .ok principal := by
  have kept : ∀ (current : GatePhase) (held : WatchedStore DurableStore), current.Untimely →
      (current.step now held).1.Untimely := fun _ _ early => untimely_step beyond early
  have ended : (GatePhase.settled (phase.resolve now watched).1).Untimely :=
    resolve_keeps kept untimely
  intro bound
  exact ended.2 principal (congrArg settled bound)

end GatePhase

/-- A request whose touch could not be stored stays as it was. -/
theorem Gate.unbound_of_not_inRange (durable : DurableStore) (faults : StoreFaults)
    (settings : GateSettings) {now : Instant} (beyond : ¬ Timestamp.InRange now.nanos)
    (header : Option String) {context : RequestContext} (unbound : context.authenticated = false) :
    (Gate.authenticate settings now header context (WatchedStore.watch faults durable)).context =
        context ∧
      (Gate.authenticate settings now header context (WatchedStore.watch faults durable)).outcome ≠
        .ok .authenticated := by
  unfold Gate.authenticate
  simp only [unbound, Bool.false_eq_true, if_false]
  split
  next => exact ⟨rfl, nofun⟩
  next token _ =>
    have begun : GatePhase.Untimely (.finding token) := ⟨trivial, nofun⟩
    unfold Gate.present
    generalize WatchedStore.watch faults durable = watched
    have nobody : ∀ principal, (GatePhase.resolve now (.finding token) watched).1 ≠ .ok principal :=
      GatePhase.untimely_resolve beyond begun
    generalize GatePhase.resolve now (.finding token) watched = made at nobody ⊢
    obtain ⟨outcome, store⟩ := made
    cases outcome with
    | ok principal => exact absurd rfl (nobody principal)
    | error error => exact ⟨rfl, nofun⟩

end RowAccess
