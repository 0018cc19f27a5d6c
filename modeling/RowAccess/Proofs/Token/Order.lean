import Mathlib.Data.List.Induction
import RowAccess.Proofs.Token.Traffic

/-!
Contract: who may remove a credential, and who is bound by one, when requests
share a store.

Along every schedule credentials only fade: they are touched or removed, and
never made or renewed. A request removes a token only if it read it when it had
expired, and is bound only if it read it before.

Owns:
- fading stores, and the only call that removes a credential.
- the progress of every request, kept by each turn.
- the order that all schedules keep.
-/

namespace RowAccess

open CredentialLaws (stored)

/-! ## Fading -/

/-- Whether one store shows only what another one showed, up to the time of last
use. -/
def Fades {σ : Type} [CredentialStore σ] [CredentialLaws σ] (before after : σ) : Prop :=
  ∀ token credential, stored after token = some credential →
    ∃ earlier, stored before token = some earlier ∧
      credential = { earlier with lastUsedAt := credential.lastUsedAt }

section Fading

variable {σ : Type} [CredentialStore σ] [CredentialLaws σ]

theorem Fades.of_eq {before after : σ} (same : stored after = stored before) :
    Fades before after := by
  intro token credential shown
  rw [same] at shown
  exact ⟨credential, shown, rfl⟩

theorem Fades.trans {first second third : σ} (earlier : Fades first second)
    (later : Fades second third) : Fades first third := by
  intro token credential shown
  obtain ⟨middle, shownBefore, sameAsMiddle⟩ := later token credential shown
  obtain ⟨original, shownFirst, sameAsOriginal⟩ := earlier token middle shownBefore
  refine ⟨original, shownFirst, ?_⟩
  rw [sameAsMiddle, sameAsOriginal]

theorem Fades.gone {before after : σ} (fades : Fades before after) {token : TokenValue}
    (removed : stored before token = none) : stored after token = none := by
  cases shown : stored after token with
  | none => rfl
  | some credential =>
      obtain ⟨earlier, shownBefore, _⟩ := fades token credential shown
      rw [removed] at shownBefore
      cases shownBefore

/-- What the one call of a phase can do to the credentials: nothing, a removal, which
ends the resolution, or a touch. -/
theorem stored_step (phase : GatePhase) (now : Instant) (store : σ) :
    stored (phase.step now store).2 = stored store ∨
    (∃ token expiredAt, phase = .removing token expiredAt ∧
      (phase.step now store).1 = .settled (.error (.expired token expiredAt)) ∧
      stored (phase.step now store).2 = Function.update (stored store) token none) ∨
    ∃ token time, stored (phase.step now store).2 =
      Function.update (stored store) token
        ((stored store token).map (Credential.used time)) := by
  cases phase with
  | finding token => exact Or.inl (CredentialLaws.find_performs token store).kept
  | removing token expiredAt =>
      rcases (CredentialLaws.delete_performs token store).kept_or_answered with
        same | ⟨existed, answer, removed⟩
      · exact Or.inl same
      · refine Or.inr (Or.inl ⟨token, expiredAt, rfl, ?_, removed⟩)
        simp only [GatePhase.step, answer, GatePhase.afterRemoval]
  | loading token owner time => exact Or.inl (CredentialLaws.stored_load owner store)
  | touching token principal time =>
      rcases (CredentialLaws.touch_performs token time store).kept_or_answered with
        same | ⟨_, _, touched⟩
      · exact Or.inl same
      · exact Or.inr (Or.inr ⟨token, time, touched⟩)
  | settled outcome => exact Or.inl rfl

theorem fades_step (phase : GatePhase) (now : Instant) (store : σ) :
    Fades store (phase.step now store).2 := by
  rcases stored_step phase now store with
    same | ⟨token, expiredAt, _, _, removed⟩ | ⟨token, time, touched⟩
  · exact Fades.of_eq same
  · intro candidate credential shown
    rw [removed, Function.update_apply] at shown
    split at shown
    next => cases shown
    next => exact ⟨credential, shown, rfl⟩
  · intro candidate credential shown
    rw [touched, Function.update_apply] at shown
    split at shown
    next same =>
      obtain ⟨earlier, shownBefore, rfl⟩ := Option.map_eq_some_iff.1 shown
      exact ⟨earlier, same ▸ shownBefore, rfl⟩
    next => exact ⟨credential, shown, rfl⟩

/-- A credential goes only in the call that ends a resolution with its expiry. -/
theorem removing_of_removed {phase : GatePhase} {now : Instant} {store : σ} {token : TokenValue}
    {credential : Credential} (shown : stored store token = some credential)
    (gone : stored (phase.step now store).2 token = none) :
    ∃ expiredAt, phase = .removing token expiredAt ∧
      (phase.step now store).1 = .settled (.error (.expired token expiredAt)) := by
  rcases stored_step phase now store with
    same | ⟨other, expiredAt, removing, ended, removed⟩ | ⟨other, time, touched⟩
  · rw [same, shown] at gone
    cases gone
  · rw [removed, Function.update_apply] at gone
    split at gone
    next same => exact ⟨expiredAt, same ▸ removing, same ▸ ended⟩
    next =>
      rw [shown] at gone
      cases gone
  · rw [touched, Function.update_apply] at gone
    split at gone
    next same =>
      rw [← same, shown] at gone
      cases gone
    next =>
      rw [shown] at gone
      cases gone

end Fading

namespace Traffic

variable {ι σ : Type} [DecidableEq ι] [CredentialStore σ] [CredentialLaws σ]

/-- Whether a visit has found a credential of a token when the clock showed a time. -/
def Reads (visits : ι → Visit) (start : σ) (schedule : List (ι × Instant))
    (run : ι) (token : TokenValue) (credential : Credential) (readAt : Instant) : Prop :=
  ∃ early late, schedule = early ++ (run, readAt) :: late ∧
    (after visits start early).phases run = some (.finding token) ∧
    stored (after visits start early).store token = some credential

variable {visits : ι → Visit} {start : σ} {schedule : List (ι × Instant)} {run : ι}
variable {token : TokenValue} {credential : Credential} {readAt : Instant}

theorem fades_turn (traffic : Traffic ι σ) (run : ι) (now : Instant) :
    Fades traffic.store (traffic.turn run now).store := by
  unfold turn
  split
  next => exact Fades.of_eq rfl
  next phase _ => exact fades_step phase now traffic.store

theorem fades_play (traffic : Traffic ι σ) (schedule : List (ι × Instant)) :
    Fades traffic.store (traffic.play schedule).store := by
  induction schedule generalizing traffic with
  | nil => exact Fades.of_eq rfl
  | cons entry rest inductionHypothesis =>
      exact (fades_turn traffic entry.1 entry.2).trans (inductionHypothesis _)

/-! ## Progress -/

/-- What a visit must have met on its way to a phase: one that removes a token has
read it when it had expired, and one that goes on to bind its owner has read it
before. -/
inductive Progress (visits : ι → Visit) (start : σ) (schedule : List (ι × Instant)) (run : ι) :
    Option GatePhase → Prop
  | passing (passes : (visits run).begin = none) : Progress visits start schedule run none
  | finding {token : TokenValue} (begins : (visits run).begin = some (.finding token)) :
      Progress visits start schedule run (some (.finding token))
  | removing {token : TokenValue} {credential : Credential} {readAt : Instant}
      (read : Reads visits start schedule run token credential readAt)
      (due : credential.isExpired readAt = true) :
      Progress visits start schedule run (some (.removing token credential.expiresAt))
  | loading {token : TokenValue} {credential : Credential} {readAt : Instant}
      (read : Reads visits start schedule run token credential readAt)
      (live : credential.isExpired readAt = false) :
      Progress visits start schedule run (some (.loading token credential.owner readAt))
  | touching {token : TokenValue} {credential : Credential} {readAt : Instant}
      {principal : Principal} (read : Reads visits start schedule run token credential readAt)
      (live : credential.isExpired readAt = false) :
      Progress visits start schedule run (some (.touching token principal readAt))
  | bound {token : TokenValue} {credential : Credential} {readAt : Instant}
      {principal : Principal} (read : Reads visits start schedule run token credential readAt)
      (live : credential.isExpired readAt = false) :
      Progress visits start schedule run (some (.settled (.ok principal)))
  | refused (error : TokenError) :
      Progress visits start schedule run (some (.settled (.error error)))

theorem Reads.append (read : Reads visits start schedule run token credential readAt)
    (more : List (ι × Instant)) :
    Reads visits start (schedule ++ more) run token credential readAt := by
  obtain ⟨early, late, rfl, current, shown⟩ := read
  exact ⟨early, late ++ more, by simp, current, shown⟩

theorem Progress.append {phase : Option GatePhase}
    (progress : Progress visits start schedule run phase) (more : List (ι × Instant)) :
    Progress visits start (schedule ++ more) run phase := by
  cases progress with
  | passing passes => exact .passing passes
  | finding begins => exact .finding begins
  | removing read due => exact .removing (read.append more) due
  | loading read live => exact .loading (read.append more) live
  | touching read live => exact .touching (read.append more) live
  | bound read live => exact .bound (read.append more) live
  | refused error => exact .refused error

/-- A visit's own turn. -/
theorem Progress.step {phase : GatePhase}
    (progress : Progress visits start schedule run (some phase))
    (current : (after visits start schedule).phases run = some phase) (now : Instant) :
    Progress visits start (schedule ++ [(run, now)]) run
      (some (phase.step now (after visits start schedule).store).1) := by
  cases progress with
  | @finding token begins =>
      have performed := CredentialLaws.find_performs token (after visits start schedule).store
      simp only [GatePhase.step]
      cases answer : (CredentialStore.find token (after visits start schedule).store).1 with
      | error error => exact .refused _
      | ok found =>
          have shown := (performed.answered found answer).1
          cases found with
          | none => exact .refused _
          | some credential =>
              have read : Reads visits start (schedule ++ [(run, now)]) run token credential now :=
                ⟨schedule, [], rfl, current, shown.symm⟩
              simp only [GatePhase.afterFind]
              split
              next due => exact .removing read due
              next live => exact .loading read (Bool.not_eq_true _ ▸ live)
  | removing read due =>
      simp only [GatePhase.step, GatePhase.afterRemoval]
      split <;> exact .refused _
  | loading read live =>
      simp only [GatePhase.step, GatePhase.afterLoad]
      split
      · exact .refused _
      · exact .refused _
      · exact .touching (read.append _) live
  | touching read live =>
      simp only [GatePhase.step, GatePhase.afterTouch]
      split
      · exact .refused _
      · exact .bound (read.append _) live
  | bound read live => exact .bound (read.append _) live
  | refused error => exact .refused error

/-- Wherever a schedule has come to, every visit has made the progress its phase
asks for. -/
theorem progress_after (visits : ι → Visit) (start : σ) (schedule : List (ι × Instant)) (run : ι) :
    Progress visits start schedule run ((after visits start schedule).phases run) := by
  induction schedule using List.reverseRecOn with
  | nil =>
      show Progress visits start [] run (visits run).begin
      cases begins : (visits run).begin with
      | none => exact .passing begins
      | some phase =>
          obtain ⟨token, rfl, _⟩ := Visit.begin_eq_some begins
          exact .finding begins
  | append_singleton early entry inductionHypothesis =>
      obtain ⟨other, now⟩ := entry
      rw [after_concat]
      by_cases own : run = other
      · subst own
        cases current : (after visits start early).phases run with
        | none =>
            rw [turn_of_none current]
            exact inductionHypothesis.append _
        | some phase =>
            rw [phases_turn_self current]
            rw [current] at inductionHypothesis
            exact inductionHypothesis.step current now
      · rw [phases_turn_of_ne own]
        exact inductionHypothesis.append _

/-! ## Reports -/

theorem Reads.presents (read : Reads visits start schedule run token credential readAt) :
    (visits run).settings.Presents (visits run).header token := by
  obtain ⟨early, _, _, current, _⟩ := read
  have progress := progress_after visits start early run
  rw [current] at progress
  cases progress with
  | finding begins =>
      obtain ⟨presented, same, presents⟩ := Visit.begin_eq_some begins
      cases same
      exact presents

/-- What was read is what the store showed at first, up to the time of last use. -/
theorem Reads.original (read : Reads visits start schedule run token credential readAt) :
    ∃ original, stored start token = some original ∧
      credential = { original with lastUsedAt := credential.lastUsedAt } := by
  obtain ⟨early, _, _, _, shown⟩ := read
  exact fades_play (opening visits start) early token credential shown

/-- A visit that removes a token has read it when it had expired, and reports that. -/
theorem removed_by_reader {now : Instant}
    (shown : stored (after visits start schedule).store token = some credential)
    (gone : stored (after visits start (schedule ++ [(run, now)])).store token = none) :
    ∃ read readAt, Reads visits start schedule run token read readAt ∧
      read.isExpired readAt = true ∧
      (after visits start (schedule ++ [(run, now)])).phases run =
        some (.settled (.error (.expired token read.expiresAt))) := by
  rw [after_concat] at gone ⊢
  cases current : (after visits start schedule).phases run with
  | none =>
      rw [turn_of_none current, shown] at gone
      cases gone
  | some phase =>
      rw [turn_of_phase current] at gone
      obtain ⟨expiredAt, rfl, ended⟩ := removing_of_removed shown gone
      have progress := progress_after visits start schedule run
      rw [current] at progress
      cases progress with
      | removing read due =>
          refine ⟨_, _, read, due, ?_⟩
          rw [phases_turn_self current, ended]

theorem bound_of_authenticated (unbound : (visits run).context.authenticated = false)
    (reported : report? visits start schedule run = some (.ok .authenticated)) :
    ∃ token credential readAt, Reads visits start schedule run token credential readAt ∧
      credential.isExpired readAt = false := by
  have progress := progress_after visits start schedule run
  unfold report? at reported
  generalize (after visits start schedule).phases run = phase at progress reported
  cases progress with
  | passing passes => simp [Visit.report?, Visit.passing, unbound] at reported
  | bound read live => exact ⟨_, _, _, read, live⟩
  | _ => cases reported

end Traffic

/-! ## Stores whose calls on credentials do not fail -/

/-- On such a store loading a principal may still fail. -/
class ReliableCalls (σ : Type) [CredentialStore σ] : Prop where
  find_answers : ∀ token (store : σ), ∃ found, (CredentialStore.find token store).1 = .ok found
  delete_answers : ∀ token (store : σ),
    ∃ existed, (CredentialStore.deleteIfExists token store).1 = .ok existed
  touch_answers : ∀ token time (store : σ), (CredentialStore.touch token time store).1 = .ok ()

instance : ReliableCalls MemoryStore where
  find_answers _ _ := ⟨_, rfl⟩
  delete_answers _ _ := ⟨_, rfl⟩
  touch_answers _ _ _ := rfl

theorem GatePhase.step_removing {σ : Type} [CredentialStore σ] [ReliableCalls σ]
    (token : TokenValue) (expiredAt now : Instant) (store : σ) :
    (GatePhase.step now (.removing token expiredAt) store).1 =
      .settled (.error (.expired token expiredAt)) := by
  obtain ⟨existed, answer⟩ := ReliableCalls.delete_answers token store
  simp only [GatePhase.step, answer, GatePhase.afterRemoval]

theorem Credential.isExpired_iff {credential : Credential} {now : Instant} :
    credential.isExpired now = true ↔ credential.expiresAt.nanos ≤ now.nanos := by
  simp [Credential.isExpired]

namespace Traffic

section Expiring

variable {ι σ : Type} [DecidableEq ι] [CredentialStore σ]
variable {visits : ι → Visit} {start : σ} {schedule : List (ι × Instant)} {run : ι}
variable {token : TokenValue} {expiredAt : Instant}

/-- Whether a visit is about to report a token as expired, or has reported it. -/
def Expiring (token : TokenValue) (expiredAt : Instant) (phase : Option GatePhase) : Prop :=
  phase = some (.removing token expiredAt) ∨
    phase = some (.settled (.error (.expired token expiredAt)))

theorem Expiring.report? {outcome : Except TokenError GateVerdict}
    (expiring : Expiring token expiredAt ((after visits start schedule).phases run))
    (reported : report? visits start schedule run = some outcome) :
    outcome = .error (.expired token expiredAt) := by
  unfold Traffic.report? at reported
  rcases expiring with removing | settled
  · rw [removing] at reported
    cases reported
  · rw [settled] at reported
    cases reported
    rfl

theorem Expiring.settles [ReliableCalls σ]
    (expiring : Expiring token expiredAt ((after visits start schedule).phases run))
    (now : Instant) :
    (after visits start (schedule ++ [(run, now)])).phases run =
      some (.settled (.error (.expired token expiredAt))) := by
  rw [after_concat]
  rcases expiring with removing | settled
  · rw [phases_turn_self removing, GatePhase.step_removing]
  · rw [phases_turn_self settled]
    rfl

end Expiring

variable {ι σ : Type} [DecidableEq ι] [CredentialStore σ] [CredentialLaws σ] [ReliableCalls σ]
variable {visits : ι → Visit} {start : σ} {schedule : List (ι × Instant)} {run : ι}
variable {token : TokenValue} {credential : Credential} {readAt : Instant}

/-- The turn in which a visit looks its token up. -/
theorem phases_after_finding
    (current : (after visits start schedule).phases run = some (.finding token))
    (now : Instant) :
    (after visits start (schedule ++ [(run, now)])).phases run =
      some (GatePhase.afterFind now token
        (.ok (stored (after visits start schedule).store token))) := by
  rw [after_concat, phases_turn_self current]
  obtain ⟨found, answer⟩ := ReliableCalls.find_answers token (after visits start schedule).store
  have shown := ((CredentialLaws.find_performs token _).answered found answer).1
  simp only [GatePhase.step, answer, shown]

/-- Once a visit has read an expired token, nothing keeps it from reporting that. -/
theorem Reads.expiring (read : Reads visits start schedule run token credential readAt)
    (due : credential.isExpired readAt = true) :
    Expiring token credential.expiresAt ((after visits start schedule).phases run) := by
  obtain ⟨early, late, rfl, current, shown⟩ := read
  have found := phases_after_finding current readAt
  rw [shown] at found
  simp only [GatePhase.afterFind, due, if_true] at found
  rw [after_append_cons]
  refine phases_play (Expiring token credential.expiresAt)
    (fun phase now store expiring => ?_) late _ (Or.inl found)
  rcases expiring with removing | settled
  · cases removing
    exact Or.inr (congrArg some (GatePhase.step_removing ..))
  · cases settled
    exact Or.inr rfl

/-- What holds of any number of visits to one store, however their calls interleave
and whatever the clock shows them. A visit whose context is bound already makes no
call, so the others do not notice it. -/
structure Orderly (visits : ι → Visit) (start : σ) : Prop where
  fades : ∀ early late,
    Fades (after visits start early).store (after visits start (early ++ late)).store
  removed : ∀ early run now token credential,
    stored (after visits start early).store token = some credential →
    stored (after visits start (early ++ [(run, now)])).store token = none →
      ∃ read readAt original, Reads visits start early run token read readAt ∧
        read.expiresAt.nanos ≤ readAt.nanos ∧
        stored start token = some original ∧
        ∀ late, report? visits start (early ++ (run, now) :: late) run =
          some (.error (.expired token original.expiresAt))
  staysRemoved : ∀ early late token, stored (after visits start early).store token = none →
    stored (after visits start (early ++ late)).store token = none
  foundLate : ∀ early meanwhile run now token late,
    stored (after visits start early).store token = none →
    (after visits start (early ++ meanwhile)).phases run = some (.finding token) →
      report? visits start (early ++ meanwhile ++ (run, now) :: late) run =
        some (.error (.notFound token))
  readExpired : ∀ schedule run token credential readAt,
    Reads visits start schedule run token credential readAt →
    credential.expiresAt.nanos ≤ readAt.nanos →
      (∀ outcome, report? visits start schedule run = some outcome →
        outcome = .error (.expired token credential.expiresAt)) ∧
      ∀ now late, report? visits start (schedule ++ (run, now) :: late) run =
        some (.error (.expired token credential.expiresAt))
  passing : ∀ schedule run now, (visits run).context.authenticated = true →
    after visits start (schedule ++ [(run, now)]) = after visits start schedule
  authenticated : ∀ schedule run, (visits run).context.authenticated = false →
    report? visits start schedule run = some (.ok .authenticated) →
      ∃ token credential readAt, (visits run).settings.Presents (visits run).header token ∧
        Reads visits start schedule run token credential readAt ∧
        readAt.nanos < credential.expiresAt.nanos

/-- Any number of visits share a store in good order. -/
theorem orderly (visits : ι → Visit) (start : σ) : Orderly visits start where
  fades early late := by
    rw [after_append]
    exact fades_play _ late
  staysRemoved early late token gone := by
    rw [after_append]
    exact (fades_play _ late).gone gone
  removed early run now token credential shown gone := by
    obtain ⟨read, readAt, wasRead, due, settled⟩ := removed_by_reader shown gone
    obtain ⟨original, first, same⟩ := wasRead.original
    refine ⟨read, readAt, original, wasRead, Credential.isExpired_iff.1 due, first, fun late => ?_⟩
    have expiry : read.expiresAt = original.expiresAt := by rw [same]
    rw [expiry] at settled
    rw [List.append_cons]
    exact report?_of_settled settled late
  foundLate early meanwhile run now token late gone current := by
    have absent : stored (after visits start (early ++ meanwhile)).store token = none := by
      rw [after_append]
      exact (fades_play _ meanwhile).gone gone
    have found := phases_after_finding current now
    rw [absent] at found
    rw [List.append_cons]
    exact report?_of_settled found late
  readExpired schedule run token credential readAt read due := by
    have expiring := read.expiring (Credential.isExpired_iff.2 due)
    refine ⟨fun outcome reported => expiring.report? reported, fun now late => ?_⟩
    rw [List.append_cons]
    exact report?_of_settled (expiring.settles now) late
  passing schedule run now isBound := by
    have passes : (visits run).begin = none := by simp [Visit.begin, isBound]
    exact after_concat_of_passing passes start schedule now
  authenticated schedule run unbound reported := by
    obtain ⟨token, credential, readAt, read, live⟩ := bound_of_authenticated unbound reported
    refine ⟨token, credential, readAt, read.presents, read, ?_⟩
    simpa [Credential.isExpired] using live

end Traffic

namespace Desk

/-- Requests that all show the key of the desk's store. -/
def keyVisits (_run : Nat) : Visit :=
  ⟨.standard, some "Token key", RequestContext.anonymous .get none⟩

/-- After the key has expired, two requests look it up before either removes it, and
a third one comes when it is gone. -/
def keyRace : List (Nat × Instant) :=
  [(0, ⟨150, 0⟩), (1, ⟨150, 0⟩), (0, ⟨150, 0⟩), (1, ⟨150, 0⟩), (2, ⟨150, 0⟩)]

/-- Both requests that read the expired key report that it had expired, although one
of them finds it removed; the third one does not know it. -/
theorem desk_key_expires_for_both :
    Traffic.report? keyVisits keyStore keyRace 0 = some (.error (.expired ⟨"key"⟩ ⟨100, 0⟩)) ∧
    Traffic.report? keyVisits keyStore keyRace 1 = some (.error (.expired ⟨"key"⟩ ⟨100, 0⟩)) ∧
    Traffic.report? keyVisits keyStore keyRace 2 = some (.error (.notFound ⟨"key"⟩)) := by
  have order := Traffic.orderly keyVisits keyStore
  have readFirst : Traffic.Reads keyVisits keyStore (keyRace.take 2) 0 ⟨"key"⟩
      ⟨⟨"key"⟩, ⟨"ada"⟩, ⟨0, 0⟩, ⟨100, 0⟩, none⟩ ⟨150, 0⟩ := ⟨[], _, rfl, rfl, rfl⟩
  have readSecond : Traffic.Reads keyVisits keyStore (keyRace.take 3) 1 ⟨"key"⟩
      ⟨⟨"key"⟩, ⟨"ada"⟩, ⟨0, 0⟩, ⟨100, 0⟩, none⟩ ⟨150, 0⟩ := ⟨[(0, ⟨150, 0⟩)], _, rfl, rfl, rfl⟩
  refine ⟨?_, ?_, ?_⟩
  · exact (order.readExpired _ _ _ _ _ readFirst (by decide)).2 _ (keyRace.drop 3)
  · exact (order.readExpired _ _ _ _ _ readSecond (by decide)).2 _ (keyRace.drop 4)
  · exact order.foundLate (keyRace.take 3) [(1, ⟨150, 0⟩)] 2 _ _ [] rfl rfl

end Desk

end RowAccess
