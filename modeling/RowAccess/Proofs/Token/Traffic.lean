import RowAccess.Proofs.Token.Binding

/-!
Contract: any number of requests at the gate share one store.

A schedule says whose turn it is and what the clock shows then. In a turn a
request makes the one store call it has come to, so schedules are the
interleavings of the calls of all requests.

Owns:
- requests at the gate, schedules and what they come to.
- that a turn concerns one request only, and that a request which has come to its
  end stays there.
- that a request alone on a schedule is the gate itself.
-/

namespace RowAccess

/-- A request at the gate. -/
structure Visit where
  settings : GateSettings
  header : Option String
  context : RequestContext

namespace Visit

/-- The resolution a visit begins with, unless it passes the gate without one. -/
def begin (visit : Visit) : Option GatePhase :=
  if visit.context.authenticated then none
  else (visit.header.bind visit.settings.token?).map GatePhase.finding

theorem begin_eq_some {visit : Visit} {phase : GatePhase} (begins : visit.begin = some phase) :
    ∃ token, phase = .finding token ∧ visit.settings.Presents visit.header token := by
  unfold begin at begins
  split at begins
  next => cases begins
  next =>
    obtain ⟨token, read, rfl⟩ := Option.map_eq_some_iff.1 begins
    exact ⟨token, rfl, GateSettings.bind_token?_eq_some_iff.1 read⟩

/-- The verdict on a visit that passes without a resolution. -/
def passing (visit : Visit) : GateVerdict :=
  if visit.context.authenticated then .authenticated else .unauthenticated

/-- What a visit reports in a phase, if it has come to its end. -/
def report? (visit : Visit) : Option GatePhase → Option (Except TokenError GateVerdict)
  | none => some (.ok visit.passing)
  | some phase => phase.outcome?.map (Except.map (fun _ => .authenticated))

end Visit

/-- A store, and how far each visit has come. -/
structure Traffic (ι σ : Type) where
  store : σ
  phases : ι → Option GatePhase

namespace Traffic

variable {ι σ : Type} [DecidableEq ι] [CredentialStore σ]

def opening (visits : ι → Visit) (store : σ) : Traffic ι σ := ⟨store, fun run => (visits run).begin⟩

/-- Lets a visit make its next store call. -/
def turn (traffic : Traffic ι σ) (run : ι) (now : Instant) : Traffic ι σ :=
  match traffic.phases run with
  | none => traffic
  | some phase =>
      let made := phase.step now traffic.store
      ⟨made.2, Function.update traffic.phases run (some made.1)⟩

def play (traffic : Traffic ι σ) (schedule : List (ι × Instant)) : Traffic ι σ :=
  schedule.foldl (fun current entry => current.turn entry.1 entry.2) traffic

/-- What the visits and their store have come to after a schedule. -/
def after (visits : ι → Visit) (start : σ) (schedule : List (ι × Instant)) : Traffic ι σ :=
  (opening visits start).play schedule

def report? (visits : ι → Visit) (start : σ) (schedule : List (ι × Instant)) (run : ι) :
    Option (Except TokenError GateVerdict) :=
  (visits run).report? ((after visits start schedule).phases run)

/-! ## Turns -/

theorem play_append (traffic : Traffic ι σ) (early late : List (ι × Instant)) :
    traffic.play (early ++ late) = (traffic.play early).play late := List.foldl_append

theorem play_cons (traffic : Traffic ι σ) (run : ι) (now : Instant)
    (late : List (ι × Instant)) :
    traffic.play ((run, now) :: late) = (traffic.turn run now).play late := rfl

theorem after_append (visits : ι → Visit) (start : σ) (early late : List (ι × Instant)) :
    after visits start (early ++ late) = (after visits start early).play late :=
  play_append _ early late

theorem after_append_cons (visits : ι → Visit) (start : σ) (early : List (ι × Instant))
    (run : ι) (now : Instant) (late : List (ι × Instant)) :
    after visits start (early ++ (run, now) :: late) =
      (after visits start (early ++ [(run, now)])).play late := by
  rw [← after_append, List.append_assoc, List.singleton_append]

/-- The schedule with one turn more. -/
theorem after_concat (visits : ι → Visit) (start : σ) (early : List (ι × Instant)) (run : ι)
    (now : Instant) :
    after visits start (early ++ [(run, now)]) = (after visits start early).turn run now :=
  after_append visits start early [(run, now)]

theorem turn_of_none {traffic : Traffic ι σ} {run : ι} (idle : traffic.phases run = none)
    (now : Instant) : traffic.turn run now = traffic := by
  unfold turn
  rw [idle]

theorem turn_of_phase {traffic : Traffic ι σ} {run : ι} {phase : GatePhase}
    (current : traffic.phases run = some phase) (now : Instant) :
    traffic.turn run now =
      ⟨(phase.step now traffic.store).2,
        Function.update traffic.phases run (some (phase.step now traffic.store).1)⟩ := by
  unfold turn
  rw [current]

theorem phases_turn_self {traffic : Traffic ι σ} {run : ι} {phase : GatePhase}
    (current : traffic.phases run = some phase) (now : Instant) :
    (traffic.turn run now).phases run = some (phase.step now traffic.store).1 := by
  rw [turn_of_phase current]
  exact Function.update_self ..

theorem phases_turn_of_ne {traffic : Traffic ι σ} {run other : ι} (different : other ≠ run)
    (now : Instant) : (traffic.turn run now).phases other = traffic.phases other := by
  unfold turn
  split
  next => rfl
  next phase _ => exact Function.update_of_ne different ..

/-- What each turn of a visit keeps of its phase, a whole schedule keeps. -/
theorem phases_play {run : ι} (Keeps : Option GatePhase → Prop)
    (kept : ∀ (phase : GatePhase) (now : Instant) (store : σ), Keeps (some phase) →
      Keeps (some (phase.step now store).1))
    (schedule : List (ι × Instant)) (traffic : Traffic ι σ) (holds : Keeps (traffic.phases run)) :
    Keeps ((traffic.play schedule).phases run) := by
  induction schedule generalizing traffic with
  | nil => exact holds
  | cons entry rest inductionHypothesis =>
      refine inductionHypothesis (traffic.turn entry.1 entry.2) ?_
      by_cases own : run = entry.1
      · subst own
        cases current : traffic.phases entry.1 with
        | none =>
            rw [turn_of_none current]
            exact holds
        | some phase =>
            rw [phases_turn_self current]
            rw [current] at holds
            exact kept phase entry.2 traffic.store holds
      · rw [phases_turn_of_ne own]
        exact holds

/-- A visit that passes without a resolution makes no call when it has a turn. -/
theorem after_concat_of_passing {visits : ι → Visit} {run : ι} (passes : (visits run).begin = none)
    (start : σ) (early : List (ι × Instant)) (now : Instant) :
    after visits start (early ++ [(run, now)]) = after visits start early := by
  have idle : (after visits start early).phases run = none := by
    refine phases_play (fun phase => phase = none) (fun phase now store held => ?_) early _ passes
    cases held
  rw [after_concat, turn_of_none idle]

/-- A visit that has come to its end stays there. -/
theorem settled_play {run : ι} {outcome : Except TokenError Principal} {traffic : Traffic ι σ}
    (settled : traffic.phases run = some (.settled outcome)) (schedule : List (ι × Instant)) :
    (traffic.play schedule).phases run = some (.settled outcome) := by
  refine phases_play (fun phase => phase = some (.settled outcome))
    (fun phase now store ended => ?_) schedule traffic settled
  cases ended
  rfl

theorem report?_of_settled {early : List (ι × Instant)} {outcome : Except TokenError Principal}
    {visits : ι → Visit} {start : σ} {run : ι}
    (settled : (after visits start early).phases run = some (.settled outcome))
    (late : List (ι × Instant)) :
    report? visits start (early ++ late) run = some (outcome.map (fun _ => .authenticated)) := by
  unfold report?
  rw [after_append, settled_play settled]
  rfl

/-! ## One visit by itself -/

/-- A visit that has enough turns in a row resolves its token as the gate does. -/
theorem play_replicate {run : ι} (now : Instant) {phase : GatePhase} {traffic : Traffic ι σ}
    (current : traffic.phases run = some phase) {count : Nat} (enough : phase.rank ≤ count) :
    (traffic.play (List.replicate count (run, now))).phases run =
        some (.settled (GatePhase.resolve now phase traffic.store).1) ∧
      (traffic.play (List.replicate count (run, now))).store =
        (GatePhase.resolve now phase traffic.store).2 := by
  induction count generalizing phase traffic with
  | zero =>
      cases phase with
      | settled outcome =>
          rw [GatePhase.resolve]
          exact ⟨current, rfl⟩
      | _ => simp [GatePhase.rank] at enough
  | succ count inductionHypothesis =>
      have later := inductionHypothesis (phases_turn_self current now)
      rw [List.replicate_succ, play_cons]
      have turned : (traffic.turn run now).store = (phase.step now traffic.store).2 :=
        congrArg store (turn_of_phase current now)
      rw [turned] at later
      cases ended : phase.outcome? with
      | some outcome =>
          cases phase with
          | settled other => exact later (Nat.zero_le count)
          | _ => cases ended
      | none =>
          have fewer : (phase.step now traffic.store).1.rank < phase.rank :=
            GatePhase.rank_step_lt ended
          rw [GatePhase.resolve_of_unsettled traffic.store ended]
          exact later (by omega)

/-- A visit that is alone with its store reports and leaves what the gate does. -/
theorem report?_alone (visits : ι → Visit) (start : σ) (run : ι) (now : Instant) :
    let ran := Gate.authenticate (visits run).settings now (visits run).header
      (visits run).context start
    report? visits start (List.replicate 3 (run, now)) run = some ran.outcome ∧
      (after visits start (List.replicate 3 (run, now))).store = ran.store := by
  dsimp only
  unfold report? Gate.authenticate
  cases begins : (visits run).begin with
  | none =>
      have idle : (opening visits start).phases run = none := begins
      have stays : after visits start (List.replicate 3 (run, now)) = opening visits start := by
        show (((opening visits start).turn run now).turn run now).turn run now = _
        rw [turn_of_none idle, turn_of_none idle, turn_of_none idle]
      rw [stays, idle]
      unfold Visit.begin at begins
      split at begins
      next isBound => simp [isBound, Visit.report?, Visit.passing, opening]
      next unbound =>
        rw [Option.map_eq_none_iff] at begins
        simp [unbound, begins, Visit.report?, Visit.passing, opening]
  | some phase =>
      have current : (opening visits start).phases run = some phase := begins
      obtain ⟨token, rfl, presents⟩ := Visit.begin_eq_some begins
      obtain ⟨settled, left⟩ := play_replicate now current (Nat.le_refl 3)
      unfold Visit.begin at begins
      split at begins
      next => cases begins
      next unbound =>
        rw [GateSettings.bind_token?_eq_some_iff.2 presents]
        simp only [unbound, Bool.false_eq_true, if_false]
        exact ⟨congrArg (visits run).report? settled, left⟩

end Traffic

end RowAccess
