import RowAccess.Proofs.Token.Mirroring
import RowAccess.Token.Program

/-!
Contract: token requests on a database file simulate those on a store in memory.

A program of requests and store operations is run on a database file and on a
store in memory that holds what the file keeps. As long as all its instants can be
stored, both runs give the same results, bind the same principals and leave the same
audit trail; only the instants that come back are in UTC.

Owns:
- programs whose instants can be stored.
- worlds that are alike up to their backends, kept by every step.
- what it is to stand in for a store in memory, and that files do, new and used.
-/

namespace RowAccess

/-! ## Programs -/

/-- A result with the instants of credentials in UTC. A file can be opened again,
which means nothing in memory. -/
def GateStepResult.inUtc : GateStepResult → GateStepResult
  | .request outcome context => .request (outcome.mapError TokenError.inUtc) context
  | .credential found now => .credential (found.map Credential.utc) now
  | .inapplicable => .done
  | result => result

namespace GateStep

/-- Whether a step asks the gate or the store, and neither opens another file nor
writes past the store. -/
def IsPlain : GateStep → Prop
  | .openAt _ _ | .journalMode | .writePrincipal _ _ | .writeToken _ _ | .writeVersion _
  | .clearVersion => False
  | _ => True

/-- What the clock shows after a step. -/
def clockAfter (clock : Instant) : GateStep → Instant
  | .setClock time => time
  | .advance nanos => clock.advance nanos
  | _ => clock

/-- Whether the instants that a step names can be stored. -/
def Timely : GateStep → Prop
  | .credential stored => stored.Storable
  | .touch _ time => Timestamp.InRange time.nanos
  | _ => True

/-- Whether all instants of a program can be stored, those of the clock included. -/
def AllTimely : Instant → List GateStep → Prop
  | clock, [] => Timestamp.InRange clock.nanos
  | clock, step :: rest =>
      Timestamp.InRange clock.nanos ∧ step.Timely ∧ AllTimely (step.clockAfter clock) rest

instance : DecidablePred IsPlain := fun step => by
  cases step <;> unfold IsPlain <;> infer_instance

instance : DecidablePred Timely := fun step => by
  cases step <;> unfold Timely <;> infer_instance

instance decidableAllTimely :
    (clock : Instant) → (steps : List GateStep) → Decidable (AllTimely clock steps)
  | clock, [] => inferInstanceAs (Decidable (Timestamp.InRange clock.nanos))
  | clock, step :: rest =>
      have := decidableAllTimely (step.clockAfter clock) rest
      inferInstanceAs (Decidable (Timestamp.InRange clock.nanos ∧ step.Timely ∧
        AllTimely (step.clockAfter clock) rest))

end GateStep

namespace GateWorld

/-- The same world with another backend. -/
def onto (backend : CredentialBackend) (world : GateWorld) : GateWorld :=
  { world with backend := backend }

variable {world : GateWorld} {backend : CredentialBackend}

/-- What two worlds come to that differ in their backends only. -/
def Alike (left right : GateStepResult × GateWorld) : Prop :=
  ∃ next, right = (left.1.inUtc, left.2.onto next) ∧ left.2.backend.Mirrored next

theorem alike_perform {α : Type} {translate : α → α} {describe : α → GateStepResult}
    (operation : CredentialBackend → Except StoreError α × CredentialBackend)
    (answers : Answers CredentialBackend.Mirrored translate (operation world.backend)
      (operation backend))
    (described : ∀ answer, describe (translate answer) = (describe answer).inUtc) :
    Alike (world.perform describe operation) ((world.onto backend).perform describe operation) := by
  obtain ⟨outcome, mirrored⟩ := answers
  unfold perform onto
  generalize operation world.backend = left at outcome mirrored
  generalize operation backend = right at outcome mirrored
  obtain ⟨answer, leftAfter⟩ := left
  obtain ⟨rightAnswer, rightAfter⟩ := right
  cases outcome
  cases answer with
  | error error => exact ⟨rightAfter, rfl, mirrored⟩
  | ok value => exact ⟨rightAfter, congrArg (fun result => (result, _)) (described value), mirrored⟩

theorem alike_describeInsert {left right : Except StoreError Unit × CredentialBackend}
    (answers : Answers CredentialBackend.Mirrored id left right) :
    Alike (describeInsert left world) (describeInsert right (world.onto backend)) := by
  obtain ⟨outcome, mirrored⟩ := answers
  unfold describeInsert onto
  obtain ⟨answer, leftAfter⟩ := left
  obtain ⟨rightAnswer, rightAfter⟩ := right
  cases outcome
  cases answer with
  | error error => exact ⟨rightAfter, rfl, mirrored⟩
  | ok _ => exact ⟨rightAfter, rfl, mirrored⟩

theorem alike_runRequest (mirrored : world.backend.Mirrored backend)
    (inRange : Timestamp.InRange world.clock.nanos) (header : Option String)
    (context : RequestContext) :
    Alike (world.runRequest header context) ((world.onto backend).runRequest header context) := by
  have watched : WatchedStore.Mirrored (WatchedStore.watch world.faults world.backend)
      (WatchedStore.watch world.faults backend) := ⟨rfl, rfl, mirrored⟩
  obtain ⟨outcome, sameContext, events, store⟩ :=
    Gate.mirrored_authenticate world.settings inRange header context watched
  refine ⟨_, ?_, store.store⟩
  unfold runRequest authenticate onto
  dsimp only
  rw [outcome, sameContext, events]
  rfl

theorem alike_reopen (mirrored : world.backend.Mirrored backend) :
    Alike (world.runStep .reopen) ((world.onto backend).runStep .reopen) := by
  obtain ⟨clock, worldBackend, settings, faults, directory, trail, latest⟩ := world
  cases mirrored with
  | @intro memory durable mirrors =>
      obtain ⟨next, reopened, still⟩ := mirrors.reopen
      refine ⟨.durable next, ?_, .intro still⟩
      simp only [runStep, onDurable, onto, describeOpening, reopened]
      rfl

/-- Each step of a program. -/
theorem alike_runStep (mirrored : world.backend.Mirrored backend) {step : GateStep}
    (plain : step.IsPlain) (inRange : Timestamp.InRange world.clock.nanos)
    (timely : step.Timely) :
    Alike (world.runStep step) ((world.onto backend).runStep step) := by
  cases step with
  | principal principal => exact alike_describeInsert (mirrored.insertPrincipal principal)
  | credential credential => exact alike_describeInsert (mirrored.insertCredential timely)
  | setClock time => exact ⟨backend, rfl, mirrored⟩
  | advance nanos => exact ⟨backend, rfl, mirrored⟩
  | request context header => exact alike_runRequest mirrored inRange header context
  | again header => exact alike_runRequest mirrored inRange header world.latest
  | parseHeader header => exact ⟨backend, rfl, mirrored⟩
  | settings => exact ⟨backend, rfl, mirrored⟩
  | find token =>
      exact alike_perform (CredentialStore.find token) (mirrored.find token) (fun _ => rfl)
  | delete token =>
      exact alike_perform (CredentialStore.deleteIfExists token) (mirrored.delete token)
        (fun _ => rfl)
  | touch token time =>
      exact alike_perform (CredentialStore.touch token time) (mirrored.touch token timely)
        (fun _ => rfl)
  | load owner =>
      exact alike_perform (CredentialStore.load owner) (mirrored.load owner) (fun _ => rfl)
  | reopen => exact alike_reopen mirrored
  | _ => exact plain.elim

theorem clock_perform {α : Type} (describe : α → GateStepResult)
    (operation : CredentialBackend → Except StoreError α × CredentialBackend) :
    (world.perform describe operation).2.clock = world.clock := by
  unfold perform
  dsimp only
  split <;> rfl

theorem clock_describeInsert (made : Except StoreError Unit × CredentialBackend) :
    (describeInsert made world).2.clock = world.clock := by
  unfold describeInsert
  dsimp only
  split <;> rfl

theorem clock_onDurable (operation : DurableStore → GateStepResult × DurableStore) :
    (world.onDurable operation).2.clock = world.clock := by
  unfold onDurable
  split <;> rfl

theorem clock_runStep (world : GateWorld) (step : GateStep) :
    (world.runStep step).2.clock = step.clockAfter world.clock := by
  cases step with
  | principal principal => exact clock_describeInsert _
  | credential credential => exact clock_describeInsert _
  | find token => exact clock_perform _ _
  | delete token => exact clock_perform _ _
  | touch token time => exact clock_perform _ _
  | load owner => exact clock_perform _ _
  | reopen => exact clock_onDurable _
  | openAt name mode => exact clock_onDurable _
  | journalMode => exact clock_onDurable _
  | writePrincipal id row => exact clock_onDurable _
  | writeToken token row => exact clock_onDurable _
  | writeVersion version => exact clock_onDurable _
  | clearVersion => exact clock_onDurable _
  | _ => rfl

/-- All steps of a program. -/
theorem mirrored_runSteps {steps : List GateStep} (mirrored : world.backend.Mirrored backend)
    (plain : ∀ step ∈ steps, step.IsPlain) (timely : GateStep.AllTimely world.clock steps) :
    ∃ next, (world.onto backend).runSteps steps =
        ((world.runSteps steps).1.map GateStepResult.inUtc, (world.runSteps steps).2.onto next) ∧
      (world.runSteps steps).2.backend.Mirrored next := by
  induction steps generalizing world backend with
  | nil => exact ⟨backend, rfl, mirrored⟩
  | cons step rest inductionHypothesis =>
      obtain ⟨inRange, stepTimely, restTimely⟩ := timely
      obtain ⟨middle, ran, stillMirrored⟩ :=
        alike_runStep mirrored (plain step List.mem_cons_self) inRange stepTimely
      rw [← clock_runStep] at restTimely
      obtain ⟨next, rest, finallyMirrored⟩ := inductionHypothesis stillMirrored
        (fun later member => plain later (List.mem_cons_of_mem step member)) restTimely
      refine ⟨next, ?_, finallyMirrored⟩
      simp only [runSteps, ran, rest, List.map_cons]

end GateWorld

/-- All steps of a program, on a store that mirrors the one in memory. -/
theorem DurableStore.Mirrors.runSteps {durable : DurableStore} {memory : MemoryStore}
    (mirrors : durable.Mirrors memory) {world : GateWorld} (holds : world.backend = .memory memory)
    {steps : List GateStep} (plain : ∀ step ∈ steps, step.IsPlain)
    (timely : GateStep.AllTimely world.clock steps) :
    ∃ (after : DurableStore) (final : MemoryStore),
      (world.onto (.durable durable)).runSteps steps =
          ((world.runSteps steps).1.map GateStepResult.inUtc,
            (world.runSteps steps).2.onto (.durable after)) ∧
        (world.runSteps steps).2.backend = .memory final ∧ after.Mirrors final := by
  have mirrored : world.backend.Mirrored (.durable durable) := by
    rw [holds]
    exact .intro mirrors
  obtain ⟨next, ran, stillMirrored⟩ := GateWorld.mirrored_runSteps mirrored plain timely
  generalize backend : (world.runSteps steps).2.backend = final at stillMirrored ⊢
  cases stillMirrored with
  | intro stillMirrors => exact ⟨_, _, ran, rfl, stillMirrors⟩

/-! ## Standing in -/

/-- What makes a store on a file stand in for one in memory. -/
structure DurableStore.StandsIn (durable : DurableStore) (memory : MemoryStore) : Prop where
  simulates : ∀ (world : GateWorld) (steps : List GateStep),
    world.backend = .memory memory → (∀ step ∈ steps, step.IsPlain) →
    GateStep.AllTimely world.clock steps →
      ((world.onto (.durable durable)).runSteps steps).1 =
          (world.runSteps steps).1.map GateStepResult.inUtc ∧
        ((world.onto (.durable durable)).runSteps steps).2.trail = (world.runSteps steps).2.trail ∧
        ((world.onto (.durable durable)).runSteps steps).2.latest =
          (world.runSteps steps).2.latest
  keeps : ∀ (world : GateWorld) (steps : List GateStep),
    world.backend = .memory memory → (∀ step ∈ steps, step.IsPlain) →
    GateStep.AllTimely world.clock steps →
      ∃ (after : DurableStore) (final : MemoryStore),
        ((world.onto (.durable durable)).runSteps steps).2.backend = .durable after ∧
        (world.runSteps steps).2.backend = .memory final ∧
        after.tree.Keeps after.location final
  insertRejected : ∀ (store : DurableStore) (credential : Credential), ¬ credential.Storable →
    store.insertCredential credential = (.error ⟨.invalid, "timestamp out of range"⟩, store)
  touchRejected : ∀ (store : DurableStore) (token : TokenValue) (time : Instant),
    ¬ Timestamp.InRange time.nanos →
      CredentialStore.touch token time store =
        (.error ⟨.invalid, "timestamp out of range"⟩, store)
  unbound : ∀ (store : DurableStore) (faults : StoreFaults) (settings : GateSettings)
    (now : Instant) (header : Option String) (context : RequestContext),
    ¬ Timestamp.InRange now.nanos → context.authenticated = false →
      (Gate.authenticate settings now header context (WatchedStore.watch faults store)).context =
          context ∧
        (Gate.authenticate settings now header context (WatchedStore.watch faults store)).outcome ≠
          .ok .authenticated

/-- A store opened on a file in a tree where no database is in use stands in for a store in
memory that holds what the file keeps: for an empty one, if the file is new. A used file in
the mode of the log has to have a place for the index, or it could only be read. -/
theorem DurableStore.stands_in_for_memory {tree : StoredTree} {settings : DatabaseSettings}
    {durable : DurableStore} {memory : MemoryStore} (idle : DirectoryTree.Idle tree)
    (inFile : settings.isInMemory = false) (created : create tree settings = .ok durable)
    (keeps : tree.Keeps (Location.ofPath settings.path) memory)
    (writable : settings.journalMode = .wal →
      (tree.tables? (Location.ofPath settings.path)).isSome = true →
        durable.tree.blocks .index durable.location = false) : durable.StandsIn memory := by
  have mirrors := mirrors_of_create idle inFile created keeps writable
  refine
    { simulates := ?_, keeps := ?_, insertRejected := ?_, touchRejected := ?_, unbound := ?_ }
  · intro world steps holds plain timely
    obtain ⟨after, final, ran, _⟩ := mirrors.runSteps holds plain timely
    rw [ran]
    exact ⟨rfl, rfl, rfl⟩
  · intro world steps holds plain timely
    obtain ⟨after, final, ran, finalHolds, stillMirrors⟩ := mirrors.runSteps holds plain timely
    rw [ran]
    exact ⟨after, final, rfl, finalHolds, stillMirrors.keeps⟩
  · exact fun store _ beyond => store.insertCredential_of_not_storable beyond
  · exact fun store token _ beyond => store.touch_of_not_inRange token beyond
  · exact fun store faults settings _ header _ beyond unbound =>
      Gate.unbound_of_not_inRange store faults settings beyond header unbound

namespace Desk

/-- The directory of the desk, with no file in it. -/
def deskTree : StoredTree := DirectoryTree.around "/desk"

/-- The desk's credentials on a file. -/
def deskSettings : DatabaseSettings := DatabaseSettings.ofPath "/desk/keys"

/-- A key of the clerk, with an offset. -/
def clerkKey : Credential := ⟨⟨"key"⟩, ⟨"ada"⟩, ⟨0, 0⟩, ⟨100, 7200⟩, none⟩

/-- The directory of the desk after a store has left its file there, with the key in it. -/
def usedTree : StoredTree :=
  deskTree.putFile (Location.ofPath "/desk/keys")
    (.database .wal (some (Database.empty.insertCredential clerkKey).2))

/-- A store in memory with the key, and a request that comes late. -/
def keyWorld : GateWorld where
  clock := ⟨50, 3600⟩
  backend := .memory (MemoryStore.empty.insertCredential clerkKey)
  settings := .standard
  faults := fun _ _ => none
  directory := "/desk"
  trail := []
  latest := RequestContext.anonymous .get none

/-- The clerk is stored and the file is opened again; then the key is shown in time, looked
at, and shown too late. -/
def keySteps : List GateStep :=
  [.principal ⟨⟨"ada"⟩, OrderedSet.ofList ["clerk", "reader"], false⟩, .reopen,
   .again (some "Token key"), .find ⟨"key"⟩, .setClock ⟨100, 0⟩,
   .request (RequestContext.anonymous .get none) (some "Token key"), .find ⟨"key"⟩]

/-- A new file stands in for an empty store. On the used one the key binds the clerk, is
found with its instants in UTC, and expires, as it does in memory. -/
theorem desk_file_stands_in :
    (∃ durable, DurableStore.create deskTree deskSettings = .ok durable ∧
      durable.StandsIn MemoryStore.empty) ∧
    ∃ durable, DurableStore.create usedTree deskSettings = .ok durable ∧
      ((keyWorld.onto (.durable durable)).runSteps keySteps).1 =
        (keyWorld.runSteps keySteps).1.map GateStepResult.inUtc ∧
      ((keyWorld.onto (.durable durable)).runSteps keySteps).2.trail =
        [.token ⟨.authenticated, TokenValue.fingerprint ⟨"key"⟩, some "ada", none⟩,
          .token ⟨.expired, TokenValue.fingerprint ⟨"key"⟩, none, some "TokenExpired"⟩] := by
  have searched : Location.hasNull = fun text => decide ('\x00' ∈ text.toList) :=
    funext (fun _ => String.contains_char_eq)
  have opened : ∀ tree ∈ [deskTree, usedTree],
      (DurableStore.create tree deskSettings).toOption.any (fun durable =>
        durable.tree.blocks .index durable.location = false) = true := by
    unfold DurableStore.create DirectoryTree.createDatabase DirectoryTree.checkPath
      Location.canLookUp
    rw [searched]
    decide +kernel
  constructor
  · have idle : DirectoryTree.Idle deskTree := fun _ _ found => nomatch found
    have ready := opened deskTree (by simp)
    cases created : DurableStore.create deskTree deskSettings with
    | error error =>
        rw [created] at ready
        cases ready
    | ok durable =>
        exact ⟨durable, rfl, DurableStore.stands_in_for_memory idle (by decide) created
          (DirectoryTree.keeps_of_missing rfl) (fun _ isSome => nomatch isSome)⟩
  · have idle : DirectoryTree.Idle usedTree := by
      intro place isWritten
      rw [usedTree, DirectoryTree.fileAt?_putFile]
      split
      next => exact fun found => nomatch found
      next => exact fun found => nomatch found
    have keeps : usedTree.Keeps (Location.ofPath deskSettings.path)
        (MemoryStore.empty.insertCredential clerkKey) :=
      ⟨_, by decide +kernel, Database.holds_empty.insertCredential (by decide)⟩
    have ready := opened usedTree (by simp)
    cases created : DurableStore.create usedTree deskSettings with
    | error error =>
        rw [created] at ready
        cases ready
    | ok durable =>
        rw [created] at ready
        have standsIn := DurableStore.stands_in_for_memory idle (by decide) created keeps
          (fun _ _ => of_decide_eq_true ready)
        obtain ⟨results, trail, _⟩ :=
          standsIn.simulates keyWorld keySteps rfl (by decide) (by decide)
        refine ⟨durable, rfl, results, ?_⟩
        rw [trail]
        decide +kernel

end Desk

end RowAccess
