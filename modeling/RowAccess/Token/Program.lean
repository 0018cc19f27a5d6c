import RowAccess.Store.Backend
import RowAccess.Token.Gate

/-!
Contract: programs of token requests and store operations.

A program runs against one store, one clock and one gate. The gate's calls to
the store may fail on their way; operations on the store itself do not. Steps
that concern a database file have no meaning for a store in memory.

Owns:
- the steps, their results and the running of programs.
-/

namespace RowAccess

/-- What token requests work with, the trail they leave and the latest of them.
Before the first one that is an anonymous read. -/
structure GateWorld where
  clock : Instant
  backend : CredentialBackend
  settings : GateSettings
  faults : StoreFaults
  directory : String
  trail : List AuditEvent
  latest : RequestContext

inductive GateStep where
  | principal (principal : Principal)
  | credential (credential : Credential)
  | setClock (time : Instant)
  | advance (nanos : Int)
  | request (context : RequestContext) (header : Option String)
  | again (header : Option String)
  | parseHeader (header : Option String)
  | settings
  | find (token : TokenValue)
  | delete (token : TokenValue)
  | touch (token : TokenValue) (time : Instant)
  | load (id : PrincipalId)
  | reopen
  | openAt (name : String) (mode : JournalMode)
  | journalMode
  | writePrincipal (id : Cell) (row : PrincipalRow)
  | writeToken (token : Cell) (row : TokenRow)
  | writeVersion (version : Cell)
  | clearVersion

inductive GateStepResult where
  | done
  | clock (time : Instant)
  | request (outcome : Except TokenError GateVerdict) (context : RequestContext)
  | token (token : Option TokenValue)
  | settings (settings : GateSettings)
  | credential (found : Option Credential) (now : Instant)
  | flag (value : Bool)
  | principal (found : Option Principal)
  | storeFailure (error : StoreError)
  | databaseFailure (error : StoreError)
  | mode (mode : JournalMode)
  | rows (count : Nat)
  | refused
  | inapplicable

namespace GateWorld

/-- Runs the gate on a request, and remembers the request. -/
def authenticate (header : Option String) (context : RequestContext) (world : GateWorld) :
    Except TokenError GateVerdict × GateWorld :=
  let ran := Gate.authenticate world.settings world.clock header context
    (WatchedStore.watch world.faults world.backend)
  (ran.outcome,
    { world with
      backend := ran.store.store
      trail := world.trail ++ ran.events
      latest := ran.context })

def runRequest (header : Option String) (context : RequestContext) (world : GateWorld) :
    GateStepResult × GateWorld :=
  let ran := world.authenticate header context
  (.request ran.1 ran.2.latest, ran.2)

/-- Describes what an operation on the store itself answered. -/
def perform {α : Type} (describe : α → GateStepResult)
    (operation : CredentialBackend → Except StoreError α × CredentialBackend)
    (world : GateWorld) : GateStepResult × GateWorld :=
  let made := operation world.backend
  let next := { world with backend := made.2 }
  match made.1 with
  | .ok value => (describe value, next)
  | .error error => (.storeFailure error, next)

/-- Runs an operation on a database in a file. -/
def onDurable (operation : DurableStore → GateStepResult × DurableStore) (world : GateWorld) :
    GateStepResult × GateWorld :=
  match world.backend with
  | .memory _ => (.inapplicable, world)
  | .durable store =>
      let made := operation store
      (made.1, { world with backend := .durable made.2 })

def describeOpening (made : Except StoreError Unit × DurableStore) :
    GateStepResult × DurableStore :=
  match made.1 with
  | .ok _ => (.done, made.2)
  | .error error => (.databaseFailure error, made.2)

/-- Describes a write past the store by the rows it changed. -/
def describeWrite (write : Database → Option (Nat × Database)) (store : DurableStore) :
    GateStepResult × DurableStore :=
  let made := store.writePast write
  ((made.1.map GateStepResult.rows).getD .refused, made.2)

def describeMode (store : DurableStore) : GateStepResult × DurableStore :=
  let made := store.findMode
  ((made.1.map GateStepResult.mode).getD .refused, made.2)

/-- Describes what storing an entry answered. -/
def describeInsert (made : Except StoreError Unit × CredentialBackend) (world : GateWorld) :
    GateStepResult × GateWorld :=
  let next := { world with backend := made.2 }
  match made.1 with
  | .ok _ => (.done, next)
  | .error error => (.databaseFailure error, next)

def finished (_ : Unit) : GateStepResult := .done

def runStep (world : GateWorld) : GateStep → GateStepResult × GateWorld
  | .principal principal => describeInsert (world.backend.insertPrincipal principal) world
  | .credential credential => describeInsert (world.backend.insertCredential credential) world
  | .setClock time => (.done, { world with clock := time })
  | .advance nanos =>
      let time := world.clock.advance nanos
      (.clock time, { world with clock := time })
  | .request context header => world.runRequest header context
  | .again header => world.runRequest header world.latest
  | .parseHeader header => (.token (header.bind world.settings.token?), world)
  | .settings => (.settings world.settings, world)
  | .find token =>
      world.perform (fun found => .credential found world.clock) (CredentialStore.find token)
  | .delete token => world.perform .flag (CredentialStore.deleteIfExists token)
  | .touch token time => world.perform finished (CredentialStore.touch token time)
  | .load id => world.perform .principal (CredentialStore.load id)
  | .reopen => world.onDurable (fun store => describeOpening store.reopen)
  | .openAt name mode =>
      world.onDurable (fun store =>
        describeOpening (store.openAt (Location.join world.directory name) mode))
  | .journalMode => world.onDurable describeMode
  | .writePrincipal id row =>
      world.onDurable (describeWrite (fun database =>
        (database.writePrincipal id row).map (fun next => (1, next))))
  | .writeToken token row =>
      world.onDurable (describeWrite (fun database =>
        (database.writeToken token row).map (fun next => (1, next))))
  | .writeVersion version => world.onDurable (describeWrite (Database.writeVersion version))
  | .clearVersion =>
      world.onDurable (describeWrite (fun database => some database.clearVersion))

/-- Runs steps in turn and keeps their results in order. -/
def runSteps : List GateStep → GateWorld → List GateStepResult × GateWorld
  | [], world => ([], world)
  | step :: rest, world =>
      let first := world.runStep step
      let others := runSteps rest first.2
      (first.1 :: others.1, others.2)

end GateWorld

end RowAccess
