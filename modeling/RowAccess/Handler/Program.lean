import RowAccess.Collection.Basic
import RowAccess.Guard.Run
import RowAccess.Session.Operation

/-!
Contract: handlers as programs of access operations.

A program is a list of steps; a step may be a guarded run of a program. Inside
a guarded run the first step that fails ends the program, unless the step is
attempted only. Every step leaves its result and the state after it in a
transcript, the steps of a guarded run before the run itself.

Owns:
- the steps, their results and the running of programs.
-/

namespace RowAccess

inductive HandlerStep where
  | view (query : Query) (execute : Bool)
  | history (resource : ResourceType) (key : RecordKey) (execute : Bool)
  | write (action : Action) (resource : ResourceType) (record : Record) (values : Fields)
  | changeList (resource : ResourceType) (records : List Record) (values : Fields)
  | store (isNew : Bool) (resource : ResourceType) (record : Record) (values : Fields)
  | fileField (resource : ResourceType) (record : Record) (field : String)
  | grants (resource : ResourceType) (action : Action)
  | hasAny (keys : List PermissionKey)
  | markUnscoped
  | authenticate (principal : Principal)
  | resolve (resource : ResourceType) (scope : ScopeName) (action : Action)
  | permissions
  | check
  | stage (key : String) (value : Json)
  | fail (error : StoreError)
  | guard (steps : List HandlerStep) (status : Nat)
  | attempt (step : HandlerStep)

inductive StepResult where
  | done
  | failed (error : AccessError)
  | view (query : Query) (keys : Option (Except StoreError (List RecordKey)))
  | grants (scopes : OrderedSet ScopeName)
  | flag (value : Bool)
  | rule (rule : ScopeRule)
  | permissions (map : PermissionMap)
  | status (status : Nat)

abbrev HandlerState := GuardState StepResult

/-- What the steps of a handler work with. -/
structure HandlerEnvironment where
  evaluator : Evaluator
  collection : Option Collection
  faults : TransactionFaults

namespace HandlerEnvironment

/-- The keys a query selects, where there is a collection to run it on. -/
def execute (environment : HandlerEnvironment) (query : Query) :
    Option (Except StoreError (List RecordKey)) :=
  environment.collection.map (fun collection =>
    (collection.execute query).map (fun records => records.map Record.key))

/-- Notes a step's result; a failure is also its outcome. -/
def settle {α : Type} (describe : α → StepResult) (outcome : Except AccessError α)
    (state : HandlerState) : Except AccessError Unit × HandlerState :=
  match outcome with
  | .ok value => (.ok (), state.note (describe value))
  | .error error => (.error error, state.note (.failed error))

/-- Runs a session operation as a step. -/
def perform {α : Type} (describe : α → StepResult)
    (operation : Session → Except AccessError α × Session) (state : HandlerState) :
    Except AccessError Unit × HandlerState :=
  let ran := operation state.session
  settle describe ran.1 { state with session := ran.2 }

def describeView (environment : HandlerEnvironment) (execute : Bool) (query : Query) :
    StepResult :=
  .view query (if execute then environment.execute query else none)

def finished (_ : Unit) : StepResult := .done

mutual

def runStep (environment : HandlerEnvironment) :
    HandlerStep → HandlerState → Except AccessError Unit × HandlerState
  | .view query execute =>
      perform (environment.describeView execute) (environment.evaluator.scopeView query)
  | .history resource key execute =>
      perform (environment.describeView execute)
        (environment.evaluator.scopeHistory resource key)
  | .write action resource record values =>
      perform finished (environment.evaluator.scopeWrite action resource record values)
  | .changeList resource records values =>
      perform finished (environment.evaluator.scopeChangeList resource records values)
  | .store isNew resource record values =>
      perform finished (environment.evaluator.scopeStore isNew resource record values)
  | .fileField resource record field =>
      perform finished (environment.evaluator.scopeFileField resource record field)
  | .grants resource action =>
      perform .grants (environment.evaluator.resolveGrants resource action)
  | .hasAny keys => perform .flag (environment.evaluator.hasAnyPermission keys)
  | .markUnscoped =>
      fun state =>
        settle finished (.ok ()) (state.updateContext RequestContext.markUnscoped)
  | .authenticate principal =>
      fun state =>
        settle finished (.ok ())
          (state.updateContext (fun context => context.authenticate principal))
  | .resolve resource scope action =>
      settle .rule (environment.evaluator.authority.registry.resolve resource scope action)
  | .permissions => settle .permissions (.ok environment.evaluator.permissions)
  | .check => fun state => settle finished (Guard.check state.session.context) state
  | .stage key value =>
      fun state =>
        settle finished (.ok ())
          { state with transactions := state.transactions.write key value }
  | .fail error => settle finished (.error (.store error))
  | .guard steps status =>
      fun state =>
        let ran := Guard.run environment.faults
          (fun inner =>
            let body := runSteps environment steps inner
            (body.1.map (fun _ => status), body.2))
          state
        settle .status ran.1 ran.2
  | .attempt step => fun state => (.ok (), (runStep environment step state).2)

/-- Runs steps in turn, up to the first that fails. -/
def runSteps (environment : HandlerEnvironment) :
    List HandlerStep → HandlerState → Except AccessError Unit × HandlerState
  | [], state => (.ok (), state)
  | step :: rest, state =>
      match runStep environment step state with
      | (.error error, next) => (.error error, next)
      | (.ok _, next) => runSteps environment rest next

end

/-- Runs a program under guard; it answers a status unless a step fails. -/
def runGuarded (environment : HandlerEnvironment) (steps : List HandlerStep) (status : Nat) :
    Guard.Handler StepResult :=
  Guard.run environment.faults (fun inner =>
    let body := environment.runSteps steps inner
    (body.1.map (fun _ => status), body.2))

/-- Runs every step, whatever the others do. -/
def runAll (environment : HandlerEnvironment) (steps : List HandlerStep)
    (state : HandlerState) : HandlerState :=
  steps.foldl (fun current step => (environment.runStep step current).2) state

end HandlerEnvironment

end RowAccess
