import RowAccess.Handler.Program
import RowAccess.Wire.Rule

/-!
Contract: the JSON forms of worlds, handler programs and their transcripts.

Owns:
- the world a session runs in, its steps, and the account of a run.
-/

namespace RowAccess.Wire

/-- What a session runs in: the environment of handlers and its audit sink. -/
structure World where
  environment : HandlerEnvironment
  sink : AuditSink

/-- A table of permission strings by principal, or a source that fails. -/
def grantSource (json : Json) : Decoded GrantSource := do
  match field? "fail" json with
  | some form =>
      let error ← storeError form
      return fun _ => .error error
  | none =>
      let table ← (objectField "map" json).mapM (fun entry => do
        return (entry.1, OrderedSet.ofList (← texts entry.2)))
      return fun principal =>
        .ok (((table.find? (fun entry => entry.1 = principal.id.text)).map Prod.snd).getD
          OrderedSet.empty)

/-- Calls that fail each time they are made. -/
def transactionFaults (json : Json) : Decoded TransactionFaults := do
  let start ← optionalField "begin" storeError json
  let commit ← optionalField "commit" storeError json
  let rollback ← optionalField "rollback" storeError json
  return fun _ call =>
    match call with
    | .start => start
    | .commit => commit
    | .rollback => rollback

def auditSink (json : Json) : AuditSink :=
  match textField? "audit" json with
  | some "file" => .file
  | some "noop" => .noop
  | _ => .memory

def world (json : Json) : Decoded World := do
  let records ← optionalField "collection" collection json
  let rules ← registry records json
  let permissions ← permissionMap (listField "grants" json)
  let source ← optionalField "grant_source" grantSource json
  let faults ← optionalField "transactions" transactionFaults json
  let resolver : SubsetResolver :=
    match records with
    | some found =>
        if flagField "local_subsets" json then SubsetResolver.localOnly else found.resolve
    | none => SubsetResolver.localOnly
  return {
    environment :=
      { evaluator :=
          { authority := ⟨rules, resolver⟩
            permissions := permissions
            grantSource := source.getD GrantSource.ofPrincipal }
        collection := records
        faults := faults.getD (fun _ _ => none) }
    sink := auditSink json }

def requestContext (json : Json) : Decoded RequestContext := do
  let method ← method (← field "method" json)
  let bound ← optionalField "principal" principal json
  return RequestContext.start method (textField? "request_id" json) bound

/-- A step whose guarded steps, if it has any, are read already. -/
def stepWith (json : Json) (guarded : List HandlerStep) : Decoded HandlerStep := do
  let target : Decoded ResourceType := do resource (← field "resource" json)
  let subject : Decoded Record := do record (← field "record" json)
  let values := fieldsOf "values" json
  let write (kind : Action) : Decoded HandlerStep := do
    return .write kind (← target) (← subject) values
  match ← textField "do" json with
  | "view" => return .view (← query (← field "query" json)) (flagField "execute" json)
  | "history" =>
      return .history (← target) (← recordKey (← field "key" json)) (flagField "execute" json)
  | "add" => write .add
  | "change" => write .change
  | "delete" => write .delete
  | "change_list" =>
      return .changeList (← target) (← (listField "records" json).mapM record) values
  | "store" => return .store (flagField "is_new" json) (← target) (← subject) values
  | "file_field" => return .fileField (← target) (← subject) (← textField "field" json)
  | "grants" => return .grants (← target) (← action (← field "action" json))
  | "has_any" => return .hasAny ((← texts (← field "keys" json)).map Label.mk)
  | "mark_unscoped" => return .markUnscoped
  | "authenticate" => return .authenticate (← principal (← field "principal" json))
  | "resolve" =>
      return .resolve (← target) ⟨← textField "scope" json⟩ (← action (← field "action" json))
  | "map" => return .permissions
  | "check" => return .check
  | "write" => return .stage (← textField "key" json) ((json.field? "value").getD .null)
  | "fail" => return .fail (← storeError (← field "with" json))
  | "guard" => return .guard guarded (← count (← field "respond" json))
  | other => .error (.malformed other)

mutual

def handlerStep (json : Json) : Decoded HandlerStep := do
  let guarded ←
    match _inner : json.field? "steps" with
    | some (.array items) => handlerSteps items
    | _ => .ok []
  let step ← stepWith json guarded
  return if flagField "swallow" json then .attempt step else step
termination_by sizeOf json
decreasing_by
  have smaller := Json.sizeOf_field? _inner
  simp at smaller
  omega

def handlerSteps (items : List Json) : Decoded (List HandlerStep) := do
  match items with
  | [] => return []
  | item :: rest =>
      let first ← handlerStep item
      let others ← handlerSteps rest
      return first :: others
termination_by sizeOf items

end

def encodeScopes (scopes : OrderedSet ScopeName) : Json :=
  Json.strings (scopes.toList.map Label.text)

def encodeStepResult : StepResult → Json
  | .done => .string "ok"
  | .failed error => encodeAccessError error
  | .view query keys =>
      Json.ofFields (("query", encodeQuery query) ::
        (match keys with
          | some found =>
              [("keys", encodeStored (fun keys => Json.strings (keys.map Label.text)) found)]
          | none => []))
  | .grants scopes => encodeScopes scopes
  | .flag value => .bool value
  | .rule rule => encodeRule rule
  | .permissions map => encodePermissionMap map
  | .status status => Json.ofFields [("status", Json.integer status)]

def encodeState (session : Session) (transactions : Transactions) : Json :=
  Json.ofFields
    [("decisions", Json.strings (session.context.decisions.map Action.label)),
     ("empty", .bool session.context.decisions.isEmpty),
     ("checked", .bool session.context.permissionChecked),
     ("principal", .string session.context.principal.id.text),
     ("grant_loads", Json.integer session.grantLoads),
     ("tx", .array
       [Json.integer transactions.commits, Json.integer transactions.rollbacks])]

def encodeEntry (entry : HandlerEntry StepResult) : Json :=
  Json.ofFields
    [("result", encodeStepResult entry.result),
     ("state", encodeState entry.session entry.transactions)]

def encodeTrail (sink : AuditSink) (trail : List AuditEvent) : Json :=
  match sink with
  | .noop => .null
  | .file => Json.strings (trail.map AuditEvent.line)
  | .memory =>
      Json.ofFields
        [("events", .array (trail.map AuditEvent.value)),
         ("counts", Json.ofFields (AuditEvent.names.map (fun name =>
           (name, Json.integer (trail.filter (fun event => event.name = name)).length))))]

def encodeTransactions (transactions : Transactions) : Json :=
  Json.ofFields
    [("commits", Json.integer transactions.commits),
     ("rollbacks", Json.integer transactions.rollbacks),
     ("committed", .object transactions.committed.entries)]

end RowAccess.Wire
