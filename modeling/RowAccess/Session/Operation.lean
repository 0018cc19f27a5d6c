import RowAccess.Session.Basic

/-!
Contract: the access operations of a request.

Each operation resolves the grants of its action, decides, records one audit
event for the decision and, only when the decision allowed something, an entry
in the decision log. Compound operations are sequences of single ones and stop
at the first failure.

Owns:
- view, history, add, change, delete, and the compound operations on lists of
  records, on stored records and on file fields.
-/

namespace RowAccess.Evaluator

/-- Narrows a query to what the principal may view. -/
def scopeView (evaluator : Evaluator) (base : Query) (session : Session) :
    Except AccessError Query × Session :=
  let resource := base.resource
  match evaluator.resolveGrants resource .view session with
  | (.error error, next) =>
      (.error error, next.audit (next.decisionEvent resource .view OrderedSet.empty (some error)))
  | (.ok grants, next) =>
      match evaluator.authority.registry.viewFilter (next.scopeContext resource .view) grants with
      | .error error =>
          (.error error, next.audit (next.decisionEvent resource .view grants (some error)))
      | .ok filter =>
          (.ok (base.narrow filter),
            (next.audit (next.decisionEvent resource .view grants none)).recordDecision .view)

/-- A view of the one record with a key. -/
def scopeHistory (evaluator : Evaluator) (resource : ResourceType) (key : RecordKey)
    (session : Session) : Except AccessError Query × Session :=
  evaluator.scopeView ((Query.ofResource resource).narrow (Filter.keyEquals key)) session

/-- Decides one write. -/
def scopeWrite (evaluator : Evaluator) (action : Action) (resource : ResourceType)
    (record : Record) (values : Fields) (session : Session) :
    Except AccessError Unit × Session :=
  match evaluator.resolveGrants resource action session with
  | (.error error, next) =>
      (.error error, next.audit (next.decisionEvent resource action OrderedSet.empty (some error)))
  | (.ok grants, next) =>
      let request : WriteRequest := ⟨next.scopeContext resource action, record, values⟩
      let poll := evaluator.authority.writePoll request grants
      let judged := next.auditAll (poll.fallbacks.map AuditEvent.fallback)
      match Authority.tally request poll with
      | .error error =>
          (.error error, judged.audit (judged.decisionEvent resource action grants (some error)))
      | .ok _ =>
          (.ok (),
            (judged.audit (judged.decisionEvent resource action grants none)).recordDecision
              action)

def scopeAdd (evaluator : Evaluator) := evaluator.scopeWrite .add

def scopeChange (evaluator : Evaluator) := evaluator.scopeWrite .change

def scopeDelete (evaluator : Evaluator) := evaluator.scopeWrite .delete

/-- Changes each record in turn, up to the first failure. -/
def changeEach (evaluator : Evaluator) (resource : ResourceType) (values : Fields) :
    List Record → Session → Except AccessError Unit × Session
  | [], session => (.ok (), session)
  | record :: rest, session =>
      match evaluator.scopeChange resource record values session with
      | (.error error, next) => (.error error, next)
      | (.ok _, next) => changeEach evaluator resource values rest next

/-- Changes a list of records; an empty list counts as a checked change. -/
def scopeChangeList (evaluator : Evaluator) (resource : ResourceType) (records : List Record)
    (values : Fields) (session : Session) : Except AccessError Unit × Session :=
  if records.isEmpty then
    (.ok (), (session.updateContext RequestContext.markChecked).recordDecision .change)
  else evaluator.changeEach resource values records session

/-- Stores a record, which is an addition if it is new. -/
def scopeStore (evaluator : Evaluator) (isNew : Bool) :=
  evaluator.scopeWrite (if isNew then .add else .change)

/-- Changes the file in a field; the requests that replace or remove it count as
deletions too. -/
def scopeFileField (evaluator : Evaluator) (resource : ResourceType) (record : Record)
    (field : String) (session : Session) : Except AccessError Unit × Session :=
  let replaces := session.context.method = .post ∨ session.context.method = .delete
  let marked := if replaces then session.recordDecision .delete else session
  evaluator.scopeChange resource record (OrderedMap.ofList [(field, Json.null)]) marked

end RowAccess.Evaluator
