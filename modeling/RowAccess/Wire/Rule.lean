import RowAccess.Scope.Relation
import RowAccess.Text.Quoted
import RowAccess.Wire.Access
import RowAccess.Wire.Filter

/-!
Contract: scope rules described by data.

A description of a rule function is a tree of conditions on the request whose
leaves fail, decide or give a filter. Filters in it may refer to the request by
an object with the single field `$ctx`.

Owns:
- the functions that descriptions stand for.
- the forms of rules, registrations and resolved rules.
-/

namespace RowAccess.Wire

/-- A value of the request by its name. -/
def contextValue (context : ScopeContext) : String → Json
  | "principal" => .string context.principal.id.text
  | "superuser" => .bool context.principal.superuser
  | "resource" => .string context.resource.label
  | "action" => .string context.action.label
  | "method" => .string context.method.name
  | "request_id" => Json.ofOption .string context.requestId
  | _ => .null

mutual

/-- Puts values of the request in place of the references to them. -/
def substitute (context : ScopeContext) : Json → Json
  | .object [("$ctx", .string name)] => contextValue context name
  | .object fields => .object (substituteFields context fields)
  | .array items => .array (substituteItems context items)
  | other => other

def substituteItems (context : ScopeContext) : List Json → List Json
  | [] => []
  | item :: rest => substitute context item :: substituteItems context rest

def substituteFields (context : ScopeContext) : List (String × Json) → List (String × Json)
  | [] => []
  | (name, value) :: rest => (name, substitute context value) :: substituteFields context rest

end

/-- The description of a rule function. -/
inductive Description where
  | branch (name : String) (value : Json) (yes no : Description)
  | fail (message : String)
  | failStore (error : StoreError)
  | body (form : Json)
deriving Inhabited

namespace Description

/-- The leaf that the request leads to. -/
def select (context : ScopeContext) : Description → Except ScopeFailure Json
  | .branch name value yes no =>
      if (contextValue context name).same value then yes.select context else no.select context
  | .fail message => .error ⟨message⟩
  | .failStore error => .error (ScopeFailure.ofStore error)
  | .body form => .ok form

end Description

/-- A description without conditions. -/
def leaf (json : Json) : Decoded Description := do
  match field? "fail" json with
  | some message => return .fail (← text message)
  | none =>
      match field? "store_fail" json with
      | some error => return .failStore (← storeError error)
      | none => return .body json

/-- Reads a description, whose fields stand in the order of their names. -/
def description : Json → Decoded Description
  | .object [("else", no), ("if", .array [.string name, value]), ("then", yes)] => do
      let yes ← description yes
      let no ← description no
      return .branch name value yes no
  | json => leaf json

/-- A form that could not be read fails the rule function that needs it. -/
def orFailure {α : Type} : Decoded α → Except ScopeFailure α
  | .ok value => .ok value
  | .error error => .error ⟨error.message⟩

def filterFor (context : ScopeContext) (form : Json) : Except ScopeFailure Filter :=
  orFailure (filter (substitute context form))

/-- A dynamic scope: a filter, or nothing for any other leaf. -/
def dynamicScope (described : Description) : DynamicScope := fun context => do
  let body ← described.select context
  match field? "filter" body with
  | some form => return some (← filterFor context form)
  | none => return none

def viewFunction (described : Description) : ViewFunction := fun context => do
  let body ← described.select context
  match field? "filter" body with
  | some form => return .filter (← filterFor context form)
  | none =>
      match field? "subset" body with
      | some form => return .subset (← orFailure (subset (substitute context form)))
      | none => return .noMatch

/-- A filter's verdict on a record, where queries find an empty collection. -/
def holdsOn (context : ScopeContext) (form : Json) (record : Record) :
    Except ScopeFailure Bool := do
  let test ← filterFor context form
  match test.admits (Collection.empty context.resource).resolve record with
  | .ok holds => return holds
  | .error error => .error (ScopeFailure.ofStore error)

def recordFunction (described : Description) : RecordFunction := fun context record values => do
  let body ← described.select context
  match field? "record" body with
  | some form => holdsOn context form record
  | none =>
      match field? "values" body with
      | some form => holdsOn context form ⟨record.key, values⟩
      | none => return flagField "const" body

/-- A subset test that may resolve the subset in the collection at hand. -/
def subsetFunction (collection : Option Collection) (described : Description) :
    SubsetFunction := fun context members _ => do
  let body ← described.select context
  match field? "resolves_to" body with
  | some keys =>
      let expected ← orFailure (recordKeys keys)
      match collection with
      | none => return expected.isEmpty
      | some records =>
          match records.resolve members with
          | .ok found => return found.toList == (OrderedSet.ofList expected).toList
          | .error error => .error (ScopeFailure.ofStore error)
  | none =>
      match field? "subset_is" body with
      | some form => return (encodeSubset members).same form
      | none => return flagField "const" body

def deleteHandler (collection : Option Collection) (json : Json) : Decoded DeleteHandler := do
  let object ← optionalField "object" description json
  let subset ← optionalField "subset" description json
  match object, subset with
  | some object, some subset =>
      return .either (recordFunction object) (subsetFunction collection subset)
  | some object, none => return .object (recordFunction object)
  | none, some subset => return .subset (subsetFunction collection subset)
  | none, none => .error (.malformed "delete")

def handlers (collection : Option Collection) (json : Json) : Decoded ScopeHandlers := do
  let view ← optionalField "view" description json
  let add ← optionalField "add" description json
  let change ← optionalField "change" description json
  let delete ← optionalField "delete" (deleteHandler collection) json
  return ⟨view.map viewFunction, add.map recordFunction, change.map recordFunction, delete⟩

def rule (collection : Option Collection) : Json → Decoded ScopeRule
  | .string "all" => .ok ScopeRule.all
  | .object [("static", form)] => (filter form).map .fixed
  | .object [("dynamic", form)] =>
      (description form).map (fun found => .dynamic (dynamicScope found))
  | .object [("composite", names)] =>
      (texts names).map (fun found => .composite (found.map Label.mk))
  | .object [("handlers", form)] => (handlers collection form).map .handlers
  | _ => .error (.malformed "rule")

def namedRule (collection : Option Collection) (json : Json) :
    Decoded (ScopeName × ScopeRule) := do
  let (name, form) ← pair json
  return (⟨← text name⟩, ← rule collection form)

def relatedRecord (json : Json) : Decoded RelatedRecord := do
  return {
    resource := ← resource (← field "resource" json)
    field := ← textField "field" json
    key := ← textField "fk" json
    record := ← record (← field "record" json) }

/-- The look-up of related records that a world describes. -/
def relatedLookup (world : Json) : Decoded RelatedLookup := do
  match field? "related_fail" world with
  | some form =>
      let error ← storeError form
      return fun _ _ _ => .error error
  | none => return RelatedRecord.lookup (← (listField "related" world).mapM relatedRecord)

/-- The provider of a registration: a table of rules, or relation scopes. -/
def provider (collection : Option Collection) (related : RelatedLookup) (json : Json) :
    Decoded (Option ScopeProvider) := do
  match field? "provider" json with
  | some _ =>
      let rules ← (objectField "provider" json).mapM (fun entry => do
        return (entry.1, ← rule collection entry.2))
      return some (fun _ scope =>
        (rules.find? (fun entry => entry.1 = scope.text)).map Prod.snd)
  | none =>
      match field? "relations" json with
      | some _ =>
          let paths ← (objectField "relations" json).mapM (fun entry => do
            return ((⟨entry.1⟩ : ScopeName), ← path entry.2))
          return some (RelationScopes.provider ⟨OrderedMap.ofList paths, related⟩)
      | none => return none

def registration (collection : Option Collection) (related : RelatedLookup) (json : Json) :
    Decoded Registration := do
  return {
    resource := ← resource (← field "resource" json)
    rules := ← (listField "scopes" json).mapM (namedRule collection)
    permissionsVia := ← optionalField "perms_via" resource json
    provider := ← provider collection related json }

/-- Reads, builds and registers the resources of a world in turn. -/
def registerEach (collection : Option Collection) (related : RelatedLookup) :
    Registry → List Json → Decoded Registry
  | registry, [] => .ok registry
  | registry, item :: rest => do
      let described ← registration collection related item
      match described.build.bind registry.register with
      | .ok next => registerEach collection related next rest
      | .error error => .error (.registry error)

def registry (collection : Option Collection) (world : Json) : Decoded Registry := do
  let related ← relatedLookup world
  registerEach collection related Registry.empty (listField "resources" world)

def quotedNames (names : List ScopeName) : String :=
  ", ".intercalate (names.map (fun name => "ScopeName(" ++ Text.Quoted.quote name.text ++ ")"))

/-- The descriptive text of a rule that is not a fixed filter. -/
def ruleText : ScopeRule → String
  | .fixed _ => ""
  | .dynamic _ => "Dynamic(..)"
  | .composite members => "Composite([" ++ quotedNames members ++ "])"
  | .handlers handlers =>
      "Handlers(ScopeHandlers \x7b view: " ++ toString handlers.view.isSome ++
        ", add: " ++ toString handlers.add.isSome ++
        ", change: " ++ toString handlers.change.isSome ++
        ", delete: " ++
        (match handlers.delete with
          | some handler => "Some(DeleteHandler(\"" ++ handler.shape ++ "\"))"
          | none => "None") ++ " \x7d)"

def encodeRule (rule : ScopeRule) : Json :=
  match rule with
  | .fixed filter => Json.ofFields [("static", encodeFilter filter)]
  | .dynamic _ => Json.ofFields [("dynamic", .bool true), ("debug", .string (ruleText rule))]
  | .composite members =>
      Json.ofFields
        [("composite", Json.strings (members.map Label.text)), ("debug", .string (ruleText rule))]
  | .handlers handlers =>
      Json.ofFields
        [("handlers", Json.ofFields
           [("view", .bool handlers.view.isSome),
            ("add", .bool handlers.add.isSome),
            ("change", .bool handlers.change.isSome),
            ("delete", Json.ofOption
              (fun handler => .string (handler.shape.map Char.toLower)) handlers.delete)]),
         ("debug", .string (ruleText rule))]

end RowAccess.Wire
