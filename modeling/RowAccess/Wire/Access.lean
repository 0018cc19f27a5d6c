import RowAccess.Grant.Held
import RowAccess.Http.Failure
import RowAccess.Time.Instant
import RowAccess.Wire.Decode

/-!
Contract: the JSON forms of principals, grants, instants and errors.

Owns:
- readers and writers of those forms.
-/

namespace RowAccess.Wire

def action (json : Json) : Decoded Action := do
  expect "action" (Action.parse? (← text json))

def method (json : Json) : Decoded RequestMethod := do
  expect "method" (RequestMethod.parse? (← text json))

def principal (json : Json) : Decoded Principal := do
  let id ← textField "id" json
  let permissions ← (listField "permissions" json).mapM text
  return ⟨⟨id⟩, OrderedSet.ofList permissions, flagField "superuser" json⟩

/-- A principal in the stricter form of stored data: a field that is present
has to be of its type, and fields may also stand as a list in their order. -/
def strictPrincipal? (json : Json) : Option Principal := do
  let (id, permissions, superuser) ←
    match json with
    | .object _ =>
        (json.field? "id").map (fun id => (id, json.field? "permissions", json.field? "superuser"))
    | .array (id :: rest) =>
        if rest.length ≤ 2 then some (id, rest[0]?, rest[1]?) else none
    | _ => none
  let id ← id.string?
  let permissions ←
    match permissions with
    | some value => value.array?.bind (fun items => items.mapM Json.string?)
    | none => some []
  let superuser ←
    match superuser with
    | some value => value.bool?
    | none => some false
  return ⟨⟨id⟩, OrderedSet.ofList permissions, superuser⟩

def encodePrincipal (principal : Principal) : Json :=
  Json.ofFields
    [("id", .string principal.id.text),
     ("permissions", Json.strings principal.permissions.toList),
     ("superuser", .bool principal.superuser)]

/-- Seconds in UTC, or nanoseconds as a text with an optional offset. -/
def instant : Json → Decoded Instant
  | .number (.integer seconds) => .ok (Instant.ofSeconds seconds)
  | json => do
      let nanos ← expect "nanos" (← textField "nanos" json).toInt?
      let offset ← optionalField "offset" integer json
      return ⟨nanos, offset.getD 0⟩

def encodeInstant (instant : Instant) : Json :=
  Json.ofFields
    [("nanos", .string (toString instant.nanos)), ("offset", Json.integer instant.offset)]

def storeError (json : Json) : Decoded StoreError := do
  let (kind, detail) ← pair json
  return ⟨← expect "kind" (StoreErrorKind.ofName? (← text kind)), ← text detail⟩

def encodeStoreError (error : StoreError) : Json :=
  Json.ofFields [("error", .string error.kind.name), ("message", .string error.message)]

/-- A success, or a store error in its form. -/
def encodeStored {α : Type} (encode : α → Json) : Except StoreError α → Json
  | .ok value => encode value
  | .error error => encodeStoreError error

def errorKindName : ErrorKind → String
  | .denied => "Denied"
  | .configuration => "Configuration"
  | .defect => "Defect"

def encodeAccessError (error : AccessError) : Json :=
  Json.ofFields
    [("error", .string error.code),
     ("kind", .string (errorKindName error.kind)),
     ("message", .string error.message),
     ("http", Json.ofFields
       [("status", Json.integer error.httpStatus), ("body", error.httpBody)])]

/-- A permission string, a key and a scope or null. -/
def grant (json : Json) : Decoded (String × PermissionGrant) := do
  let (name, key, scope) ← triple json
  return (← text name, ⟨⟨← text key⟩, scope.string?.map Label.mk⟩)

def permissionMap (items : List Json) : Decoded PermissionMap := do
  return PermissionMap.ofList (← items.mapM grant)

def encodeGrants (grants : List PermissionGrant) : Json :=
  .array (grants.map (fun grant =>
    .array
      [.string grant.permission.text,
       Json.ofOption .string (grant.scope.map Label.text)]))

def encodePermissionMap (map : PermissionMap) : Json :=
  .array (map.entries.entries.map (fun entry =>
    .array [.string entry.1, encodeGrants entry.2]))

/-- Success as a word, or the error. -/
def encodeCheck : Except AccessError Unit → Json
  | .ok _ => .string "ok"
  | .error error => encodeAccessError error

end RowAccess.Wire
