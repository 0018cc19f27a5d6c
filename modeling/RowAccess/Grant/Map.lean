import RowAccess.Decision.Error
import RowAccess.Ordered.Map

/-!
Contract: what permission strings grant.

A permission string grants permission keys, each with or without a scope. Only
keys of the four enforceable actions may carry a scope.

Owns:
- the map from permission strings to grants, and its validation.
-/

namespace RowAccess

structure PermissionGrant where
  permission : PermissionKey
  scope : Option ScopeName
deriving DecidableEq, Repr

namespace PermissionGrant

/-- Whether a grant's key names one of the four enforceable actions. -/
def isCrud (grant : PermissionGrant) : Bool :=
  match grant.permission.parts? with
  | some parts => (PermissionAction.parse parts.action).crud?.isSome
  | none => false

/-- The defect of a grant: a scope on a key that may not carry one. -/
def defect? (grant : PermissionGrant) : Option AccessError :=
  if grant.scope.isSome && !grant.isCrud then some (.scopedCustomAction grant.permission)
  else none

end PermissionGrant

structure PermissionMap where
  entries : OrderedMap String (List PermissionGrant)
deriving DecidableEq, Repr

namespace PermissionMap

def empty : PermissionMap := ⟨OrderedMap.empty⟩

instance : Inhabited PermissionMap := ⟨empty⟩

/-- The grants of a permission string, in the order of their insertion. -/
def grantsFor (map : PermissionMap) (name : String) : List PermissionGrant :=
  (map.entries.find? name).getD []

def insert (map : PermissionMap) (name : String) (grant : PermissionGrant) : PermissionMap :=
  ⟨map.entries.insert name (map.grantsFor name ++ [grant])⟩

def ofList (grants : List (String × PermissionGrant)) : PermissionMap :=
  grants.foldl (fun map grant => map.insert grant.1 grant.2) empty

/-- Every grant, by permission string and then in order of insertion. -/
def allGrants (map : PermissionMap) : List PermissionGrant := map.entries.values.flatten

/-- The first defect by permission string and order of insertion. -/
def validate (map : PermissionMap) : Except AccessError Unit :=
  match map.allGrants.findSome? PermissionGrant.defect? with
  | some error => .error error
  | none => .ok ()

end PermissionMap

end RowAccess
