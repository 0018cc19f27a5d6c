import RowAccess.Grant.Map
import RowAccess.Identity.Principal

/-!
Contract: the permissions a principal holds.

The permission strings of a principal, and one that every principal has,
select grants from a permission map. A key is held as soon as one grant names
it, with the scopes of all its grants.

Owns:
- the selection of grants and their collection by key.
-/

namespace RowAccess

/-- Supplies the permission strings of a principal. -/
abbrev GrantSource := Principal → Except StoreError (OrderedSet String)

/-- The source that reads the principal's own permission strings. -/
def GrantSource.ofPrincipal : GrantSource := fun principal => .ok principal.permissions

/-- Scopes by permission key. -/
abbrev HeldPermissions := OrderedMap PermissionKey (OrderedSet ScopeName)

namespace HeldPermissions

/-- The permission string that every principal has. -/
def defaultString : String := "default"

def scopesOf (held : HeldPermissions) (key : PermissionKey) : OrderedSet ScopeName :=
  (held.find? key).getD OrderedSet.empty

/-- Adds one grant; a grant without scope makes the key held all the same. -/
def hold (held : HeldPermissions) (grant : PermissionGrant) : HeldPermissions :=
  held.insert grant.permission
    (match grant.scope with
      | some scope => (held.scopesOf grant.permission).insert scope
      | none => held.scopesOf grant.permission)

/-- The grants that permission strings select, by string and in order of
insertion. -/
def selected (map : PermissionMap) (strings : OrderedSet String) : List PermissionGrant :=
  (strings.insert defaultString).toList.flatMap map.grantsFor

/-- Collects the selected grants, unless one of them is defective. -/
def collect (map : PermissionMap) (strings : OrderedSet String) :
    Except AccessError HeldPermissions :=
  let grants := selected map strings
  match grants.findSome? PermissionGrant.defect? with
  | some error => .error error
  | none => .ok (grants.foldl hold OrderedMap.empty)

/-- The permissions of a principal under a grant source. -/
def load (map : PermissionMap) (source : GrantSource) (principal : Principal) :
    Except AccessError HeldPermissions :=
  match source principal with
  | .error error => .error (.store error)
  | .ok strings => collect map strings

end HeldPermissions

end RowAccess
