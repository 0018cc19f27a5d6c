import RowAccess.Identity.Label
import RowAccess.Ordered.Set

/-!
Contract: the actor a request is evaluated for.

A principal holds coarse permission strings; a superuser holds the builtin
scope on every resource instead.
-/

namespace RowAccess

structure Principal where
  id : PrincipalId
  permissions : OrderedSet String
  superuser : Bool
deriving DecidableEq, Repr

namespace Principal

def anonymous : Principal := ⟨PrincipalId.anonymous, OrderedSet.empty, false⟩

instance : Inhabited Principal := ⟨anonymous⟩

def holds (principal : Principal) (permission : String) : Bool :=
  principal.permissions.contains permission

end Principal

end RowAccess
