import RowAccess.Request.Action

/-!
Contract: request methods and the action each of them implies.

Method names are read without regard to ASCII case.
-/

namespace RowAccess

inductive RequestMethod where
  | get
  | head
  | options
  | post
  | put
  | patch
  | delete
deriving DecidableEq, Repr

namespace RequestMethod

def all : List RequestMethod := [.get, .head, .options, .post, .put, .patch, .delete]

def name : RequestMethod → String
  | .get => "GET"
  | .head => "HEAD"
  | .options => "OPTIONS"
  | .post => "POST"
  | .put => "PUT"
  | .patch => "PATCH"
  | .delete => "DELETE"

/-- Reads a canonical name, which is upper case. -/
def ofName? (text : String) : Option RequestMethod :=
  all.find? (fun method => method.name = text)

/-- Reads a name in any ASCII case. -/
def parse? (text : String) : Option RequestMethod := ofName? (text.map Char.toUpper)

def isRead : RequestMethod → Bool
  | .get | .head | .options => true
  | _ => false

def impliedAction : RequestMethod → Action
  | .get | .head | .options => .view
  | .post => .add
  | .put | .patch => .change
  | .delete => .delete

instance : ToString RequestMethod := ⟨name⟩

theorem ofName?_name (method : RequestMethod) : ofName? method.name = some method := by
  cases method <;> decide

end RequestMethod

end RowAccess
