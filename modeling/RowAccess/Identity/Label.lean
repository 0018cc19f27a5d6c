/-!
Contract: opaque identifiers.

An identifier is a text with the kind of thing it names, so a scope name and a
record key never mix although both are texts. Identifiers are ordered by their
text.

Owns:
- the kinds of identifiers, their order and its laws.
- the names of the builtin scope and of the anonymous principal.
-/

namespace RowAccess

/-- What an identifier names. -/
inductive LabelKind where
  | principal
  | scope
  | token
  | record
  | permission
deriving DecidableEq, Repr

/-- An identifier of one kind. -/
structure Label (kind : LabelKind) where
  text : String
deriving DecidableEq, Repr, Inhabited

namespace Label

variable {kind : LabelKind}

instance : Ord (Label kind) := ⟨compareOn text⟩

instance : Std.TransOrd (Label kind) :=
  inferInstanceAs (Std.TransCmp (compareOn (@text kind)))

instance : Std.LawfulEqOrd (Label kind) where
  eq_of_compare := by
    intro left right equal
    cases left
    cases right
    exact congrArg Label.mk (Std.LawfulEqOrd.eq_of_compare (α := String) equal)

instance : ToString (Label kind) := ⟨text⟩

end Label

abbrev PrincipalId := Label .principal
abbrev ScopeName := Label .scope
abbrev TokenValue := Label .token
abbrev RecordKey := Label .record
abbrev PermissionKey := Label .permission

/-- The scope that every resource type defines. -/
def ScopeName.all : ScopeName := ⟨"all"⟩

/-- The principal of a request without credentials. -/
def PrincipalId.anonymous : PrincipalId := ⟨"anonymous"⟩

/-- The form of a token that is safe to show. -/
def TokenValue.redacted (_token : TokenValue) : String := "TokenValue(<redacted>)"

end RowAccess
