/-!
Contract: failures of the collaborators that hold data.

Owns:
- the kinds of failure and their texts.
-/

namespace RowAccess

inductive StoreErrorKind where
  | io
  | store
  | corrupt
  | versionMismatch
  | invalid
deriving DecidableEq, Repr

namespace StoreErrorKind

def name : StoreErrorKind → String
  | .io => "Io"
  | .store => "Store"
  | .corrupt => "Corrupt"
  | .versionMismatch => "VersionMismatch"
  | .invalid => "Invalid"

def ofName? (text : String) : Option StoreErrorKind :=
  [StoreErrorKind.io, .store, .corrupt, .versionMismatch, .invalid].find?
    (fun kind => kind.name = text)

/-- What stands before the detail in an error's text. -/
def heading : StoreErrorKind → String
  | .io => "store io error: "
  | .store => "store error: "
  | .corrupt => "store corruption: "
  | .versionMismatch => "store version mismatch: "
  | .invalid => "store invalid data: "

end StoreErrorKind

structure StoreError where
  kind : StoreErrorKind
  detail : String
deriving DecidableEq, Repr

def StoreError.message (error : StoreError) : String := error.kind.heading ++ error.detail

end RowAccess
