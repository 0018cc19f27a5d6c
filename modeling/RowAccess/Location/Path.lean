import RowAccess.Text.Split

/-!
Contract: the text of a path in a tree of directories.

A stroke divides the components of a path. Empty components and single points
vanish, but a stroke or a point at the front is a component of its own. Two
points lead back to the directory above.

Owns:
- the components of a path, its parent and the location it leads to.
- the limits that a path has to keep.
-/

namespace RowAccess.Location

def separator : Char := '/'

/-- A component that names something. -/
def isNamed (component : List Char) : Bool := component ≠ [] && component ≠ ['.']

def components (path : String) : List String :=
  match Text.splitEvery separator path.toList with
  | [] => []
  | first :: rest =>
      let named := (rest.filter isNamed).map String.ofList
      if first.isEmpty then (if path.isEmpty then named else "/" :: named)
      else String.ofList first :: named

/-- The components without the last one. -/
def parent (location : List String) : List String := location.dropLast

/-- Where a component leads from a location. Nothing is above the root. -/
def follow (location : List String) (component : String) : List String :=
  if component = ".." then (if location = ["/"] then location else parent location)
  else location ++ [component]

/-- The location that components lead to. -/
def resolve (components : List String) : List String := components.foldl follow []

/-- The location that a path leads to. -/
def ofPath (path : String) : List String := resolve (components path)

/-- Whether a path's text ends in the name of a file: one that ends in a stroke
or in points can only be a directory. -/
def namesFile (path : String) : Bool :=
  (Text.splitEvery separator path.toList).getLast?.any (fun last =>
    isNamed last && last ≠ ['.', '.'])

/-- Whether a text has a character that no name of a file can have. -/
def hasNull (text : String) : Bool := text.contains '\x00'

/-- The locations on the way to one, from the outermost to itself. -/
def lineage (location : List String) : List (List String) :=
  (List.range (location.length + 1)).map (fun count => location.take count)

/-- A path continued by another one, which stands alone if it is absolute. -/
def join (directory path : String) : String :=
  if path.startsWith "/" then path else directory ++ "/" ++ path

inductive PathDefect where
  | tooLong
  | componentTooLong
deriving DecidableEq, Repr

def maxBytes : Nat := 4096

def maxComponentBytes : Nat := 255

/-- Whether a path is short enough to be looked up. The longest one that is not
too long by `defect?` is not. -/
def canLookUp (path : String) : Bool := path.utf8ByteSize < maxBytes && !hasNull path

/-- What is wrong with a path's size, if anything is. -/
def defect? (path : String) : Option PathDefect :=
  if maxBytes < path.utf8ByteSize then some .tooLong
  else if (components path).any (fun component => maxComponentBytes < component.utf8ByteSize) then
    some .componentTooLong
  else none

end RowAccess.Location
