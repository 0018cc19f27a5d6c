import RowAccess.Location.Path

/-!
Contract: which directories and files there are, and what the files hold.

Owns:
- the tree, the creation of directories and of files in it.
-/

namespace RowAccess

/-- Directories, and files with their content, by their components. -/
structure DirectoryTree (content : Type) where
  directories : List (List String)
  files : List (List String × content)
deriving DecidableEq, Repr

namespace DirectoryTree

variable {content : Type}

/-- The tree that consists of one directory and those above it. -/
def around (path : String) : DirectoryTree content :=
  ⟨Location.lineage (Location.components path), []⟩

/-- The directory that relative paths start from has no components, or a point
as its only one. -/
def isDirectory (tree : DirectoryTree content) (location : List String) : Bool :=
  location.isEmpty || location = ["."] || tree.directories.contains location

def fileAt? (tree : DirectoryTree content) (location : List String) : Option content :=
  (tree.files.find? (fun file => file.1 = location)).map Prod.snd

def isFile (tree : DirectoryTree content) (location : List String) : Bool :=
  (tree.fileAt? location).isSome

def removeFile (location : List String) (tree : DirectoryTree content) : DirectoryTree content :=
  { tree with files := tree.files.filter (fun file => file.1 ≠ location) }

/-- Replaces what a file holds, or creates the file. -/
def putFile (location : List String) (value : content) (tree : DirectoryTree content) :
    DirectoryTree content :=
  let cleared := tree.removeFile location
  { cleared with files := (location, value) :: cleared.files }

/-- Creates the directories of a list in turn, up to one that is a file. -/
def createEach (tree : DirectoryTree content) :
    List (List String) → Bool × DirectoryTree content
  | [] => (true, tree)
  | location :: rest =>
      if tree.isFile location then (false, tree)
      else if tree.isDirectory location then tree.createEach rest
      else { tree with directories := location :: tree.directories }.createEach rest

/-- Creates a directory and those on the way to it where they are missing. -/
def createDirectories (tree : DirectoryTree content) (components : List String) :
    Bool × DirectoryTree content :=
  tree.createEach ((Location.lineage components).map Location.resolve)

/-- The location that components lead to, where all on the way to it are
directories. -/
def locate? (tree : DirectoryTree content) (components : List String) : Option (List String) :=
  if (Location.lineage (Location.parent components)).all (fun way =>
      tree.isDirectory (Location.resolve way)) then
    some (Location.resolve components)
  else none

/-- Whether components lead to a directory. -/
def leadsToDirectory (tree : DirectoryTree content) (components : List String) : Bool :=
  (tree.locate? components).any tree.isDirectory

/-- Opens a file for writing, which its directory has to exist for. A new file
holds what is given. -/
def openFile (initial : content) (location : List String) (tree : DirectoryTree content) :
    Option (DirectoryTree content) :=
  if tree.isDirectory location then none
  else if tree.isFile location then some tree
  else if tree.isDirectory (Location.parent location) then some (tree.putFile location initial)
  else none

@[simp] theorem fileAt?_putFile_self (tree : DirectoryTree content) (location : List String)
    (value : content) : (tree.putFile location value).fileAt? location = some value := by
  simp [putFile, fileAt?]

end DirectoryTree

end RowAccess
