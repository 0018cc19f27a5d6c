import RowAccess.Toml.Scalar
import RowAccess.Toml.Table
import RowAccess.Toml.Token

/-!
Contract: TOML text as a table.

Tokens are grouped by their brackets; a closed bracket already knows its value.
A document is a sequence of lines, each of them empty, the header of a table or
a key with its value.

Owns:
- the grouping, the values of groups and the lines of a document.
-/

namespace RowAccess.Toml

/-- A token, or what stands between brackets with the value it has there. -/
inductive Node where
  | leaf (token : Token)
  | square (inner : List Node) (value : Option Value)
  | brace (value : Option Value)
deriving Inhabited

namespace Node

def isToken (test : Token → Bool) : Node → Bool
  | .leaf token => test token
  | _ => false

def isBlankToken : Token → Bool
  | .blank _ => true
  | _ => false

def isBlank : Node → Bool := isToken isBlankToken

def isLineEnd : Node → Bool := isToken (fun token => token = .lineEnd)

def isBlankOrLineEnd (node : Node) : Bool := node.isBlank || node.isLineEnd

def isComma : Node → Bool := isToken (fun token => token = .comma)

def isDot : Node → Bool := isToken (fun token => token = .dot)

def isEquals : Node → Bool := isToken (fun token => token = .equals)

end Node

/-- Puts a node in front of the first part. -/
def extendFirst (node : Node) : List (List Node) → List (List Node)
  | [] => [[node]]
  | part :: rest => (node :: part) :: rest

/-- The parts between separators; nodes without any are one part. -/
def splitNodes (separates : Node → Bool) (nodes : List Node) : List (List Node) :=
  nodes.foldr (fun node parts =>
    if separates node then [] :: parts else extendFirst node parts) [[]]

/-- Removes nodes at both ends that satisfy a test. -/
def trimNodes (test : Node → Bool) (nodes : List Node) : List Node :=
  ((nodes.dropWhile test).reverse.dropWhile test).reverse

def isBareKeyCharacter (character : Char) : Bool :=
  character.isAlphanum || character = '_' || character = '-'

/-- One part of a dotted key. -/
def keyPart? (nodes : List Node) : Option String :=
  match trimNodes Node.isBlank nodes with
  | [.leaf (.word characters)] =>
      if characters.all isBareKeyCharacter then some (String.ofList characters) else none
  | [.leaf (.string false text)] => some text
  | _ => none

/-- How many parts a dotted key may have. -/
def maxKeyParts : Nat := 80

def keyPath? (nodes : List Node) : Option (List String) :=
  let parts := splitNodes Node.isDot nodes
  if parts.length ≤ maxKeyParts then parts.mapM keyPart? else none

/-- The characters of a word that dots or blanks divide. -/
def plainCharacters? : Node → Option (List Char)
  | .leaf (.word characters) => some characters
  | .leaf (.blank characters) => some characters
  | .leaf .dot => some ['.']
  | _ => none

/-- The value of nodes without blanks around them. -/
def valueOf (nodes : List Node) : Option Value :=
  match nodes with
  | [.square _ value] => value
  | [.brace value] => value
  | [.leaf (.string _ text)] => some (.text text)
  | _ => (nodes.mapM plainCharacters?).bind (fun parts => scalar? parts.flatten)

/-- A dotted key and its value. Between braces line ends may stand on both sides
of the equals sign; a line of a document has none. -/
def assignment? (nodes : List Node) : Option (List String × Value) :=
  match nodes.dropWhile (fun node => !node.isEquals) with
  | [] => none
  | _ :: rest =>
      let key := nodes.takeWhile (fun node => !node.isEquals)
      (keyPath? (trimNodes Node.isBlankOrLineEnd key)).bind (fun path =>
        (valueOf (trimNodes Node.isBlankOrLineEnd rest)).map (fun value => (path, value)))

/-- The items between brackets; a comma may follow the last of them. -/
def itemsOf (inner : List Node) : List (List Node) :=
  let items := (splitNodes Node.isComma inner).map (trimNodes Node.isBlankOrLineEnd)
  if items.getLast?.any List.isEmpty then items.dropLast else items

def arrayOf (inner : List Node) : Option Value := ((itemsOf inner).mapM valueOf).map .array

def inlineTableOf (inner : List Node) : Option Value :=
  ((itemsOf inner).foldlM (fun (bindings : Bindings) (item : List Node) =>
    (assignment? item).bind (fun found => bindings.assign found.2 found.1)) []).map
      Bindings.close

/-- A bracket that is not closed, with what stands before it, latest first. -/
structure Frame where
  isBrace : Bool
  before : List Node

/-- How deep brackets may be nested. -/
def maxDepth : Nat := 80

/-- Groups tokens, given the open brackets and the nodes since the innermost
one, latest first. -/
def group (frames : List Frame) (latestFirst : List Node) : List Token → Option (List Node)
  | [] => if frames.isEmpty then some latestFirst.reverse else none
  | token :: rest =>
      let opened (isBrace : Bool) : Option (List Node) :=
        if frames.length < maxDepth then group (⟨isBrace, latestFirst⟩ :: frames) [] rest
        else none
      match token, frames with
      | .openSquare, _ => opened false
      | .openBrace, _ => opened true
      | .closeSquare, ⟨false, before⟩ :: outer =>
          let inner := latestFirst.reverse
          group outer (.square inner (arrayOf inner) :: before) rest
      | .closeBrace, ⟨true, before⟩ :: outer =>
          group outer (.brace (inlineTableOf latestFirst.reverse) :: before) rest
      | .closeSquare, _ | .closeBrace, _ => none
      | token, _ => group frames (.leaf token :: latestFirst) rest

/-- A table being read, and the path of the header above. -/
structure Document where
  bindings : Bindings
  header : List String
deriving Inhabited

namespace Document

/-- Opens the table at a header's path, as one of a list or alone. -/
def openAt (isListed : Bool) (path : List String) (document : Document) : Option Document :=
  match path.getLast? with
  | none => none
  | some key =>
      let change := if isListed then Bindings.openListed key else Bindings.openTable key
      (document.bindings.within change path.dropLast).map (fun bindings => ⟨bindings, path⟩)

/-- Takes a line without blanks around it. -/
def readLine (document : Document) (line : List Node) : Option Document :=
  match line with
  | [] => some document
  | [.square [.square inner _] _] => (keyPath? inner).bind (document.openAt true)
  | [.square inner _] => (keyPath? inner).bind (document.openAt false)
  | _ =>
      (assignment? line).bind (fun found =>
        (document.bindings.within (Bindings.assign found.2 found.1) document.header).map
          (fun bindings => { document with bindings := bindings }))

end Document

def parse? (text : String) : Option Value := do
  let tokens ← tokens? text
  let nodes ← group [] [] tokens
  let lines := (splitNodes Node.isLineEnd nodes).map (trimNodes Node.isBlank)
  let document ← lines.foldlM Document.readLine ⟨[], []⟩
  return document.bindings.close

end RowAccess.Toml
