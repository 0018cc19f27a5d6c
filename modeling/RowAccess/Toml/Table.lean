import RowAccess.Toml.Value

/-!
Contract: tables while a document is being read.

A table is opened by a header, implied by the header of a table inside it, or
begun by a dotted key; a list of tables grows by one with each of its headers.
A value, an array or an inline table cannot be added to any more. A header
opens a table at most once, and a dotted key goes on only with tables that
dotted keys began.

Owns:
- the open tables and the additions to them.
- their values once the document has been read.
-/

namespace RowAccess.Toml

/-- What brought a table into being. -/
inductive Origin where
  | header
  | implied
  | dotted
deriving DecidableEq, Repr

/-- What a key is bound to. Bindings and listed tables are held latest first. -/
inductive Binding where
  | value (value : Value)
  | table (origin : Origin) (bindings : List (String × Binding))
  | tables (listed : List (List (String × Binding)))
deriving Inhabited

abbrev Bindings := List (String × Binding)

namespace Bindings

def bound? (key : String) (bindings : Bindings) : Option Binding :=
  (bindings.find? (fun entry => entry.1 = key)).map Prod.snd

/-- Binds a key that is bound already to something else. -/
def replace (key : String) (binding : Binding) (bindings : Bindings) : Bindings :=
  bindings.map (fun entry => if entry.1 = key then (key, binding) else entry)

def add (key : String) (binding : Binding) (bindings : Bindings) : Bindings :=
  (key, binding) :: bindings

/-- Changes the table that a header's path leads to; tables on the way that are
missing are implied. -/
def within (change : Bindings → Option Bindings) :
    List String → Bindings → Option Bindings
  | [], bindings => change bindings
  | key :: path, bindings =>
      match bindings.bound? key with
      | none => (within change path []).map (fun inner => bindings.add key (.table .implied inner))
      | some (.table origin inner) =>
          (within change path inner).map (fun next => bindings.replace key (.table origin next))
      | some (.tables (latest :: older)) =>
          (within change path latest).map (fun next =>
            bindings.replace key (.tables (next :: older)))
      | some (.tables []) => none
      | some (.value _) => none

/-- Opens a table, which may have been implied before. -/
def openTable (key : String) (bindings : Bindings) : Option Bindings :=
  match bindings.bound? key with
  | none => some (bindings.add key (.table .header []))
  | some (.table .implied inner) => some (bindings.replace key (.table .header inner))
  | some _ => none

/-- Adds a table to a list of tables. -/
def openListed (key : String) (bindings : Bindings) : Option Bindings :=
  match bindings.bound? key with
  | none => some (bindings.add key (.tables [[]]))
  | some (.tables listed) => some (bindings.replace key (.tables ([] :: listed)))
  | some _ => none

/-- Binds a dotted key to a value. -/
def assign (value : Value) : List String → Bindings → Option Bindings
  | [], _ => none
  | [key], bindings =>
      match bindings.bound? key with
      | none => some (bindings.add key (.value value))
      | some _ => none
  | key :: next :: path, bindings =>
      match bindings.bound? key with
      | none =>
          (assign value (next :: path) []).map (fun inner =>
            bindings.add key (.table .dotted inner))
      | some (.table .dotted inner) =>
          (assign value (next :: path) inner).map (fun changed =>
            bindings.replace key (.table .dotted changed))
      | some (.table .implied inner) =>
          if path.isEmpty then none
          else
            (assign value (next :: path) inner).map (fun changed =>
              bindings.replace key (.table .implied changed))
      | some (.tables (latest :: older)) =>
          if path.isEmpty then none
          else
            (assign value (next :: path) latest).map (fun changed =>
              bindings.replace key (.tables (changed :: older)))
      | some _ => none

end Bindings

mutual

def Binding.close : Binding → Value
  | .value value => value
  | .table _ bindings => .table (closeEntries bindings).reverse
  | .tables listed => .array (closeTables listed).reverse

def closeEntries : List (String × Binding) → List (String × Value)
  | [] => []
  | entry :: rest => (entry.1, entry.2.close) :: closeEntries rest

def closeTables : List (List (String × Binding)) → List Value
  | [] => []
  | bindings :: rest => .table (closeEntries bindings).reverse :: closeTables rest

end

/-- The value of a table that nothing is added to any more. -/
def Bindings.close (bindings : Bindings) : Value := .table (closeEntries bindings).reverse

end RowAccess.Toml
