import RowAccess.Json.Value
import RowAccess.Ordered.Map
import RowAccess.Store.Error

/-!
Contract: a transaction manager that holds its data in memory.

Writes are staged; a commit moves what is staged into the committed map, a
rollback drops it, and opening a transaction drops what was staged before. A
call may fail without reaching the manager, and every call is remembered.

Owns:
- the manager's state and its calls.
-/

namespace RowAccess

inductive TransactionCall where
  | start
  | commit
  | rollback
deriving DecidableEq, Repr

structure Transactions where
  committed : OrderedMap String Json
  pending : OrderedMap String Json
  commits : Nat
  rollbacks : Nat
  calls : List TransactionCall

/-- Which call fails, given the calls made before it. -/
abbrev TransactionFaults := List TransactionCall → TransactionCall → Option StoreError

namespace Transactions

def initial : Transactions := ⟨OrderedMap.empty, OrderedMap.empty, 0, 0, []⟩

instance : Inhabited Transactions := ⟨initial⟩

/-- Stages a write, inside or outside a transaction. -/
def write (transactions : Transactions) (key : String) (value : Json) : Transactions :=
  { transactions with pending := transactions.pending.insert key value }

/-- The effect of a call that reaches the manager. -/
def perform (transactions : Transactions) : TransactionCall → Transactions
  | .start => { transactions with pending := OrderedMap.empty }
  | .commit =>
      { transactions with
        committed := transactions.committed.insertAll transactions.pending.entries
        pending := OrderedMap.empty
        commits := transactions.commits + 1 }
  | .rollback =>
      { transactions with
        pending := OrderedMap.empty
        rollbacks := transactions.rollbacks + 1 }

/-- Makes a call, which fails without effect or is performed. -/
def call (faults : TransactionFaults) (kind : TransactionCall) (transactions : Transactions) :
    Except StoreError Unit × Transactions :=
  let remembered := { transactions with calls := transactions.calls ++ [kind] }
  match faults transactions.calls kind with
  | some error => (.error error, remembered)
  | none => (.ok (), remembered.perform kind)

end Transactions

end RowAccess
