/-!
Contract: the settings of a credential database.

Owns:
- the journal and synchronisation modes and their names.
- the settings, the wait for a busy database and the path of one in memory.
-/

namespace RowAccess

/-- How a database file is kept consistent: by a write-ahead log, or by a
journal that is deleted after each transaction. -/
inductive JournalMode where
  | wal
  | delete
deriving DecidableEq, Repr, Inhabited

def JournalMode.name : JournalMode → String
  | .wal => "wal"
  | .delete => "delete"

def JournalMode.all : List JournalMode := [.wal, .delete]

/-- How often a database waits for its medium. -/
inductive SyncMode where
  | full
  | normal
deriving DecidableEq, Repr, Inhabited

def SyncMode.name : SyncMode → String
  | .full => "full"
  | .normal => "normal"

def SyncMode.all : List SyncMode := [.full, .normal]

structure DatabaseSettings where
  path : String
  busyTimeoutMs : Nat
  journalMode : JournalMode
  syncMode : SyncMode
deriving DecidableEq, Repr

namespace DatabaseSettings

/-- A database at this path is kept in memory and ends with its connection. -/
def memoryPath : String := ":memory:"

def isInMemory (settings : DatabaseSettings) : Bool := settings.path = memoryPath

def standardBusyTimeoutMs : Nat := 5000

/-- The settings of a path in the standard modes. -/
def ofPath (path : String) : DatabaseSettings := ⟨path, standardBusyTimeoutMs, .wal, .full⟩

end DatabaseSettings

end RowAccess
