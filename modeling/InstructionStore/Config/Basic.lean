/-!
# Where the stores live

A `Config` names the directory of the stores and in it a file for the records
and one for the history. It also says for how long an operation waits for a
database that is in use.
-/

namespace InstructionStore

/-- **Where the stores live.** -/
structure Config where
  /-- The directory of both. -/
  storageDirectory : String
  /-- The file of the records, in the directory. -/
  recordsFile : String := "instructions.db"
  /-- The file of the history, in the directory. -/
  historyFile : String := "history.db"
  /-- How long to wait for a database, in milliseconds. -/
  busyTimeout : Nat := 5000
deriving DecidableEq

namespace Config

/-- The path of a file in a directory. A slash separates them, unless the
directory is not named or ends in one already; a file whose path begins at the
root is not in the directory. -/
def join (directory file : String) : String :=
  if file.startsWith "/" then file
  else if directory = "" || directory.endsWith "/" then directory ++ file
  else directory ++ "/" ++ file

/-- The path of the records. -/
def recordsPath (c : Config) : String := join c.storageDirectory c.recordsFile

/-- The path of the history. -/
def historyPath (c : Config) : String := join c.storageDirectory c.historyFile

end Config

end InstructionStore
