import InstructionStore.Config.Basic
import InstructionStore.Database.Opening
import InstructionStore.Files

/-!
# Opening the stores

The stores are opened in surroundings: a tree of files, a directory in it that texts
start from, a clock, and a source of identifiers, all parts of some state `σ`. Opening
a store makes its directory, opens its file as a database of the right kind, and
yields a **handle**, which is the place of the file. Any number of handles may lead to
one file, and each sees what is done through the others.

A database is what is in its file. The database system keeps a file beside it
as long as a statement is carried out, and there is none between two
statements; what it does if somebody else has put a file there is not told here.
Nor does an operation wait for a database that is in use: the statement is refused,
however long a configuration would have it wait.
-/

namespace InstructionStore

open Database

/-- **The surroundings of the stores** in a state of type `σ`. -/
structure Surroundings (σ : Type) where
  /-- The files. -/
  files : σ → Files
  /-- Replaces the files. -/
  setFiles : Files → σ → σ
  /-- The time. -/
  now : σ → Int64
  /-- Draws an identifier. -/
  draw : σ → String × σ
  /-- Whether the next statement is refused for no reason of its own. -/
  disturbed : σ → Bool × σ
  /-- The directory that texts start from. It is there. -/
  workingDirectory : FilePath := []

/-- **A handle on a store.** -/
structure Handle where
  /-- The directory, as it was given. -/
  directory : String
  /-- The place of the file. -/
  path : FilePath
deriving DecidableEq

namespace Surroundings

variable {σ : Type} (e : Surroundings σ)

/-- The connection to the database at a place. Nothing else in the tree is touched by
it. -/
def connect (path : FilePath) : Connection σ where
  contents s := (e.files s).contents path
  replace db s := e.setFiles ((e.files s).put path (.database db)) s
  now := e.now
  draw := e.draw
  disturbed := e.disturbed

/-- Work on the files. -/
def onFiles {ε α : Type} (work : Task Files ε α) : Task σ ε α := fun s =>
  let (result, files) := work (e.files s)
  (result, e.setFiles files s)

/-- Where a text starts from. -/
def startOf (text : String) : FilePath :=
  if FilePath.isAbsolute text then [] else e.workingDirectory

/-- The place a text names. -/
def placeOf (text : String) : FilePath := FilePath.resolve (e.startOf text) (FilePath.names text)

/-- Makes the directory a text names. -/
def makeFolder (directory : String) : Task Files FileFailure Unit :=
  Files.createDirectoriesFrom (e.startOf directory) (FilePath.names directory)
    (FilePath.endsInDot directory)

/-- **Reaches a file** in a directory. Both are made unless they are there. -/
def reach (directory file : String) : Task σ OpeningFailure FilePath := do
  (e.onFiles (e.makeFolder directory)).mapError .file
  let path := e.placeOf file
  let isThere ← e.onFiles (Task.ofState fun t => t.touch path)
  unless isThere do throw .sql
  return path

/-- Opens the database in a file in a directory. -/
def openAt (directory file : String)
    (openDatabase : Connection σ → Task σ OpeningFailure Unit) : Task σ OpeningFailure Handle := do
  let path ← e.reach directory file
  openDatabase (e.connect path)
  return { directory, path }

/-- **Opens the store of the records.** -/
def openRecords (config : Config) : Task σ DatabaseFailure Handle :=
  (e.openAt config.storageDirectory config.recordsPath Connection.openRecords).mapError fun
    | .file failure => .file failure
    | .sql => .sql
    | .refused defect => .invalidSchema defect

/-- **Opens the history.** -/
def openHistory (config : Config) : Task σ HistoryFailure Handle :=
  (e.openAt config.storageDirectory config.historyPath Connection.openHistory).mapError fun
    | .file failure => .file failure
    | .sql => .sql
    | .refused defect => .invalidSchema defect

end Surroundings

end InstructionStore
