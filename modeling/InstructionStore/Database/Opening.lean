import InstructionStore.Database.Connection
import InstructionStore.Failure

/-!
# Opening a database

A database is opened as a database of records or of history only if it is one,
or if it has no tables at all; then it is made one. A database that is refused is
left as it is. The two kinds have no table in common, so none is ever taken for
the other.

The tables that count are `Contents.userTables`. They have to be exactly those of
the kind, and the row of state has to tell the version this library works with.

Nothing holds the statements of an opening together. One lists the tables and one
reads the state, and then each part of a database of the kind (`Kind.parts`) is
made by a statement of its own, unless it is there. What was made stays if a later
statement fails, and anybody else can work with the database between two of them.
-/

namespace InstructionStore.Database

/-- The version of the tables. -/
def version : Int64 := 1

/-- **A kind of database.** -/
inductive Kind where
  /-- Databases of records. -/
  | records
  /-- Databases of history. -/
  | history
deriving DecidableEq

/-- **A part of a database** that is made when it is opened. -/
inductive Part where
  /-- A table. -/
  | table (place : Place)
  /-- The index on a table. -/
  | index (place : Place)
  /-- The row of state. -/
  | state
deriving DecidableEq

/-- A table, and the index on it if there is one. -/
def Place.parts (p : Place) : List Part :=
  .table p :: if p.index.isSome then [.index p] else []

/-- **Why a database cannot be opened.** -/
inductive OpeningFailure where
  /-- The file cannot be reached. -/
  | file (failure : FileFailure)
  /-- A statement fails. -/
  | sql
  /-- The database is refused. -/
  | refused (defect : SchemaDefect)
deriving DecidableEq

/-- The row of state. -/
def isState (row : StateRow) : Bool := row.singleton = .integer 1

/-- Adds the row of state unless it is there. -/
def addState (now : Int64) (rows : List StateRow) : List StateRow :=
  if rows.any isState then rows
  else rows ++ [⟨.integer 1, .integer version, .integer now⟩]

namespace Kind

/-- Its tables. -/
def places : Kind → List Place
  | records => Place.ofRecords
  | history => Place.ofHistory

/-- Its parts, in the order they are made. -/
def parts (kind : Kind) : List Part := kind.places.flatMap Place.parts ++ [.state]

/-- The state. -/
def state : Kind → Contents → Slot StateRow
  | records, c => c.recordsState
  | history, c => c.historyState

/-- Replaces the state. -/
def setState : Kind → Slot StateRow → Contents → Contents
  | records, s, c => { c with recordsState := s }
  | history, s, c => { c with historyState := s }

/-- What is wrong with other tables. -/
def foreignTable : Kind → SchemaDefect
  | records => .unsupportedTables
  | history => .unexpectedHistoryTables

/-- What is wrong with too few tables. -/
def missingTable : Kind → SchemaDefect
  | records => .missingTable
  | history => .unexpectedHistoryTables

/-- What is wrong with another version. -/
def otherVersion : Kind → SchemaDefect
  | records => .versionMismatch
  | history => .historyVersionMismatch

/-- What is wrong without a row of state. -/
def missingState : Kind → SchemaDefect
  | records => .missingState
  | history => .missingHistoryState

variable (kind : Kind)

/-- **Inspects the tables**, and tells whether there are any. -/
def inspectTables (c : Contents) : Except OpeningFailure Bool :=
  let names := kind.places.map Place.name
  if c.userTables.isEmpty then .ok false
  else if c.userTables.any fun name => !names.contains name then .error (.refused kind.foreignTable)
  else if names.any fun name => !c.userTables.contains name then .error (.refused kind.missingTable)
  else .ok true

/-- **Inspects the state.** -/
def inspectState (c : Contents) : Except OpeningFailure Unit :=
  match (kind.state c).read with
  | .error _ => .error .sql
  | .ok rows =>
    match rows.find? isState with
    | none => .error (.refused kind.missingState)
    | some row =>
      match row.version.integer? with
      | none => .error .sql
      | some v => if v = version then .ok () else .error (.refused kind.otherVersion)

/-- **Makes a part of a database** unless it is there. There can be no index on a
table of another shape. -/
def make (now : Int64) : Part → Statement Unit
  | .table p => fun c => .ok ((), c.put p (c.slot p).install)
  | .index p => fun c => do
    let _ ← (c.slot p).read
    return ((), c)
  | .state => fun c => do
    let rows ← (kind.state c).read
    return ((), kind.setState (.rows (addState now rows)) c)

end Kind

namespace Connection

variable {σ : Type} (c : Connection σ) (kind : Kind)

/-- Inspects a database. Its state is read only if there are tables. -/
def inspect : Task σ OpeningFailure Unit := do
  if ← c.query .sql kind.inspectTables then c.query .sql kind.inspectState

/-- Makes a part of a database unless it is there. -/
def make (part : Part) : Task σ OpeningFailure Unit := do
  let now := c.now (← get)
  c.execute (fun _ => .sql) (kind.make now part)

/-- **Opens a database of a kind.** -/
def openAs : Task σ OpeningFailure Unit := do
  c.inspect kind
  kind.parts.forM (c.make kind)

/-- **Opens a database of records.** -/
def openRecords : Task σ OpeningFailure Unit := c.openAs .records

/-- **Opens a database of history.** -/
def openHistory : Task σ OpeningFailure Unit := c.openAs .history

end Connection

end InstructionStore.Database
