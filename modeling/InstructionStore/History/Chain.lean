import InstructionStore.Database.Connection
import InstructionStore.Failure

/-!
# The history as a store of chains

The database of a history has a row for each commit and, for each key, the name
of its latest commit, the **head**. A chain is walked from the head to the
commit before it and so on (`log`); a single commit is found by its name
(`find`).

A new commit comes after the head of its key and takes its place, in one
transaction. Nothing is ever removed.
-/

namespace InstructionStore

open Database

/-- Reads a cell of a history. -/
def History.readCell {α : Type} (cell : Option α) : Except HistoryFailure α :=
  match cell with
  | some a => .ok a
  | none => .error .sql

/-- Reads a table of a history. -/
def History.readTable {Row : Type} (slot : Slot Row) : Except HistoryFailure (List Row) :=
  match slot.read with
  | .ok rows => .ok rows
  | .error _ => .error .sql

/-- **The commit a row stands for.** The kinds of the cells are checked first and
then the instruction. -/
def Database.CommitRow.commit (row : CommitRow) : Except HistoryFailure Commit := do
  let id ← History.readCell row.id.text?
  let key ← History.readCell row.key.text?
  let parent ← History.readCell row.parent.optionalText?
  let body ← History.readCell row.body.text?
  let name ← History.readCell row.authorName.text?
  let email ← History.readCell row.authorEmail.text?
  let createdAt ← History.readCell row.createdAt.integer?
  match Instruction.ofText body with
  | .error fault => throw (.corruptCommit id fault.message)
  | .ok body => return ⟨⟨id⟩, key, parent.map CommitId.mk, body, ⟨name, email⟩, createdAt⟩

/-- The row of a commit. -/
def Commit.Content.row (c : Commit.Content) : CommitRow where
  id := .text c.id.text
  key := .text c.key
  parent := .ofOptional (c.parent.map CommitId.text)
  body := .text c.body
  authorName := .text c.author.name
  authorEmail := .text c.author.email
  createdAt := .integer c.createdAt

namespace Database.Contents

/-- The name of the latest commit of a key. -/
def head (db : Contents) (key : HistoryKey) : Except HistoryFailure (Option CommitId) := do
  match (← History.readTable db.heads).find? fun row => row.key = .text key.path with
  | none => return none
  | some row => return some ⟨← History.readCell row.commit.text?⟩

/-- **The commit of a name.** -/
def commit? (db : Contents) (id : CommitId) : Except HistoryFailure (Option Commit) := do
  match (← History.readTable db.commits).find? fun row => row.id = .text id.text with
  | none => return none
  | some row => return some (← row.commit)

/-- Walks a chain from a commit on for so many commits at most. -/
def walk (db : Contents) : (limit : Nat) → Option CommitId → Except HistoryFailure (List Commit)
  | 0, _ => .ok []
  | _, none => .ok []
  | limit + 1, some id => do
    match ← db.commit? id with
    | none => throw (.corruptCommit id.text "dangling parent")
    | some commit => return commit :: (← db.walk limit commit.parent)

/-- **The commits of a key**, the latest first, so many at most. -/
def log (db : Contents) (key : HistoryKey) (limit : Nat) : Except HistoryFailure (List Commit) := do
  db.walk limit (← db.head key)

/-- Gives the name of the latest commit of a key. -/
def readHead (key : HistoryKey) : Statement (Option CommitId) := fun db =>
  match db.head key with
  | .ok id => .ok (id, db)
  | .error _ => .error .failure

/-- Adds the row of a commit; the commit before it has to be there. -/
def insertCommit (content : Commit.Content) : Statement Unit := fun db => do
  let rows ← CommitRow.table.insert content.row (← db.commits.read)
  let isThere (parent : CommitId) : Bool := rows.any fun row => row.id = .text parent.text
  unless content.parent.all isThere do throw .constraint
  return ((), { db with commits := .rows rows })

/-- Makes a commit the latest of its key. -/
def moveHead (key : HistoryKey) (id : CommitId) (now : Int64) : Statement Unit := fun db => do
  let rows ← db.heads.read
  let isIt (row : HeadRow) : Bool := row.key = .text key.path
  if rows.any isIt then
    let moved := rows.map fun row =>
      if isIt row then { row with commit := .text id.text, updatedAt := .integer now } else row
    return ((), { db with heads := .rows moved })
  else
    let rows ← HeadRow.table.insert ⟨.text key.path, .text id.text, .integer now⟩ rows
    return ((), { db with heads := .rows rows })

end Database.Contents

namespace History

variable {σ : Type} (c : Connection σ)

/-- The name of the latest commit of a key. -/
def head (key : HistoryKey) : Task σ HistoryFailure (Option CommitId) :=
  c.query .sql fun db => db.head key

/-- The commits of a key, the latest first, so many at most. -/
def log (key : HistoryKey) (limit : Nat) : Task σ HistoryFailure (List Commit) :=
  c.query .sql fun db => db.log key limit

/-- The commit of a name. -/
def find (id : CommitId) : Task σ HistoryFailure (Option Commit) :=
  c.query .sql fun db => db.commit? id

/-- **Adds a commit** to the chain of a key. -/
def commit (key : HistoryKey) (body : Instruction) (author : Signature) :
    Task σ HistoryFailure CommitId := do
  let failed (_ : Refusal) : HistoryFailure := .sql
  let now := c.now (← get)
  c.transact .sql do
    let parent ← c.step failed (Contents.readHead key)
    let content : Commit.Content := ⟨key.path, parent, body.text, author, now⟩
    c.step failed (Contents.insertCommit content)
    c.step failed (Contents.moveHead key content.id now)
    return content.id

end History

end InstructionStore
