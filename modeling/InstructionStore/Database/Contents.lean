import InstructionStore.Database.Rows

/-!
# The contents of a database

A database has a place for each table of the two kinds, and any number of
tables besides, of which the names are all that is ever looked at. A database
without tables is `Contents.empty`.

`Contents.userTables` lists the names of the tables that count when a database
is opened. Names that look like those the database reserves for itself do not
count: the six letters `sqlite` in any case and at least one character more.
-/

namespace InstructionStore.Database

/-- **The contents of a database.** -/
structure Contents where
  /-- The state of the records. -/
  recordsState : Slot StateRow := .vacant
  /-- The accounts. -/
  accounts : Slot AccountRow := .vacant
  /-- The deleted accounts. -/
  archive : Slot ArchiveRow := .vacant
  /-- The greatest number a row of the archive ever had. -/
  archived : Int := 0
  /-- The instructions. -/
  documents : Slot DocumentRow := .vacant
  /-- The tags. -/
  tags : Slot TagRow := .vacant
  /-- The state of the history. -/
  historyState : Slot StateRow := .vacant
  /-- The commits. -/
  commits : Slot CommitRow := .vacant
  /-- The latest commits. -/
  heads : Slot HeadRow := .vacant
  /-- The names of the other tables. -/
  others : List String := []
deriving DecidableEq

/-- The **places for tables** in a database. -/
inductive Place where
  /-- The state of the records. -/
  | recordsState
  /-- The accounts. -/
  | accounts
  /-- The deleted accounts. -/
  | archive
  /-- The instructions. -/
  | documents
  /-- The tags. -/
  | tags
  /-- The state of the history. -/
  | historyState
  /-- The commits. -/
  | commits
  /-- The latest commits. -/
  | heads
deriving DecidableEq

namespace Place

/-- The name of the table. -/
def name : Place → String
  | recordsState => "store_state"
  | accounts => "accounts"
  | archive => "deleted_accounts"
  | documents => "instructions"
  | tags => "instruction_tags"
  | historyState => "history_state"
  | commits => "history_commits"
  | heads => "history_heads"

/-- The type of its rows. -/
abbrev Row : Place → Type
  | recordsState | historyState => StateRow
  | accounts => AccountRow
  | archive => ArchiveRow
  | documents => DocumentRow
  | tags => TagRow
  | commits => CommitRow
  | heads => HeadRow

/-- Its description. -/
def table : (p : Place) → Table p.Row
  | recordsState | historyState => StateRow.table
  | accounts => AccountRow.table
  | archive => ArchiveRow.table
  | documents => DocumentRow.table
  | tags => TagRow.table
  | commits => CommitRow.table
  | heads => HeadRow.table

/-- The index made along with the table, if there is one. -/
def index : Place → Option String
  | tags => some "idx_instruction_tags_tag"
  | commits => some "idx_history_commits_key_created"
  | _ => none

/-- The cells the rows are sorted by when they are listed. -/
def sortedBy : (p : Place) → p.Row → Cell × Cell
  | recordsState | historyState => fun r : StateRow => (r.singleton, .null)
  | accounts => fun r : AccountRow => (r.id, .null)
  | archive => fun r : ArchiveRow => (r.number, .null)
  | documents => fun r : DocumentRow => (r.id, .null)
  | tags => fun r : TagRow => (r.documentId, r.ordinal)
  | commits => fun r : CommitRow => (r.id, .null)
  | heads => fun r : HeadRow => (r.key, .null)

/-- The tables of the records. -/
def ofRecords : List Place := [recordsState, accounts, archive, documents, tags]

/-- The tables of the history. -/
def ofHistory : List Place := [historyState, commits, heads]

/-- All places. -/
def all : List Place := ofRecords ++ ofHistory

end Place

/-- Whether a name is taken for one that the database reserves for itself. -/
def looksReserved (name : String) : Bool :=
  let chars := name.toList
  (chars.take 6).map Char.toLower = "sqlite".toList && 6 < chars.length

namespace Contents

/-- What is in a place. -/
def slot (c : Contents) : (p : Place) → Slot p.Row
  | .recordsState => c.recordsState
  | .accounts => c.accounts
  | .archive => c.archive
  | .documents => c.documents
  | .tags => c.tags
  | .historyState => c.historyState
  | .commits => c.commits
  | .heads => c.heads

/-- Puts something in a place. When the archive goes, so does its numbering. -/
def put (c : Contents) : (p : Place) → Slot p.Row → Contents
  | .recordsState, s => { c with recordsState := s }
  | .accounts, s => { c with accounts := s }
  | .archive, s => { c with archive := s, archived := if s.isTaken then c.archived else 0 }
  | .documents, s => { c with documents := s }
  | .tags, s => { c with tags := s }
  | .historyState, s => { c with historyState := s }
  | .commits, s => { c with commits := s }
  | .heads, s => { c with heads := s }

/-- A database without tables. -/
def empty : Contents := {}

/-- The names of all tables. -/
def tableNames (c : Contents) : List String :=
  (Place.all.filter fun p => (c.slot p).isTaken).map Place.name ++ c.others

/-- **The names of the tables that count when a database is opened.** -/
def userTables (c : Contents) : List String := c.tableNames.filter fun name => !looksReserved name

end Contents

end InstructionStore.Database
