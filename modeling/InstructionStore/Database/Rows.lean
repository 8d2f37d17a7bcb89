import InstructionStore.Account
import InstructionStore.Database.Table

/-!
# The rows of the tables

Two kinds of database have tables of their own. A database of **records** keeps
the accounts, an archive of deleted accounts, the instructions and their tags; a
database of **history** keeps commits and the latest commit of each key. Each
has one row of state besides, which tells the version of its tables.

For each table there is a type of rows, whose fields are the columns in their
order, and a description of the table.
-/

namespace InstructionStore.Database

/-- **The state of a database.** -/
structure StateRow where
  /-- The number of the row, which is one. -/
  singleton : Cell
  /-- The version of the tables. -/
  version : Cell
  /-- When the tables were made. -/
  createdAt : Cell
deriving DecidableEq

/-- **A row of an account.** -/
structure AccountRow where
  /-- The identifier of the account. -/
  id : Cell
  /-- Its name. -/
  name : Cell
  /-- Its email address. -/
  email : Cell
  /-- Its identity provider. -/
  provider : Cell
  /-- The owner's identifier with the provider. -/
  userId : Cell
  /-- The owner's page with the provider. -/
  url : Cell
  /-- The owner's picture with the provider. -/
  image : Cell
  /-- The owner's name with the provider. -/
  displayName : Cell
  /-- When the account was opened. -/
  createdAt : Cell
deriving DecidableEq

/-- **A row of the archive**: the row of an account as it was when the account
was deleted. -/
structure ArchiveRow where
  /-- The number of the row; later rows have greater numbers. -/
  number : Cell
  /-- The row of the account. -/
  account : AccountRow
  /-- When the account was deleted. -/
  deletedAt : Cell
deriving DecidableEq

/-- **A row of an instruction.** -/
structure DocumentRow where
  /-- The identifier of the document. -/
  id : Cell
  /-- The identifier of the account that keeps it. -/
  creatorId : Cell
  /-- Its name. -/
  name : Cell
  /-- The instruction as text. -/
  body : Cell
  /-- When the document was first saved. -/
  createdAt : Cell
  /-- When it was last saved. -/
  updatedAt : Cell
deriving DecidableEq

/-- **A row of a tag.** -/
structure TagRow where
  /-- The identifier of the document. -/
  documentId : Cell
  /-- The place of the tag among the tags of the document. -/
  ordinal : Cell
  /-- The tag. -/
  tag : Cell
deriving DecidableEq

/-- **A row of a commit.** -/
structure CommitRow where
  /-- The identifier of the commit. -/
  id : Cell
  /-- The key it was made for. -/
  key : Cell
  /-- The commit before it. -/
  parent : Cell
  /-- The instruction as text. -/
  body : Cell
  /-- The name of the author. -/
  authorName : Cell
  /-- The email address of the author. -/
  authorEmail : Cell
  /-- When the commit was made. -/
  createdAt : Cell
deriving DecidableEq

/-- **A row of a key with its latest commit.** -/
structure HeadRow where
  /-- The key. -/
  key : Cell
  /-- The latest commit. -/
  commit : Cell
  /-- When it was made. -/
  updatedAt : Cell
deriving DecidableEq

/-- The table of the state. -/
def StateRow.table : Table StateRow where
  columns := [
    ⟨"singleton", .integer, true, true, singleton, fun c r => { r with singleton := c }⟩,
    ⟨"schema_version", .integer, true, false, version, fun c r => { r with version := c }⟩,
    ⟨"created_at_ms", .integer, true, false, createdAt, fun c r => { r with createdAt := c }⟩]
  keys := [fun r => [r.singleton]]
  rule r := r.singleton = .integer 1

/-- The columns of an account, with the identifier and two more that need not
be those of accounts that can be signed in to. -/
def AccountRow.columns : List (Column AccountRow) := [
  ⟨"id", .text, false, false, id, fun c r => { r with id := c }⟩,
  ⟨"name", .text, true, false, name, fun c r => { r with name := c }⟩,
  ⟨"email", .text, true, false, email, fun c r => { r with email := c }⟩,
  ⟨"provider", .text, true, false, provider, fun c r => { r with provider := c }⟩,
  ⟨"provider_id", .text, true, false, userId, fun c r => { r with userId := c }⟩,
  ⟨"provider_url", .text, false, false, url, fun c r => { r with url := c }⟩,
  ⟨"provider_img", .text, false, false, image, fun c r => { r with image := c }⟩,
  ⟨"provider_name", .text, false, false, displayName, fun c r => { r with displayName := c }⟩,
  ⟨"created_at_ms", .integer, true, false, createdAt, fun c r => { r with createdAt := c }⟩]

/-- The table of accounts: identifiers, names and email addresses are each held
by one account at most. -/
def AccountRow.table : Table AccountRow where
  columns := columns
  keys := [fun r => [r.id], fun r => [r.name], fun r => [r.email]]

/-- A column of an account as a column of the archive, where it may be empty
only if the table of accounts allows it and it is not the identifier. -/
def ArchiveRow.columnOf (column : Column AccountRow) : Column ArchiveRow where
  name := column.name
  affinity := column.affinity
  required := column.required || column.name = "id"
  get r := column.get r.account
  set c r := { r with account := column.set c r.account }

/-- The table of the archive, in which any number of rows may have the same
name. -/
def ArchiveRow.table : Table ArchiveRow where
  columns :=
    ⟨"seq", .integer, true, true, number, fun c r => { r with number := c }⟩ ::
      AccountRow.columns.map columnOf ++
      [⟨"deleted_at_ms", .integer, true, false, deletedAt, fun c r => { r with deletedAt := c }⟩]
  keys := [fun r => [r.number]]

/-- The table of instructions: an account has one instruction of a name at
most. -/
def DocumentRow.table : Table DocumentRow where
  columns := [
    ⟨"id", .text, false, false, id, fun c r => { r with id := c }⟩,
    ⟨"creator_id", .text, true, false, creatorId, fun c r => { r with creatorId := c }⟩,
    ⟨"name", .text, true, false, name, fun c r => { r with name := c }⟩,
    ⟨"body", .text, true, false, body, fun c r => { r with body := c }⟩,
    ⟨"created_at_ms", .integer, true, false, createdAt, fun c r => { r with createdAt := c }⟩,
    ⟨"updated_at_ms", .integer, true, false, updatedAt, fun c r => { r with updatedAt := c }⟩]
  keys := [fun r => [r.id], fun r => [r.creatorId, r.name]]

/-- The table of tags: a document has a tag once at most. -/
def TagRow.table : Table TagRow where
  columns := [
    ⟨"instruction_id", .text, true, false, documentId, fun c r => { r with documentId := c }⟩,
    ⟨"ordinal", .integer, true, false, ordinal, fun c r => { r with ordinal := c }⟩,
    ⟨"tag", .text, true, false, tag, fun c r => { r with tag := c }⟩]
  keys := [fun r => [r.documentId, r.tag]]

/-- The table of commits: no commit comes after itself. -/
def CommitRow.table : Table CommitRow where
  columns := [
    ⟨"commit_id", .text, false, false, id, fun c r => { r with id := c }⟩,
    ⟨"key", .text, true, false, key, fun c r => { r with key := c }⟩,
    ⟨"parent_commit_id", .text, false, false, parent, fun c r => { r with parent := c }⟩,
    ⟨"body", .text, true, false, body, fun c r => { r with body := c }⟩,
    ⟨"author_name", .text, true, false, authorName, fun c r => { r with authorName := c }⟩,
    ⟨"author_email", .text, true, false, authorEmail, fun c r => { r with authorEmail := c }⟩,
    ⟨"created_at_ms", .integer, true, false, createdAt, fun c r => { r with createdAt := c }⟩]
  keys := [fun r => [r.id]]
  rule r := r.parent = .null || r.parent != r.id

/-- The table of the latest commits: a key has one at most. -/
def HeadRow.table : Table HeadRow where
  columns := [
    ⟨"key", .text, false, false, key, fun c r => { r with key := c }⟩,
    ⟨"head_commit_id", .text, true, false, commit, fun c r => { r with commit := c }⟩,
    ⟨"updated_at_ms", .integer, true, false, updatedAt, fun c r => { r with updatedAt := c }⟩]
  keys := [fun r => [r.key]]

/-- The row of an account. -/
def AccountRow.ofAccount (a : Account) : AccountRow where
  id := .text a.id.text
  name := .text a.name.text
  email := .text a.email
  provider := .text a.provider.provider
  userId := .text a.provider.userId
  url := .ofOptional a.provider.url
  image := .ofOptional a.provider.image
  displayName := .ofOptional a.provider.displayName
  createdAt := .integer a.createdAt

end InstructionStore.Database
