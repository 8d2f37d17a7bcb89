import InstructionStore.Document
import InstructionStore.Store.Accounts

/-!
# The documents of a store

A document is found by its owner and its name, and all documents of an owner, or
those with a given tag, are listed by when they were first saved and then by
name. The owner is given by name or by email address.

The row of a document keeps the instruction as a text, which is read again
whenever the document is. The tags stand in a table of their own, with their
places among the tags of the document.
-/

namespace InstructionStore

open Database

namespace Database.Contents

/-- The texts of the tags of a document, in their order. -/
def tagTexts (db : Contents) (id : String) : Except DatabaseFailure (List String) := do
  let rows := (← readTable db.tags).filter fun row => row.documentId = .text id
  let sorted := rows.mergeSort fun a b => Cell.lePair (a.ordinal, a.tag) (b.ordinal, b.tag)
  sorted.mapM fun row => readCell row.tag.text?

/-- **The document a row stands for.** The kinds of the cells are checked first,
then the instruction, the tags, and the rest. -/
def document (db : Contents) (row : DocumentRow) : Except DatabaseFailure Document := do
  let id ← readCell row.id.text?
  let creatorId ← readCell row.creatorId.text?
  let name ← readCell row.name.text?
  let body ← readCell row.body.text?
  let instruction ← checkCell (.body id) (Instruction.ofText body)
  let tags ← (← db.tagTexts id).mapM fun tag => checkCell .tag (Identifier.ofString tag)
  let id ← checkCell .instructionId (InstructionId.ofString id)
  let creatorId ← checkCell .creatorId (AccountId.ofString creatorId)
  let name ← checkCell .name (Identifier.ofString name)
  return { id, creatorId, name, tags, instruction }

/-- Does something for the live account of a name or an email address, if there
is one. -/
def forOwner {α : Type} (db : Contents) (owner : String)
    (look : Account → Except DatabaseFailure α) : Except DatabaseFailure (Option α) := do
  match ← db.findAccount owner with
  | none => return none
  | some account => return some (← look account)

/-- The row of a document of an account, by its name. -/
def documentRow (db : Contents) (creatorId : AccountId) (name : String) :
    Except DatabaseFailure (Option DocumentRow) := do
  return (← readTable db.documents).find? fun row =>
    row.creatorId = .text creatorId.text && row.name = .text name

/-- **The document of an owner and a name.** -/
def findDocument (db : Contents) (owner name : String) :
    Except DatabaseFailure (Option Document) := do
  let found ← db.forOwner owner fun account => do
    match ← db.documentRow account.id name with
    | none => return none
    | some row => return some (← db.document row)
  return found.join

/-- The documents of the rows that fit, by when they were first saved and then
by name. -/
def documentsWhere (db : Contents) (fits : DocumentRow → Bool) :
    Except DatabaseFailure (List Document) := do
  let rows := (← readTable db.documents).filter fits
  let sorted := rows.mergeSort fun a b => Cell.lePair (a.createdAt, a.name) (b.createdAt, b.name)
  sorted.mapM db.document

/-- **The documents of an owner.** -/
def documentsOf (db : Contents) (owner : String) :
    Except DatabaseFailure (Option (List Document)) :=
  db.forOwner owner fun account =>
    db.documentsWhere fun row => row.creatorId = .text account.id.text

/-- **The documents of an owner that have a tag.** -/
def documentsTagged (db : Contents) (owner tag : String) :
    Except DatabaseFailure (Option (List Document)) :=
  db.forOwner owner fun account => do
    let tagged ← readTable db.tags
    db.documentsWhere fun row => row.creatorId = .text account.id.text && row.id != .null &&
      tagged.any fun t => t.documentId = row.id && t.tag = .text tag

/-- **The identifier of the document of an account and a name.** -/
def existingId (db : Contents) (creatorId : AccountId) (name : Identifier) :
    Except DatabaseFailure (Option InstructionId) := do
  match ← db.documentRow creatorId name.text with
  | none => return none
  | some row =>
    let id ← readCell row.id.text?
    return some (← checkCell .opaqueId (InstructionId.ofString id))

/-! ## Statements -/

/-- Replaces the instruction of a document, and counts the rows. No rule of the
table depends on it. -/
def updateBody (id : InstructionId) (body : String) (now : Int64) : Statement Nat := fun db => do
  let rows ← db.documents.read
  let isIt (row : DocumentRow) : Bool := row.id = .text id.text
  let updated := rows.map fun row =>
    if isIt row then { row with body := .text body, updatedAt := .integer now } else row
  return (rows.countP isIt, { db with documents := .rows updated })

/-- Adds the row of a document. -/
def insertDocument (d : Document) (body : String) (now : Int64) : Statement Unit := fun db => do
  let row : DocumentRow := ⟨.text d.id.text, .text d.creatorId.text, .text d.name.text,
    .text body, .integer now, .integer now⟩
  return ((), { db with documents := .rows (← DocumentRow.table.insert row (← db.documents.read)) })

/-- Removes the tags of a document. -/
def removeTags (id : InstructionId) : Statement Unit := fun db => do
  let rows := (← db.tags.read).filter fun row => row.documentId != .text id.text
  return ((), { db with tags := .rows rows })

/-- Adds a tag to a document, which has to be there. -/
def insertTag (id : InstructionId) (tag : Identifier) (ordinal : Nat) : Statement Unit :=
  fun db => do
  let rows ← TagRow.table.insert ⟨.text id.text, .integer (.ofNat ordinal), .text tag.text⟩
    (← db.tags.read)
  unless (← db.documents.read).any (fun row => row.id = .text id.text) do throw .constraint
  return ((), { db with tags := .rows rows })

/-- Removes the row of a document together with its tags, and tells whether
there was one. -/
def removeDocument (id : InstructionId) : Statement Bool := fun db => do
  let rows ← db.documents.read
  let isIt (row : DocumentRow) : Bool := row.id = .text id.text
  let tags := match db.tags with
    | .rows tags =>
      if rows.any isIt then .rows (tags.filter fun row => row.documentId != .text id.text)
      else .rows tags
    | other => other
  return (rows.countP isIt = 1,
    { db with documents := .rows (rows.filter fun row => !isIt row), tags })

end Database.Contents

namespace Store

variable {σ : Type} (c : Connection σ)

/-- The document of an owner and a name. -/
def findDocument (owner name : String) : Task σ StoreFailure (Option Document) :=
  lookUp c fun db => db.findDocument owner name

/-- The documents of an owner. -/
def documentsOf (owner : String) : Task σ StoreFailure (Option (List Document)) :=
  lookUp c fun db => db.documentsOf owner

/-- The documents of an owner that have a tag. -/
def documentsTagged (owner tag : String) : Task σ StoreFailure (Option (List Document)) :=
  lookUp c fun db => db.documentsTagged owner tag

/-- **Deletes a document** with its tags, and tells whether it was there. -/
def deleteDocument (document : Document) : Task σ StoreFailure Bool :=
  c.execute (fun _ => .sql) (Contents.removeDocument document.id)

end Store

end InstructionStore
