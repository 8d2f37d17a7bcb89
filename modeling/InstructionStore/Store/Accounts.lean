import InstructionStore.Database.Connection
import InstructionStore.Failure

/-!
# The accounts of a store

An account is **live** from when it is opened until it is deleted, and then it
is in the archive for good. Live accounts are found by identifier, by name and
by email address; a name has no `@` in it and an email address has one, so a
text is only looked for where it can be. The archive is listed by name.

Names and email addresses belong to live accounts only. What a deleted account
held can be taken again.
-/

namespace InstructionStore

open Database

namespace Database

/-- The failure to read a cell of the wrong kind. -/
def readCell {α : Type} (cell : Option α) : Except DatabaseFailure α :=
  match cell with
  | some a => .ok a
  | none => .error .sql

/-- The failure to find a table that can be worked with. -/
def readTable {Row : Type} (slot : Slot Row) : Except DatabaseFailure (List Row) :=
  match slot.read with
  | .ok rows => .ok rows
  | .error _ => .error .sql

/-- What a check of a cell comes to; a defect makes the row corrupt. -/
def checkCell {α δ : Type} (defect : δ → RowDefect) (check : Except δ α) :
    Except DatabaseFailure α :=
  match check with
  | .ok a => .ok a
  | .error d => .error (.corruptRow (defect d))

/-- **The account a row stands for.** The kinds of the cells are checked first,
then the identifier and then the name. -/
def AccountRow.account (row : AccountRow) : Except DatabaseFailure Account := do
  let id ← readCell row.id.text?
  let name ← readCell row.name.text?
  let email ← readCell row.email.text?
  let provider ← readCell row.provider.text?
  let userId ← readCell row.userId.text?
  let url ← readCell row.url.optionalText?
  let image ← readCell row.image.optionalText?
  let displayName ← readCell row.displayName.optionalText?
  let createdAt ← readCell row.createdAt.integer?
  let id ← checkCell .accountId (AccountId.ofString id)
  let name ← checkCell .accountName (Identifier.ofString name)
  return ⟨id, name, email, ⟨provider, userId, url, image, displayName⟩, false, createdAt⟩

namespace Contents

/-- The first live account whose row fits. -/
def accountWhere (db : Contents) (fits : AccountRow → Bool) :
    Except DatabaseFailure (Option Account) := do
  match (← readTable db.accounts).find? fits with
  | none => return none
  | some row => return some (← row.account)

/-- **The live account of an identifier.** -/
def getAccount (db : Contents) (id : AccountId) : Except DatabaseFailure (Option Account) :=
  db.accountWhere fun row => row.id = .text id.text

/-- **The live account of a name or an email address.** -/
def findAccount (db : Contents) (needle : String) : Except DatabaseFailure (Option Account) :=
  db.accountWhere fun row =>
    (if needle.toList.contains '@' then row.email else row.name) = .text needle

/-- **The deleted accounts that had a name**, in the order of their deletion. -/
def deletedAccounts (db : Contents) (name : String) : Except DatabaseFailure (List Account) := do
  let rows := (← readTable db.archive).filter fun row => row.account.name = .text name
  let sorted := rows.mergeSort fun a b => a.number.le b.number
  sorted.mapM fun row => do return { ← row.account.account with deleted := true }

/-- Adds the row of an account. -/
def insertAccount (a : Account) : Statement Unit := fun db => do
  let rows ← AccountRow.table.insert (.ofAccount a) (← db.accounts.read)
  return ((), { db with accounts := .rows rows })

/-- The greatest number of the rows of the archive, of those that are gone
as well. -/
def lastNumber (db : Contents) (rows : List ArchiveRow) : Int :=
  rows.foldl (fun n row => match row.number with
    | .integer m => max n m.toInt
    | _ => n) db.archived

/-- Copies the row of a live account to the end of the archive. -/
def archiveAccount (id : AccountId) (now : Int64) : Statement Unit := fun db => do
  let archive ← db.archive.read
  match (← db.accounts.read).find? fun row => row.id = .text id.text with
  | none => return ((), db)
  | some row =>
    let number := db.lastNumber archive + 1
    if Int64.maxValue.toInt < number then throw .failure
    let archive ← ArchiveRow.table.insert ⟨.integer (.ofInt number), row, .integer now⟩ archive
    return ((), { db with archive := .rows archive, archived := number })

/-- Removes the row of a live account. -/
def removeAccount (id : AccountId) : Statement Unit := fun db => do
  let rows ← db.accounts.read
  return ((), { db with accounts := .rows (rows.filter fun row => row.id != .text id.text) })

end Contents

end Database

namespace Store

variable {σ : Type} (c : Connection σ)

/-- Looks something up in the database. -/
def lookUp {α : Type} (look : Contents → Except DatabaseFailure α) : Task σ StoreFailure α :=
  c.query .sql fun db => match look db with
    | .ok a => .ok a
    | .error failure => .error (.database failure)

/-- What a statement that adds a row fails with. -/
def insertFailure (entity : Entity) : Refusal → StoreFailure
  | .constraint => .duplicate entity
  | .failure => .sql

/-- **Opens an account.** An identifier is drawn once the request has passed its
check. -/
def createAccount (request : Signup) : Task σ StoreFailure Account := do
  let name ← Task.ofExcept (request.check.mapError .invalid)
  let drawn ← c.drawId
  let id ← Task.ofExcept ((checkCell .opaqueId (AccountId.ofString drawn)).mapError .database)
  let createdAt := c.now (← get)
  let account : Account := ⟨id, name, request.email, request.provider, false, createdAt⟩
  c.execute (insertFailure .account) (Contents.insertAccount account)
  return account

/-- **Deletes an account**: moves it from the live accounts to the archive, if
it is live. -/
def deleteAccount (account : Account) : Task σ StoreFailure Unit := do
  let failed (_ : Refusal) : StoreFailure := .sql
  let now := c.now (← get)
  c.transact .sql do
    c.step failed (Contents.archiveAccount account.id now)
    c.step failed (Contents.removeAccount account.id)

/-- The live account of an identifier. -/
def getAccount (id : AccountId) : Task σ StoreFailure (Option Account) :=
  lookUp c fun db => db.getAccount id

/-- The live account of a name or an email address. -/
def findAccount (needle : String) : Task σ StoreFailure (Option Account) :=
  lookUp c fun db => db.findAccount needle

/-- The deleted accounts that had a name. -/
def deletedAccounts (name : String) : Task σ StoreFailure (List Account) :=
  lookUp c fun db => db.deletedAccounts name

end Store

end InstructionStore
