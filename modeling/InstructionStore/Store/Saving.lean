import InstructionStore.Store.Documents

/-!
# Saving a document

A save goes through **three steps** that others can come between.

1. `prepare` checks the request, which depends on nothing else, and looks up the
   owner and whether there is a document of the name already. It settles the
   identifier the document is to have: that of the document that is there, or a
   new one.
2. The history takes a commit of the instruction. The history is any
   `VersionHistory`: the store only waits for its answer.
3. `persist` writes the document and its tags in one transaction. If a document
   was there and is gone by now, it is added anew; if another one has taken the
   name or the identifier, the save fails and changes nothing.

So the history always has what the store has, and it may have more.
-/

namespace InstructionStore

open Database

/-- **A version history** in a state of type `σ`: it takes commits and may
fail. -/
abbrev VersionHistory (σ : Type) :=
  HistoryKey → Instruction → Signature → Task σ HistoryFailure CommitId

namespace Store

/-- **A save on its way**: what is left to do after the first step. -/
structure Pending where
  /-- The document as it is to be. -/
  document : Document
  /-- The author of the change. -/
  author : Signature
  /-- Whether there is a document of the name already. -/
  isUpdate : Bool
deriving DecidableEq

/-- The key of the chain a save adds to. -/
def Pending.key (p : Pending) : HistoryKey := ⟨p.document.creatorId, p.document.id⟩

variable {σ : Type} (c : Connection σ)

/-- The identifier for a document of an account and a name: that of the document
that is there, or else one drawn. Tells which. -/
def identify (creatorId : AccountId) (name : Identifier) :
    Task σ StoreFailure (InstructionId × Bool) := do
  match ← lookUp c fun db => db.existingId creatorId name with
  | some id => return (id, true)
  | none =>
    let drawn ← c.drawId
    let id ← Task.ofExcept ((checkCell .opaqueId (InstructionId.ofString drawn)).mapError .database)
    return (id, false)

/-- **The first step of a save.** -/
def prepare (owner : Account) (request : SaveRequest) : Task σ StoreFailure Pending := do
  let checked ← Task.ofExcept (request.check.mapError .invalid)
  match ← getAccount c owner.id with
  | none => throw (.ownerMissing owner.id)
  | some creator =>
    let (id, isUpdate) ← identify c creator.id checked.name
    let document := ⟨id, creator.id, checked.name, checked.tags, checked.instruction⟩
    return { document, author := creator.signature, isUpdate }

/-- Adds tags to a document, the first at a given place. A place has to fit 64
bits. -/
def addTags (id : InstructionId) : (ordinal : Nat) → List Identifier →
    Transaction σ StoreFailure Unit
  | _, [] => pure ()
  | ordinal, tag :: tags => do
    if Int64.maxValue.toInt < ordinal then throw (.database (.corruptRow .tagOrdinal))
    c.step (fun _ => .sql) (Contents.insertTag id tag ordinal)
    addTags id (ordinal + 1) tags

/-- Writes a document over the one with its identifier, if there is to be one,
and adds it otherwise. -/
def writeDocument (p : Pending) (now : Int64) : Transaction σ StoreFailure Unit := do
  let d := p.document
  let body := d.instruction.text
  let updated ← if p.isUpdate
    then c.step (fun _ => .sql) (Contents.updateBody d.id body now)
    else pure 0
  if updated = 0 then
    c.step (insertFailure .instruction) (Contents.insertDocument d body now)

/-- **The last step of a save.** -/
def persist (p : Pending) : Task σ StoreFailure Unit := do
  let now := c.now (← get)
  c.transact .sql do
    writeDocument c p now
    c.step (fun _ => .sql) (Contents.removeTags p.document.id)
    addTags c p.document.id 0 p.document.tags

/-- **Saves a document**: makes it, or replaces its instruction and its tags. -/
def save (history : VersionHistory σ) (owner : Account) (request : SaveRequest) :
    Task σ StoreFailure Document := do
  let p ← prepare c owner request
  let _ ← (history p.key p.document.instruction p.author).mapError fun failure =>
    .database (.history failure)
  persist c p
  return p.document

end Store

end InstructionStore
