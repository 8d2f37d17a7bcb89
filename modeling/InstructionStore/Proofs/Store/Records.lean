import InstructionStore.Proofs.Database.Cell
import InstructionStore.Proofs.Grammar.Rereading
import InstructionStore.Proofs.Input.Signups
import InstructionStore.Proofs.Lists
import InstructionStore.Proofs.Outcome
import InstructionStore.Store.Documents

/-!
# What the tables of a store stand for

The rows of a store are made of cells, and cells can hold anything. The
operations write rows of one kind only, though: those of live accounts, of
documents on file, and of their tags. `Records` is what such rows stand for, with
what is always true of it, and `Contents.Holds db r` says that the tables of `db`
hold the rows for `r`.

The order of the tags in their table is left open. Each tag tells its place among
the tags of its document, and whoever reads them sorts by it.
-/

namespace InstructionStore

open Database

/-- **An account that is live**, as the store keeps it. -/
structure Account.IsLive (a : Account) : Prop where
  /-- It is not marked as deleted. -/
  deleted : a.deleted = false
  /-- Its identifier obeys the rule. -/
  id : OpaqueId.IsValid a.id.text
  /-- Its name is not reserved. -/
  name : a.name.isReserved = false
  /-- Its email address has the shape of one. -/
  email : isEmail a.email = true

/-- **A document as the store accepts it.** -/
structure Document.IsSound (d : Document) : Prop where
  /-- Its identifier obeys the rule. -/
  id : OpaqueId.IsValid d.id.text
  /-- The identifier of its account obeys the rule. -/
  creatorId : OpaqueId.IsValid d.creatorId.text
  /-- The grammar accepts its instruction. -/
  accepted : d.instruction.IsAccepted
  /-- It has no tag twice. -/
  tags_nodup : d.tags.Nodup

/-- **A document on file**, with when it was first and last saved. -/
structure Filed where
  /-- The document as it was saved last. -/
  document : Document
  /-- When it was first saved. -/
  createdAt : Int64
  /-- When it was last saved. -/
  updatedAt : Int64
  /-- The store accepts it. -/
  sound : document.IsSound
  /-- The places of its tags fit 64 bits. -/
  tags_short : document.tags.length ≤ 2 ^ 63

/-- The row of a document. -/
def Document.row (d : Document) (createdAt updatedAt : Int64) : DocumentRow :=
  ⟨.text d.id.text, .text d.creatorId.text, .text d.name.text, .text d.instruction.text,
    .integer createdAt, .integer updatedAt⟩

/-- The rows of tags, the first at a given place. -/
def tagRowsFrom (id : InstructionId) : (ordinal : Nat) → List Identifier → List TagRow
  | _, [] => []
  | ordinal, tag :: tags =>
    ⟨.text id.text, .integer (.ofNat ordinal), .text tag.text⟩ :: tagRowsFrom id (ordinal + 1) tags

/-- The rows of the tags of a document. -/
def Document.tagRows (d : Document) : List TagRow := tagRowsFrom d.id 0 d.tags

/-- The row of a document on file. -/
def Filed.row (f : Filed) : DocumentRow := f.document.row f.createdAt f.updatedAt

/-- **What a store is about**: its live accounts and its documents. -/
structure Records where
  /-- The live accounts. -/
  accounts : List Account
  /-- The documents on file. -/
  documents : List Filed
  /-- The accounts are live. -/
  live : ∀ a ∈ accounts, a.IsLive
  /-- No two accounts have one identifier. -/
  ids_nodup : (accounts.map Account.id).Nodup
  /-- No two accounts have one name. -/
  names_nodup : (accounts.map Account.name).Nodup
  /-- No two accounts have one email address. -/
  emails_nodup : (accounts.map Account.email).Nodup
  /-- No two documents have one identifier. -/
  documentIds_nodup : (documents.map fun f => f.document.id).Nodup
  /-- No two documents of an account have one name. -/
  slots_nodup : (documents.map fun f => (f.document.creatorId, f.document.name)).Nodup

/-- **The tables hold the rows for the records.** -/
structure Database.Contents.Holds (db : Contents) (r : Records) : Prop where
  /-- The rows of the accounts. -/
  accounts : db.accounts = .rows (r.accounts.map .ofAccount)
  /-- The rows of the documents. -/
  documents : db.documents = .rows (r.documents.map Filed.row)
  /-- The rows of the tags, in any order. -/
  tags : ∃ rows, db.tags = .rows rows
    ∧ rows.Perm (r.documents.flatMap fun f => f.document.tagRows)

/-! ## Identifiers -/

theorem AccountId.text_inj {a b : AccountId} : a.text = b.text ↔ a = b := by
  cases a
  cases b
  exact ⟨congrArg AccountId.mk, congrArg AccountId.text⟩

theorem InstructionId.text_inj {a b : InstructionId} : a.text = b.text ↔ a = b := by
  cases a
  cases b
  exact ⟨congrArg InstructionId.mk, congrArg InstructionId.text⟩

/-- Cells with identifiers are the same if the identifiers are. -/
theorem AccountId.cell_inj {a b : AccountId} : Cell.text a.text = .text b.text ↔ a = b :=
  Cell.text.injEq a.text b.text ▸ text_inj

theorem InstructionId.cell_inj {a b : InstructionId} :
    Cell.text a.text = .text b.text ↔ a = b :=
  Cell.text.injEq a.text b.text ▸ text_inj

theorem OpaqueId.check_eq_ok_iff {text s : String} :
    OpaqueId.check text = .ok s ↔ OpaqueId.IsValid text ∧ text = s := by
  unfold OpaqueId.check OpaqueId.IsValid
  cases OpaqueId.defect? text <;> simp

theorem AccountId.ofString_eq_ok_iff {text : String} {id : AccountId} :
    AccountId.ofString text = .ok id ↔ OpaqueId.IsValid id.text ∧ text = id.text := by
  unfold AccountId.ofString
  rw [Outcome.map_eq_ok_iff]
  simp only [OpaqueId.check_eq_ok_iff]
  constructor
  · rintro ⟨_, ⟨hvalid, rfl⟩, rfl⟩
    exact ⟨hvalid, rfl⟩
  · rintro ⟨hvalid, rfl⟩
    exact ⟨_, ⟨hvalid, rfl⟩, rfl⟩

theorem InstructionId.ofString_eq_ok_iff {text : String} {id : InstructionId} :
    InstructionId.ofString text = .ok id ↔ OpaqueId.IsValid id.text ∧ text = id.text := by
  unfold InstructionId.ofString
  rw [Outcome.map_eq_ok_iff]
  simp only [OpaqueId.check_eq_ok_iff]
  constructor
  · rintro ⟨_, ⟨hvalid, rfl⟩, rfl⟩
    exact ⟨hvalid, rfl⟩
  · rintro ⟨hvalid, rfl⟩
    exact ⟨_, ⟨hvalid, rfl⟩, rfl⟩

end InstructionStore
