import InstructionStore.Proofs.Store.Archive
import InstructionStore.Proofs.Store.SaveThenFind

/-!
# The integrity of a store

What holds of the rows themselves in every state a store can be in, whoever works with
it and whichever operations failed. Part of it the rules of the tables see to, and part
of it only the checks before a row is written: that a name is not reserved, that a text
is an instruction, that the places of the tags of a document are the numbers from zero
on.

Every lookup reads rows and refuses those that do not stand for what they should. **No
lookup ever meets one** (`Store.isIntact_of_isReachable`).
-/

namespace InstructionStore

open Database

namespace Database

/-- **The rows of accounts are sound.** -/
structure AccountRow.AreSound (rows : List AccountRow) : Prop where
  /-- No two have one identifier. -/
  ids_nodup : (rows.map AccountRow.id).Nodup
  /-- No two have one name. -/
  names_nodup : (rows.map AccountRow.name).Nodup
  /-- No two have one email address. -/
  emails_nodup : (rows.map AccountRow.email).Nodup
  /-- Their names are identifiers, and none is reserved. -/
  names : ∀ row ∈ rows, ∃ name : Identifier, row.name = .text name.text ∧ name.isReserved = false
  /-- Their email addresses have the shape of one. -/
  emails : ∀ row ∈ rows, ∃ email, row.email = .text email ∧ isEmail email = true

/-- **The rows of documents are sound.** -/
structure DocumentRow.AreSound (rows : List DocumentRow) : Prop where
  /-- No two have one identifier. -/
  ids_nodup : (rows.map DocumentRow.id).Nodup
  /-- No two of an account have one name. -/
  slots_nodup : (rows.map fun row => (row.creatorId, row.name)).Nodup
  /-- Their texts are those of instructions. -/
  bodies : ∀ row ∈ rows, ∃ body i, row.body = .text body ∧ Instruction.ofText body = .ok i

/-- **The rows of tags are sound** for the rows of documents that there are. -/
structure TagRow.AreSound (documents : List DocumentRow) (rows : List TagRow) : Prop where
  /-- Each belongs to a document. -/
  owned : ∀ row ∈ rows, ∃ d ∈ documents, row.documentId = d.id
  /-- The tags of a document are distinct identifiers, and their places are the numbers
  from zero on. -/
  placed : ∀ d ∈ documents, ∃ tags : List Identifier, tags.Nodup ∧ tags.length ≤ 2 ^ 63
    ∧ ((rows.filter fun row => row.documentId = d.id).map fun row => (row.ordinal, row.tag)).Perm
        (tags.zipIdx.map fun (tag, place) => (.integer (.ofNat place), .text tag.text))

/-! ## The rows for some records -/

section
variable {db : Contents} {r : Records}

theorem AccountRow.areSound (r : Records) : AreSound (r.accounts.map .ofAccount) where
  ids_nodup := by
    have h := r.ids_nodup.map (f := fun id => Cell.text id.text) fun _ _ => AccountId.cell_inj.1
    rwa [List.map_map] at h ⊢
  names_nodup := by
    have h := r.names_nodup.map (f := fun name => Cell.text name.text)
      fun _ _ heq => Identifier.text_inj.1 (Cell.text.inj heq)
    rwa [List.map_map] at h ⊢
  emails_nodup := by
    have h := r.emails_nodup.map (f := Cell.text) fun _ _ => Cell.text.inj
    rwa [List.map_map] at h ⊢
  names := by
    intro row hrow
    obtain ⟨a, ha, rfl⟩ := List.mem_map.1 hrow
    exact ⟨a.name, rfl, (r.live a ha).name⟩
  emails := by
    intro row hrow
    obtain ⟨a, ha, rfl⟩ := List.mem_map.1 hrow
    exact ⟨a.email, rfl, (r.live a ha).email⟩

theorem DocumentRow.areSound (r : Records) : AreSound (r.documents.map Filed.row) where
  ids_nodup := by
    have h := r.documentIds_nodup.map (f := fun id => Cell.text id.text)
      fun _ _ => InstructionId.cell_inj.1
    rwa [List.map_map] at h ⊢
  slots_nodup := by
    have h := r.slots_nodup.map (f := fun slot => (Cell.text slot.1.text, Cell.text slot.2.text))
      fun a b heq => Prod.ext (AccountId.cell_inj.1 (congrArg Prod.fst heq))
        (Identifier.text_inj.1 (Cell.text.inj (congrArg Prod.snd heq)))
    rwa [List.map_map] at h ⊢
  bodies := by
    intro row hrow
    obtain ⟨f, -, rfl⟩ := List.mem_map.1 hrow
    exact ⟨_, _, rfl, f.sound.accepted.reread_spec.1⟩

/-- The cells of tags and their places. -/
theorem map_tagRowsFrom (id : InstructionId) (ordinal : Nat) (tags : List Identifier) :
    ((tagRowsFrom id ordinal tags).map fun row => (row.ordinal, row.tag))
      = (tags.zipIdx ordinal).map fun (tag, place) =>
        (.integer (.ofNat place), .text tag.text) := by
  induction tags generalizing ordinal with
  | nil => rfl
  | cons tag tags ih => rw [tagRowsFrom, List.map_cons, ih, List.zipIdx_cons, List.map_cons]

theorem TagRow.areSound (h : db.Holds r) {rows : List TagRow} (hrows : db.tags = .rows rows) :
    AreSound (r.documents.map Filed.row) rows where
  owned := by
    obtain ⟨rows', hrows', hperm⟩ := h.tags
    obtain rfl := Slot.rows.inj (hrows.symm.trans hrows')
    intro row hrow
    obtain ⟨f, hf, hmem⟩ := List.mem_flatMap.1 (hperm.mem_iff.1 hrow)
    exact ⟨f.row, List.mem_map_of_mem hf, documentId_of_mem_tagRowsFrom hmem⟩
  placed := by
    intro d hd
    obtain ⟨f, hf, rfl⟩ := List.mem_map.1 hd
    refine ⟨f.document.tags, f.sound.tags_nodup, f.tags_short, ?_⟩
    exact map_tagRowsFrom _ _ _ ▸ (Contents.filter_tags_perm h hrows hf).map _

end

end Database

/-! ## Lookups -/

namespace Store

variable {σ : Type} {c : Connection σ} {s : σ}

/-- **A lookup that meets no corrupt row** in a state. It gives an answer unless the
database refuses to for a reason of its own. -/
structure MeetsNoCorruptRow {α : Type} (c : Connection σ) (s : σ) (look : Task σ StoreFailure α) :
    Prop where
  /-- There is an answer. -/
  answered : (c.disturbed s).1 = false → ∃ a, (look s).1 = .ok a
  /-- No row is found corrupt. -/
  uncorrupted : ∀ defect, (look s).1 ≠ .error (.database (.corruptRow defect))

/-- **No lookup meets a corrupt row**, whatever it is for. -/
structure LookupsWork (c : Connection σ) (s : σ) : Prop where
  /-- Accounts by their identifiers. -/
  getAccount : ∀ id, MeetsNoCorruptRow c s (getAccount c id)
  /-- Accounts by their names or email addresses. -/
  findAccount : ∀ needle, MeetsNoCorruptRow c s (findAccount c needle)
  /-- Deleted accounts by their names. -/
  deletedAccounts : ∀ name, MeetsNoCorruptRow c s (deletedAccounts c name)
  /-- Documents by their owners and names. -/
  findDocument : ∀ owner name, MeetsNoCorruptRow c s (findDocument c owner name)
  /-- The documents of an owner. -/
  documentsOf : ∀ owner, MeetsNoCorruptRow c s (documentsOf c owner)
  /-- The documents of an owner that have a tag. -/
  documentsTagged : ∀ owner tag, MeetsNoCorruptRow c s (documentsTagged c owner tag)

/-- A lookup that shows something meets no corrupt row. -/
theorem meetsNoCorruptRow (hc : c.IsLawful) {db : Contents} (hs : c.contents s = some db)
    {α : Type} {look : Contents → Except DatabaseFailure α} {a : α} (h : look db = .ok a) :
    MeetsNoCorruptRow c s (lookUp c look) := by
  have hshows := congrArg Prod.fst (shows_lookUp hc h s hs)
  dsimp only at hshows
  constructor
  · intro hcalm
    rw [hcalm] at hshows
    exact ⟨a, hshows⟩
  · intro defect hcorrupt
    rw [hshows] at hcorrupt
    split at hcorrupt <;> exact nomatch hcorrupt

/-- **In every state a store can be in, the rows are sound and no lookup meets a corrupt
one.** -/
theorem isIntact_of_isReachable (hc : c.IsLawful) (h : IsReachable c s) :
    ∃ db accounts documents tags, c.contents s = some db
      ∧ db.accounts = .rows accounts ∧ AccountRow.AreSound accounts
      ∧ db.documents = .rows documents ∧ DocumentRow.AreSound documents
      ∧ db.tags = .rows tags ∧ TagRow.AreSound documents tags
      ∧ LookupsWork c s := by
  obtain ⟨db, r, xs, hs, hdb, harchive⟩ := h.holdsArchive hc
  obtain ⟨tags, htags, -⟩ := hdb.tags
  refine ⟨db, _, _, tags, hs, hdb.accounts, AccountRow.areSound r, hdb.documents,
    DocumentRow.areSound r, htags, TagRow.areSound hdb htags, ?_⟩
  exact {
    getAccount := fun _ => meetsNoCorruptRow hc hs (Contents.accountWhere_eq hdb _)
    findAccount := fun needle => meetsNoCorruptRow hc hs (Contents.findAccount_eq hdb needle)
    deletedAccounts := fun name =>
      meetsNoCorruptRow hc hs (Contents.deletedAccounts_eq harchive name)
    findDocument := fun owner name =>
      meetsNoCorruptRow hc hs (Contents.findDocument_eq hdb owner name)
    documentsOf := fun owner => meetsNoCorruptRow hc hs (Contents.documentsOf_eq hdb owner)
    documentsTagged := fun owner tag =>
      meetsNoCorruptRow hc hs (Contents.documentsTagged_eq hdb owner tag) }

open World in
theorem isIntact_of_isReachable_withFirst :
    ∃ db accounts documents tags, (file "records").contents withFirst = some db
      ∧ db.accounts = .rows accounts ∧ AccountRow.AreSound accounts
      ∧ db.documents = .rows documents ∧ DocumentRow.AreSound documents
      ∧ db.tags = .rows tags ∧ TagRow.AreSound documents tags
      ∧ LookupsWork (file "records") withFirst :=
  isIntact_of_isReachable (Surroundings.connect_isLawful surroundings_isLawful ["records"])
    withFirst_isReachable

end Store

end InstructionStore
