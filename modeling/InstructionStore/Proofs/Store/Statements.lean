import InstructionStore.Proofs.Database.Table
import InstructionStore.Proofs.Store.Changes

/-!
# What the statements come to

The tables hold the rows for some records, a statement succeeds – and the tables
hold the rows for the records after the change that the statement is for. There is
one lemma for each statement, and it gives the new contents in full, so that
everything else is seen to be as it was.
-/

namespace InstructionStore.Database

/-! ## Rows that clash -/

theorem AccountRow.clash_ofAccount (a b : Account) :
    AccountRow.table.clash (.ofAccount a) (.ofAccount b)
      = decide (a.id = b.id ∨ a.name = b.name ∨ a.email = b.email) := by
  unfold Table.clash AccountRow.table AccountRow.ofAccount
  simp [AccountId.text_inj, Identifier.text_inj]

theorem DocumentRow.clash_row (f g : Filed) :
    DocumentRow.table.clash f.row g.row
      = decide (f.document.id = g.document.id ∨
        (f.document.creatorId, f.document.name) = (g.document.creatorId, g.document.name)) := by
  unfold Table.clash DocumentRow.table Filed.row Document.row
  simp [AccountId.text_inj, Identifier.text_inj, InstructionId.text_inj]

namespace Contents

variable {db db' : Contents} {r : Records}

/-! ## Accounts -/

/-- **A row of an account is added** only if the account is free. -/
theorem insertAccount_eq_ok (h : db.Holds r) {a : Account} (live : a.IsLive)
    (hrun : insertAccount a db = .ok ((), db')) :
    ∃ free : r.IsFree a, db' = { db with
      accounts := .rows ((r.openAccount a live free).accounts.map .ofAccount) } := by
  unfold insertAccount at hrun
  rw [Slot.read_eq_ok_iff.2 h.accounts, Outcome.ok_bind, Outcome.bind_eq_ok_iff] at hrun
  obtain ⟨rows, hinsert, hpure⟩ := hrun
  cases hpure
  obtain ⟨⟨-, hclash⟩, rfl⟩ := Table.insert_eq_ok_iff.1 hinsert
  have hfree : r.IsFree a := by
    intro b hb
    have hclash := hclash _ (List.mem_map_of_mem hb)
    rw [AccountRow.clash_ofAccount, decide_eq_false_iff_not, not_or, not_or] at hclash
    exact ⟨Ne.symm hclash.1, Ne.symm hclash.2.1, Ne.symm hclash.2.2⟩
  refine ⟨hfree, ?_⟩
  unfold Records.openAccount
  rw [List.map_append, List.map_singleton]

/-- Copying an account to the archive changes the archive only. -/
theorem archiveAccount_eq_ok {id : AccountId} {now : Int64}
    (hrun : archiveAccount id now db = .ok ((), db')) :
    db'.accounts = db.accounts ∧ db'.documents = db.documents ∧ db'.tags = db.tags := by
  unfold archiveAccount at hrun
  rw [Outcome.bind_eq_ok_iff] at hrun
  obtain ⟨archive, -, hrun⟩ := hrun
  rw [Outcome.bind_eq_ok_iff] at hrun
  obtain ⟨accounts, -, hrun⟩ := hrun
  split at hrun
  · cases hrun
    exact ⟨rfl, rfl, rfl⟩
  · dsimp only at hrun
    split at hrun
    · exact nomatch hrun
    · rw [Outcome.bind_eq_ok_iff] at hrun
      obtain ⟨rows, -, hpure⟩ := hrun
      cases hpure
      exact ⟨rfl, rfl, rfl⟩

/-- Copying an account to the archive leaves the rows for the records. -/
theorem Holds.archiveAccount (h : db.Holds r) {id : AccountId} {now : Int64}
    (hrun : archiveAccount id now db = .ok ((), db')) : db'.Holds r := by
  obtain ⟨haccounts, hdocuments, htags⟩ := archiveAccount_eq_ok hrun
  exact ⟨haccounts.trans h.accounts, hdocuments.trans h.documents, htags ▸ h.tags⟩

/-- **The row of an account is removed.** -/
theorem removeAccount_eq (h : db.Holds r) (id : AccountId) :
    removeAccount id db
      = .ok ((), { db with
          accounts := .rows ((r.closeAccount id).accounts.map .ofAccount) }) := by
  unfold removeAccount Records.closeAccount
  rw [Slot.read_eq_ok_iff.2 h.accounts, Outcome.ok_bind, Outcome.pure_eq, List.filter_map]
  refine congrArg (fun p => Except.ok ((), { db with
    accounts := Slot.rows ((r.accounts.filter p).map AccountRow.ofAccount) })) (funext fun a => ?_)
  show (Cell.text a.id.text != Cell.text id.text) = decide (a.id ≠ id)
  rw [Bool.eq_iff_iff, bne_iff_ne, decide_eq_true_eq, ne_eq, AccountId.cell_inj]

/-! ## Documents -/

/-- **The instruction of a document is replaced** in its row. -/
theorem updateBody_eq (h : db.Holds r) (g : Filed) :
    updateBody g.document.id g.document.instruction.text g.updatedAt db
      = .ok (r.documents.countP fun f => f.document.id = g.document.id,
          { db with documents := .rows ((r.rewrite g).documents.map Filed.row) }) := by
  unfold updateBody Records.rewrite
  rw [Slot.read_eq_ok_iff.2 h.documents, Outcome.ok_bind, Outcome.pure_eq]
  dsimp only
  rw [List.countP_map, List.map_map, List.map_map]
  refine congrArg₂ (fun p u => Except.ok (r.documents.countP p, { db with
    documents := Slot.rows (r.documents.map u) })) (funext fun f => ?_) (funext fun f => ?_)
  · exact decide_eq_decide.2 InstructionId.cell_inj
  · refine Eq.trans ?_ (g.row_rewrite f).symm
    exact if_congr decide_eq_true_iff rfl rfl

/-- A row clashes with none on file exactly if the records admit the document. -/
theorem forall_clash_row {r : Records} {g : Filed} :
    (∀ other ∈ r.documents.map Filed.row, DocumentRow.table.clash g.row other = false)
      ↔ r.Admits g := by
  unfold Records.Admits
  simp only [List.forall_mem_map, DocumentRow.clash_row, decide_eq_false_iff_not, not_or]
  exact forall₂_congr fun f _ => and_congr ne_comm ne_comm

theorem insertDocument_apply (h : db.Holds r) {g : Filed} (hg : g.createdAt = g.updatedAt) :
    insertDocument g.document g.document.instruction.text g.updatedAt db
      = (DocumentRow.table.insert g.row (r.documents.map Filed.row)).map fun rows =>
          ((), { db with documents := .rows rows }) := by
  have hrow : (⟨.text g.document.id.text, .text g.document.creatorId.text,
      .text g.document.name.text, .text g.document.instruction.text, .integer g.updatedAt,
      .integer g.updatedAt⟩ : DocumentRow) = g.row := by
    unfold Filed.row Document.row
    rw [hg]
  unfold insertDocument
  rw [Slot.read_eq_ok_iff.2 h.documents, Outcome.ok_bind, hrow]
  cases DocumentRow.table.insert g.row (r.documents.map Filed.row) <;> rfl

/-- **The row of a document is added** if the records admit it, and only then. -/
theorem insertDocument_eq_ok_iff (h : db.Holds r) {g : Filed} (hg : g.createdAt = g.updatedAt) :
    insertDocument g.document g.document.instruction.text g.updatedAt db = .ok ((), db')
      ↔ ∃ admits : r.Admits g,
        db' = { db with documents := .rows ((r.add g admits).documents.map Filed.row) } := by
  have hadd (admits : r.Admits g) :
      (r.add g admits).documents.map Filed.row = r.documents.map Filed.row ++ [g.row] := by
    unfold Records.add
    rw [List.map_append, List.map_singleton]
  rw [insertDocument_apply h hg, Outcome.map_eq_ok_iff]
  simp only [Table.insert_eq_ok_iff, forall_clash_row, hadd]
  constructor
  · rintro ⟨_, ⟨⟨-, admits⟩, rfl⟩, heq⟩
    exact ⟨admits, (congrArg Prod.snd heq).symm⟩
  · rintro ⟨admits, rfl⟩
    exact ⟨_, ⟨⟨rfl, admits⟩, rfl⟩, rfl⟩

/-- A document that the records do not admit is refused. -/
theorem insertDocument_eq_error (h : db.Holds r) {g : Filed} (hg : g.createdAt = g.updatedAt)
    (refused : ¬r.Admits g) :
    insertDocument g.document g.document.instruction.text g.updatedAt db
      = .error .constraint := by
  rw [← forall_clash_row] at refused
  push Not at refused
  obtain ⟨other, hmem, hclash⟩ := refused
  rw [insertDocument_apply h hg,
    Table.insert_eq_error hmem (Bool.not_eq_false _ ▸ hclash)]
  rfl

/-- There is one row of a document at most. -/
theorem countP_documentId (r : Records) (id : InstructionId) :
    decide ((r.documents.countP fun f => f.document.id = id) = 1)
      = r.documents.any fun f => f.document.id = id := by
  rw [Bool.eq_iff_iff, decide_eq_true_eq, List.any_eq_true]
  constructor
  · intro hone
    obtain ⟨f, hf, hid⟩ := List.countP_pos_iff.1 (hone.symm ▸ Nat.one_pos)
    exact ⟨f, hf, hid⟩
  · rintro ⟨f, hf, hid⟩
    obtain rfl := of_decide_eq_true hid
    have hcount := List.count_eq_one_of_mem r.documentIds_nodup (List.mem_map_of_mem hf)
    rw [List.count, List.countP_map] at hcount
    exact hcount

/-- Where there is no document, there are no tags of it. -/
theorem filter_tags_of_forall_ne {rows : List TagRow} (h : db.Holds r)
    (hrows : db.tags = .rows rows) {id : InstructionId}
    (hnone : ∀ f ∈ r.documents, f.document.id ≠ id) :
    (rows.filter fun row => row.documentId != .text id.text) = rows := by
  obtain ⟨rows', hrows', hperm⟩ := h.tags
  obtain rfl := Slot.rows.inj (hrows.symm.trans hrows')
  refine List.filter_eq_self.2 fun row hrow => ?_
  obtain ⟨f, hf, hmem⟩ := List.mem_flatMap.1 (hperm.mem_iff.1 hrow)
  rw [documentId_of_mem_tagRowsFrom hmem, bne_iff_ne, ne_eq, InstructionId.cell_inj]
  exact hnone f hf

/-- **The row of a document is removed together with its tags.** -/
theorem removeDocument_eq {rows : List TagRow} (h : db.Holds r) (hrows : db.tags = .rows rows)
    (id : InstructionId) :
    removeDocument id db = .ok (r.documents.any fun f => f.document.id = id,
      { db with
        documents := .rows ((r.remove id).documents.map Filed.row)
        tags := .rows (rows.filter fun row => row.documentId != .text id.text) }) := by
  have hcell (f : Filed) : decide (f.row.id = .text id.text) = decide (f.document.id = id) :=
    decide_eq_decide.2 InstructionId.cell_inj
  unfold removeDocument Records.remove
  rw [Slot.read_eq_ok_iff.2 h.documents, Outcome.ok_bind, hrows]
  dsimp only
  rw [Outcome.pure_eq, List.countP_map, List.filter_map, List.any_map]
  unfold Function.comp
  simp only [hcell, countP_documentId, ← decide_not]
  split
  · rfl
  · rename_i hnone
    -- no document is removed, so there are no tags to remove
    rw [filter_tags_of_forall_ne h hrows]
    intro f hf hid
    exact hnone (List.any_eq_true.2 ⟨f, hf, decide_eq_true hid⟩)

/-- Without a document and its tags, the tables hold the rows for the records without
it. -/
theorem Holds.remove {rows : List TagRow} (h : db.Holds r) (hrows : db.tags = .rows rows)
    (id : InstructionId) :
    Contents.Holds { db with
      documents := .rows ((r.remove id).documents.map Filed.row)
      tags := .rows (rows.filter fun row => row.documentId != .text id.text) }
      (r.remove id) := by
  obtain ⟨rows', hrows', hperm⟩ := h.tags
  obtain rfl := Slot.rows.inj (hrows.symm.trans hrows')
  have hfilter := hperm.filter fun row => row.documentId != .text id.text
  rw [filter_flatMap_tagRows_ne] at hfilter
  exact ⟨h.accounts, rfl, _, rfl, hfilter⟩

/-! ## Tags -/

/-- The rows of the tags of a document are removed. -/
theorem removeTags_eq {rows : List TagRow} (h : db.tags = .rows rows) (id : InstructionId) :
    removeTags id db = .ok ((), { db with
      tags := .rows (rows.filter fun row => row.documentId != .text id.text) }) := by
  unfold removeTags
  rw [Slot.read_eq_ok_iff.2 h]
  rfl

theorem removeTags_eq_ok {id : InstructionId} (hrun : removeTags id db = .ok ((), db')) :
    ∃ rows, db.tags = .rows rows ∧ db' = { db with
      tags := .rows (rows.filter fun row => row.documentId != .text id.text) } := by
  unfold removeTags at hrun
  rw [Outcome.bind_eq_ok_iff] at hrun
  obtain ⟨rows, hread, hpure⟩ := hrun
  cases hpure
  exact ⟨rows, Slot.read_eq_ok_iff.1 hread, rfl⟩

/-- A row of a tag is added if the document is on file and does not have the tag. -/
theorem insertTag_eq {rows : List TagRow} {documents : List DocumentRow}
    (h : db.tags = .rows rows) (hdocuments : db.documents = .rows documents) {id : InstructionId}
    {tag : Identifier} (owned : ∃ row ∈ documents, row.id = .text id.text)
    (unused : ∀ row ∈ rows, row.documentId = .text id.text → row.tag ≠ .text tag.text)
    (ordinal : Nat) :
    insertTag id tag ordinal db = .ok ((), { db with
      tags := .rows (rows ++ [⟨.text id.text, .integer (.ofNat ordinal), .text tag.text⟩]) }) := by
  have hclash : ∀ row ∈ rows, TagRow.table.clash
      ⟨.text id.text, .integer (.ofNat ordinal), .text tag.text⟩ row = false := by
    intro row hrow
    unfold Table.clash TagRow.table
    simp only [List.any_cons, List.any_nil, Bool.or_false, List.cons.injEq, and_true,
      Bool.and_eq_false_iff, decide_eq_false_iff_not, not_and]
    exact .inl fun hid htag => unused row hrow hid.symm htag.symm
  obtain ⟨row, hrow, hid⟩ := owned
  unfold insertTag
  rw [Slot.read_eq_ok_iff.2 h, Slot.read_eq_ok_iff.2 hdocuments, Outcome.ok_bind,
    Table.insert_eq_ok_iff.2 ⟨⟨rfl, hclash⟩, rfl⟩, Outcome.ok_bind, Outcome.ok_bind,
    List.any_eq_true.2 ⟨row, hrow, decide_eq_true hid⟩]
  rfl

/-- A row of a tag is added at the end. -/
theorem insertTag_eq_ok {rows : List TagRow} (h : db.tags = .rows rows) {id : InstructionId}
    {tag : Identifier} {ordinal : Nat} (hrun : insertTag id tag ordinal db = .ok ((), db')) :
    db' = { db with
      tags := .rows (rows ++ [⟨.text id.text, .integer (.ofNat ordinal), .text tag.text⟩]) } := by
  unfold insertTag at hrun
  rw [Slot.read_eq_ok_iff.2 h, Outcome.ok_bind, Outcome.bind_eq_ok_iff] at hrun
  obtain ⟨rows', hinsert, hrun⟩ := hrun
  obtain ⟨-, rfl⟩ := Table.insert_eq_ok_iff.1 hinsert
  rw [Outcome.bind_eq_ok_iff] at hrun
  obtain ⟨documents, -, hrun⟩ := hrun
  dsimp only at hrun
  split at hrun
  · cases hrun
    rfl
  · exact nomatch hrun

end Contents

end InstructionStore.Database
