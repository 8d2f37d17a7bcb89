import InstructionStore.Proofs.Store.Lookups
import InstructionStore.Store.Saving

/-!
# What the statements change

Each change to the tables is a change to what they stand for. An account is opened
(`Records.openAccount`) or closed (`Records.closeAccount`), and a document is added
(`Records.add`), written over (`Records.rewrite`) or removed (`Records.remove`).
The lemmas about the statements say that nothing else ever happens: where the tables
hold the rows for some records and a statement succeeds, they hold the rows for the
changed records afterwards.
-/

namespace InstructionStore

open Database

/-! ## Changes to the records -/

/-- Whether the identifier, the name and the email address of an account are
free. -/
def Records.IsFree (r : Records) (a : Account) : Prop :=
  ∀ b ∈ r.accounts, b.id ≠ a.id ∧ b.name ≠ a.name ∧ b.email ≠ a.email

/-- Whether the identifier and the place of a document are free. -/
def Records.Admits (r : Records) (g : Filed) : Prop :=
  ∀ f ∈ r.documents, f.document.id ≠ g.document.id
    ∧ (f.document.creatorId, f.document.name) ≠ (g.document.creatorId, g.document.name)

/-- **Opens an account.** -/
def Records.openAccount (r : Records) (a : Account) (live : a.IsLive) (free : r.IsFree a) :
    Records where
  accounts := r.accounts ++ [a]
  documents := r.documents
  live := by
    intro b hb
    rcases List.mem_append.1 hb with hmem | hnew
    · exact r.live b hmem
    · exact List.mem_singleton.1 hnew ▸ live
  ids_nodup := nodup_map_concat r.ids_nodup fun b hb => (free b hb).1
  names_nodup := nodup_map_concat r.names_nodup fun b hb => (free b hb).2.1
  emails_nodup := nodup_map_concat r.emails_nodup fun b hb => (free b hb).2.2
  documentIds_nodup := r.documentIds_nodup
  slots_nodup := r.slots_nodup

/-- **Closes an account.** Its documents stay. -/
def Records.closeAccount (r : Records) (id : AccountId) : Records where
  accounts := r.accounts.filter fun a => a.id ≠ id
  documents := r.documents
  live a ha := r.live a (List.mem_filter.1 ha).1
  ids_nodup := nodup_map_filter _ r.ids_nodup
  names_nodup := nodup_map_filter _ r.names_nodup
  emails_nodup := nodup_map_filter _ r.emails_nodup
  documentIds_nodup := r.documentIds_nodup
  slots_nodup := r.slots_nodup

/-- **Adds a document.** -/
def Records.add (r : Records) (g : Filed) (admits : r.Admits g) : Records :=
  { r with
    documents := r.documents ++ [g]
    documentIds_nodup := nodup_map_concat r.documentIds_nodup fun f hf => (admits f hf).1
    slots_nodup := nodup_map_concat r.slots_nodup fun f hf => (admits f hf).2 }

/-- **Removes a document.** -/
def Records.remove (r : Records) (id : InstructionId) : Records :=
  { r with
    documents := r.documents.filter fun f => f.document.id ≠ id
    documentIds_nodup := nodup_map_filter _ r.documentIds_nodup
    slots_nodup := nodup_map_filter _ r.slots_nodup }

/-- A document, written over by another one if that has its identifier. It keeps its
place and the time it was first saved. -/
def Filed.rewrite (g f : Filed) : Filed :=
  if f.document.id = g.document.id then
    { document :=
        { f.document with tags := g.document.tags, instruction := g.document.instruction }
      createdAt := f.createdAt
      updatedAt := g.updatedAt
      sound := ⟨f.sound.id, f.sound.creatorId, g.sound.accepted, g.sound.tags_nodup⟩
      tags_short := g.tags_short }
  else f

theorem Filed.rewrite_of_ne {g f : Filed} (h : f.document.id ≠ g.document.id) :
    g.rewrite f = f := if_neg h

/-- Writing over a document changes neither its identifier nor its place. -/
theorem Filed.rewrite_frame (g f : Filed) :
    (g.rewrite f).document.id = f.document.id
      ∧ (g.rewrite f).document.creatorId = f.document.creatorId
      ∧ (g.rewrite f).document.name = f.document.name
      ∧ (g.rewrite f).createdAt = f.createdAt := by
  unfold Filed.rewrite
  split <;> exact ⟨rfl, rfl, rfl, rfl⟩

/-- What is written over a document in its own place is what is there afterwards. -/
theorem Filed.document_rewrite {g f : Filed} (hid : f.document.id = g.document.id)
    (hcreator : f.document.creatorId = g.document.creatorId)
    (hname : f.document.name = g.document.name) : (g.rewrite f).document = g.document := by
  unfold Filed.rewrite
  rw [if_pos hid]
  dsimp only
  rw [hid, hcreator, hname]

/-- The row of a document after another one was written over it. -/
theorem Filed.row_rewrite (g f : Filed) :
    (g.rewrite f).row
      = if f.row.id = .text g.document.id.text then
          { f.row with
            body := .text g.document.instruction.text, updatedAt := .integer g.updatedAt }
        else f.row := by
  have hcell : f.row.id = .text g.document.id.text ↔ f.document.id = g.document.id :=
    InstructionId.cell_inj
  unfold Filed.rewrite
  by_cases hid : f.document.id = g.document.id
  · rw [if_pos hid, if_pos (hcell.2 hid)]
    rfl
  · rw [if_neg hid, if_neg (mt hcell.1 hid)]

/-- **Writes over a document.** -/
def Records.rewrite (r : Records) (g : Filed) : Records :=
  { r with
    documents := r.documents.map g.rewrite
    documentIds_nodup := by
      rw [List.map_map]
      refine (List.map_congr_left fun f _ => ?_) ▸ r.documentIds_nodup
      exact (g.rewrite_frame f).1.symm
    slots_nodup := by
      rw [List.map_map]
      refine (List.map_congr_left fun f _ => ?_) ▸ r.slots_nodup
      obtain ⟨-, hcreator, hname, -⟩ := g.rewrite_frame f
      exact (Prod.ext hcreator hname).symm }

/-- Without a document to write over, nothing is changed. -/
theorem Records.documents_rewrite_of_forall_ne {r : Records} {g : Filed}
    (h : ∀ f ∈ r.documents, f.document.id ≠ g.document.id) :
    (r.rewrite g).documents = r.documents :=
  (List.map_congr_left fun f hf => Filed.rewrite_of_ne (h f hf)).trans (List.map_id _)

/-! ## Rows of tags -/

/-- Without the rows of tags of one identifier there are those of the other
documents. -/
theorem filter_flatMap_tagRows_ne (fs : List Filed) (id : InstructionId) :
    ((fs.flatMap fun f => f.document.tagRows).filter fun row => row.documentId != .text id.text)
      = (fs.filter fun f => f.document.id ≠ id).flatMap fun f => f.document.tagRows := by
  induction fs with
  | nil => rfl
  | cons f fs ih =>
    rw [List.flatMap_cons, List.filter_append, ih]
    by_cases hid : f.document.id = id
    · rw [List.filter_cons_of_neg (by simp [hid]), List.filter_eq_nil_iff.2, List.nil_append]
      intro row hrow
      rw [documentId_of_mem_tagRowsFrom hrow, bne_iff_ne, not_not, InstructionId.cell_inj]
      exact hid
    · rw [List.filter_cons_of_pos (by simp [hid]), List.flatMap_cons, List.filter_eq_self.2]
      intro row hrow
      rw [documentId_of_mem_tagRowsFrom hrow, bne_iff_ne, ne_eq, InstructionId.cell_inj]
      exact hid

/-- The rows of tags after a document is written over. -/
theorem tagRows_rewrite_perm {r : Records} {f g : Filed} (hf : f ∈ r.documents)
    (hid : f.document.id = g.document.id) :
    (((r.documents.filter fun f => f.document.id ≠ g.document.id).flatMap
        fun f => f.document.tagRows) ++ g.document.tagRows).Perm
      ((r.rewrite g).documents.flatMap fun f => f.document.tagRows) := by
  obtain ⟨before, after, hsplit, hbefore, hafter⟩ := exists_split_of_nodup r.documentIds_nodup hf
  have hothers {fs : List Filed} (h : ∀ e ∈ fs, e.document.id ≠ f.document.id) :
      fs.map g.rewrite = fs ∧ (fs.filter fun e => e.document.id ≠ g.document.id) = fs := by
    constructor
    · refine (List.map_congr_left fun e he => ?_).trans (List.map_id fs)
      exact Filed.rewrite_of_ne (hid ▸ h e he)
    · exact List.filter_eq_self.2 fun e he => decide_eq_true (hid ▸ h e he)
  have hrows : (g.rewrite f).document.tagRows = g.document.tagRows := by
    unfold Filed.rewrite Document.tagRows
    rw [if_pos hid, ← hid]
  unfold Records.rewrite
  dsimp only
  rw [hsplit, List.filter_append, List.filter_cons_of_neg (by simp [hid]), (hothers hbefore).2,
    (hothers hafter).2, List.map_append, List.map_cons, (hothers hbefore).1, (hothers hafter).1,
    List.flatMap_append, List.flatMap_append, List.flatMap_cons, hrows, List.append_assoc]
  exact List.perm_append_comm.append_left _

end InstructionStore
