import InstructionStore.Proofs.Database.Calm
import InstructionStore.Proofs.Store.Saving

/-!
# Whether a document is recorded

The last step of a save meets whatever is on file by then. On a calm connection there are
two outcomes. The document is recorded if the save may write over a document and one
with its identifier is on file, or if the records admit the document
(`Store.persist_of_admits`). Otherwise its row clashes with another one: the save fails as
a duplicate, and nothing is changed (`Store.persist_of_refused`).

Which of the two it is turns on the row of the document alone. Its tags come after, and
there is always room for them: those of its identifier were removed, none is given twice,
and their places fit.
-/

namespace InstructionStore

open Database

namespace Store

variable {σ : Type} {c : Connection σ} {db : Contents} {r : Records} {p : Pending} {g : Filed}

/-! ## The row of the document -/

/-- **Whether a save writes over a document**: it is meant to, and a document with the
identifier is on file. -/
def Pending.Overwrites (p : Pending) (r : Records) : Prop :=
  p.isUpdate = true ∧ ∃ f ∈ r.documents, f.document.id = p.document.id

/-- Writing over a document, if there is to be one, and counting the rows. -/
def overwrite (c : Connection σ) (p : Pending) (now : Int64) : Transaction σ StoreFailure Nat :=
  if p.isUpdate then
    c.step (fun _ => .sql) (Contents.updateBody p.document.id p.document.instruction.text now)
  else pure 0

theorem writeDocument_eq (p : Pending) (now : Int64) :
    writeDocument c p now = overwrite c p now >>= fun updated =>
      if updated = 0 then
        c.step (insertFailure .instruction)
          (Contents.insertDocument p.document p.document.instruction.text now)
      else pure () := by
  unfold writeDocument overwrite
  dsimp only
  cases p.isUpdate <;> rfl

theorem overwrite_yields (calm : c.IsCalm) (hdb : db.Holds r) (hg : g.document = p.document) :
    ∃ updated db', Yields (overwrite c p g.updatedAt) db updated db'
      ∧ ((p.Overwrites r ∧ updated ≠ 0
          ∧ db' = { db with documents := .rows ((r.rewrite g).documents.map Filed.row) })
        ∨ (¬p.Overwrites r ∧ updated = 0 ∧ db' = db)) := by
  unfold overwrite
  cases hupdate : p.isUpdate with
  | false =>
    refine ⟨0, db, .pure _ _, .inr ⟨fun h => ?_, rfl, rfl⟩⟩
    exact Bool.false_ne_true (hupdate.symm.trans h.1)
  | true =>
    rw [if_pos rfl, ← hg]
    refine ⟨_, _, calm.step_yields (Contents.updateBody_eq hdb g), ?_⟩
    by_cases hfiled : ∃ f ∈ r.documents, f.document.id = p.document.id
    · obtain ⟨f, hf, hid⟩ := hfiled
      refine .inl ⟨⟨hupdate, f, hf, hid⟩, Nat.ne_of_gt ?_, rfl⟩
      exact List.countP_pos_iff.2 ⟨f, hf, decide_eq_true (hg ▸ hid)⟩
    · have hne : ∀ f ∈ r.documents, f.document.id ≠ g.document.id :=
        fun f hf hid => hfiled ⟨f, hf, hg ▸ hid⟩
      refine .inr ⟨fun h => hfiled h.2, ?_, ?_⟩
      · exact List.countP_eq_zero.2 fun f hf => by simpa using hne f hf
      · rw [Records.documents_rewrite_of_forall_ne hne, ← hdb.documents]

/-- **A document is written** if there is one to write over or the records admit it. -/
theorem writeDocument_yields (calm : c.IsCalm) (hdb : db.Holds r) (hg : g.document = p.document)
    (htime : g.createdAt = g.updatedAt) (h : p.Overwrites r ∨ r.Admits g) :
    ∃ documents : List Filed, (∃ f ∈ documents, f.document.id = p.document.id)
      ∧ Yields (writeDocument c p g.updatedAt) db ()
          { db with documents := .rows (documents.map Filed.row) } := by
  obtain ⟨updated, db', hyields, hcase⟩ := overwrite_yields calm hdb hg
  rw [writeDocument_eq]
  rcases hcase with ⟨⟨-, f, hf, hid⟩, hupdated, rfl⟩ | ⟨hnone, rfl, rfl⟩
  · refine ⟨_, ⟨g.rewrite f, List.mem_map_of_mem hf, (g.rewrite_frame f).1.trans hid⟩,
      hyields.bind ?_⟩
    rw [if_neg hupdated]
    exact .pure _ _
  · have admits := h.resolve_left hnone
    refine ⟨(r.add g admits).documents, ⟨g, ?_, congrArg Document.id hg⟩, hyields.bind ?_⟩
    · exact List.mem_append_right _ (List.mem_singleton_self g)
    · rw [if_pos rfl, ← hg]
      exact calm.step_yields ((Contents.insertDocument_eq_ok_iff hdb htime).2 ⟨admits, rfl⟩)

/-- **A document is a duplicate** if there is none to write over and the records do not
admit it. -/
theorem writeDocument_fails (calm : c.IsCalm) (hdb : db.Holds r) (hg : g.document = p.document)
    (htime : g.createdAt = g.updatedAt) (h : ¬p.Overwrites r) (refused : ¬r.Admits g) :
    Fails (writeDocument c p g.updatedAt) db (.duplicate .instruction) := by
  obtain ⟨updated, db', hyields, hcase⟩ := overwrite_yields calm hdb hg
  rw [writeDocument_eq]
  rcases hcase with ⟨hoverwrites, -⟩ | ⟨-, rfl, rfl⟩
  · exact absurd hoverwrites h
  · refine hyields.bind_fails ?_
    rw [if_pos rfl, ← hg]
    exact calm.step_fails (Contents.insertDocument_eq_error hdb htime refused)

/-! ## Its tags -/

/-- **Tags are added** if their document is on file, has none of them, and their places
fit. -/
theorem addTags_yields (calm : c.IsCalm) {rows : List TagRow} {documents : List DocumentRow}
    (hrows : db.tags = .rows rows) (hdocuments : db.documents = .rows documents)
    {id : InstructionId} (owned : ∃ row ∈ documents, row.id = .text id.text)
    {tags : List Identifier} (hnodup : tags.Nodup)
    (unused : ∀ tag ∈ tags, ∀ row ∈ rows, row.documentId = .text id.text →
      row.tag ≠ .text tag.text)
    {ordinal : Nat} (hfits : ordinal + tags.length ≤ 2 ^ 63) :
    ∃ db', Yields (addTags c id ordinal tags) db () db' := by
  induction tags generalizing ordinal db rows with
  | nil => exact ⟨db, .pure _ _⟩
  | cons tag tags ih =>
    rw [List.length_cons] at hfits
    have hmax : Int64.maxValue.toInt = 2 ^ 63 - 1 := rfl
    have hfits' : ordinal + 1 + tags.length ≤ 2 ^ 63 := by omega
    obtain ⟨hnew, hnodup⟩ := List.nodup_cons.1 hnodup
    let added : Contents := { db with
      tags := .rows (rows ++ [⟨.text id.text, .integer (.ofNat ordinal), .text tag.text⟩]) }
    have hstep : Yields (c.step (fun _ => StoreFailure.sql) (Contents.insertTag id tag ordinal))
        db () added :=
      calm.step_yields <|
        Contents.insertTag_eq hrows hdocuments owned (unused tag List.mem_cons_self) ordinal
    have hrest : ∃ db', Yields (addTags c id (ordinal + 1) tags) added () db' := by
      have hkept : added.documents = .rows documents := hdocuments
      refine ih rfl hkept hnodup (fun tag' htag' row hrow hid => ?_) hfits'
      -- the tag itself stands in the rows now, but it is not among those that are left
      rcases List.mem_append.1 hrow with hold | hlast
      · exact unused tag' (List.mem_cons_of_mem _ htag') row hold hid
      · rw [List.mem_singleton.1 hlast]
        exact fun heq => hnew (Identifier.text_inj.1 (Cell.text.inj heq) ▸ htag')
    obtain ⟨db', hrest⟩ := hrest
    refine ⟨db', ?_⟩
    rw [addTags]
    dsimp only
    rw [if_neg (by omega)]
    exact hstep.bind hrest

/-! ## The last step of a save -/

theorem record_yields (calm : c.IsCalm) (hdb : db.Holds r) (hg : g.document = p.document)
    (htime : g.createdAt = g.updatedAt) (h : p.Overwrites r ∨ r.Admits g) :
    ∃ db', Yields (record c p g.updatedAt) db () db' := by
  obtain ⟨documents, ⟨f, hf, hid⟩, hwrite⟩ := writeDocument_yields calm hdb hg htime h
  obtain ⟨rows, hrows, -⟩ := hdb.tags
  let written : Contents := { db with documents := .rows (documents.map Filed.row) }
  let cleared : Contents := { written with
    tags := .rows (rows.filter fun row => row.documentId != .text p.document.id.text) }
  have htags : written.tags = .rows rows := hrows
  have hremove : Yields (c.step (fun _ => StoreFailure.sql) (Contents.removeTags p.document.id))
      written () cleared := calm.step_yields (Contents.removeTags_eq htags _)
  have hadd : ∃ db', Yields (addTags c p.document.id 0 p.document.tags) cleared () db' := by
    refine addTags_yields calm rfl rfl ⟨f.row, List.mem_map_of_mem hf, InstructionId.cell_inj.2 hid⟩
      (hg ▸ g.sound.tags_nodup) (fun tag _ row hrow heq => ?_)
      ((Nat.zero_add _).le.trans (hg ▸ g.tags_short))
    -- no row is left that belongs to the document
    exact absurd heq (bne_iff_ne.1 (List.mem_filter.1 hrow).2)
  obtain ⟨db', hadd⟩ := hadd
  exact ⟨db', hwrite.bind (hremove.bind hadd)⟩

variable {s : σ}

/-- **A document is recorded** if there is one to write over or the records admit it. -/
theorem persist_of_admits (hc : c.IsLawful) (calm : c.IsCalm) (hs : c.contents s = some db)
    (hdb : db.Holds r) (hg : g.document = p.document) (hcreated : g.createdAt = c.now s)
    (hupdated : g.updatedAt = c.now s) (h : p.Overwrites r ∨ r.Admits g) :
    (persist c p s).1 = .ok () := by
  obtain ⟨db', hyields⟩ := record_yields calm hdb hg (hcreated.trans hupdated.symm) h
  rw [hupdated] at hyields
  obtain ⟨s', hrun, -⟩ :=
    calm.transact_of_yields hc .sql (record_isContained hc p (c.now s)) hs hyields
  rw [persist_apply, hrun]

/-- **A document that clashes with another one is refused**, and nothing is changed. -/
theorem persist_of_refused (hc : c.IsLawful) (calm : c.IsCalm) (hs : c.contents s = some db)
    (hdb : db.Holds r) (hg : g.document = p.document) (hcreated : g.createdAt = c.now s)
    (hupdated : g.updatedAt = c.now s) (h : ¬p.Overwrites r) (refused : ¬r.Admits g) :
    (persist c p s).1 = .error (.duplicate .instruction)
      ∧ c.contents (persist c p s).2 = some db := by
  have hfails := writeDocument_fails calm hdb hg (hcreated.trans hupdated.symm) h refused
  rw [hupdated] at hfails
  have hrecord : Fails (record c p (c.now s)) db (.duplicate .instruction) := hfails.bind
  obtain ⟨s', hrun, hs'⟩ :=
    Connection.transact_of_fails .sql (record_isContained hc p (c.now s)) hs hrecord
  rw [persist_apply, hrun]
  exact ⟨rfl, hs'⟩

end Store

end InstructionStore
