import InstructionStore.Proofs.Store.Integrity
import InstructionStore.Proofs.Store.Interleaving
import InstructionStore.Proofs.Store.Recording

/-!
# What comes of saves that overlap

In every system there can be, no two documents have one identifier and no two documents
of an account have one name. What the last step of a save comes to turns on one thing
only: whether the place of its document is empty or holds the very document
(`Contents.IsOpenTo`). If so, the document is recorded as it was asked for and every
other row stays as it is. If not, the save fails as a duplicate and nothing is changed
at all (`Store.settles_of_isReached`).

This is so whatever came between: since it was looked up, the document may have been
deleted and its place taken by someone else. The database is taken to refuse nothing for
a reason of its own.
-/

namespace InstructionStore

open Database

/-- **Whether the place of a document is empty or its own.** -/
def Database.Contents.IsOpenTo (db : Contents) (d : Document) : Prop :=
  db.existingId d.creatorId d.name = .ok none ∨ db.existingId d.creatorId d.name = .ok (some d.id)

namespace Store

/-- **A document is recorded**, and nothing else is changed. -/
structure IsRecorded (db db' : Contents) (d : Document) : Prop where
  /-- It is in its place. -/
  held : db'.existingId d.creatorId d.name = .ok (some d.id)
  /-- Its row tells its instruction. -/
  row : ∃ rows createdAt updatedAt, db'.documents = .rows rows ∧ d.row createdAt updatedAt ∈ rows
  /-- It has its tags and no others, in their order. -/
  tags : db'.tagTexts d.id.text = .ok d.tagTexts
  /-- The rows of other documents are as before. -/
  otherRows : ∃ rows rows', db.documents = .rows rows ∧ db'.documents = .rows rows'
    ∧ (rows'.filter fun row => row.id != .text d.id.text)
      = rows.filter fun row => row.id != .text d.id.text
  /-- The tags of other documents are as before. -/
  otherTags : ∃ rows rows', db.tags = .rows rows ∧ db'.tags = .rows rows'
    ∧ (rows'.filter fun row => row.documentId != .text d.id.text)
      = rows.filter fun row => row.documentId != .text d.id.text
  /-- All other tables are as before. -/
  rest : { db' with documents := db.documents, tags := db.tags } = db

/-- **What the last step of a save comes to**, for a save that carries a document in a
system with some contents. -/
structure Settles {σ ι : Type} [DecidableEq ι] (c : Connection σ) (saves : ι → Save σ)
    (x : System σ ι) (i : ι) (p : Pending) (db : Contents) : Prop where
  /-- The document is what was asked for. -/
  asked : (saves i).Carries p
  /-- If its place is open to it, it is recorded. -/
  recorded : db.IsOpenTo p.document →
    (x.advance c saves i).phase i = .finished (.ok p.document)
      ∧ ∃ db', c.contents (x.advance c saves i).state = some db' ∧ IsRecorded db db' p.document
  /-- If not, it is a duplicate, and nothing is changed. -/
  refused : ¬db.IsOpenTo p.document →
    (x.advance c saves i).phase i = .finished (.error (.duplicate .instruction))
      ∧ c.contents (x.advance c saves i).state = some db

/-! ## What is recorded -/

section
variable {r : Records} {g : Filed}

/-- The rows of other documents after one is written over. -/
theorem filter_rows_rewrite :
    (((r.rewrite g).documents.map Filed.row).filter fun row =>
        row.id != .text g.document.id.text)
      = (r.documents.map Filed.row).filter fun row => row.id != .text g.document.id.text := by
  have hmap : (r.rewrite g).documents.map Filed.row = (r.documents.map Filed.row).map fun row =>
      if row.id = .text g.document.id.text then
        { row with body := .text g.document.instruction.text, updatedAt := .integer g.updatedAt }
      else row := by
    unfold Records.rewrite
    rw [List.map_map, List.map_map]
    exact List.map_congr_left fun f _ => g.row_rewrite f
  rw [hmap]
  refine filter_map_eq_filter fun row _ => ?_
  by_cases hid : row.id = .text g.document.id.text
  · rw [if_pos hid]
    exact ⟨rfl, fun hne => absurd hid (bne_iff_ne.1 hne)⟩
  · rw [if_neg hid]
    exact ⟨rfl, fun _ => rfl⟩

/-- The rows of other documents after one is added. -/
theorem filter_rows_add (admits : r.Admits g) :
    (((r.add g admits).documents.map Filed.row).filter fun row =>
        row.id != .text g.document.id.text)
      = (r.documents.map Filed.row).filter fun row => row.id != .text g.document.id.text := by
  unfold Records.add
  rw [List.map_append, List.map_singleton, List.filter_append,
    List.filter_cons_of_neg (by simp [Filed.row, Document.row]), List.filter_nil, List.append_nil]

end

variable {db db' : Contents} {r r' : Records} {p : Pending} {g : Filed}

/-- **The document of a save is recorded**, written over the one in its place or added. -/
theorem isRecorded_of_holds {rows : List TagRow} (hdb : db.Holds r) (hrows : db.tags = .rows rows)
    (hdb' : db'.Holds r') (hg : g.document = p.document)
    (hcontents : db' = { db with
      documents := .rows (r'.documents.map Filed.row)
      tags := .rows ((rows.filter fun row => row.documentId != .text p.document.id.text)
        ++ p.document.tagRows) })
    (hplace : ∀ f ∈ r.documents, f.document.id = p.document.id →
      f.document.slot = p.document.slot)
    (hwritten : ((∃ f ∈ r.documents, f.document.id = p.document.id) ∧ r' = r.rewrite g)
      ∨ ∃ admits : r.Admits g, r' = r.add g admits) :
    IsRecorded db db' p.document := by
  -- the document is on file now, and its row is the only one that is another
  obtain ⟨⟨f, hf, hdocument⟩, hothers⟩ : (∃ f ∈ r'.documents, f.document = p.document)
      ∧ ((r'.documents.map Filed.row).filter fun row => row.id != .text p.document.id.text)
        = (r.documents.map Filed.row).filter fun row => row.id != .text p.document.id.text := by
    rw [← hg]
    rcases hwritten with ⟨⟨f, hf, hid⟩, rfl⟩ | ⟨admits, rfl⟩
    · have hslot := hplace f hf hid
      rw [← hg] at hid hslot
      refine ⟨⟨g.rewrite f, List.mem_map_of_mem hf, ?_⟩, filter_rows_rewrite⟩
      exact Filed.document_rewrite hid (congrArg Prod.fst hslot) (congrArg Prod.snd hslot)
    · exact ⟨⟨g, List.mem_append_right _ (List.mem_singleton_self g), rfl⟩,
        filter_rows_add admits⟩
  rw [← hdocument] at hcontents hothers ⊢
  refine ⟨?_, ?_, Contents.tagTexts_eq hdb' hf, ?_, ?_, ?_⟩
  · rw [Contents.existingId_eq hdb', Records.filed_eq_some_iff.2 ⟨hf, rfl, rfl⟩]
    rfl
  · exact ⟨_, f.createdAt, f.updatedAt, hdb'.documents, List.mem_map_of_mem hf⟩
  · exact ⟨_, _, hdb.documents, hdb'.documents, hothers⟩
  · have hown : (f.document.tagRows.filter fun row =>
        row.documentId != .text f.document.id.text) = [] :=
      List.filter_eq_nil_iff.2 fun row hrow => by
        rw [documentId_of_mem_tagRowsFrom hrow, bne_self_eq_false]
        exact Bool.false_ne_true
    refine ⟨rows, _, hrows, congrArg Contents.tags hcontents, ?_⟩
    rw [List.filter_append, hown, List.append_nil, List.filter_filter]
    simp only [Bool.and_self]
  · rw [hcontents]

/-! ## The last step -/

section
variable {σ ι : Type} {c : Connection σ} {saves : ι → Save σ} {x : System σ ι} {i : ι}
  {place : InstructionId → Option (AccountId × Identifier)}

/-- A document on file with the identifier a save carries is in the place of that save. -/
theorem System.IsConsistent.slot_eq (h : x.IsConsistent saves r place)
    (hp : (x.phase i).pending = some p) {f : Filed} (hf : f ∈ r.documents)
    (hid : f.document.id = p.document.id) : f.document.slot = p.document.slot := by
  have hfiled := (h.filed f hf).2
  rw [hid, (h.carried i p hp).2] at hfiled
  exact (Option.some.inj hfiled).symm

/-- The document in a place is found there. -/
theorem filed_eq_some_iff_slot {d : Document} {f : Filed} :
    r.filed d.creatorId d.name.text = some f ↔ f ∈ r.documents ∧ f.document.slot = d.slot := by
  unfold Document.slot
  rw [Records.filed_eq_some_iff, Prod.mk.injEq, Identifier.text_inj]

/-- **The place of a document is open to it** if there is one to write over or the records
admit it. -/
theorem System.IsConsistent.isOpenTo_iff (h : x.IsConsistent saves r place)
    (hp : (x.phase i).pending = some p) (hdb : db.Holds r) (hg : g.document = p.document) :
    db.IsOpenTo p.document ↔ p.Overwrites r ∨ r.Admits g := by
  unfold Contents.IsOpenTo
  rw [Contents.existingId_eq hdb, Except.ok.injEq, Except.ok.injEq]
  constructor
  · rintro (hnone | hsome)
    · refine .inr fun f hf => ?_
      have hslot : f.document.slot ≠ p.document.slot := fun hslot => by
        rw [filed_eq_some_iff_slot.2 ⟨hf, hslot⟩] at hnone
        exact nomatch hnone
      rw [hg]
      exact ⟨fun hid => hslot (h.slot_eq hp hf hid), hslot⟩
    · obtain ⟨f, hfiled, hid⟩ := Option.map_eq_some_iff.1 hsome
      have hf := (filed_eq_some_iff_slot.1 hfiled).1
      -- the identifier is on file, so it was not drawn for this save
      refine .inl ⟨?_, f, hf, hid⟩
      exact Bool.of_not_eq_false fun hnew => h.unfiled i p hp hnew f hf hid
  · rintro (⟨-, f, hf, hid⟩ | admits)
    · right
      rw [filed_eq_some_iff_slot.2 ⟨hf, h.slot_eq hp hf hid⟩]
      exact congrArg some hid
    · left
      refine Option.map_eq_none_iff.2 (Option.eq_none_iff_forall_ne_some.2 fun f hfiled => ?_)
      obtain ⟨hf, hslot⟩ := filed_eq_some_iff_slot.1 hfiled
      exact (admits f hf).2 (hg ▸ hslot)

variable [DecidableEq ι]

/-- A system after the last step of a save. -/
theorem System.advance_committed (hphase : x.phase i = .committed p) :
    ((x.advance c saves i).phase i, (x.advance c saves i).state)
      = Phase.after (persist c p) (fun _ => .finished (.ok p.document)) x.state := by
  unfold System.advance
  dsimp only
  rw [hphase, Function.update_self]
  rfl

/-- **What the last step of a save comes to** turns on whether its place is open to it. -/
theorem System.IsConsistent.settles (hc : c.IsLawful) (calm : c.IsCalm)
    (h : x.IsConsistent saves r place) (hs : c.contents x.state = some db) (hdb : db.Holds r)
    (hphase : x.phase i = .committed p) : Settles c saves x i p db := by
  have hp : (x.phase i).pending = some p := hphase ▸ rfl
  have hasked := h.asked i p hp
  let g : Filed := ⟨p.document, c.now x.state, c.now x.state, hasked.sound, hasked.short⟩
  have hopen : db.IsOpenTo p.document ↔ p.Overwrites r ∨ r.Admits g := h.isOpenTo_iff hp hdb rfl
  have hadvance : ((x.advance c saves i).phase i, (x.advance c saves i).state) = _ :=
    System.advance_committed hphase
  unfold Phase.after at hadvance
  refine ⟨hasked, fun hisOpen => ?_, fun hclosed => ?_⟩
  · have hok := persist_of_admits (g := g) hc calm hs hdb rfl rfl rfl (hopen.1 hisOpen)
    obtain ⟨rows, hrows, -⟩ := hdb.tags
    rcases persist_cases hc hasked.sound hs hdb hrows with
      ⟨e, hfail, -⟩ | ⟨g', r', db', -, hs', hdb', hg, -, -, hcontents, hwritten⟩
    · exact nomatch hok.symm.trans hfail
    rcases hrun : persist c p x.state with ⟨result, s'⟩
    rw [hrun] at hok hs' hadvance
    obtain rfl : result = .ok () := hok
    obtain ⟨hnext, hstate⟩ := Prod.mk.inj hadvance
    refine ⟨hnext, db', hstate ▸ hs', isRecorded_of_holds hdb hrows hdb' hg hcontents
      (fun f hf hid => h.slot_eq hp hf hid) (hwritten.imp_left And.right)⟩
  · obtain ⟨hnone, hrefused⟩ := not_or.1 (mt hopen.2 hclosed)
    obtain ⟨hfail, hs'⟩ := persist_of_refused (g := g) hc calm hs hdb rfl rfl rfl hnone hrefused
    rcases hrun : persist c p x.state with ⟨result, s'⟩
    rw [hrun] at hfail hs' hadvance
    obtain rfl : result = .error (.duplicate .instruction) := hfail
    obtain ⟨hnext, hstate⟩ := Prod.mk.inj hadvance
    exact ⟨hnext, hstate ▸ hs'⟩

/-- **Saves that overlap never disturb each other's documents.** In every system there can
be, each identifier and each place has one document at most, and a save whose history took
the commit is settled by whether its place is open to its document. -/
theorem settles_of_isReached (hc : c.IsLawful) (calm : c.IsCalm)
    (quiet : ∀ i key body author, c.IsQuiet ((saves i).history key body author))
    (h : System.IsReached c saves x) :
    ∃ db rows, c.contents x.state = some db ∧ db.documents = .rows rows
      ∧ (rows.map DocumentRow.id).Nodup
      ∧ (rows.map fun row => (row.creatorId, row.name)).Nodup
      ∧ ∀ i p, x.phase i = .committed p → Settles c saves x i p db := by
  obtain ⟨db, r, place, hs, hdb, hcons⟩ := h.isKept hc quiet
  have hsound := DocumentRow.areSound r
  exact ⟨db, _, hs, hdb.documents, hsound.ids_nodup, hsound.slots_nodup,
    fun _ _ hphase => hcons.settles hc calm hs hdb hphase⟩

end

/-! ## Two saves in one place -/

namespace World

/-- Two saves of one account under one name, each with a history of its own. -/
def rivals : Bool → Save World
  | false => ⟨ann, first, History.commit (file "old"), by decide⟩
  | true => ⟨ann, second, History.commit (file "new"), by decide⟩

theorem rivals_isQuiet (i : Bool) (key : HistoryKey) (body : Instruction) (author : Signature) :
    (file "records").IsQuiet ((rivals i).history key body author) := by
  cases i <;>
    exact Surroundings.commit_isQuiet surroundings_isLawful (by decide) key body author

/-- The account is opened, and both saves have yet to begin. -/
def beforeRivals : System World Bool :=
  ⟨(createAccount (file "records") signup opened).2, fun _ => .waiting, []⟩

/-- Both look up what is there and find nothing; then one is recorded, and the history of
the other takes its commit. -/
def betweenRivals : System World Bool :=
  [false, true, false, true, false].foldl (System.advance (file "records") rivals) beforeRivals

theorem betweenRivals_isReached : System.IsReached (file "records") rivals betweenRivals := by
  have hbefore : System.IsReached (file "records") rivals beforeRivals :=
    ((System.IsReached.opened rfl openRecords_new).operate (.elsewhere contents_opened)).operate
      (.createAccount signup opened)
  unfold betweenRivals
  refine (((((hbefore.advance false ?_).advance true ?_).advance false ?_).advance true ?_).advance
    false ?_) <;> decide +kernel

end World

open World in
theorem settles_of_isReached_rivals :
    ∃ db rows p, System.IsReached (file "records") rivals betweenRivals
      ∧ (file "records").contents betweenRivals.state = some db ∧ db.documents = .rows rows
      ∧ (rows.map DocumentRow.id).Nodup
      ∧ (rows.map fun row => (row.creatorId, row.name)).Nodup
      ∧ betweenRivals.phase true = .committed p ∧ ¬db.IsOpenTo p.document
      ∧ Settles (file "records") rivals betweenRivals true p db := by
  obtain ⟨db, rows, hs, hrows, hids, hslots, hsettles⟩ :=
    settles_of_isReached (file_isLawful _) (file_isCalm _) rivals_isQuiet betweenRivals_isReached
  have hheld : (match betweenRivals.phase true with
      | .committed p => ((file "records").contents betweenRivals.state).bind fun db =>
        (db.existingId p.document.creatorId p.document.name).toOption.map fun held =>
          held.any (· ≠ p.document.id)
      | _ => none) = some true := by decide +kernel
  cases hphase : betweenRivals.phase true with
  | committed p =>
    rw [hphase] at hheld
    dsimp only at hheld
    rw [hs, Option.bind_some, Option.map_eq_some_iff] at hheld
    obtain ⟨held, hfound, hother⟩ := hheld
    have hclosed : ¬db.IsOpenTo p.document := by
      unfold Contents.IsOpenTo
      rw [Outcome.eq_ok_of_toOption hfound, Except.ok.injEq, Except.ok.injEq]
      rintro (rfl | rfl)
      · exact nomatch hother
      · exact of_decide_eq_true hother rfl
    exact ⟨db, rows, p, betweenRivals_isReached, hs, hrows, hids, hslots, rfl, hclosed,
      hsettles true p hphase⟩
  | _ =>
    rw [hphase] at hheld
    exact nomatch hheld

end Store

end InstructionStore
