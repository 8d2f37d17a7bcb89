import InstructionStore.Proofs.Database.Apart
import InstructionStore.Proofs.Input.Tags
import InstructionStore.Proofs.Store.Statements

/-!
# What the steps of a save come to

The first step of a save makes a document that the store accepts
(`prepare_eq_ok`), whatever the contents of the database are. Nothing is written by
it. The last step either changes nothing or leaves the tables with the rows for the
records after one of two changes: the document is written over the one with its
identifier, or it is added (`persist_cases`).
-/

namespace InstructionStore

open Database

/-! ## Requests -/

/-- **A request that passes its check** comes to what it asks for. -/
theorem SaveRequest.check_eq_ok {request : SaveRequest} {checked : SaveRequest.Checked}
    (h : request.check = .ok checked) :
    checked.name.text = request.name
      ∧ checked.tags.map Identifier.text = request.tags.eraseDups
      ∧ checked.instruction.toJson = request.instruction
      ∧ checked.tags.Nodup ∧ checked.instruction.IsAccepted := by
  unfold SaveRequest.check at h
  rw [Outcome.bind_eq_ok_iff] at h
  obtain ⟨name, hname, h⟩ := h
  rw [Outcome.bind_eq_ok_iff] at h
  obtain ⟨tags, htags, h⟩ := h
  rw [Outcome.bind_eq_ok_iff] at h
  obtain ⟨instruction, hinstruction, h⟩ := h
  cases h
  unfold checkInstruction at hinstruction
  cases hread : Instruction.ofJson request.instruction with
  | error r =>
    rw [hread] at hinstruction
    exact nomatch hinstruction
  | ok i =>
    rw [hread] at hinstruction
    cases hinstruction
    obtain ⟨hnodup, htexts⟩ := Identifier.normalizeTags_eq_ok htags
    have hderives := (Grammar.read_eq_ok_iff request.instruction).1 hread
    exact ⟨Identifier.text_of_ofField hname, htexts, Grammar.toJson_of_derives _ hderives,
      hnodup, Instruction.isAccepted_of_ofJson hread⟩

/-! ## Identifiers that are read or drawn -/

namespace Database

theorem readCell_eq_ok_iff {α : Type} {cell : Option α} {a : α} :
    readCell cell = .ok a ↔ cell = some a := by
  cases cell with
  | none => exact ⟨nofun, nofun⟩
  | some b => rw [readCell_some, Except.ok.injEq, Option.some.injEq]

theorem checkCell_eq_ok_iff {α δ : Type} {defect : δ → RowDefect} {check : Except δ α} {a : α} :
    checkCell defect check = .ok a ↔ check = .ok a := by
  cases check with
  | error d => exact ⟨nofun, nofun⟩
  | ok b => rw [checkCell_ok, Except.ok.injEq, Except.ok.injEq]

/-- The account of a row has an identifier that obeys the rule. -/
theorem AccountRow.id_valid {row : AccountRow} {a : Account} (h : row.account = .ok a) :
    OpaqueId.IsValid a.id.text := by
  unfold AccountRow.account at h
  simp only [Outcome.bind_eq_ok_iff, readCell_eq_ok_iff, checkCell_eq_ok_iff] at h
  obtain ⟨_, -, _, -, _, -, _, -, _, -, _, -, _, -, _, -, _, -, id, hid, _, -, h⟩ := h
  cases h
  exact (AccountId.ofString_eq_ok_iff.1 hid).1

namespace Contents

theorem getAccount_valid {db : Contents} {id : AccountId} {a : Account}
    (h : db.getAccount id = .ok (some a)) : OpaqueId.IsValid a.id.text := by
  unfold getAccount accountWhere at h
  rw [Outcome.bind_eq_ok_iff] at h
  obtain ⟨rows, -, h⟩ := h
  split at h
  · exact nomatch h
  · rw [Outcome.bind_eq_ok_iff] at h
    obtain ⟨a', ha', h⟩ := h
    cases h
    exact AccountRow.id_valid ha'

theorem existingId_valid {db : Contents} {creatorId : AccountId} {name : Identifier}
    {id : InstructionId} (h : db.existingId creatorId name = .ok (some id)) :
    OpaqueId.IsValid id.text := by
  unfold existingId at h
  rw [Outcome.bind_eq_ok_iff] at h
  obtain ⟨row, -, h⟩ := h
  split at h
  · exact nomatch h
  · simp only [Outcome.bind_eq_ok_iff, checkCell_eq_ok_iff] at h
    obtain ⟨_, -, id', hid', h⟩ := h
    cases h
    exact (InstructionId.ofString_eq_ok_iff.1 hid').1

end Contents

end Database

/-! ## The first step -/

namespace Store

variable {σ : Type} {c : Connection σ}

theorem lookUp_eq_ok {α : Type} {look : Contents → Except DatabaseFailure α} {s s' : σ} {a : α}
    (h : lookUp c look s = (.ok a, s')) :
    s' = (c.disturbed s).2 ∧ ∃ db, c.contents s' = some db ∧ look db = .ok a := by
  obtain ⟨hs', db, hdb, hlook⟩ := Connection.query_eq_ok h
  refine ⟨hs', db, hdb, ?_⟩
  cases hrun : look db with
  | error e =>
    rw [hrun] at hlook
    exact nomatch hlook
  | ok b =>
    rw [hrun] at hlook
    cases hlook
    rfl

/-- A lookup that succeeds gives what it finds in the contents. -/
theorem lookUp_finds {α : Type} (hc : c.IsLawful) {look : Contents → Except DatabaseFailure α}
    {s : σ} {db : Contents} (hs : c.contents s = some db) {a : α}
    (h : (lookUp c look s).1 = .ok a) : look db = .ok a := by
  obtain ⟨hs', db', hdb', hlook⟩ := lookUp_eq_ok (Prod.ext h rfl)
  rw [hs', hc.disturbed, hs] at hdb'
  obtain rfl := Option.some.inj hdb'
  exact hlook

/-- **The identifier of a document**: the one that is there, or else the next one
drawn. -/
theorem identify_eq_ok {creatorId : AccountId} {name : Identifier} {s s' : σ}
    {id : InstructionId} {isUpdate : Bool}
    (h : identify c creatorId name s = (.ok (id, isUpdate), s')) :
    ∃ db, c.contents (c.disturbed s).2 = some db ∧ OpaqueId.IsValid id.text
      ∧ ((isUpdate = true ∧ db.existingId creatorId name = .ok (some id))
        ∨ (isUpdate = false ∧ db.existingId creatorId name = .ok none
          ∧ id.text = (c.draw (c.disturbed s).2).1)) := by
  unfold identify at h
  rw [Task.bind_eq_ok_iff] at h
  obtain ⟨found, s₁, hfound, h⟩ := h
  obtain ⟨rfl, db, hdb, hexisting⟩ := lookUp_eq_ok hfound
  refine ⟨db, hdb, ?_⟩
  cases found with
  | some there =>
    cases h
    exact ⟨Contents.existingId_valid hexisting, .inl ⟨rfl, hexisting⟩⟩
  | none =>
    dsimp only at h
    rw [Task.bind_eq_ok_iff] at h
    obtain ⟨drawn, s₂, hdrawn, h⟩ := h
    rw [Task.bind_eq_ok_iff] at h
    obtain ⟨id', s₃, hid', h⟩ := h
    cases hdrawn
    cases h
    -- an identifier that was drawn is checked as one that was read
    have hcheck := congrArg Prod.fst hid'
    rw [Task.ofExcept_apply, Outcome.mapError_eq_ok_iff, checkCell_eq_ok_iff] at hcheck
    obtain ⟨hvalid, htext⟩ := InstructionId.ofString_eq_ok_iff.1 hcheck
    exact ⟨hvalid, .inr ⟨rfl, hexisting, htext.symm⟩⟩

/-- **What the first step finds out**, whatever is in the database. -/
theorem prepare_eq_ok {owner : Account} {request : SaveRequest} {p : Pending} {s s' : σ}
    (h : prepare c owner request s = (.ok p, s')) :
    ∃ checked a db, request.check = .ok checked
      ∧ c.contents (c.disturbed s).2 = some db ∧ db.getAccount owner.id = .ok (some a)
      ∧ p.document = ⟨p.document.id, a.id, checked.name, checked.tags, checked.instruction⟩
      ∧ identify c a.id checked.name (c.disturbed s).2
        = (.ok (p.document.id, p.isUpdate), s') := by
  unfold prepare at h
  rw [Task.bind_eq_ok_iff] at h
  obtain ⟨checked, s₁, hchecked, h⟩ := h
  obtain rfl : s = s₁ := congrArg Prod.snd hchecked
  have hcheck := congrArg Prod.fst hchecked
  rw [Task.ofExcept_apply, Outcome.mapError_eq_ok_iff] at hcheck
  rw [Task.bind_eq_ok_iff] at h
  obtain ⟨found, s₂, hfound, h⟩ := h
  obtain ⟨rfl, db, hdb, hget⟩ := lookUp_eq_ok hfound
  cases found with
  | none => exact nomatch h
  | some a =>
    dsimp only at h
    rw [Task.bind_eq_ok_iff] at h
    obtain ⟨⟨id, isUpdate⟩, s₃, hid, h⟩ := h
    cases h
    exact ⟨checked, a, db, hcheck, hdb, hget, rfl, hid⟩

/-- **The first step makes a document that the store accepts**, whatever is in the
database. -/
theorem isSound_of_prepare {owner : Account} {request : SaveRequest} {p : Pending} {s s' : σ}
    (h : prepare c owner request s = (.ok p, s')) : p.document.IsSound := by
  obtain ⟨checked, a, db, hcheck, -, hget, hdocument, hid⟩ := prepare_eq_ok h
  obtain ⟨-, hvalid, -⟩ := (identify_eq_ok hid).choose_spec
  obtain ⟨-, -, -, hnodup, haccepted⟩ := SaveRequest.check_eq_ok hcheck
  rw [hdocument]
  exact ⟨hvalid, Contents.getAccount_valid hget, haccepted, hnodup⟩

/-- The first step leaves alone what lookups do. -/
theorem prepare_keeps {τ : Type} {view : σ → τ} (h : c.ReadsPast view) (owner : Account)
    (request : SaveRequest) : (prepare c owner request).Keeps view := by
  unfold prepare
  refine (Task.Keeps.ofExcept _).bind fun checked => ?_
  refine Task.Keeps.bind (h.query _ _) fun found => ?_
  cases found with
  | none => exact .throw _
  | some a =>
    refine Task.Keeps.bind ?_ fun _ => .pure _
    unfold identify
    refine Task.Keeps.bind (h.query _ _) fun there => ?_
    cases there with
    | some id => exact .pure _
    | none => exact h.drawId.bind fun drawn => (Task.Keeps.ofExcept _).bind fun _ => .pure _

/-- The first step writes nothing. -/
theorem prepare_isQuiet (hc : c.IsLawful) (owner : Account) (request : SaveRequest) :
    c.IsQuiet (prepare c owner request) :=
  prepare_keeps hc.readsPast owner request

/-! ## The last step -/

/-- Tags that are added come after the rows that are there, each with the next
place. -/
theorem addTags_eq_ok {id : InstructionId} {tags : List Identifier} {ordinal : Nat} {s s' : σ}
    {db db' : Contents} {rows : List TagRow} (hrows : db.tags = .rows rows)
    (hordinal : ordinal ≤ 2 ^ 63)
    (h : addTags c id ordinal tags (s, db) = (.ok (), (s', db'))) :
    db' = { db with tags := .rows (rows ++ tagRowsFrom id ordinal tags) }
      ∧ ordinal + tags.length ≤ 2 ^ 63 := by
  induction tags generalizing ordinal s db rows with
  | nil =>
    cases h
    refine ⟨?_, hordinal⟩
    unfold tagRowsFrom
    rw [List.append_nil, ← hrows]
  | cons tag tags ih =>
    rw [addTags] at h
    dsimp only at h
    split at h
    · cases h
    · rename_i hfits
      rw [Task.bind_eq_ok_iff] at h
      obtain ⟨_, ⟨s₁, db₁⟩, hstep, h⟩ := h
      obtain rfl := Contents.insertTag_eq_ok hrows (Connection.step_eq_ok hstep)
      -- each place fits into a cell, so the one after the last is `2 ^ 63` at most
      have hmax : Int64.maxValue.toInt = 2 ^ 63 - 1 := rfl
      obtain ⟨rfl, hlength⟩ := ih rfl (by omega) h
      refine ⟨?_, by rw [List.length_cons]; omega⟩
      rw [List.append_assoc]
      rfl

theorem addTags_onlyDisturbs (id : InstructionId) (tags : List Identifier) (ordinal : Nat) :
    c.OnlyDisturbs (addTags c id ordinal tags) := by
  induction tags generalizing ordinal with
  | nil => exact .pure _
  | cons tag tags ih =>
    rw [addTags]
    dsimp only
    have hrest : c.OnlyDisturbs (c.step (fun _ => StoreFailure.sql)
        (Contents.insertTag id tag ordinal) >>= fun _ => addTags c id (ordinal + 1) tags) :=
      (Connection.OnlyDisturbs.step _ _).bind fun _ => ih _
    split
    · exact (Connection.OnlyDisturbs.throw _).bind fun _ => hrest
    · exact hrest

/-- **A document is written** over the one with its identifier, or it is added. -/
theorem writeDocument_eq_ok {p : Pending} {g : Filed} {r : Records} {s s' : σ}
    {db db' : Contents} (hdb : db.Holds r) (hg : g.document = p.document)
    (htime : g.createdAt = g.updatedAt)
    (h : writeDocument c p g.updatedAt (s, db) = (.ok (), (s', db'))) :
    (p.isUpdate = true ∧ (∃ f ∈ r.documents, f.document.id = g.document.id)
        ∧ db' = { db with documents := .rows ((r.rewrite g).documents.map Filed.row) })
      ∨ ∃ admits : r.Admits g,
        db' = { db with documents := .rows ((r.add g admits).documents.map Filed.row) } := by
  have hinsert {s₁ : σ} (hstep : c.step (insertFailure .instruction) (Contents.insertDocument
      g.document g.document.instruction.text g.updatedAt) (s₁, db) = (.ok (), (s', db'))) :
      ∃ admits : r.Admits g,
        db' = { db with documents := .rows ((r.add g admits).documents.map Filed.row) } :=
    (Contents.insertDocument_eq_ok_iff hdb htime).1 (Connection.step_eq_ok hstep)
  unfold writeDocument at h
  dsimp only at h
  rw [← hg] at h
  cases hupdate : p.isUpdate with
  | false =>
    rw [hupdate, if_neg Bool.false_ne_true] at h
    exact .inr (hinsert h)
  | true =>
    rw [hupdate, if_pos rfl, Task.bind_eq_ok_iff] at h
    obtain ⟨updated, ⟨s₁, db₁⟩, hupdated, h⟩ := h
    have heq := Connection.step_eq_ok hupdated
    rw [Contents.updateBody_eq hdb] at heq
    cases heq
    split at h
    case isTrue hnone =>
      -- nothing was there to write over, so the tables are as before
      have hne : ∀ f ∈ r.documents, f.document.id ≠ g.document.id := fun f hf hid =>
        List.countP_eq_zero.1 hnone f hf (decide_eq_true hid)
      rw [Records.documents_rewrite_of_forall_ne hne, ← hdb.documents] at h
      exact .inr (hinsert h)
    case isFalse hsome =>
      cases h
      obtain ⟨f, hf, hid⟩ := List.countP_pos_iff.1 (Nat.pos_of_ne_zero hsome)
      exact .inl ⟨rfl, ⟨f, hf, of_decide_eq_true hid⟩, rfl⟩

theorem writeDocument_onlyDisturbs (p : Pending) (now : Int64) :
    c.OnlyDisturbs (writeDocument c p now) := by
  unfold writeDocument
  dsimp only
  split
  · refine (Connection.OnlyDisturbs.step _ _).bind fun updated => ?_
    split
    · exact .step _ _
    · exact .pure _
  · exact .step _ _

/-- What the last step does in its transaction, at a given time. -/
def record (c : Connection σ) (p : Pending) (now : Int64) : Transaction σ StoreFailure Unit := do
  writeDocument c p now
  c.step (fun _ => .sql) (Contents.removeTags p.document.id)
  addTags c p.document.id 0 p.document.tags

theorem persist_apply (p : Pending) (s : σ) :
    persist c p s = c.transact .sql (record c p (c.now s)) s := rfl

theorem record_onlyDisturbs (p : Pending) (now : Int64) : c.OnlyDisturbs (record c p now) := by
  unfold record
  refine (writeDocument_onlyDisturbs p now).bind fun _ => ?_
  exact (Connection.OnlyDisturbs.step _ _).bind fun _ => addTags_onlyDisturbs _ _ _

theorem record_isContained (hc : c.IsLawful) (p : Pending) (now : Int64) :
    c.IsContained (record c p now) :=
  (record_onlyDisturbs p now).isContained hc

/-- **The rows after the last step**, with the document written over another one or
added. -/
theorem record_eq_ok {p : Pending} (sound : p.document.IsSound) {r : Records} {now : Int64}
    {s s' : σ} {db db' : Contents} {rows : List TagRow} (hdb : db.Holds r)
    (hrows : db.tags = .rows rows) (hrun : record c p now (s, db) = (.ok (), (s', db'))) :
    ∃ (g : Filed) (r' : Records), db'.Holds r'
      ∧ g.document = p.document ∧ g.createdAt = now ∧ g.updatedAt = now
      ∧ db' = { db with
          documents := .rows (r'.documents.map Filed.row)
          tags := .rows ((rows.filter fun row => row.documentId != .text p.document.id.text)
            ++ p.document.tagRows) }
      ∧ ((p.isUpdate = true ∧ (∃ f ∈ r.documents, f.document.id = p.document.id)
          ∧ r' = r.rewrite g)
        ∨ ∃ admits : r.Admits g, r' = r.add g admits) := by
  unfold record at hrun
  rw [Task.bind_eq_ok_iff] at hrun
  obtain ⟨_, ⟨s₁, db₁⟩, hwrite, hrun⟩ := hrun
  rw [Task.bind_eq_ok_iff] at hrun
  obtain ⟨_, ⟨s₂, db₂⟩, hremove, hadd⟩ := hrun
  obtain ⟨rows₁, hrows₁, rfl⟩ := Contents.removeTags_eq_ok (Connection.step_eq_ok hremove)
  -- that the tags are few enough is known only once they are added
  obtain ⟨rfl, hshort⟩ := addTags_eq_ok rfl (Nat.zero_le _) hadd
  have hkept (documents : List Filed) (heq : db₁ = { db with
      documents := .rows (documents.map Filed.row) }) : rows₁ = rows := by
    rw [heq] at hrows₁
    exact Slot.rows.inj (hrows₁.symm.trans hrows)
  obtain ⟨rows', hrows', hperm⟩ := hdb.tags
  obtain rfl : rows = rows' := Slot.rows.inj (hrows.symm.trans hrows')
  have hfilter := hperm.filter fun row => row.documentId != .text p.document.id.text
  rw [filter_flatMap_tagRows_ne] at hfilter
  let g : Filed := ⟨p.document, now, now, sound, (Nat.zero_add _).ge.trans hshort⟩
  rcases writeDocument_eq_ok (g := g) hdb rfl rfl hwrite with
    ⟨hupdate, ⟨f, hf, hid⟩, rfl⟩ | ⟨admits, rfl⟩
  · obtain rfl := hkept _ rfl
    refine ⟨g, r.rewrite g, ⟨hdb.accounts, rfl, _, rfl, ?_⟩, rfl, rfl, rfl, rfl,
      .inl ⟨hupdate, ⟨f, hf, hid⟩, rfl⟩⟩
    exact (hfilter.append_right _).trans (tagRows_rewrite_perm hf hid)
  · obtain rfl := hkept _ rfl
    refine ⟨g, r.add g admits, ⟨hdb.accounts, rfl, _, rfl, ?_⟩, rfl, rfl, rfl, rfl,
      .inr ⟨admits, rfl⟩⟩
    have hothers : (r.documents.filter fun f => f.document.id ≠ p.document.id) = r.documents :=
      List.filter_eq_self.2 fun f hf => decide_eq_true (admits f hf).1
    rw [hothers] at hfilter
    unfold Records.add
    rw [List.flatMap_append, List.flatMap_singleton]
    exact hfilter.append_right _

/-- **What the last step can do**: fail and change nothing, or leave the rows for the
records with the document written over another one or added. -/
theorem persist_cases (hc : c.IsLawful) {p : Pending} (sound : p.document.IsSound)
    {r : Records} {s : σ} {db : Contents} {rows : List TagRow} (hs : c.contents s = some db)
    (hdb : db.Holds r) (hrows : db.tags = .rows rows) :
    (∃ e, (persist c p s).1 = .error e ∧ c.contents (persist c p s).2 = some db)
      ∨ ∃ (g : Filed) (r' : Records) (db' : Contents), (persist c p s).1 = .ok ()
        ∧ c.contents (persist c p s).2 = some db' ∧ db'.Holds r'
        ∧ g.document = p.document ∧ g.createdAt = c.now s ∧ g.updatedAt = c.now s
        ∧ db' = { db with
            documents := .rows (r'.documents.map Filed.row)
            tags := .rows ((rows.filter fun row => row.documentId != .text p.document.id.text)
              ++ p.document.tagRows) }
        ∧ ((p.isUpdate = true ∧ (∃ f ∈ r.documents, f.document.id = p.document.id)
            ∧ r' = r.rewrite g)
          ∨ ∃ admits : r.Admits g, r' = r.add g admits) := by
  rw [persist_apply]
  refine (Connection.transact_cases hc _ (record_isContained hc p _) hs).imp_right ?_
  rintro ⟨_, s', db', hrun, hok, hcontents⟩
  obtain ⟨g, r', hdb', hrest⟩ := record_eq_ok sound hdb hrows hrun
  exact ⟨g, r', db', hok, hcontents, hdb', hrest⟩

/-- The last step leaves alone what work with the database does. -/
theorem persist_keeps {τ : Type} {view : σ → τ} (h : c.WorksPast view) (p : Pending) :
    (persist c p).Keeps view :=
  Task.Keeps.get.bind fun _ => h.transact _ (record_onlyDisturbs p _)

/-! ## A whole save -/

/-- **The course of a save**, by how far it comes. -/
inductive Course (c : Connection σ) (history : VersionHistory σ) (owner : Account)
    (request : SaveRequest) (s : σ) : Except StoreFailure Document → σ → Prop
  /-- The first step fails. -/
  | refused {e : StoreFailure} {s' : σ} (refuses : prepare c owner request s = (.error e, s')) :
    Course c history owner request s (.error e) s'
  /-- The history fails. -/
  | uncommitted {p : Pending} {before s' : σ} {failure : HistoryFailure}
    (prepared : prepare c owner request s = (.ok p, before))
    (fails : history p.key p.document.instruction p.author before = (.error failure, s')) :
    Course c history owner request s (.error (.database (.history failure))) s'
  /-- The last step fails. -/
  | unrecorded {p : Pending} {before after s' : σ} {id : CommitId} {e : StoreFailure}
    (prepared : prepare c owner request s = (.ok p, before))
    (commits : history p.key p.document.instruction p.author before = (.ok id, after))
    (fails : persist c p after = (.error e, s')) : Course c history owner request s (.error e) s'
  /-- The document is saved. -/
  | recorded {p : Pending} {before after s' : σ} {id : CommitId}
    (prepared : prepare c owner request s = (.ok p, before))
    (commits : history p.key p.document.instruction p.author before = (.ok id, after))
    (persists : persist c p after = (.ok (), s')) :
    Course c history owner request s (.ok p.document) s'

/-- **A save takes one of four courses.** -/
theorem course_of_save {history : VersionHistory σ} {owner : Account} {request : SaveRequest}
    {s s' : σ} {result : Except StoreFailure Document}
    (h : save c history owner request s = (result, s')) :
    Course c history owner request s result s' := by
  unfold save at h
  rw [Task.bind_apply] at h
  rcases hprepare : prepare c owner request s with ⟨e | p, before⟩ <;> rw [hprepare] at h
  · cases h
    exact .refused hprepare
  · dsimp only at h
    rw [Task.bind_apply] at h
    unfold Task.mapError at h
    rcases hcommit : history p.key p.document.instruction p.author before with
      ⟨failure | id, after⟩ <;> rw [hcommit] at h
    · cases h
      exact .uncommitted hprepare hcommit
    · dsimp only at h
      rw [Task.bind_apply] at h
      rcases hpersist : persist c p after with ⟨e | _, s₃⟩ <;> rw [hpersist] at h <;> cases h
      · exact .unrecorded hprepare hcommit hpersist
      · exact .recorded hprepare hcommit hpersist

/-- **A property of states is in force after a save**, however far it comes, if it is after the
first step and the other two steps keep it. -/
theorem save_preserves {I : σ → Prop} {history : VersionHistory σ} {owner : Account}
    {request : SaveRequest} {s : σ} (prepares : I (prepare c owner request s).2)
    (commits : ∀ {p before}, prepare c owner request s = (.ok p, before) → I before →
      I (history p.key p.document.instruction p.author before).2)
    (persists : ∀ {p before after}, prepare c owner request s = (.ok p, before) → I after →
      I (persist c p after).2) :
    I (save c history owner request s).2 := by
  have hanswered {p : Pending} {before after : σ} {answer : Except HistoryFailure CommitId}
      (hprepare : prepare c owner request s = (.ok p, before))
      (hcommit : history p.key p.document.instruction p.author before = (answer, after)) :
      I after := by
    rw [hprepare] at prepares
    have hafter := commits hprepare prepares
    rwa [hcommit] at hafter
  rcases hrun : save c history owner request s with ⟨result, s'⟩
  cases course_of_save hrun with
  | refused refuses => rwa [refuses] at prepares
  | uncommitted prepared fails => exact hanswered prepared fails
  | unrecorded prepared commits fails =>
    have hpersist := persists prepared (hanswered prepared commits)
    rwa [fails] at hpersist
  | recorded prepared commits persisted =>
    have hpersist := persists prepared (hanswered prepared commits)
    rwa [persisted] at hpersist

end Store

end InstructionStore
