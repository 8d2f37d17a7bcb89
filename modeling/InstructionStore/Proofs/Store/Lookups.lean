import InstructionStore.Proofs.Store.Records

/-!
# What is looked up in a store

Every lookup is told by what the tables stand for. A text finds the account that
has it as its name or its email address (`Contents.findAccount_eq`), an owner and a
name find a document (`Contents.findDocument_eq`), and an owner's documents are
listed in the order of their keys (`Contents.documentsOf_eq`), all of them or those
with a tag (`Contents.documentsTagged_eq`). No lookup fails.

What comes out of the database is a document whose instruction was read again from
its text: `Document.reread`. It is the document itself where there are no floats in
it.
-/

namespace InstructionStore

open Database

/-! ## Reading again -/

/-- The instruction that the text of an instruction is read as. -/
def Instruction.reread (i : Instruction) : Instruction :=
  match ofText i.text with
  | .ok j => j
  | .error _ => i

/-- A document as it is read from its row. -/
def Document.reread (d : Document) : Document := { d with instruction := d.instruction.reread }

/-- **An accepted instruction is accepted again**, and it differs in floats at
most. -/
theorem Instruction.IsAccepted.reread_spec {i : Instruction} (h : i.IsAccepted) :
    ofText i.text = .ok i.reread ∧ Json.Resembles i.toJson i.reread.toJson := by
  obtain ⟨j, hread, hresembles, -⟩ := exists_ofText_text h
  have hj : i.reread = j := by
    unfold Instruction.reread
    rw [hread]
  exact hj ▸ ⟨hread, hresembles⟩

theorem Instruction.IsAccepted.reread_eq {i : Instruction} (h : i.IsAccepted)
    (hfree : Json.IsFloatFree i.toJson) : i.reread = i := by
  have hread := h.reread_spec.1
  rw [ofText_text h hfree] at hread
  exact (Except.ok.inj hread).symm

/-- A document on file without floats is read as it is. -/
theorem Filed.reread_eq (f : Filed) (hfree : Json.IsFloatFree f.document.instruction.toJson) :
    f.document.reread = f.document := by
  unfold Document.reread
  rw [f.sound.accepted.reread_eq hfree]

/-! ## Accounts -/

/-- The account a text stands for. -/
def Records.owner (r : Records) (needle : String) : Option Account :=
  r.accounts.find? fun a =>
    (if needle.toList.contains '@' then a.email else a.name.text) = needle

theorem Records.owner_name {r : Records} {a : Account} (ha : a ∈ r.accounts) :
    r.owner a.name.text = some a := by
  have hat : a.name.text.toList.contains '@' = false := by
    rw [← Bool.not_eq_true, List.contains_iff_mem]
    exact a.name.at_not_mem
  unfold Records.owner
  simp only [hat, Bool.false_eq_true, if_false]
  rw [← find?_eq_some_of_nodup r.names_nodup ha]
  exact congrArg (fun p => List.find? p _)
    (funext fun b => decide_eq_decide.2 Identifier.text_inj)

theorem Records.owner_email {r : Records} {a : Account} (ha : a ∈ r.accounts) :
    r.owner a.email = some a := by
  have hat : a.email.toList.contains '@' = true :=
    List.contains_iff_mem.2 (at_mem_of_isEmail (r.live a ha).email)
  unfold Records.owner
  simp only [hat, if_true]
  exact find?_eq_some_of_nodup r.emails_nodup ha

namespace Database

theorem readTable_rows {Row : Type} {slot : Slot Row} {rows : List Row} (h : slot = .rows rows) :
    readTable slot = .ok rows := by
  rw [h]
  rfl

@[simp] theorem readCell_some {α : Type} (a : α) : readCell (some a) = .ok a := rfl

@[simp] theorem checkCell_ok {α δ : Type} (defect : δ → RowDefect) (a : α) :
    checkCell defect (.ok a) = .ok a := rfl

/-- The row of a live account stands for the account. -/
theorem AccountRow.account_ofAccount {a : Account} (h : a.IsLive) :
    (AccountRow.ofAccount a).account = .ok a := by
  unfold AccountRow.account AccountRow.ofAccount
  simp only [Cell.text?_text, Cell.optionalText?_ofOptional, Cell.integer?_integer, readCell_some,
    AccountId.ofString_eq_ok_iff.2 ⟨h.id, rfl⟩, Identifier.ofString_text, checkCell_ok,
    Outcome.ok_bind, Outcome.pure_eq]
  rw [← h.deleted]

namespace Contents

variable {db : Contents} {r : Records}

theorem accountWhere_eq (h : db.Holds r) (fits : AccountRow → Bool) :
    db.accountWhere fits = .ok (r.accounts.find? fun a => fits (.ofAccount a)) := by
  unfold accountWhere
  rw [readTable_rows h.accounts, Outcome.ok_bind, List.find?_map]
  show _ = Except.ok (r.accounts.find? (fits ∘ AccountRow.ofAccount))
  cases hfind : r.accounts.find? (fits ∘ AccountRow.ofAccount) with
  | none => rfl
  | some a =>
    have hlive := r.live a (List.mem_of_find?_eq_some hfind)
    show ((AccountRow.ofAccount a).account >>= fun a => pure (some a)) = .ok (some a)
    rw [AccountRow.account_ofAccount hlive]
    rfl

/-- **The live account of an identifier** is the one that has it. -/
theorem getAccount_eq_some_iff (h : db.Holds r) {id : AccountId} {a : Account} :
    db.getAccount id = .ok (some a) ↔ a ∈ r.accounts ∧ a.id = id := by
  unfold getAccount
  rw [accountWhere_eq h, Except.ok.injEq]
  constructor
  · intro hfind
    refine ⟨List.mem_of_find?_eq_some hfind, ?_⟩
    have hid := List.find?_some hfind
    exact AccountId.cell_inj.1 (of_decide_eq_true hid)
  · rintro ⟨ha, rfl⟩
    rw [← find?_eq_some_of_nodup r.ids_nodup ha]
    exact congrArg (fun p => List.find? p _)
      (funext fun b => decide_eq_decide.2 AccountId.cell_inj)

/-- **A text finds the account it stands for.** -/
theorem findAccount_eq (h : db.Holds r) (needle : String) :
    db.findAccount needle = .ok (r.owner needle) := by
  unfold findAccount Records.owner
  rw [accountWhere_eq h]
  refine congrArg (fun p => Except.ok (List.find? p _)) (funext fun a => decide_eq_decide.2 ?_)
  unfold AccountRow.ofAccount
  cases needle.toList.contains '@' <;> exact Cell.text.injEq _ _ ▸ Iff.rfl

end Contents

end Database

/-! ## Tags -/

theorem documentId_of_mem_tagRowsFrom {id : InstructionId} {ordinal : Nat}
    {tags : List Identifier} {row : TagRow} (h : row ∈ tagRowsFrom id ordinal tags) :
    row.documentId = .text id.text := by
  induction tags generalizing ordinal with
  | nil => exact nomatch h
  | cons tag tags ih =>
    rcases List.mem_cons.1 h with rfl | hmem
    · rfl
    · exact ih hmem

/-- The rows of tags of one identifier are the rows of the document that has it. -/
theorem filter_flatMap_tagRows {fs : List Filed} (h : (fs.map fun f => f.document.id).Nodup)
    {f : Filed} (hf : f ∈ fs) :
    ((fs.flatMap fun f => f.document.tagRows).filter fun row =>
      row.documentId = .text f.document.id.text) = f.document.tagRows := by
  have hself : (f.document.tagRows.filter fun row => row.documentId = .text f.document.id.text)
      = f.document.tagRows :=
    List.filter_eq_self.2 fun row hrow => decide_eq_true (documentId_of_mem_tagRowsFrom hrow)
  have hother {g : Filed} (hg : g.document.id ≠ f.document.id) :
      (g.document.tagRows.filter fun row => row.documentId = .text f.document.id.text) = [] := by
    rw [List.filter_eq_nil_iff]
    intro row hrow
    rw [documentId_of_mem_tagRowsFrom hrow, decide_eq_true_eq, InstructionId.cell_inj]
    exact hg
  obtain ⟨before, after, rfl, hbefore, hafter⟩ := exists_split_of_nodup h hf
  rw [List.filter_flatMap, List.flatMap_append, List.flatMap_cons, hself,
    List.flatMap_eq_nil_iff.2 fun g hg => hother (hbefore g hg),
    List.flatMap_eq_nil_iff.2 fun g hg => hother (hafter g hg), List.append_nil, List.nil_append]

/-- The rows of the tags of a document stand in the order of their places. -/
theorem pairwise_tagRowsFrom {id : InstructionId} {tags : List Identifier} {ordinal : Nat}
    (h : ordinal + tags.length ≤ 2 ^ 63) :
    (tagRowsFrom id ordinal tags).Pairwise fun a b =>
      Cell.lePair (a.ordinal, a.tag) (b.ordinal, b.tag) = true := by
  -- every later place is greater, so the tags themselves never count
  have hlt {tags : List Identifier} {first later : Nat} (hlater : first < later)
      (hfits : later + tags.length ≤ 2 ^ 63) {row : TagRow}
      (hrow : row ∈ tagRowsFrom id later tags) (cell : Cell) :
      Cell.lePair (.integer (.ofNat first), cell) (row.ordinal, row.tag) = true := by
    induction tags generalizing later with
    | nil => exact nomatch hrow
    | cons tag tags ih =>
      rw [List.length_cons] at hfits
      rcases List.mem_cons.1 hrow with rfl | hmem
      · have hne : Int64.ofNat first ≠ .ofNat later := by
          intro heq
          have hint := congrArg Int64.toInt heq
          rw [Int64.toInt_ofNat_of_lt (by omega), Int64.toInt_ofNat_of_lt (by omega)] at hint
          omega
        unfold Cell.lePair
        rw [if_neg (fun heq => hne (Cell.integer.inj heq))]
        exact decide_eq_true ((Int64.ofNat_le_iff_le (by omega) (by omega)).2 hlater.le)
      · exact ih (Nat.lt_succ_of_lt hlater) (by omega) hmem
  induction tags generalizing ordinal with
  | nil => exact List.Pairwise.nil
  | cons tag tags ih =>
    rw [List.length_cons] at h
    refine List.Pairwise.cons (fun row hrow => ?_) (ih (by omega))
    exact hlt (Nat.lt_succ_self ordinal) (by omega) hrow _

theorem mapM_tagRowsFrom (id : InstructionId) (tags : List Identifier) (ordinal : Nat) :
    ((tagRowsFrom id ordinal tags).mapM fun row => readCell row.tag.text?)
      = .ok (tags.map Identifier.text) := by
  induction tags generalizing ordinal with
  | nil => rfl
  | cons tag tags ih =>
    unfold tagRowsFrom
    rw [List.mapM_cons, ih]
    rfl

/-! ## Documents -/

/-- What the documents of a list are sorted by. -/
def Filed.key (f : Filed) : Cell × Cell := (.integer f.createdAt, .text f.document.name.text)

/-- The document of an account and a name. -/
def Records.filed (r : Records) (creatorId : AccountId) (name : String) : Option Filed :=
  r.documents.find? fun f => f.document.creatorId = creatorId && f.document.name.text = name

/-- The documents of an account, in their order. -/
def Records.filedBy (r : Records) (creatorId : AccountId) : List Filed :=
  (r.documents.filter fun f => f.document.creatorId = creatorId).mergeSort fun f g =>
    Cell.lePair f.key g.key

theorem Records.filed_eq_some_iff {r : Records} {creatorId : AccountId} {name : String}
    {f : Filed} :
    r.filed creatorId name = some f
      ↔ f ∈ r.documents ∧ f.document.creatorId = creatorId ∧ f.document.name.text = name := by
  unfold Records.filed
  constructor
  · intro hfind
    have hfits := List.find?_some hfind
    rw [Bool.and_eq_true, decide_eq_true_eq, decide_eq_true_eq] at hfits
    exact ⟨List.mem_of_find?_eq_some hfind, hfits⟩
  · rintro ⟨hf, rfl, rfl⟩
    rw [← find?_eq_some_of_nodup r.slots_nodup hf]
    refine congrArg (fun p => List.find? p _) (funext fun g => ?_)
    rw [← Bool.decide_and, decide_eq_decide, Prod.mk.injEq]
    exact and_congr_right fun _ => Identifier.text_inj

theorem Records.mem_filedBy {r : Records} {id : AccountId} {f : Filed} :
    f ∈ r.filedBy id ↔ f ∈ r.documents ∧ f.document.creatorId = id := by
  unfold filedBy
  rw [(List.mergeSort_perm _ _).mem_iff, List.mem_filter, decide_eq_true_eq]

/-- What documents are sorted by tells those of one account apart. -/
theorem Records.eq_of_key_eq {r : Records} {id : AccountId} {e f : Filed}
    (he : e ∈ r.filedBy id) (hf : f ∈ r.filedBy id) (hkey : e.key = f.key) : e = f := by
  obtain ⟨he, hcreator⟩ := mem_filedBy.1 he
  obtain ⟨hf, hcreator'⟩ := mem_filedBy.1 hf
  have hname : e.document.name = f.document.name :=
    Identifier.text_inj.1 (Cell.text.inj (congrArg Prod.snd hkey))
  exact eq_of_nodup r.slots_nodup he hf (Prod.ext (hcreator.trans hcreator'.symm) hname)

theorem checkCell_mapM_text (tags : List Identifier) :
    ((tags.map Identifier.text).mapM fun tag => checkCell .tag (Identifier.ofString tag))
      = .ok tags := by
  induction tags with
  | nil => rfl
  | cons tag tags ih =>
    rw [List.map_cons, List.mapM_cons, ih, Identifier.ofString_text]
    rfl

namespace Database.Contents

variable {db : Contents} {r : Records}

/-- The rows with the tags of a document. -/
theorem filter_tags_perm (h : db.Holds r) {rows : List TagRow} (hrows : db.tags = .rows rows)
    {f : Filed} (hf : f ∈ r.documents) :
    (rows.filter fun row => row.documentId = .text f.document.id.text).Perm
      f.document.tagRows := by
  obtain ⟨rows', hrows', hperm⟩ := h.tags
  obtain rfl := Slot.rows.inj (hrows.symm.trans hrows')
  have hfilter := hperm.filter fun row => row.documentId = .text f.document.id.text
  rwa [filter_flatMap_tagRows r.documentIds_nodup hf] at hfilter

/-- **The tags of a document** come out in their order. -/
theorem tagTexts_eq (h : db.Holds r) {f : Filed} (hf : f ∈ r.documents) :
    db.tagTexts f.document.id.text = .ok f.document.tagTexts := by
  obtain ⟨rows, hrows, -⟩ := h.tags
  have hfilter := filter_tags_perm h hrows hf
  have hsorted : ((rows.filter fun row => row.documentId = .text f.document.id.text).mergeSort
      fun a b => Cell.lePair (a.ordinal, a.tag) (b.ordinal, b.tag)) = f.document.tagRows := by
    refine mergeSort_eq_of_perm (fun row : TagRow => (row.ordinal, row.tag)) hfilter ?_
      (pairwise_tagRowsFrom ((Nat.zero_add _).le.trans f.tags_short))
    intro a ha b hb heq
    have hid := (documentId_of_mem_tagRowsFrom ha).trans (documentId_of_mem_tagRowsFrom hb).symm
    cases a
    cases b
    cases hid
    cases heq
    rfl
  unfold tagTexts
  rw [readTable_rows hrows, Outcome.ok_bind]
  dsimp only
  rw [hsorted]
  exact mapM_tagRowsFrom f.document.id f.document.tags 0

/-- **The row of a document stands for the document**, read again. -/
theorem document_row (h : db.Holds r) {f : Filed} (hf : f ∈ r.documents) :
    db.document f.row = .ok f.document.reread := by
  unfold document Filed.row Document.row
  simp only [Cell.text?_text, readCell_some, Outcome.ok_bind, f.sound.accepted.reread_spec.1,
    checkCell_ok, tagTexts_eq h hf, Document.tagTexts, checkCell_mapM_text,
    InstructionId.ofString_eq_ok_iff.2 ⟨f.sound.id, rfl⟩,
    AccountId.ofString_eq_ok_iff.2 ⟨f.sound.creatorId, rfl⟩, Identifier.ofString_text]
  rfl

theorem documentRow_eq (h : db.Holds r) (creatorId : AccountId) (name : String) :
    db.documentRow creatorId name = .ok ((r.filed creatorId name).map Filed.row) := by
  unfold documentRow Records.filed
  rw [readTable_rows h.documents, Outcome.ok_bind, List.find?_map]
  refine congrArg (fun p => Except.ok (Option.map _ (List.find? p _))) (funext fun f => ?_)
  refine congrArg₂ and (decide_eq_decide.2 AccountId.cell_inj) (decide_eq_decide.2 ?_)
  exact Cell.text.injEq _ _ ▸ Iff.rfl

/-- **A document is found by its owner and its name.** -/
theorem findDocument_eq (h : db.Holds r) (owner name : String) :
    db.findDocument owner name = .ok ((r.owner owner).bind fun a =>
      (r.filed a.id name).map fun f => f.document.reread) := by
  unfold findDocument forOwner
  rw [findAccount_eq h, Outcome.ok_bind]
  cases r.owner owner with
  | none => rfl
  | some a =>
    dsimp only [Option.bind_some]
    rw [documentRow_eq h, Outcome.ok_bind]
    cases hfiled : r.filed a.id name with
    | none => rfl
    | some f =>
      dsimp only [Option.map_some]
      rw [document_row h (List.mem_of_find?_eq_some hfiled)]
      rfl

/-- The documents of several rows. -/
theorem mapM_document (h : db.Holds r) {fs : List Filed} (hfs : ∀ f ∈ fs, f ∈ r.documents) :
    (fs.map Filed.row).mapM db.document = .ok (fs.map fun f => f.document.reread) := by
  induction fs with
  | nil => rfl
  | cons f fs ih =>
    rw [List.forall_mem_cons] at hfs
    rw [List.map_cons, List.mapM_cons, document_row h hfs.1, Outcome.ok_bind, ih hfs.2]
    rfl

/-- The documents of the rows that fit are listed in their order. -/
theorem documentsWhere_eq (h : db.Holds r) (fits : DocumentRow → Bool) :
    db.documentsWhere fits = .ok (((r.documents.filter fun f => fits f.row).mergeSort
      fun f g => Cell.lePair f.key g.key).map fun f => f.document.reread) := by
  -- the rows are sorted by the cells of what the documents are sorted by
  have hrows : ((r.documents.map Filed.row).filter fits).mergeSort
        (fun a b => Cell.lePair (a.createdAt, a.name) (b.createdAt, b.name))
      = ((r.documents.filter fun f => fits f.row).mergeSort
        fun f g => Cell.lePair f.key g.key).map Filed.row := by
    rw [List.map_mergeSort (r := fun f g => Cell.lePair f.key g.key) (f := Filed.row)
      (s := fun a b => Cell.lePair (a.createdAt, a.name) (b.createdAt, b.name))
      (fun f _ g _ => rfl), List.filter_map]
    rfl
  unfold documentsWhere
  rw [readTable_rows h.documents, Outcome.ok_bind]
  dsimp only
  rw [hrows, mapM_document h]
  intro f hf
  exact (List.mem_filter.1 ((List.mergeSort_perm _ _).mem_iff.1 hf)).1

/-- **The documents of an owner are listed in their order.** -/
theorem documentsOf_eq (h : db.Holds r) (owner : String) :
    db.documentsOf owner = .ok ((r.owner owner).map fun a =>
      (r.filedBy a.id).map fun f => f.document.reread) := by
  unfold documentsOf forOwner
  rw [findAccount_eq h, Outcome.ok_bind]
  cases r.owner owner with
  | none => rfl
  | some a =>
    have hfits (f : Filed) : decide (f.row.creatorId = .text a.id.text)
        = decide (f.document.creatorId = a.id) := decide_eq_decide.2 AccountId.cell_inj
    dsimp only [Option.map_some]
    rw [documentsWhere_eq h]
    simp only [hfits]
    rfl

/-- The rows of tags tell which documents have a tag. -/
theorem any_tags_eq (h : db.Holds r) {rows : List TagRow} (hrows : db.tags = .rows rows)
    {f : Filed} (hf : f ∈ r.documents) (tag : String) :
    (rows.any fun t => t.documentId = f.row.id && t.tag = .text tag) = f.document.hasTag tag := by
  have hfrom (ordinal : Nat) (tags : List Identifier) :
      ((tagRowsFrom f.document.id ordinal tags).any fun t => t.tag = .text tag)
        = tags.any fun t => t.text = tag := by
    induction tags generalizing ordinal with
    | nil => rfl
    | cons t tags ih =>
      rw [tagRowsFrom, List.any_cons, List.any_cons, ih]
      exact congrArg (· || _) (decide_eq_decide.2 (Cell.text.injEq _ _ ▸ Iff.rfl))
  rw [← List.any_filter]
  exact (filter_tags_perm h hrows hf).any_eq.trans (hfrom 0 f.document.tags)

/-- **The documents of an owner that have a tag** are those of all in the list that
have it. -/
theorem documentsTagged_eq (h : db.Holds r) (owner tag : String) :
    db.documentsTagged owner tag = .ok ((r.owner owner).map fun a =>
      ((r.filedBy a.id).filter fun f => f.document.hasTag tag).map
        fun f => f.document.reread) := by
  obtain ⟨rows, hrows, -⟩ := h.tags
  unfold documentsTagged forOwner
  rw [findAccount_eq h, Outcome.ok_bind]
  cases r.owner owner with
  | none => rfl
  | some a =>
    have hfits : ∀ f ∈ r.documents, (decide (f.row.creatorId = .text a.id.text)
        && f.row.id != .null && rows.any fun t => t.documentId = f.row.id && t.tag = .text tag)
        = (f.document.hasTag tag && decide (f.document.creatorId = a.id)) := by
      intro f hf
      rw [any_tags_eq h hrows hf, bne_iff_ne.2 (by exact nofun), Bool.and_true, Bool.and_comm]
      exact congrArg (_ && ·) (decide_eq_decide.2 AccountId.cell_inj)
    dsimp only [Option.map_some]
    rw [readTable_rows hrows, Outcome.ok_bind, documentsWhere_eq h, List.filter_congr hfits]
    refine congrArg (fun fs : List Filed =>
      Except.ok (some (fs.map fun f => f.document.reread))) ?_
    refine mergeSort_eq_of_perm Filed.key ?_ (fun e he f hf hkey => ?_)
      ((pairwise_mergeSort_lePair Filed.key _).filter _)
    · rw [← List.filter_filter]
      exact (List.mergeSort_perm _ _).symm.filter _
    · exact Records.eq_of_key_eq (List.mem_filter.1 he).1 (List.mem_filter.1 hf).1 hkey

/-- The identifier of the document of an account and a name. -/
theorem existingId_eq (h : db.Holds r) (creatorId : AccountId) (name : Identifier) :
    db.existingId creatorId name
      = .ok ((r.filed creatorId name.text).map fun f => f.document.id) := by
  unfold existingId
  rw [documentRow_eq h, Outcome.ok_bind]
  cases r.filed creatorId name.text with
  | none => rfl
  | some f =>
    show (readCell (some f.document.id.text) >>= fun id => do
      return some (← checkCell .opaqueId (InstructionId.ofString id))) = _
    rw [readCell_some, Outcome.ok_bind, InstructionId.ofString_eq_ok_iff.2 ⟨f.sound.id, rfl⟩]
    rfl

end Database.Contents

end InstructionStore
