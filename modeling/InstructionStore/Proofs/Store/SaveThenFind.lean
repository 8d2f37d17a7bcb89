import InstructionStore.Proofs.Store.Reachability
import InstructionStore.Proofs.Store.World

/-!
# Saving and finding

**What was saved is found again, and nothing else is disturbed**
(`Store.isSaved_of_save`). The store may be in any state it can be in, the
database may refuse statements as it likes, and the history may be any that leaves
the records alone. All that is asked of the request is that there are no floats in
it, since a float can be read as another one than was written.

A document that takes the place of another one keeps its identifier, the time it was
first saved and its place among the documents of its owner. A new document comes
between those that were there.
-/

namespace InstructionStore

open Database

/-! ## The documents of an owner after a save -/

namespace Records

variable {r : Records} {g : Filed}

theorem filedBy_nodup (r : Records) (id : AccountId) :
    ((r.filedBy id).map fun f => f.document.id).Nodup :=
  ((List.mergeSort_perm _ _).map _).nodup_iff.2 (nodup_map_filter _ r.documentIds_nodup)

/-- A document that is written over keeps its place. -/
theorem filedBy_rewrite (r : Records) (g : Filed) (id : AccountId) :
    (r.rewrite g).filedBy id = (r.filedBy id).map g.rewrite := by
  unfold filedBy rewrite
  rw [List.map_mergeSort (f := g.rewrite) (r := fun e f : Filed => Cell.lePair e.key f.key)
    (s := fun e f : Filed => Cell.lePair e.key f.key), List.filter_map]
  · refine congrArg (fun p => ((r.documents.filter p).map g.rewrite).mergeSort _)
      (funext fun f => ?_)
    show decide ((g.rewrite f).document.creatorId = id) = _
    rw [(g.rewrite_frame f).2.1]
  · intro e _ f _
    obtain ⟨-, -, hname, htime⟩ := g.rewrite_frame e
    obtain ⟨-, -, hname', htime'⟩ := g.rewrite_frame f
    unfold Filed.key
    rw [hname, htime, hname', htime']

/-- Only the document that is written over is another one afterwards. -/
theorem exists_filedBy_rewrite {f : Filed} (hf : f ∈ r.documents)
    (hid : f.document.id = g.document.id) :
    ∃ before after, r.filedBy f.document.creatorId = before ++ f :: after
      ∧ (r.rewrite g).filedBy f.document.creatorId = before ++ g.rewrite f :: after := by
  obtain ⟨before, after, hsplit, hbefore, hafter⟩ := exists_split_of_nodup
    (r.filedBy_nodup f.document.creatorId) (mem_filedBy.2 ⟨hf, rfl⟩)
  have hothers {fs : List Filed} (h : ∀ e ∈ fs, e.document.id ≠ f.document.id) :
      fs.map g.rewrite = fs :=
    (List.map_congr_left fun e he => Filed.rewrite_of_ne (hid ▸ h e he)).trans (List.map_id fs)
  refine ⟨before, after, hsplit, ?_⟩
  rw [filedBy_rewrite, hsplit, List.map_append, List.map_cons, hothers hbefore, hothers hafter]

/-- A new document comes between those that were there. -/
theorem exists_filedBy_add (admits : r.Admits g) :
    ∃ before after, r.filedBy g.document.creatorId = before ++ after
      ∧ (r.add g admits).filedBy g.document.creatorId = before ++ g :: after := by
  have hmem : g ∈ (r.add g admits).filedBy g.document.creatorId :=
    mem_filedBy.2 ⟨List.mem_append_right _ (List.mem_singleton_self g), rfl⟩
  obtain ⟨before, after, hsplit⟩ := List.append_of_mem hmem
  refine ⟨before, after, ?_, hsplit⟩
  have hsub : (before ++ after).Sublist ((r.add g admits).filedBy g.document.creatorId) := by
    rw [hsplit]
    exact (List.sublist_cons_self g after).append_left before
  have hperm : (r.documents.filter fun f => f.document.creatorId = g.document.creatorId).Perm
      (before ++ after) := by
    have hall : ((r.add g admits).filedBy g.document.creatorId).Perm
        ((r.documents.filter fun f => f.document.creatorId = g.document.creatorId) ++ [g]) := by
      refine (List.mergeSort_perm _ _).trans (List.Perm.of_eq ?_)
      unfold add
      rw [List.filter_append]
      refine congrArg _ (List.filter_eq_self.2 fun f hf => decide_eq_true ?_)
      rw [List.mem_singleton.1 hf]
    rw [hsplit] at hall
    refine List.Perm.cons_inv (a := g) ?_
    exact (List.perm_append_singleton g _).symm.trans (hall.symm.trans List.perm_middle)
  unfold filedBy
  refine mergeSort_eq_of_perm Filed.key hperm (fun e he f hf hkey => ?_)
    ((pairwise_mergeSort_lePair Filed.key _).sublist hsub)
  exact eq_of_key_eq (hsub.subset he) (hsub.subset hf) hkey

end Records

/-! ## Lookups on a state -/

namespace Store

variable {σ : Type} {c : Connection σ} {db db' : Contents} {r : Records}

/-- **What a lookup shows** wherever the database has some contents. It may be refused
for a reason of its own, and changes nothing. -/
def Shows {α : Type} (c : Connection σ) (db : Contents) (look : Task σ StoreFailure α) (a : α) :
    Prop :=
  ∀ s, c.contents s = some db →
    look s = (if (c.disturbed s).1 then .error .sql else .ok a, (c.disturbed s).2)

theorem shows_lookUp {α : Type} (hc : c.IsLawful) {look : Contents → Except DatabaseFailure α}
    {a : α} (h : look db = .ok a) : Shows c db (lookUp c look) a := by
  intro s hs
  unfold lookUp
  rw [Connection.query_apply hc _ _ hs, h]

/-- An account finds its documents by its name and by its email address. -/
theorem shows_findDocument (hc : c.IsLawful) (hdb : db.Holds r) {a : Account} {owner : String}
    (howner : r.owner owner = some a) (name : String) :
    Shows c db (findDocument c owner name)
      ((r.filed a.id name).map fun f => f.document.reread) := by
  refine shows_lookUp hc ?_
  rw [Contents.findDocument_eq hdb, howner]
  rfl

/-- An account lists its documents by its name and by its email address. -/
theorem shows_documentsOf (hc : c.IsLawful) (hdb : db.Holds r) {a : Account} {owner : String}
    (howner : r.owner owner = some a) :
    Shows c db (documentsOf c owner)
      (some ((r.filedBy a.id).map fun f => f.document.reread)) := by
  refine shows_lookUp hc ?_
  rw [Contents.documentsOf_eq hdb, howner]
  rfl

/-! ## What a save comes to -/

/-- The texts that stand for an account. -/
def namesOf (a : Account) : List String := [a.name.text, a.email]

theorem owner_eq_of_mem_namesOf {a : Account} (ha : a ∈ r.accounts) {owner : String}
    (howner : owner ∈ namesOf a) : r.owner owner = some a := by
  rcases List.mem_pair.1 howner with rfl | rfl
  · exact Records.owner_name ha
  · exact Records.owner_email ha

/-- **A document is written over another one.** It has the identifier of that and takes
its place; of its row, the instruction and the time it was last saved are replaced. -/
structure Replaces (c : Connection σ) (a : Account) (db db' : Contents) (old d : Document) :
    Prop where
  /-- The other document was found under the name. -/
  found : ∀ owner ∈ namesOf a, Shows c db (findDocument c owner d.name.text) (some old)
  /-- It had the same identifier. -/
  id : d.id = old.id
  /-- No other row is changed, and of its row only two cells are. -/
  rows : ∃ rows now, db.documents = .rows rows
    ∧ db'.documents = .rows (rows.map fun row => if row.id = .text d.id.text
      then { row with body := .text d.instruction.text, updatedAt := .integer now } else row)
  /-- The document takes the place of the other one in the list of its owner. -/
  listed : ∃ before after, ∀ owner ∈ namesOf a,
    Shows c db (documentsOf c owner) (some (before ++ old :: after))
      ∧ Shows c db' (documentsOf c owner) (some (before ++ d :: after))

/-- **A document is new.** It has the identifier that was drawn, and its row comes after
those that were there. -/
structure IsNew (c : Connection σ) (a : Account) (drawn : String) (db db' : Contents)
    (d : Document) : Prop where
  /-- No document was found under the name. -/
  found : ∀ owner ∈ namesOf a, Shows c db (findDocument c owner d.name.text) none
  /-- The identifier was drawn. -/
  id : d.id.text = drawn
  /-- No other row is changed, and none has the identifier. -/
  rows : ∃ rows now, db.documents = .rows rows ∧ (∀ row ∈ rows, row.id ≠ .text d.id.text)
    ∧ db'.documents = .rows (rows ++ [d.row now now])
  /-- The list of its owner has one document more. -/
  listed : ∃ before after, ∀ owner ∈ namesOf a,
    Shows c db (documentsOf c owner) (some (before ++ after))
      ∧ Shows c db' (documentsOf c owner) (some (before ++ d :: after))

/-- **A document is saved as it was asked for**, on behalf of an account. The contents
were `db` before and are `db'` after, and `drawn` is the identifier drawn if there
is one. -/
structure IsSaved (c : Connection σ) (a : Account) (request : SaveRequest) (drawn : String)
    (db db' : Contents) (d : Document) : Prop where
  /-- It is found by the name and by the email address of the account. -/
  found : ∀ owner ∈ namesOf a, Shows c db' (findDocument c owner request.name) (some d)
  /-- It has the name asked for. -/
  name : d.name.text = request.name
  /-- It has the instruction asked for. -/
  instruction : d.instruction.toJson = request.instruction
  /-- It has the tags asked for, each once. -/
  tags : d.tagTexts = request.tags.eraseDups
  /-- The account keeps it. -/
  creatorId : d.creatorId = a.id
  /-- It is written over another one, or it is new. -/
  written : (∃ old, Replaces c a db db' old d) ∨ IsNew c a drawn db db' d
  /-- Its tags take the place of those there were, and no others are changed. -/
  tagRows : ∃ rows, db.tags = .rows rows
    ∧ db'.tags = .rows ((rows.filter fun row => row.documentId != .text d.id.text) ++ d.tagRows)
  /-- All other tables are as before. -/
  rest : { db' with documents := db.documents, tags := db.tags } = db

variable {r' : Records} {a : Account} {f g : Filed}

/-- A document on file that is free of floats is found as it is. -/
theorem shows_filed (hc : c.IsLawful) (hdb : db.Holds r) (ha : a ∈ r.accounts)
    (hf : f ∈ r.documents) (hcreator : f.document.creatorId = a.id)
    (hfree : Json.IsFloatFree f.document.instruction.toJson) {owner : String}
    (howner : owner ∈ namesOf a) :
    Shows c db (findDocument c owner f.document.name.text) (some f.document) := by
  have hshows := shows_findDocument hc hdb (owner_eq_of_mem_namesOf ha howner) f.document.name.text
  rwa [Records.filed_eq_some_iff.2 ⟨hf, hcreator, rfl⟩, Option.map_some, f.reread_eq hfree]
    at hshows

/-- The tables after a document was written over another one. -/
theorem replaces_of_holds (hc : c.IsLawful) (hdb : db.Holds r) (hdb' : db'.Holds (r.rewrite g))
    (ha : a ∈ r.accounts) (hf : f ∈ r.documents) (hcreator : f.document.creatorId = a.id)
    (hg : (g.rewrite f).document = g.document) (hid : f.document.id = g.document.id)
    (hfree : Json.IsFloatFree g.document.instruction.toJson) :
    Replaces c a db db' f.document.reread g.document where
  found := by
    intro owner howner
    have hname : g.document.name = f.document.name := hg ▸ (g.rewrite_frame f).2.2.1
    have hshows := shows_findDocument hc hdb (owner_eq_of_mem_namesOf ha howner)
      f.document.name.text
    rwa [Records.filed_eq_some_iff.2 ⟨hf, hcreator, rfl⟩, ← hname] at hshows
  id := hid.symm
  rows := by
    refine ⟨_, g.updatedAt, hdb.documents, hdb'.documents.trans (congrArg Slot.rows ?_)⟩
    unfold Records.rewrite
    rw [List.map_map, List.map_map]
    exact List.map_congr_left fun f _ => g.row_rewrite f
  listed := by
    obtain ⟨before, after, hbefore, hafter⟩ := Records.exists_filedBy_rewrite hf hid
    rw [hcreator] at hbefore hafter
    refine ⟨before.map fun f => f.document.reread, after.map fun f => f.document.reread,
      fun owner howner => ?_⟩
    have hshows := shows_documentsOf hc hdb (owner_eq_of_mem_namesOf ha howner)
    have hshows' := shows_documentsOf hc hdb' (owner_eq_of_mem_namesOf (r := r.rewrite g) ha howner)
    rw [hbefore, List.map_append, List.map_cons] at hshows
    rw [hafter, List.map_append, List.map_cons, hg, g.reread_eq hfree] at hshows'
    exact ⟨hshows, hshows'⟩

/-- The tables after a new document was added. -/
theorem isNew_of_holds (hc : c.IsLawful) (hdb : db.Holds r) {admits : r.Admits g}
    (hdb' : db'.Holds (r.add g admits)) (ha : a ∈ r.accounts)
    (hcreator : g.document.creatorId = a.id) (htime : g.createdAt = g.updatedAt)
    (hfree : Json.IsFloatFree g.document.instruction.toJson)
    {drawn : String} (hdrawn : g.document.id.text = drawn) :
    IsNew c a drawn db db' g.document where
  found := by
    intro owner howner
    have hshows := shows_findDocument hc hdb (owner_eq_of_mem_namesOf ha howner)
      g.document.name.text
    -- a document of the same account and name would have kept this one out
    have hnone : r.filed a.id g.document.name.text = none := by
      refine List.find?_eq_none.2 fun f hf heq => (admits f hf).2 ?_
      rw [Bool.and_eq_true, decide_eq_true_eq, decide_eq_true_eq] at heq
      exact Prod.ext (heq.1.trans hcreator.symm) (Identifier.text_inj.1 heq.2)
    rwa [hnone] at hshows
  id := hdrawn
  rows := by
    refine ⟨_, g.updatedAt, hdb.documents, fun row hrow => ?_, ?_⟩
    · obtain ⟨f, hf, rfl⟩ := List.mem_map.1 hrow
      exact mt InstructionId.cell_inj.1 (admits f hf).1
    · refine hdb'.documents.trans (congrArg Slot.rows ?_)
      unfold Records.add
      rw [List.map_append, List.map_singleton, Filed.row, htime]
  listed := by
    obtain ⟨before, after, hbefore, hafter⟩ := Records.exists_filedBy_add admits
    rw [hcreator] at hbefore hafter
    refine ⟨before.map fun f => f.document.reread, after.map fun f => f.document.reread,
      fun owner howner => ?_⟩
    have hshows := shows_documentsOf hc hdb (owner_eq_of_mem_namesOf ha howner)
    have hshows' := shows_documentsOf hc hdb'
      (owner_eq_of_mem_namesOf (r := r.add g admits) ha howner)
    rw [hbefore, List.map_append] at hshows
    rw [hafter, List.map_append, List.map_cons, g.reread_eq hfree] at hshows'
    exact ⟨hshows, hshows'⟩

/-- The two steps of a save agree on whether there is a document to write over. -/
theorem written_of_identify (hc : c.IsLawful) (hdb : db.Holds r) (hdb' : db'.Holds r')
    (ha : a ∈ r.accounts) (hcreator : g.document.creatorId = a.id)
    (htime : g.createdAt = g.updatedAt)
    (hfree : Json.IsFloatFree g.document.instruction.toJson) {isUpdate : Bool} {drawn : String}
    (hidentify : (isUpdate = true
        ∧ db.existingId a.id g.document.name = .ok (some g.document.id))
      ∨ (isUpdate = false ∧ db.existingId a.id g.document.name = .ok none
        ∧ g.document.id.text = drawn))
    (hpersist : (isUpdate = true ∧ (∃ f ∈ r.documents, f.document.id = g.document.id)
        ∧ r' = r.rewrite g)
      ∨ ∃ admits : r.Admits g, r' = r.add g admits) :
    ((∃ old, Replaces c a db db' old g.document) ∨ IsNew c a drawn db db' g.document)
      ∧ a ∈ r'.accounts ∧ ∃ f ∈ r'.documents, f.document = g.document := by
  rw [Contents.existingId_eq hdb, Except.ok.injEq, Except.ok.injEq] at hidentify
  -- what the lookup saw is what the last step meets, so two of four cases contradict it
  rcases hidentify with ⟨-, hfiled⟩ | ⟨hnew, hfiled, hdrawn⟩
  · obtain ⟨f, hfiled, hid⟩ := Option.map_eq_some_iff.1 hfiled
    obtain ⟨hf, hfcreator, hfname⟩ := Records.filed_eq_some_iff.1 hfiled
    rcases hpersist with ⟨-, -, rfl⟩ | ⟨admits, -⟩
    · have hg : (g.rewrite f).document = g.document := Filed.document_rewrite hid
        (hfcreator.trans hcreator.symm) (Identifier.text_inj.1 hfname)
      refine ⟨.inl ⟨_, replaces_of_holds hc hdb hdb' ha hf hfcreator hg hid hfree⟩, ha, ?_⟩
      exact ⟨g.rewrite f, List.mem_map_of_mem hf, hg⟩
    · exact absurd hid (admits f hf).1
  · rcases hpersist with ⟨hupdate, -⟩ | ⟨admits, rfl⟩
    · exact absurd (hupdate.symm.trans hnew) (by decide)
    · refine ⟨.inr (isNew_of_holds hc hdb hdb' ha hcreator htime hfree hdrawn), ha, ?_⟩
      exact ⟨g, List.mem_append_right _ (List.mem_singleton_self g), rfl⟩

/-- **What was saved is found again, and nothing else is disturbed.** This holds of a save
in any state a store can be in, for a live account, if there are no floats in the
instruction. The identifier is drawn after two lookups, of the account and of the
name. -/
theorem isSaved_of_save (hc : c.IsLawful) {history : VersionHistory σ}
    (quiet : ∀ key i author, c.IsQuiet (history key i author)) {s s' : σ}
    (reachable : IsReachable c s) (hs : c.contents s = some db) {owner : Account}
    (live : db.getAccount owner.id = .ok (some a)) {request : SaveRequest}
    (hfree : Json.IsFloatFree request.instruction) {d : Document}
    (hsave : save c history owner request s = (.ok d, s')) :
    ∃ db', c.contents s' = some db'
      ∧ IsSaved c a request (c.draw (c.disturbed (c.disturbed s).2).2).1 db db' d := by
  obtain ⟨db₀, r, hs₀, hdb⟩ := reachable.holds hc
  obtain rfl := Option.some.inj (hs.symm.trans hs₀)
  obtain ⟨ha, -⟩ := (Contents.getAccount_eq_some_iff hdb).1 live
  -- the save is taken apart into its steps, and the contents stay until the last
  unfold save at hsave
  rw [Task.bind_eq_ok_iff] at hsave
  obtain ⟨p, s₁, hprepare, hsave⟩ := hsave
  rw [Task.bind_eq_ok_iff] at hsave
  obtain ⟨commit, s₂, hcommit, hsave⟩ := hsave
  rw [Task.bind_eq_ok_iff] at hsave
  obtain ⟨_, s₃, hpersist, hsave⟩ := hsave
  cases hsave
  have hs₁ := prepare_isQuiet hc owner request _ s hs
  rw [hprepare] at hs₁
  have hs₂ := (quiet p.key p.document.instruction p.author _).mapError
    (fun failure => StoreFailure.database (.history failure)) s₁ hs₁
  rw [hcommit] at hs₂
  -- the first step found the account, and perhaps a document of the name
  obtain ⟨checked, a', db₁, hcheck, hdb₁, hget, hdocument, hidentify⟩ := prepare_eq_ok hprepare
  have hdisturbed := (hc.disturbed s).trans hs
  obtain rfl := Option.some.inj (hdisturbed.symm.trans hdb₁)
  obtain rfl : a = a' := Option.some.inj (Except.ok.inj (live.symm.trans hget))
  obtain ⟨hname, htags, hinstruction, -, -⟩ := SaveRequest.check_eq_ok hcheck
  obtain ⟨db₂, hdb₂, -, hfound⟩ := identify_eq_ok hidentify
  obtain rfl := Option.some.inj (((hc.disturbed _).trans hdisturbed).symm.trans hdb₂)
  have hcreator : p.document.creatorId = a.id := congrArg Document.creatorId hdocument
  rw [← show p.document.name = checked.name from congrArg Document.name hdocument] at hname hfound
  rw [← show p.document.tags = checked.tags from congrArg Document.tags hdocument] at htags
  rw [← show p.document.instruction = checked.instruction from
    congrArg Document.instruction hdocument] at hinstruction
  -- the last step did what the first step settled
  obtain ⟨rows, hrows, -⟩ := hdb.tags
  rcases persist_cases hc (isSound_of_prepare hprepare) hs₂ hdb hrows with
    ⟨e, hfail, -⟩ | ⟨g, r', db', -, hs', hdb', hg, hcreated, hupdated, hcontents, hwritten⟩
  · exact nomatch hfail.symm.trans (congrArg Prod.fst hpersist)
  rw [hpersist] at hs'
  rw [← hg] at hcreator hname hfound htags hinstruction hwritten hcontents ⊢
  have hfree' : Json.IsFloatFree g.document.instruction.toJson := hinstruction ▸ hfree
  obtain ⟨hcase, ha', f, hf, hfg⟩ := written_of_identify hc hdb hdb' ha hcreator
    (hcreated.trans hupdated.symm) hfree' hfound hwritten
  refine ⟨db', hs', ?_, hname, hinstruction, htags, hcreator, hcase, ⟨rows, hrows, ?_⟩, ?_⟩
  · intro owner howner
    rw [← hfg] at hname hcreator hfree' ⊢
    exact hname ▸ shows_filed hc hdb' ha' hf hcreator hfree' howner
  · rw [hcontents]
  · rw [hcontents]

/-! ## A save in a tree of files -/

namespace World

/-- What an account is opened with. -/
def signup : Signup := ⟨"ann", "ann@example.org", ⟨"page", "1", none, none, none⟩⟩

/-- The account. -/
def ann : Account :=
  ⟨⟨"id0"⟩, ⟨"ann", by decide⟩, "ann@example.org", ⟨"page", "1", none, none, none⟩, false, 1⟩

/-- What is saved first. -/
def first : SaveRequest := ⟨"way", .string "here", ["a", "b"]⟩

theorem first_short : first.tags.length ≤ 2 ^ 63 := by decide

/-- What is saved under the same name then. -/
def second : SaveRequest :=
  ⟨"way", .ofFields (.ofEntries [("find", .string "x"), ("min", .number (.ofInt64 1))]),
    ["b", "c", "b"]⟩

theorem second_short : second.tags.length ≤ 2 ^ 63 := by decide

/-- The account is opened and saves with one of the histories. -/
def withFirst : World :=
  (save (file "records") (History.commit (file "old")) ann first
    (createAccount (file "records") signup opened).2).2

theorem withFirst_isReachable : IsReachable (file "records") withFirst := by
  have hreachable : IsReachable (file "records") ((file "records").openRecords new).2 :=
    .opened rfl openRecords_new
  have hothers : IsReachable (file "records") opened := hreachable.step (.elsewhere contents_opened)
  refine (hothers.step (.createAccount signup opened)).save ?_ ?_ _ _
  · exact Surroundings.connect_isLawful surroundings_isLawful _
  · exact Surroundings.commit_isQuiet surroundings_isLawful (by decide)

theorem second_isFloatFree : Json.IsFloatFree second.instruction := by
  unfold second
  refine Json.IsFloatFree.object fun i => ?_
  match i with
  | ⟨0, _⟩ => exact .string
  | ⟨1, _⟩ => exact .integer

end World

open World in
theorem isSaved_of_save_second :
    ∃ d w db db', (file "records").contents withFirst = some db
      ∧ db.getAccount ann.id = .ok (some ann)
      ∧ save (file "records") (History.commit (file "new")) ann second withFirst = (.ok d, w)
      ∧ d.tagTexts = ["b", "c"] ∧ (file "records").contents w = some db'
      ∧ IsSaved (file "records") ann second ((file "records").draw withFirst).1 db db' d := by
  -- the run is evaluated in three closed facts, and the theorem does the rest
  have hcontents : ((file "records").contents withFirst).isSome = true := by decide +kernel
  have hlive : (((file "records").contents withFirst).bind fun db =>
      (db.getAccount ann.id).toOption) = some (some ann) := by decide +kernel
  have hsave : (save (file "records") (History.commit (file "new")) ann second
      withFirst).1.isOk = true := by decide +kernel
  obtain ⟨db, hdb⟩ := Option.isSome_iff_exists.1 hcontents
  rw [hdb, Option.bind_some] at hlive
  obtain ⟨d, hd⟩ := Outcome.exists_eq_ok_of_isOk hsave
  have hget := Outcome.eq_ok_of_toOption hlive
  rcases hrun : save (file "records") (History.commit (file "new")) ann second withFirst
    with ⟨result, w⟩
  rw [hrun] at hd
  obtain rfl : result = .ok d := hd
  obtain ⟨db', hdb', hsaved⟩ := isSaved_of_save
    (Surroundings.connect_isLawful surroundings_isLawful ["records"])
    (Surroundings.commit_isQuiet surroundings_isLawful (by decide)) withFirst_isReachable hdb
    hget second_isFloatFree hrun
  exact ⟨d, w, db, db', hdb, hget, rfl, hsaved.tags.trans (by decide), hdb', hsaved⟩

end Store

end InstructionStore
