import InstructionStore.Proofs.Store.Isolation

/-!
# Deleting a document

A document is deleted by its identifier, and whoever deletes it may have had it for long: it
may have been changed since, or deleted, and something else saved in its place. **Deleting it
hits the document of its identifier and nothing else** (`Store.deletes_of_isGivenOut`). It is
told whether there was one; its row and those of its tags are removed, and every other row of
the records is as before, as is every history. From then on the document is gone for good
(`Store.IsGone`): no lookup shows it, and deleting it once more finds nothing and changes
nothing, also when its place has been taken again.

This rests on the identifiers. The one that is drawn for a new document is none that a save
returned before, so what is no longer there under an identifier never will be again
(`Store.Event.IsOrderly.absent`). What happens to a store is taken one operation at a time
(`Store.Happens`), and what came after some events is a sequel of them (`Store.Sequel`).
-/

namespace InstructionStore

open Database

namespace Store

/-! ## Identifiers that are gone -/

namespace Event

variable {d : Document} {id : InstructionId} {newer older : List Event}

/-- What was returned was returned, whatever came after it. -/
theorem returned_of_append (newer : List Event) (h : d ∈ returned older) :
    d ∈ returned (newer ++ older) := by
  induction newer with
  | nil => exact h
  | cons event newer ih =>
    cases event with
    | saved owner request e => exact List.mem_cons_of_mem _ ih
    | removed id => exact ih

/-- **What is no longer there under an identifier never will be again.** -/
theorem IsOrderly.absent (h : IsOrderly (newer ++ older)) (hd : ∃ d ∈ returned older, d.id = id)
    (gone : ∀ e ∈ live older, e.id ≠ id) : ∀ e ∈ live (newer ++ older), e.id ≠ id := by
  induction newer with
  | nil => exact gone
  | cons event newer ih =>
    intro e he
    cases event with
    | removed other => exact ih h.2 e (mem_live_removed.1 he).1
    | saved owner request x =>
      rcases mem_live_saved.1 he with rfl | ⟨hold, -⟩
      · -- what is saved goes on with a document that is there, or was never returned
        rcases h.1 with ⟨y, hy, hid, -⟩ | ⟨hnew, -⟩
        · exact hid ▸ ih h.2 y hy
        · obtain ⟨d, hd, rfl⟩ := hd
          exact fun heq => hnew d (returned_of_append newer hd) heq.symm
      · exact ih h.2 e hold

/-- **After a deletion nothing is there** under its identifier, whether or not there was before. -/
theorem absent_of_deletion {events : List Event} {found : Bool}
    (h : ((live events).any fun e => e.id = id) = found) :
    ∀ e ∈ live (ofDeletion id (.ok found) ++ events), e.id ≠ id := by
  cases found with
  | true => exact fun e he => (mem_live_removed.1 he).2
  | false => exact fun e he => by simpa using List.any_eq_false.1 h e he

end Event

/-! ## What happens to a store -/

variable {σ : Type} {c : Connection σ}

/-- **One operation on a store**, or something around it, after some events, with the events it
adds. No other operation comes between its steps, and if a save draws an identifier, no save
returned that before. -/
inductive Happens (c : Connection σ) (events : List Event) (s : σ) : List Event → σ → Prop
  /-- Something was looked up, or the rest of the state changed. -/
  | elsewhere {s' : σ} (same : c.contents s' = c.contents s) : Happens c events s [] s'
  /-- The store was opened once more. -/
  | reopen : Happens c events s [] (c.openRecords s).2
  /-- An account was opened, or that failed. -/
  | createAccount (request : Signup) : Happens c events s [] (createAccount c request s).2
  /-- An account was deleted, if there was one, or that failed. -/
  | deleteAccount (account : Account) : Happens c events s [] (deleteAccount c account s).2
  /-- A document was deleted, or that failed or found nothing. -/
  | deleteDocument {s' : σ} {result : Except StoreFailure Bool} (document : Document)
    (deletes : Store.deleteDocument c document s = (result, s')) :
    Happens c events s (Event.ofDeletion document.id result) s'
  /-- A save was carried out with some history that leaves the records alone, and succeeded or
  failed. -/
  | save {s' : σ} {history : VersionHistory σ} {owner : Account} {request : SaveRequest}
    {result : Except StoreFailure Document}
    (quiet : ∀ key body author, c.IsQuiet (history key body author))
    (unused : DrawsUnused c events owner request s)
    (saves : Store.save c history owner request s = (result, s')) :
    Happens c events s (Event.ofSave owner request result) s'

/-- **What came after some events**: the newer events, and the state they led to. -/
inductive Sequel (c : Connection σ) (older : List Event) (s : σ) : List Event → σ → Prop
  /-- Nothing came after them. -/
  | rest : Sequel c older s [] s
  /-- One operation more was carried out. -/
  | step {newer new : List Event} {between s' : σ} (sequel : Sequel c older s newer between)
    (happens : Happens c (newer ++ older) between new s') : Sequel c older s (new ++ newer) s'

/-- **The events of a state**: all that happened since the store was opened on a database
without tables. -/
def HasPast (c : Connection σ) (events : List Event) (s : σ) : Prop :=
  ∃ s₁ s₂, c.contents s₁ = some .empty ∧ c.openRecords s₁ = (.ok (), s₂)
    ∧ Sequel c [] s₂ events s

/-- Whether events tell the documents on file. -/
def HasLedger (c : Connection σ) (events : List Event) (s : σ) : Prop :=
  ∃ db r, c.contents s = some db ∧ db.Holds r ∧ IsLedger events r

variable {events older newer new : List Event} {s s' : σ} {d : Document}

/-- **Every operation adds what it does to the documents.** -/
theorem HasLedger.happens (hc : c.IsLawful) (h : HasLedger c events s)
    (happens : Happens c events s new s') : HasLedger c (new ++ events) s' := by
  obtain ⟨db, r, hs, hdb, hledger⟩ := h
  cases happens with
  | elsewhere same => exact ⟨db, r, same.trans hs, hdb, hledger⟩
  | reopen =>
    obtain ⟨db', hs', hextends⟩ := openRecords_extends hc hs
    exact ⟨db', r, hs', holds_of_extends hdb hextends, hledger⟩
  | createAccount request =>
    rcases createAccount_isAtomic hc request s db hs with
      ⟨_, -, hs'⟩ | ⟨_, db', -, hs', live, inserts⟩
    · exact ⟨db, r, hs', hdb, hledger⟩
    · obtain ⟨_, hdb'⟩ := holds_of_openAccount hdb live inserts
      exact ⟨db', _, hs', hdb', hledger.congr rfl⟩
  | deleteAccount account =>
    rcases deleteAccount_isAtomic hc account s db hs with
      ⟨_, -, hs'⟩ | ⟨_, db', -, hs', _, _, archives, removes⟩
    · exact ⟨db, r, hs', hdb, hledger⟩
    · exact ⟨db', _, hs', holds_of_closeAccount hdb archives removes, hledger.congr rfl⟩
  | deleteDocument document deletes =>
    have hdeleted := deleteDocument_isAtomic hc document s db hs
    rw [deletes] at hdeleted
    rcases hdeleted with ⟨_, rfl, hs'⟩ | ⟨_, db', rfl, hs', removes⟩
    · exact ⟨db, r, hs', hdb, hledger⟩
    · obtain ⟨hdb', rfl⟩ := holds_of_removeDocument hdb removes
      exact ⟨db', _, hs', hdb', hledger.remove _⟩
  | save quiet unused saves =>
    rcases save_outcome hc quiet hs hdb saves with ⟨_, rfl, hs'⟩ | ⟨p, rfl, hsucceeds⟩
    · exact ⟨db, r, hs', hdb, hledger⟩
    · obtain ⟨⟨before, hprepare⟩, hasked, db', r', hs', hdb', hfiles, -⟩ := hsucceeds
      obtain ⟨-, hthere, hempty⟩ := finds_of_prepare hc hs hdb hprepare
      have hplaced := hledger.placed hthere hempty (unused p before hprepare)
      exact ⟨db', r', hs', hdb', hledger.save hplaced hfiles.takes hasked⟩

/-- Whatever comes after some events, the events tell the documents on file. -/
theorem Sequel.hasLedger (hc : c.IsLawful) (sequel : Sequel c older s newer s')
    (h : HasLedger c older s) : HasLedger c (newer ++ older) s' := by
  induction sequel with
  | rest => exact h
  | step _ happens ih =>
    rw [List.append_assoc]
    exact ih.happens hc happens

theorem HasLedger.orderly (h : HasLedger c events s) : Event.IsOrderly events := by
  obtain ⟨_, _, -, -, hledger⟩ := h
  exact hledger.orderly

theorem HasPast.hasLedger (hc : c.IsLawful) (past : HasPast c events s) :
    HasLedger c events s := by
  obtain ⟨s₁, s₂, new, opens, sequel⟩ := past
  obtain ⟨db, hs, hnew⟩ := contents_of_new hc new opens
  have hledger := sequel.hasLedger hc ⟨db, .empty, hs, holds_of_isNew hnew, .empty⟩
  rwa [List.append_nil] at hledger

/-! ## Documents that are given out -/

/-- **A document that a lookup shows.** -/
inductive IsShown (c : Connection σ) (s : σ) (d : Document) : Prop
  /-- It is found by its owner and its name. -/
  | found {owner name : String} (finds : (findDocument c owner name s).1 = .ok (some d))
  /-- It is listed among the documents of its owner. -/
  | listed {owner : String} {docs : List Document}
    (lists : (documentsOf c owner s).1 = .ok (some docs)) (here : d ∈ docs)
  /-- It is listed among those that have a tag. -/
  | tagged {owner tag : String} {docs : List Document}
    (lists : (documentsTagged c owner tag s).1 = .ok (some docs)) (here : d ∈ docs)

/-- **A document that the store gave out** after some events, in the state they led to: a save
returned it before, or a lookup shows it. -/
def IsGivenOut (c : Connection σ) (events : List Event) (s : σ) (d : Document) : Prop :=
  d ∈ Event.returned events ∨ IsShown c s d

/-- What a lookup shows is the document of an identifier that is there. -/
theorem IsShown.exists_live (hc : c.IsLawful) (h : HasLedger c events s) (shown : IsShown c s d) :
    ∃ e ∈ Event.live events, e.id = d.id := by
  obtain ⟨db, r, hs, hdb, hledger⟩ := h
  have hfiled {f : Filed} (hf : f ∈ r.documents) :
      ∃ e ∈ Event.live events, e.id = f.document.reread.id :=
    ⟨f.document, (hledger.filed _).2 ⟨f, hf, rfl⟩, rfl⟩
  cases shown with
  | found finds =>
    have hfind := lookUp_finds hc hs finds
    rw [Contents.findDocument_eq hdb, Except.ok.injEq, Option.bind_eq_some_iff] at hfind
    obtain ⟨a, -, hfind⟩ := hfind
    obtain ⟨f, hf, rfl⟩ := Option.map_eq_some_iff.1 hfind
    exact hfiled (Records.filed_eq_some_iff.1 hf).1
  | listed lists here =>
    have hfind := lookUp_finds hc hs lists
    rw [Contents.documentsOf_eq hdb, Except.ok.injEq, Option.map_eq_some_iff] at hfind
    obtain ⟨a, -, rfl⟩ := hfind
    obtain ⟨f, hf, rfl⟩ := List.mem_map.1 here
    exact hfiled (Records.mem_filedBy.1 hf).1
  | tagged lists here =>
    have hfind := lookUp_finds hc hs lists
    rw [Contents.documentsTagged_eq hdb, Except.ok.injEq, Option.map_eq_some_iff] at hfind
    obtain ⟨a, -, rfl⟩ := hfind
    obtain ⟨f, hf, rfl⟩ := List.mem_map.1 here
    exact hfiled (Records.mem_filedBy.1 (List.mem_filter.1 hf).1).1

/-- **What was given out has an identifier that a save returned.** -/
theorem IsGivenOut.exists_returned (hc : c.IsLawful) (h : HasLedger c events s)
    (given : IsGivenOut c events s d) : ∃ e ∈ Event.returned events, e.id = d.id := by
  rcases given with hreturned | hshown
  · exact ⟨d, hreturned, rfl⟩
  · obtain ⟨e, he, hid⟩ := hshown.exists_live hc h
    exact ⟨e, Event.returned_of_live he, hid⟩

/-! ## What a deletion does -/

/-- **A statement that can be carried out** is, unless the database refuses it for a reason of its
own; then it changes nothing. -/
theorem execute_of_eq_ok {ε α : Type} (hc : c.IsLawful) {db db' : Contents}
    (hs : c.contents s = some db) (failed : Refusal → ε) {statement : Statement α} {a : α}
    (h : statement db = .ok (a, db')) :
    (c.execute failed statement s).1
        = (if (c.disturbed s).1 then .error (failed .failure) else .ok a)
      ∧ c.contents (c.execute failed statement s).2
        = some (if (c.disturbed s).1 then db else db') := by
  have hs' := (hc.disturbed s).trans hs
  cases hdisturbed : (c.disturbed s).1 with
  | true =>
    unfold Connection.execute
    dsimp only
    rw [hdisturbed]
    exact ⟨rfl, hs'⟩
  | false =>
    rw [Connection.execute_eq_ok hc hdisturbed hs failed h]
    exact ⟨rfl, hc.replaced _ _ _ hs'⟩

/-- **A document that is gone for good**, in some state. -/
structure IsGone (c : Connection σ) (d : Document) (s : σ) : Prop where
  /-- No lookup shows a document of its identifier. -/
  unseen : ∀ e, IsShown c s e → e.id ≠ d.id
  /-- It has no row, and no tag of it has one. -/
  unfiled : ∃ db documents tags, c.contents s = some db ∧ db.documents = .rows documents
    ∧ db.tags = .rows tags ∧ (∀ row ∈ documents, row.id ≠ .text d.id.text)
    ∧ ∀ row ∈ tags, row.documentId ≠ .text d.id.text
  /-- Deleting it once more finds nothing, unless the database refuses that. -/
  answer : (deleteDocument c d s).1 = if (c.disturbed s).1 then .error .sql else .ok false
  /-- It changes nothing either way. -/
  unchanged : c.contents (deleteDocument c d s).2 = c.contents s

/-- **What deleting a document does**, in a state that some events led to. -/
structure Deletes (c : Connection σ) (events : List Event) (d : Document) (s : σ) : Prop where
  /-- It is told whether there is a document of its identifier, unless the database refuses the
  deletion for a reason of its own. -/
  answer : (deleteDocument c d s).1 = if (c.disturbed s).1 then .error .sql
    else .ok ((Event.live events).any fun e => e.id = d.id)
  /-- The row of that document is removed and those of its tags, and nothing else is changed. If
  the deletion is refused, nothing is. -/
  contents : ∃ db documents tags, c.contents s = some db ∧ db.documents = .rows documents
    ∧ db.tags = .rows tags
    ∧ ((∃ e ∈ Event.live events, e.id = d.id) ↔ ∃ row ∈ documents, row.id = .text d.id.text)
    ∧ c.contents (deleteDocument c d s).2 = some (if (c.disturbed s).1 then db else
      { db with
        documents := .rows (documents.filter fun row => row.id != .text d.id.text)
        tags := .rows (tags.filter fun row => row.documentId != .text d.id.text) })
  /-- Every history is as before. -/
  history : ∀ h : Connection σ, c.WorksPast h.contents →
    h.contents (deleteDocument c d s).2 = h.contents s
  /-- Once it was carried out, whatever it found, the document is gone, then and in every later
  state. -/
  gone : ∀ found, (deleteDocument c d s).1 = .ok found → ∀ newer s',
    Sequel c (Event.ofDeletion d.id (.ok found) ++ events) (deleteDocument c d s).2 newer s' →
      IsGone c d s'

section
variable {db : Contents} {r : Records}

/-- The documents that there are have the identifiers of those on file. -/
theorem IsLedger.exists_live_iff (h : IsLedger events r) {id : InstructionId} :
    (∃ e ∈ Event.live events, e.id = id) ↔ ∃ f ∈ r.documents, f.document.id = id := by
  constructor
  · rintro ⟨e, he, hid⟩
    obtain ⟨f, hf, rfl⟩ := (h.filed e).1 he
    exact ⟨f, hf, hid⟩
  · rintro ⟨f, hf, hid⟩
    exact ⟨f.document, (h.filed _).2 ⟨f, hf, rfl⟩, hid⟩

/-- A document is on file exactly if there is a row of its identifier. -/
theorem exists_row_iff {id : InstructionId} :
    (∃ row ∈ r.documents.map Filed.row, row.id = .text id.text)
      ↔ ∃ f ∈ r.documents, f.document.id = id := by
  constructor
  · rintro ⟨_, hrow, hid⟩
    obtain ⟨f, hf, rfl⟩ := List.mem_map.1 hrow
    exact ⟨f, hf, InstructionId.cell_inj.1 hid⟩
  · rintro ⟨f, hf, rfl⟩
    exact ⟨f.row, List.mem_map_of_mem hf, rfl⟩

theorem row_remove (r : Records) (id : InstructionId) :
    (r.remove id).documents.map Filed.row
      = (r.documents.map Filed.row).filter fun row => row.id != .text id.text := by
  rw [List.filter_map]
  refine congrArg _ (List.filter_congr fun f _ => ?_)
  rw [Bool.eq_iff_iff, decide_eq_true_eq, Function.comp_apply, bne_iff_ne]
  exact not_congr InstructionId.cell_inj.symm

/-- **The deletion of a document** that is on file or not, by what the tables hold and what the
events tell. -/
theorem deleteDocument_of_holds (hc : c.IsLawful) (hs : c.contents s = some db) (hdb : db.Holds r)
    {tags : List TagRow} (htags : db.tags = .rows tags) (hledger : IsLedger events r)
    (d : Document) :
    (deleteDocument c d s).1 = (if (c.disturbed s).1 then .error .sql
        else .ok ((Event.live events).any fun e => e.id = d.id))
      ∧ c.contents (deleteDocument c d s).2 = some (if (c.disturbed s).1 then db else
        { db with
          documents := .rows ((r.documents.map Filed.row).filter fun row =>
            row.id != .text d.id.text)
          tags := .rows (tags.filter fun row => row.documentId != .text d.id.text) }) := by
  have hthere : ((Event.live events).any fun e => e.id = d.id)
      = r.documents.any fun f => f.document.id = d.id := by
    rw [Bool.eq_iff_iff, List.any_eq_true, List.any_eq_true]
    simpa only [decide_eq_true_eq] using hledger.exists_live_iff
  rw [← row_remove, hthere]
  exact execute_of_eq_ok hc hs _ (Contents.removeDocument_eq hdb htags d.id)

/-- A deletion that was not refused tells whether there was something to delete. -/
theorem HasLedger.any_eq_of_deletes (hc : c.IsLawful) (h : HasLedger c events s) {found : Bool}
    (deletes : deleteDocument c d s = (.ok found, s')) :
    ((Event.live events).any fun e => e.id = d.id) = found := by
  obtain ⟨db, r, hs, hdb, hledger⟩ := h
  obtain ⟨tags, htags, -⟩ := hdb.tags
  have hanswer := (deleteDocument_of_holds hc hs hdb htags hledger d).1
  rw [deletes] at hanswer
  dsimp only at hanswer
  split at hanswer
  · exact nomatch hanswer
  · exact (Except.ok.inj hanswer).symm

end

/-- **A document is gone** if there is none of its identifier. -/
theorem isGone_of_absent (hc : c.IsLawful) (h : HasLedger c events s)
    (absent : ∀ e ∈ Event.live events, e.id ≠ d.id) : IsGone c d s := by
  have hunseen (e : Document) (he : IsShown c s e) : e.id ≠ d.id := by
    obtain ⟨x, hx, hid⟩ := he.exists_live hc h
    exact hid ▸ absent x hx
  obtain ⟨db, r, hs, hdb, hledger⟩ := h
  obtain ⟨tags, htags, -⟩ := hdb.tags
  have hnone : ∀ f ∈ r.documents, f.document.id ≠ d.id := fun f hf =>
    absent f.document ((hledger.filed _).2 ⟨f, hf, rfl⟩)
  have hrows : ∀ row ∈ r.documents.map Filed.row, row.id ≠ .text d.id.text := fun row hrow hid => by
    obtain ⟨f, hf, hfid⟩ := exists_row_iff.1 ⟨row, hrow, hid⟩
    exact hnone f hf hfid
  have htagged := Contents.filter_tags_of_forall_ne hdb htags hnone
  obtain ⟨hanswer, hcontents⟩ := deleteDocument_of_holds hc hs hdb htags hledger d
  refine ⟨hunseen, ⟨db, _, tags, hs, hdb.documents, htags, hrows, fun row hrow => ?_⟩, ?_, ?_⟩
  · exact bne_iff_ne.1 (List.filter_eq_self.1 htagged row hrow)
  · rw [hanswer, List.any_eq_false.2 fun e he => by simpa using absent e he]
  · rw [hcontents, htagged, List.filter_eq_self.2 fun row hrow => bne_iff_ne.2 (hrows row hrow),
      ← hdb.documents, ← htags, ite_self, hs]

/-- **What was deleted stays gone**, if its identifier is one that a save returned. -/
theorem isGone_of_deletes (hc : c.IsLawful) (h : HasLedger c events s)
    (returned : ∃ e ∈ Event.returned events, e.id = d.id) {found : Bool}
    (deletes : deleteDocument c d s = (.ok found, s')) {s'' : σ}
    (sequel : Sequel c (Event.ofDeletion d.id (.ok found) ++ events) s' newer s'') :
    IsGone c d s'' := by
  have hafter := sequel.hasLedger hc (h.happens hc (.deleteDocument d deletes))
  have habsent := Event.absent_of_deletion (h.any_eq_of_deletes hc deletes)
  obtain ⟨e, he, hid⟩ := returned
  exact isGone_of_absent hc hafter
    (hafter.orderly.absent ⟨e, Event.returned_of_append _ he, hid⟩ habsent)

/-- **Deleting a document that was given out** – as it is or as it was – removes the document of
its identifier, if there is one, and nothing else; and from then on it is gone, whatever is saved
later in its place. -/
theorem deletes_of_isGivenOut (hc : c.IsLawful) (past : HasPast c older s)
    (given : IsGivenOut c older s d) (sequel : Sequel c older s newer s') :
    Deletes c (newer ++ older) d s' := by
  have hreturned : ∃ e ∈ Event.returned (newer ++ older), e.id = d.id := by
    obtain ⟨e, he, hid⟩ := given.exists_returned hc (past.hasLedger hc)
    exact ⟨e, Event.returned_of_append newer he, hid⟩
  obtain ⟨db, r, hs, hdb, hledger⟩ := sequel.hasLedger hc (past.hasLedger hc)
  obtain ⟨tags, htags, -⟩ := hdb.tags
  obtain ⟨hanswer, hcontents⟩ := deleteDocument_of_holds hc hs hdb htags hledger d
  refine ⟨hanswer, ?_, fun h apart => (deleteDocument_keeps apart d).eq s', ?_⟩
  · exact ⟨db, _, tags, hs, hdb.documents, htags,
      hledger.exists_live_iff.trans exists_row_iff.symm, hcontents⟩
  · intro found hfound later s'' hlater
    exact isGone_of_deletes hc ⟨db, r, hs, hdb, hledger⟩ hreturned (Prod.ext hfound rfl) hlater

/-! ## A document that was deleted and whose place is taken again -/

namespace World

theorem published_past : HasPast (file "records") [.saved ann first publication] published := by
  have hpublished : (save (file "records") (History.commit (file "old")) ann first
      joined).1.toOption = some publication := by decide +kernel
  have hunused : DrawsUnused (file "records") [] ann first joined := fun _ _ _ _ _ hd =>
    absurd hd List.not_mem_nil
  have hsequel : Sequel (file "records") [] ((file "records").openRecords new).2 [] joined :=
    (Sequel.rest.step (.elsewhere contents_openedTwo)).step (.createAccount signup)
  exact ⟨new, _, rfl, openRecords_new, hsequel.step (.save
    (Surroundings.commit_isQuiet surroundings_isLawful (by decide)) hunused
    (Outcome.run_eq_of_toOption hpublished))⟩

/-- The document that is saved in its place after it was deleted. -/
def republication : Document := { publication with id := ⟨"id2"⟩ }

end World

open World in
theorem deletes_of_isGivenOut_publication :
    Deletes (file "records") [.saved ann first publication] publication published
      ∧ deleteDocument (file "records") publication published = (.ok true, withdrawn)
      ∧ ∃ w, save (file "records") (History.commit (file "old")) ann first withdrawn
          = (.ok republication, w)
        ∧ republication.slot = publication.slot ∧ IsGone (file "records") publication w := by
  have hdeletes := deletes_of_isGivenOut (file_isLawful "records") published_past
    (.inl (List.mem_singleton_self publication)) .rest
  have hdelete : (deleteDocument (file "records") publication published).1.toOption
      = some true := by decide +kernel
  have hsave : (save (file "records") (History.commit (file "old")) ann first
      withdrawn).1.toOption = some republication := by decide +kernel
  have hdrawn : (prepare (file "records") ann first withdrawn).1.toOption.map
      (fun p => p.document.id) = some republication.id := by decide +kernel
  have hunused : DrawsUnused (file "records")
      [.removed publication.id, .saved ann first publication] ann first withdrawn :=
    drawsUnused_of_prepare hdrawn (List.forall_mem_singleton.2 (by decide))
  have hgone := hdeletes.gone true (Outcome.eq_ok_of_toOption hdelete) _ _ (.step .rest (.save
    (Surroundings.commit_isQuiet surroundings_isLawful (by decide)) hunused
    (Outcome.run_eq_of_toOption hsave)))
  exact ⟨hdeletes, Outcome.run_eq_of_toOption hdelete, _, Outcome.run_eq_of_toOption hsave, rfl,
    hgone⟩

end Store

end InstructionStore
