import InstructionStore.Proofs.Store.Backing
import InstructionStore.Proofs.Store.Ledger

/-!
# The history as the record of saves

If operations are carried out one after another and the databases refuse nothing for a
reason of their own, a store and its history are told by what happened: by the saves that
succeeded and by the documents that were removed (`Store.Run`). **The history is the complete
record of the saves** (`Store.isComplete_of_run`). For each identifier that a save ever
returned, the log has the instructions of the saves that returned it, the latest first and no
other; the first of them is what is on file, if anything is; and nothing is taken away when
the document is deleted or its account. A name that is used again after that has a chain of
its own.

The invariant is that the events are orderly and that both databases agree with them
(`Store.IsChronicle`). Two commits with one digest do not have to be excluded: the second is
refused by the rules of the table, so that its save fails and leaves nothing behind.
-/

namespace InstructionStore

open Database

/-- The key of the chain of a document. -/
def Document.key (d : Document) : HistoryKey := ⟨d.creatorId, d.id⟩

namespace Store

variable {σ : Type} {c h : Connection σ}

/-! ## Runs -/

/-- **A run of a store and the history of its saves**: what happened, with the latest first,
and the state that it led to. Nothing else commits to the history, and no operation comes
between the steps of another one. -/
inductive Run (c h : Connection σ) : List Event → σ → Prop
  /-- Each of the two databases was opened without tables, and nothing has happened to it
  since. -/
  | opened {s s₁ s₂ t₁ t₂ : σ} (new : c.contents s₁ = some .empty)
    (opens : c.openRecords s₁ = (.ok (), s₂)) (fresh : h.contents t₁ = some .empty)
    (opensHistory : h.openHistory t₁ = (.ok (), t₂)) (records : c.contents s = c.contents s₂)
    (history : h.contents s = h.contents t₂) : Run c h [] s
  /-- Something was looked up, or the rest of the state changed. -/
  | elsewhere {events : List Event} {s s' : σ} (run : Run c h events s)
    (records : c.contents s' = c.contents s) (history : h.contents s' = h.contents s) :
    Run c h events s'
  /-- The store was opened once more. -/
  | reopen {events : List Event} {s : σ} (run : Run c h events s) :
    Run c h events (c.openRecords s).2
  /-- The history was opened once more. -/
  | reopenHistory {events : List Event} {s : σ} (run : Run c h events s) :
    Run c h events (h.openHistory s).2
  /-- An account was opened, or that failed. -/
  | createAccount {events : List Event} {s : σ} (run : Run c h events s) (request : Signup) :
    Run c h events (createAccount c request s).2
  /-- An account was deleted, or that failed. -/
  | deleteAccount {events : List Event} {s : σ} (run : Run c h events s) (account : Account) :
    Run c h events (deleteAccount c account s).2
  /-- A document was deleted, or that failed or found nothing. -/
  | deleteDocument {events : List Event} {s s' : σ} {result : Except StoreFailure Bool}
    (run : Run c h events s) (document : Document)
    (deletes : deleteDocument c document s = (result, s')) :
    Run c h (Event.ofDeletion document.id result ++ events) s'
  /-- A save was carried out, and succeeded or failed. There are no floats in its instruction,
  its tags are no more than a memory holds, and if it drew an identifier, that was an unused
  one. -/
  | save {events : List Event} {s s' : σ} {owner : Account} {request : SaveRequest}
    {result : Except StoreFailure Document} (run : Run c h events s)
    (floatFree : Json.IsFloatFree request.instruction) (short : request.tags.length ≤ 2 ^ 63)
    (unused : ∀ p before, prepare c owner request s = (.ok p, before) → p.isUpdate = false →
      ∀ d ∈ Event.returned events, d.id ≠ p.document.id)
    (saves : Store.save c (History.commit h) owner request s = (result, s')) :
    Run c h (Event.ofSave owner request result ++ events) s'

/-! ## The invariant -/

/-- **Events that tell the records of a store and the commits of its history.** -/
structure IsChronicle (events : List Event) (r : Records) (ys : List Commit.Content) : Prop where
  /-- They come one after another. -/
  orderly : Event.IsOrderly events
  /-- The documents that there are after them are those on file. -/
  filed : ∀ d, d ∈ Event.live events ↔ r.Has d
  /-- There is a commit for each save that succeeded, and no other. -/
  committed : ys.map (fun y => (y.key, y.body))
    = (Event.returned events).map fun d => (d.key.path, d.instruction.text)
  /-- What was saved was asked for. -/
  asked : ∀ owner request d, .saved owner request d ∈ events → IsAskedFor owner request d
  /-- What was returned is accepted by the store, and there are no floats in it. -/
  sound : ∀ d ∈ Event.returned events, d.IsSound ∧ Json.IsFloatFree d.instruction.toJson

/-- Whether events tell what is in both databases. -/
def HasChronicle (c h : Connection σ) (events : List Event) (s : σ) : Prop :=
  ∃ db r history ys, c.contents s = some db ∧ db.Holds r ∧ h.contents s = some history
    ∧ history.HoldsCommits ys ∧ IsChronicle events r ys

variable {events : List Event} {r r' : Records} {ys : List Commit.Content}

/-- The events tell the documents on file. -/
theorem IsChronicle.isLedger (h : IsChronicle events r ys) : IsLedger events r :=
  ⟨h.orderly, h.filed, h.asked⟩

/-- If there is a commit for each document that was returned, the events tell the commits as
well. -/
theorem IsLedger.isChronicle {events' : List Event} (h : IsLedger events' r')
    (committed : ys.map (fun y => (y.key, y.body))
      = (Event.returned events').map fun d => (d.key.path, d.instruction.text))
    (sound : ∀ d ∈ Event.returned events', d.IsSound ∧ Json.IsFloatFree d.instruction.toJson) :
    IsChronicle events' r' ys :=
  ⟨h.orderly, h.filed, committed, h.asked, sound⟩

theorem IsChronicle.empty : IsChronicle [] .empty [] := IsLedger.empty.isChronicle rfl nofun

/-- Only the documents matter of the records. -/
theorem IsChronicle.congr (h : IsChronicle events r ys) (documents : r'.documents = r.documents) :
    IsChronicle events r' ys :=
  (h.isLedger.congr documents).isChronicle h.committed h.sound

/-- **A document was deleted**, if it was there. -/
theorem IsChronicle.remove (h : IsChronicle events r ys) (id : InstructionId) :
    IsChronicle
      (Event.ofDeletion id (.ok (r.documents.any fun f => f.document.id = id)) ++ events)
      (r.remove id) ys := by
  have hledger := h.isLedger.remove id
  -- a deletion returns no document
  have hreturned (removed : Bool) :
      Event.returned (Event.ofDeletion id (.ok removed) ++ events) = Event.returned events := by
    cases removed <;> rfl
  exact hledger.isChronicle (hreturned _ ▸ h.committed) (hreturned _ ▸ h.sound)

/-- **A document was saved.** -/
theorem IsChronicle.save (h : IsChronicle events r ys) {owner : Account} {request : SaveRequest}
    {d : Document} (placed : Event.Continues events d ∨ Event.Starts events d)
    (takes : r.Takes d r') {y : Commit.Content}
    (key : y.key = d.key.path) (body : y.body = d.instruction.text)
    (asked : IsAskedFor owner request d) (sound : d.IsSound)
    (floatFree : Json.IsFloatFree request.instruction) :
    IsChronicle (.saved owner request d :: events) r' (y :: ys) := by
  refine (h.isLedger.save placed takes asked).isChronicle ?_ ?_
  · rw [List.map_cons, h.committed, key, body]
    rfl
  · exact List.forall_mem_cons.2 ⟨⟨sound, asked.instruction ▸ floatFree⟩, h.sound⟩

/-! ## What one operation does -/

variable {s : σ}

/-- Work that leaves the documents and the history as they are is no event. -/
theorem HasChronicle.maintain (hx : HasChronicle c h events s) {ε α : Type} {task : Task σ ε α}
    {change : Contents → α → Contents → Prop} (atomic : c.IsAtomic task change)
    (keeps : task.Keeps h.contents)
    (holds : ∀ {db a db'} {r : Records}, change db a db' → db.Holds r →
      ∃ r' : Records, db'.Holds r' ∧ r'.documents = r.documents) :
    HasChronicle c h events (task s).2 := by
  obtain ⟨db, r, history, ys, hs, hdb, hhistory, hys, hchronicle⟩ := hx
  have hhistory' := (keeps.eq s).trans hhistory
  rcases atomic s db hs with ⟨_, -, hs'⟩ | ⟨a, db', -, hs', hchange⟩
  · exact ⟨db, r, history, ys, hs', hdb, hhistory', hys, hchronicle⟩
  · obtain ⟨r', hdb', hdocuments⟩ := holds hchange hdb
    exact ⟨db', r', history, ys, hs', hdb', hhistory', hys, hchronicle.congr hdocuments⟩

theorem HasChronicle.deleteDocument (hc : c.IsLawful) (apart : c.WorksPast h.contents)
    (hx : HasChronicle c h events s) (document : Document) {s' : σ}
    {result : Except StoreFailure Bool}
    (deletes : Store.deleteDocument c document s = (result, s')) :
    HasChronicle c h (Event.ofDeletion document.id result ++ events) s' := by
  obtain ⟨db, r, history, ys, hs, hdb, hhistory, hys, hchronicle⟩ := hx
  have hhistory' := ((deleteDocument_keeps apart document).eq s).trans hhistory
  have hdeleted := deleteDocument_isAtomic hc document s db hs
  rw [deletes] at hhistory' hdeleted
  rcases hdeleted with ⟨_, hfail, hs'⟩ | ⟨removed, db', hok, hs', hremoves⟩
  · cases hfail
    exact ⟨db, r, history, ys, hs', hdb, hhistory', hys, hchronicle⟩
  · cases hok
    obtain ⟨hdb', rfl⟩ := holds_of_removeDocument hdb hremoves
    exact ⟨db', _, history, ys, hs', hdb', hhistory', hys, hchronicle.remove _⟩

theorem HasChronicle.save (hc : c.IsLawful) (calm : c.IsCalm) (hh : h.IsLawful)
    (apart : c.WorksPast h.contents) (leaves : h.WorksPast c.contents)
    (hx : HasChronicle c h events s) {owner : Account} {request : SaveRequest}
    (floatFree : Json.IsFloatFree request.instruction) (short : request.tags.length ≤ 2 ^ 63)
    (unused : ∀ p before, prepare c owner request s = (.ok p, before) → p.isUpdate = false →
      ∀ d ∈ Event.returned events, d.id ≠ p.document.id)
    {s' : σ} {result : Except StoreFailure Document}
    (saves : Store.save c (History.commit h) owner request s = (result, s')) :
    HasChronicle c h (Event.ofSave owner request result ++ events) s' := by
  obtain ⟨db, r, history, ys, hs, hdb, hhistory, hys, hchronicle⟩ := hx
  let v : Save σ := ⟨owner, request, History.commit h, short⟩
  have hunused (p : Pending) (before : σ) (hprepare : prepare c owner request s = (.ok p, before))
      (hnew : p.isUpdate = false) : ∀ f ∈ r.documents, f.document.id ≠ p.document.id :=
    fun _ hf => unused p before hprepare hnew _ (hchronicle.isLedger.returned hf)
  rcases save_cases hc calm hh apart leaves v rfl hs hdb hhistory hunused saves with
    ⟨e, rfl, hs', hhistory'⟩ | ⟨p, rfl, ⟨before, hprepare⟩, ⟨db', r', hs', hdb', htakes⟩,
      ⟨history', y, hhistory', hgains, hbody⟩⟩
  · exact ⟨db, r, history, ys, hs', hdb, hhistory', hys, hchronicle⟩
  · obtain ⟨hcarries, hthere, hempty⟩ := Save.carries_of_prepare (v := v) hc hs hdb hprepare
    have hplaced := hchronicle.isLedger.placed hthere hempty (unused p before hprepare)
    have hreadable : ∃ body, Instruction.ofText y.body = .ok body :=
      ⟨_, hbody ▸ hcarries.sound.accepted.reread_spec.1⟩
    refine ⟨db', r', history', y :: ys, hs', hdb', hhistory', hgains.holdsCommits hys hreadable, ?_⟩
    exact hchronicle.save hplaced htakes hgains.path hbody
      ⟨⟨hcarries.creatorId, hcarries.name⟩, hcarries.instruction, hcarries.tags⟩ hcarries.sound
      floatFree

/-- **After every run the events tell what is in both databases.** -/
theorem Run.hasChronicle (hc : c.IsLawful) (calm : c.IsCalm) (hh : h.IsLawful)
    (apart : c.WorksPast h.contents) (leaves : h.WorksPast c.contents) (run : Run c h events s) :
    HasChronicle c h events s := by
  induction run with
  | opened new opens fresh opensHistory records history =>
    obtain ⟨db, hs, hnew⟩ := contents_of_new hc new opens
    obtain ⟨past, hhistory, hempty⟩ := History.holdsCommits_of_new hh fresh opensHistory
    exact ⟨db, .empty, past, [], records.trans hs, holds_of_isNew hnew,
      history.trans hhistory, hempty, .empty⟩
  | elsewhere _ records history ih =>
    obtain ⟨db, r, past, ys, hs, hdb, hhistory, hrest⟩ := ih
    exact ⟨db, r, past, ys, records.trans hs, hdb, history.trans hhistory, hrest⟩
  | @reopen _ s _ ih =>
    obtain ⟨db, r, history, ys, hs, hdb, hhistory, hrest⟩ := ih
    obtain ⟨db', hs', hextends⟩ := openRecords_extends hc hs
    have hhistory' := (Connection.openAs_keeps apart .records).eq s
    exact ⟨db', r, history, ys, hs', holds_of_extends hdb hextends, hhistory'.trans hhistory, hrest⟩
  | @reopenHistory _ s _ ih =>
    obtain ⟨db, r, history, ys, hs, hdb, hhistory, hys, hchronicle⟩ := ih
    obtain ⟨history', hhistory', hys'⟩ := History.holdsCommits_of_reopen hh hhistory hys
    have hs' := (Connection.openAs_keeps leaves .history).eq s
    exact ⟨db, r, history', ys, hs'.trans hs, hdb, hhistory', hys', hchronicle⟩
  | createAccount _ request ih =>
    refine ih.maintain (createAccount_isAtomic hc request) (createAccount_keeps apart request) ?_
    rintro db a db' r ⟨live, inserts⟩ hdb
    obtain ⟨free, hdb'⟩ := holds_of_openAccount hdb live inserts
    exact ⟨_, hdb', rfl⟩
  | deleteAccount _ account ih =>
    exact ih.maintain (deleteAccount_isAtomic hc account) (deleteAccount_keeps apart account)
      fun ⟨_, _, archives, removes⟩ hdb => ⟨_, holds_of_closeAccount hdb archives removes, rfl⟩
  | deleteDocument _ document deletes ih => exact ih.deleteDocument hc apart document deletes
  | save _ floatFree short unused saves ih =>
    exact ih.save hc calm hh apart leaves floatFree short unused saves

/-! ## What the events tell -/

/-- **The chain of a document** has what was saved under its identifier. -/
theorem IsChronicle.chain_eq (h : IsChronicle events r ys) {d : Document}
    (hd : d ∈ Event.returned events) :
    (Commit.Content.chain d.key.path ys).map (fun y => Instruction.ofText y.body)
      = (Event.bodies d.id events).map .ok := by
  have hvalid {e : Document} (he : e ∈ Event.returned events) : e.key.IsValid :=
    ⟨(h.sound e he).1.creatorId, (h.sound e he).1.id⟩
  -- an identifier stays in one account, so it tells the key
  have hkey : ∀ e ∈ Event.returned events,
      decide (e.key.path = d.key.path) = decide (e.id = d.id) := by
    intro e he
    rw [decide_eq_decide, HistoryKey.path_inj (hvalid he) (hvalid hd)]
    refine ⟨congrArg HistoryKey.instructionId, fun hid => ?_⟩
    have hslot := h.orderly.slot_eq he hd hid
    unfold Document.key
    rw [hid, show e.creatorId = d.creatorId from congrArg Prod.fst hslot]
  have hread : ∀ e ∈ Event.returned events,
      Instruction.ofText e.instruction.text = .ok e.instruction := fun e he =>
    Instruction.ofText_text (h.sound e he).1.accepted (h.sound e he).2
  calc (Commit.Content.chain d.key.path ys).map (fun y => Instruction.ofText y.body)
      = ((ys.map fun y => (y.key, y.body)).filter fun made => made.1 = d.key.path).map
          fun made => Instruction.ofText made.2 := by
        rw [List.filter_map, List.map_map]
        rfl
    _ = ((Event.returned events).filter fun e => e.key.path = d.key.path).map
          fun e => Instruction.ofText e.instruction.text := by
        rw [h.committed, List.filter_map, List.map_map]
        rfl
    _ = ((Event.returned events).filter fun e => e.id = d.id).map fun e => .ok e.instruction := by
        rw [List.filter_congr hkey]
        exact List.map_congr_left fun e he => hread e (List.mem_filter.1 he).1
    _ = (Event.bodies d.id events).map .ok := by
        unfold Event.bodies
        rw [List.map_map]
        rfl

/-- **What is saved in a place whose document was removed is new.** -/
theorem IsChronicle.unreturned {owner : Account} {request : SaveRequest} {d before : Document}
    {newer older : List Event} {id : InstructionId}
    (h : IsChronicle (.saved owner request d :: (newer ++ .removed id :: older)) r ys)
    (hbefore : before ∈ Event.returned older) (hid : before.id = id)
    (place : before.IsAt owner request.name)
    (unsaved : ∀ e ∈ Event.returned newer, ¬e.IsAt owner request.name) :
    ∀ e ∈ Event.returned (newer ++ .removed id :: older), e.id ≠ d.id := by
  have hplace := (h.asked owner request d List.mem_cons_self).place
  refine h.orderly.unreturned fun e he hslot => ?_
  refine h.orderly.2.vacant hbefore hid (fun e he hslot => ?_) e he ?_
  · exact unsaved e he (place.congr hslot)
  · exact hslot.trans (hplace.slot_eq place)

/-- The rows of documents stand for the documents that there are. -/
theorem IsChronicle.exists_row_iff (h : IsChronicle events r ys) {db : Contents}
    (hdb : db.Holds r) {d : Document} :
    (∃ row ∈ r.documents.map Filed.row, db.document row = .ok d) ↔ d ∈ Event.live events := by
  have hread : ∀ f ∈ r.documents, db.document f.row = .ok f.document := by
    intro f hf
    have hreturned := Event.returned_of_live ((h.filed f.document).2 ⟨f, hf, rfl⟩)
    rw [Contents.document_row hdb hf, f.reread_eq (h.sound _ hreturned).2]
  rw [h.filed]
  constructor
  · rintro ⟨_, hrow, hd⟩
    obtain ⟨f, hf, rfl⟩ := List.mem_map.1 hrow
    rw [hread f hf] at hd
    exact ⟨f, hf, Except.ok.inj hd⟩
  · rintro ⟨f, hf, rfl⟩
    exact ⟨_, List.mem_map_of_mem hf, hread f hf⟩

/-! ## The record of saves -/

/-- **The history is the complete record of saves** in a state that some events led to. -/
structure IsComplete (c h : Connection σ) (events : List Event) (s : σ) : Prop where
  /-- What a save returned was asked for. -/
  asked : ∀ owner request d, .saved owner request d ∈ events → IsAskedFor owner request d
  /-- The log of an identifier that a save returned has the instructions of all saves that
  returned it, the latest first. -/
  logged : ∀ owner request d, .saved owner request d ∈ events →
    ∃ made, History.Tells h s ⟨owner.id, d.id⟩ (Event.bodies d.id events) made
  /-- On file are the documents that there are after the events. -/
  filed : ∃ db rows, c.contents s = some db ∧ db.documents = .rows rows
    ∧ ∀ d, (∃ row ∈ rows, db.document row = .ok d) ↔ d ∈ Event.live events
  /-- The instruction of a document on file is that of the latest commit. -/
  current : ∀ d ∈ Event.live events, ∃ made, History.Tells h s d.key (Event.bodies d.id events) made
    ∧ made.head?.map Commit.body = some d.instruction
  /-- Deleting a document changes no log. -/
  documentDeleted : ∀ document key limit,
    (History.log h key limit (deleteDocument c document s).2).1 = (History.log h key limit s).1
  /-- Deleting an account changes no log. -/
  accountDeleted : ∀ account key limit,
    (History.log h key limit (deleteAccount c account s).2).1 = (History.log h key limit s).1
  /-- If the latest event is a save, and what was saved last in its place was removed since, it
  took a new identifier and began a chain with a commit that has none before it. -/
  restarted : ∀ {owner request d newer id older before},
    events = .saved owner request d :: (newer ++ .removed id :: older) →
    before ∈ Event.returned older → before.id = id → before.IsAt owner request.name →
    (∀ e ∈ Event.returned newer, ¬e.IsAt owner request.name) →
    (∀ e ∈ Event.returned (newer ++ .removed id :: older), e.id ≠ d.id)
      ∧ ∃ commit : Commit, commit.parent = none
        ∧ History.Tells h s ⟨owner.id, d.id⟩ [d.instruction] [commit]

/-- **The history is the complete record of saves**, after every run in which the databases
refuse nothing for a reason of their own. -/
theorem isComplete_of_run (hc : c.IsLawful) (calm : c.IsCalm) (hh : h.IsLawful)
    (calmHistory : h.IsCalm) (apart : c.WorksPast h.contents) (leaves : h.WorksPast c.contents)
    (run : Run c h events s) : IsComplete c h events s := by
  obtain ⟨db, r, history, ys, hs, hdb, hhistory, hys, hx⟩ :=
    run.hasChronicle hc calm hh apart leaves
  have htells {d : Document} (hd : d ∈ Event.returned events) :
      ∃ made, History.Tells h s d.key (Event.bodies d.id events) made :=
    History.exists_tells hh calmHistory hhistory hys (hx.chain_eq hd)
  have hlogged (owner : Account) (request : SaveRequest) (d : Document)
      (hd : .saved owner request d ∈ events) :
      ∃ made, History.Tells h s ⟨owner.id, d.id⟩ (Event.bodies d.id events) made :=
    (hx.asked owner request d hd).place.1 ▸ htells (Event.returned_of_saved hd)
  have hunchanged {ε α : Type} {task : Task σ ε α} (keeps : task.Keeps h.contents)
      (key : HistoryKey) (limit : Nat) :
      (History.log h key limit (task s).2).1 = (History.log h key limit s).1 := by
    unfold History.log
    rw [calmHistory.query hh ((keeps.eq s).trans hhistory), calmHistory.query hh hhistory]
  refine ⟨hx.asked, hlogged, ⟨db, _, hs, hdb.documents, fun _ => hx.exists_row_iff hdb⟩,
    fun d hd => ?_, fun document => hunchanged (deleteDocument_keeps apart document),
    fun account => hunchanged (deleteAccount_keeps apart account), ?_⟩
  · obtain ⟨made, htold⟩ := htells (Event.returned_of_live hd)
    refine ⟨made, htold, ?_⟩
    rw [← List.head?_map, htold.bodies, Event.head?_bodies hd]
  · rintro owner request d newer id older before rfl hbefore hid place unsaved
    have hnew := hx.unreturned hbefore hid place unsaved
    obtain ⟨made, htold⟩ := hlogged owner request d List.mem_cons_self
    rw [Event.bodies_of_unreturned hnew] at htold
    exact ⟨hnew, htold.single⟩

/-! ## A document that is deleted and saved again -/

namespace World

/-- The account is opened. -/
def joined : World := (createAccount (file "records") signup openedTwo).2

/-- It saves. -/
def published : World := (save (file "records") (History.commit (file "old")) ann first joined).2

/-- The document it saved. -/
def publication : Document :=
  ⟨⟨"id1"⟩, ann.id, ⟨"way", by decide⟩, [⟨"a", by decide⟩, ⟨"b", by decide⟩], .reference "here"⟩

/-- It deletes the document. -/
def withdrawn : World := (deleteDocument (file "records") publication published).2

theorem first_isFloatFree : Json.IsFloatFree first.instruction := .string

theorem withdrawn_run :
    Run (file "records") (file "old") [.removed publication.id, .saved ann first publication]
      withdrawn := by
  have hopened : Run (file "records") (file "old") [] openedTwo := by
    have hnew : (file "records").contents new = some .empty := rfl
    refine .opened hnew openRecords_new ?_ openHistory_old ?_ rfl <;>
      decide +kernel
  have hjoined : Run (file "records") (file "old") [] joined := hopened.createAccount signup
  have hsave : (save (file "records") (History.commit (file "old")) ann first joined).1.toOption
      = some publication := by decide +kernel
  have hdelete : (deleteDocument (file "records") publication published).1.toOption
      = some true := by decide +kernel
  have hpublished : save (file "records") (History.commit (file "old")) ann first joined
      = (.ok publication, published) := by
    unfold published
    exact Outcome.run_eq_of_toOption hsave
  have hwithdrawn : deleteDocument (file "records") publication published
      = (.ok true, withdrawn) := by
    unfold withdrawn
    exact Outcome.run_eq_of_toOption hdelete
  have hunused (p : Pending) (before : World)
      (_ : prepare (file "records") ann first joined = (.ok p, before)) (_ : p.isUpdate = false) :
      ∀ d ∈ Event.returned [], d.id ≠ p.document.id := fun _ hd => absurd hd List.not_mem_nil
  exact (hjoined.save first_isFloatFree first_short hunused hpublished).deleteDocument publication
    hwithdrawn

end World

open World in
theorem isComplete_of_run_withdrawn :
    ∃ d w commit, Run (file "records") (file "old")
        [.saved ann first d, .removed publication.id, .saved ann first publication] w
      ∧ IsComplete (file "records") (file "old")
        [.saved ann first d, .removed publication.id, .saved ann first publication] w
      ∧ d.id ≠ publication.id ∧ commit.parent = none
      ∧ History.Tells (file "old") w ⟨ann.id, d.id⟩ [d.instruction] [commit] := by
  have hdrawn : (prepare (file "records") ann first withdrawn).1.toOption.map
      (fun p => p.document.id) = some ⟨"id2"⟩ := by decide +kernel
  have hsave : (save (file "records") (History.commit (file "old")) ann first withdrawn).1.isOk
      = true := by decide +kernel
  rcases hrun : save (file "records") (History.commit (file "old")) ann first withdrawn with
    ⟨result, w⟩
  rw [hrun] at hsave
  obtain ⟨d, rfl⟩ := Outcome.exists_eq_ok_of_isOk hsave
  have hunused (p : Pending) (before : World)
      (hprepare : prepare (file "records") ann first withdrawn = (.ok p, before))
      (_ : p.isUpdate = false) :
      ∀ e ∈ Event.returned [.removed publication.id, .saved ann first publication],
        e.id ≠ p.document.id := by
    intro e he
    rw [hprepare] at hdrawn
    have hid : p.document.id = ⟨"id2"⟩ := Option.some.inj hdrawn
    rw [List.mem_singleton.1 he, hid]
    decide
  have run := withdrawn_run.save first_isFloatFree first_short hunused hrun
  have hcomplete := isComplete_of_run (file_isLawful "records") (file_isCalm "records")
    (file_isLawful "old") (file_isCalm "old")
    (Surroundings.connect_worksPast surroundings_isLawful (by decide))
    (Surroundings.connect_worksPast surroundings_isLawful (by decide)) run
  have hunsaved : ∀ e ∈ Event.returned [], ¬e.IsAt ann first.name := fun _ he =>
    absurd he List.not_mem_nil
  have holder : publication ∈ Event.returned [.saved ann first publication] :=
    List.mem_singleton_self publication
  obtain ⟨hnew, commit, hparent, htells⟩ :=
    hcomplete.restarted (by rfl) holder rfl ⟨rfl, rfl⟩ hunsaved
  exact ⟨d, w, commit, run, hcomplete, (hnew publication (List.mem_singleton_self _)).symm, hparent,
    htells⟩

end Store

end InstructionStore
