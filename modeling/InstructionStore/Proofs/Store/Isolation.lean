import InstructionStore.Proofs.Store.Agreement
import InstructionStore.Proofs.Store.Identity
import InstructionStore.Proofs.Store.SaveOutcome

/-!
# Accounts apart

An account keeps its documents by its identifier, but it is looked up by its name or its email
address, and both can be taken again when the account is deleted. Its documents stay on file
then. **Still, no account ever comes by the documents of another one**
(`Store.isIsolated_of_journal`): what the lookups show of a live account was saved on its
behalf, and each document as it was saved last.

A deleted account has no way back either. Whoever has kept it and saves on its behalf is told
that it is missing, and nothing is written.

All that is asked of the identifiers is that none is drawn twice. It is here that a run is
written down from both sides, by the entries for accounts and by the events for documents
(`Store.Journal`).
-/

namespace InstructionStore

open Database

namespace Store

variable {σ : Type} {c : Connection σ}

/-! ## Journals -/

/-- Whether the identifier that the first step of a save draws, if it draws one, is one that no
save returned. -/
def DrawsUnused (c : Connection σ) (events : List Event) (owner : Account)
    (request : SaveRequest) (s : σ) : Prop :=
  ∀ p before, prepare c owner request s = (.ok p, before) → p.isUpdate = false →
    ∀ d ∈ Event.returned events, d.id ≠ p.document.id

/-- A save draws an identifier that is new if the one it prepares with is. -/
theorem drawsUnused_of_prepare {c : Connection σ} {events : List Event} {owner : Account}
    {request : SaveRequest} {s : σ} {id : InstructionId}
    (drawn : (prepare c owner request s).1.toOption.map (fun p => p.document.id) = some id)
    (new : ∀ d ∈ Event.returned events, d.id ≠ id) : DrawsUnused c events owner request s := by
  intro p before hprepare _ d hd
  rw [hprepare] at drawn
  have hid : p.document.id = id := Option.some.inj drawn
  rw [hid]
  exact new d hd

/-- **What became of the accounts and the documents of a store** since it was opened on a
database without tables, with the latest first. No operation came between the steps of another
one, and no identifier was drawn twice. -/
inductive Journal (c : Connection σ) : List Entry → List Event → σ → Prop
  /-- The store was opened. -/
  | opened {s s' : σ} (new : c.contents s = some .empty) (opens : c.openRecords s = (.ok (), s')) :
    Journal c [] [] s'
  /-- Something was looked up, or the rest of the state changed. -/
  | elsewhere {entries : List Entry} {events : List Event} {s s' : σ}
    (journal : Journal c entries events s) (same : c.contents s' = c.contents s) :
    Journal c entries events s'
  /-- The store was opened once more. -/
  | reopen {entries : List Entry} {events : List Event} {s : σ}
    (journal : Journal c entries events s) : Journal c entries events (c.openRecords s).2
  /-- An account was opened, with an identifier that no account had before, or that failed. -/
  | createAccount {entries : List Entry} {events : List Event} {s s' : σ}
    {result : Except StoreFailure Account} (journal : Journal c entries events s)
    (request : Signup) (opens : Store.createAccount c request s = (result, s'))
    (unused : ∀ a, result = .ok a → ∀ b ∈ Entry.opened entries, b.id ≠ a.id) :
    Journal c (Entry.ofOpening result ++ entries) events s'
  /-- An account was deleted, if there was one, or that failed. -/
  | deleteAccount {entries : List Entry} {events : List Event} {s s' : σ}
    {result : Except StoreFailure Unit} (journal : Journal c entries events s)
    (account : Account) (closes : Store.deleteAccount c account s = (result, s')) :
    Journal c (Entry.ofClosing account.id result ++ entries) events s'
  /-- A document was deleted, or that failed or found nothing. -/
  | deleteDocument {entries : List Entry} {events : List Event} {s s' : σ}
    {result : Except StoreFailure Bool} (journal : Journal c entries events s)
    (document : Document) (deletes : Store.deleteDocument c document s = (result, s')) :
    Journal c entries (Event.ofDeletion document.id result ++ events) s'
  /-- A save was carried out with some history that leaves the records alone, and succeeded or
  failed. -/
  | save {entries : List Entry} {events : List Event} {s s' : σ} {history : VersionHistory σ}
    {owner : Account} {request : SaveRequest} {result : Except StoreFailure Document}
    (journal : Journal c entries events s)
    (quiet : ∀ key body author, c.IsQuiet (history key body author))
    (unused : DrawsUnused c events owner request s)
    (saves : Store.save c history owner request s = (result, s')) :
    Journal c entries (Event.ofSave owner request result ++ events) s'

/-- **What a journal tells**: the entries tell the accounts and the events the documents, and no
two accounts were opened with one identifier. -/
def HasJournal (c : Connection σ) (entries : List Entry) (events : List Event) (s : σ) : Prop :=
  ∃ db r xs, c.contents s = some db ∧ IsBook entries db r xs ∧ IsLedger events r
    ∧ ((Entry.opened entries).map Account.id).Nodup

variable {entries : List Entry} {events : List Event} {s s' : σ}

theorem HasJournal.createAccount (hc : c.IsLawful) (h : HasJournal c entries events s)
    {request : Signup} {result : Except StoreFailure Account}
    (opens : Store.createAccount c request s = (result, s'))
    (unused : ∀ a, result = .ok a → ∀ b ∈ Entry.opened entries, b.id ≠ a.id) :
    HasJournal c (Entry.ofOpening result ++ entries) events s' := by
  obtain ⟨db, r, xs, hs, hbook, hledger, hids⟩ := h
  have hopened := createAccount_isAtomic hc request s db hs
  rw [opens] at hopened
  rcases hopened with ⟨_, rfl, hs'⟩ | ⟨a, db', rfl, hs', live, inserts⟩
  · exact ⟨db, r, xs, hs', hbook, hledger, hids⟩
  · obtain ⟨r', hbook', hdocuments⟩ := hbook.opening live inserts
    refine ⟨db', r', xs, hs', hbook', hledger.congr hdocuments, List.nodup_cons.2 ⟨?_, hids⟩⟩
    intro hmem
    obtain ⟨b, hb, hid⟩ := List.mem_map.1 hmem
    exact unused a rfl b hb hid

theorem HasJournal.deleteAccount (hc : c.IsLawful) (h : HasJournal c entries events s)
    {account : Account} {result : Except StoreFailure Unit}
    (closes : Store.deleteAccount c account s = (result, s')) :
    HasJournal c (Entry.ofClosing account.id result ++ entries) events s' := by
  obtain ⟨db, r, xs, hs, hbook, hledger, hids⟩ := h
  have hclosed := deleteAccount_isAtomic hc account s db hs
  rw [closes] at hclosed
  rcases hclosed with ⟨_, rfl, hs'⟩ | ⟨_, db', rfl, hs', _, _, archives, removes⟩
  · exact ⟨db, r, xs, hs', hbook, hledger, hids⟩
  · obtain ⟨r', xs', hbook', -, hdocuments⟩ := hbook.closing archives removes
    exact ⟨db', r', xs', hs', hbook', hledger.congr hdocuments, hids⟩

theorem HasJournal.deleteDocument (hc : c.IsLawful) (h : HasJournal c entries events s)
    {document : Document} {result : Except StoreFailure Bool}
    (deletes : Store.deleteDocument c document s = (result, s')) :
    HasJournal c entries (Event.ofDeletion document.id result ++ events) s' := by
  obtain ⟨db, r, xs, hs, hbook, hledger, hids⟩ := h
  have hdeleted := deleteDocument_isAtomic hc document s db hs
  rw [deletes] at hdeleted
  rcases hdeleted with ⟨_, rfl, hs'⟩ | ⟨removed, db', rfl, hs', removes⟩
  · exact ⟨db, r, xs, hs', hbook, hledger, hids⟩
  · obtain ⟨-, rfl⟩ := holds_of_removeDocument hbook.holds removes
    exact ⟨db', _, xs, hs', hbook.remove removes, hledger.remove _, hids⟩

theorem HasJournal.save (hc : c.IsLawful) (h : HasJournal c entries events s)
    {history : VersionHistory σ} {owner : Account} {request : SaveRequest}
    {result : Except StoreFailure Document}
    (quiet : ∀ key body author, c.IsQuiet (history key body author))
    (unused : DrawsUnused c events owner request s)
    (saves : Store.save c history owner request s = (result, s')) :
    HasJournal c entries (Event.ofSave owner request result ++ events) s' := by
  obtain ⟨db, r, xs, hs, hbook, hledger, hids⟩ := h
  rcases save_outcome hc quiet hs hbook.holds saves with ⟨_, rfl, hs'⟩ | ⟨p, rfl, hsucceeds⟩
  · exact ⟨db, r, xs, hs', hbook, hledger, hids⟩
  · obtain ⟨⟨before, hprepare⟩, hasked, db', r', hs', hdb', hfiles, hrest⟩ := hsucceeds
    obtain ⟨-, hthere, hempty⟩ := finds_of_prepare hc hs hbook.holds hprepare
    have hplaced := hledger.placed hthere hempty (unused p before hprepare)
    have harchive := congrArg Contents.archive hrest
    have harchived := congrArg Contents.archived hrest
    exact ⟨db', r', xs, hs', hbook.frame hdb' hfiles.accounts_eq harchive harchived,
      hledger.save hplaced hfiles.takes hasked, hids⟩

/-- **Every journal tells what is in the tables.** -/
theorem Journal.hasJournal (hc : c.IsLawful) (journal : Journal c entries events s) :
    HasJournal c entries events s := by
  induction journal with
  | opened new opens =>
    obtain ⟨db, hs, hbook⟩ := isBook_of_new hc new opens
    exact ⟨db, .empty, [], hs, hbook, .empty, List.nodup_nil⟩
  | elsewhere _ same ih =>
    obtain ⟨db, r, xs, hs, hrest⟩ := ih
    exact ⟨db, r, xs, same.trans hs, hrest⟩
  | @reopen _ _ s _ ih =>
    obtain ⟨db, r, xs, hs, hbook, hrest⟩ := ih
    obtain ⟨db', hs', hextends⟩ := openRecords_extends hc hs
    exact ⟨db', r, xs, hs', hbook.extends hextends, hrest⟩
  | createAccount _ request opens unused ih => exact ih.createAccount hc opens unused
  | deleteAccount _ account closes ih => exact ih.deleteAccount hc closes
  | deleteDocument _ document deletes ih => exact ih.deleteDocument hc deletes
  | save _ quiet unused saves ih => exact ih.save hc quiet unused saves

/-! ## What an account is shown -/

/-- **A document of an account, as it was saved last.** -/
structure IsOwn (events : List Event) (b : Account) (d : Document) : Prop where
  /-- The account keeps it. -/
  creatorId : d.creatorId = b.id
  /-- The latest save that returned its identifier was made on behalf of the account. The
  document is the one that was asked for then, but for its instruction, which is read again. -/
  latest : ∃ newer owner request e older, events = newer ++ .saved owner request e :: older
    ∧ (∀ x ∈ Event.returned newer, x.id ≠ d.id) ∧ owner.id = b.id ∧ IsAskedFor owner request e
    ∧ d = e.reread ∧ Json.Resembles e.instruction.toJson d.instruction.toJson

/-- **An account that is shown its own documents and no other.** -/
structure SeesOwn (c : Connection σ) (db : Contents) (events : List Event) (b : Account)
    (docs : List Document) : Prop where
  /-- The lookups show these documents. -/
  sees : Sees c db b docs
  /-- They are its own, as they were saved last. -/
  own : ∀ d ∈ docs, IsOwn events b d
  /-- None of them was ever saved on behalf of another account. -/
  foreign : ∀ owner request e, .saved owner request e ∈ events → owner.id ≠ b.id →
    ∀ d ∈ docs, d.id ≠ e.id

variable {db : Contents} {r : Records} {b : Account}

/-- What is kept of a save belongs to the account it was made for. -/
theorem IsLedger.owner_eq (h : IsLedger events r) {owner : Account} {request : SaveRequest}
    {d e : Document} (hd : d ∈ Event.returned events) (he : .saved owner request e ∈ events)
    (hid : d.id = e.id) : d.creatorId = owner.id :=
  (congrArg Prod.fst (h.orderly.slot_eq hd (Event.returned_of_saved he) hid)).trans
    (h.asked owner request e he).place.1

theorem seesOwn_of_holds (hc : c.IsLawful) (hdb : db.Holds r) (hledger : IsLedger events r)
    (hb : b ∈ r.accounts) :
    SeesOwn c db events b ((r.filedBy b.id).map fun f => f.document.reread) where
  sees := sees_of_holds hc hdb hb
  own := by
    refine List.forall_mem_map.2 fun f hf => ?_
    obtain ⟨hf, hcreator⟩ := Records.mem_filedBy.1 hf
    obtain ⟨newer, owner, request, older, rfl, hlatest⟩ :=
      Event.exists_saved_of_live ((hledger.filed _).2 ⟨f, hf, rfl⟩)
    have hasked := hledger.asked owner request f.document
      (List.mem_append_right _ List.mem_cons_self)
    exact ⟨hcreator, newer, owner, request, f.document, older, rfl, hlatest,
      hasked.place.1.symm.trans hcreator, hasked, rfl, f.sound.accepted.reread_spec.2⟩
  foreign owner request e he hne := by
    refine List.forall_mem_map.2 fun f hf hid => ?_
    obtain ⟨hf, hcreator⟩ := Records.mem_filedBy.1 hf
    exact hne ((hledger.owner_eq (hledger.returned hf) he hid).symm.trans hcreator)

/-! ## Saving -/

/-- **A save on behalf of an account that is missing**: it fails, whatever is asked for and
whatever history it is to be committed to, and writes nothing. -/
structure IsMissing (c : Connection σ) (owner : Account) (s : σ) : Prop where
  /-- If the request passes its check, it is told that the account is missing, unless the
  database fails. -/
  fails : ∀ history request, save c history owner request s
    = match request.check with
      | .error fault => (.error (.invalid fault), s)
      | .ok _ => (if (c.disturbed s).1 then .error .sql else .error (.ownerMissing owner.id),
          (c.disturbed s).2)
  /-- The records are as before. -/
  records : ∀ history request, c.contents (save c history owner request s).2 = c.contents s
  /-- So is every history, as long as reading the records does not disturb it. -/
  commits : ∀ h : Connection σ, c.ReadsPast h.contents → ∀ history request,
    h.contents (save c history owner request s).2 = h.contents s

/-- **A live account that can save** under every name: what it saves is in its own place and has
an identifier that no save on behalf of another account ever returned. -/
def CanSave (c : Connection σ) (events : List Event) (b : Account) (s : σ) : Prop :=
  ∀ (history : VersionHistory σ) (request : SaveRequest) (checked : SaveRequest.Checked),
    request.check = .ok checked → request.tags.length ≤ 2 ^ 63 →
    (∀ key body author, c.IsQuiet (history key body author)) →
    (∀ p before, prepare c b request s = (.ok p, before) →
      ∃ id, (history p.key p.document.instruction p.author before).1 = .ok id) →
    OpaqueId.IsValid (c.draw (c.disturbed (c.disturbed s).2).2).1 →
    DrawsUnused c events b request s →
    ∃ d, (save c history b request s).1 = .ok d ∧ d.IsAt b request.name
      ∧ (∀ owner request' e, .saved owner request' e ∈ events → owner.id ≠ b.id → d.id ≠ e.id)
      ∧ ((∀ e ∈ Event.live events, ¬e.IsAt b request.name) →
        ∀ e ∈ Event.returned events, e.id ≠ d.id)

/-- An account that is not live is missing. -/
theorem isMissing_of_holds (hc : c.IsLawful) (hs : c.contents s = some db) (hdb : db.Holds r)
    {owner : Account} (gone : ∀ a ∈ r.accounts, a.id ≠ owner.id) : IsMissing c owner s := by
  have hget : getAccount c owner.id s
      = (if (c.disturbed s).1 then .error .sql else .ok none, (c.disturbed s).2) :=
    shows_getAccount_none hc hdb gone s hs
  have hfails (history : VersionHistory σ) (request : SaveRequest) :
      save c history owner request s
        = match request.check with
          | .error fault => (.error (.invalid fault), s)
          | .ok _ => (if (c.disturbed s).1 then .error .sql else .error (.ownerMissing owner.id),
              (c.disturbed s).2) := by
    unfold save prepare
    rw [Task.bind_apply, Task.bind_apply]
    cases request.check with
    | error fault => rfl
    | ok checked =>
      dsimp only [Except.mapError, Task.ofExcept_apply]
      rw [Task.bind_apply, hget]
      cases (c.disturbed s).1 <;> rfl
  -- nothing is done but that the records are read
  have hkept {τ : Type} {view : σ → τ} (reads : c.ReadsPast view) (history : VersionHistory σ)
      (request : SaveRequest) : view (save c history owner request s).2 = view s := by
    rw [hfails]
    cases request.check with
    | error fault => rfl
    | ok checked => exact reads.disturbed s
  exact ⟨hfails, hkept hc.readsPast, fun h reads => hkept reads⟩

theorem canSave_of_holds (hc : c.IsLawful) (calm : c.IsCalm) (hs : c.contents s = some db)
    (hdb : db.Holds r) (hledger : IsLedger events r) (hb : b ∈ r.accounts) :
    CanSave c events b s := by
  intro history request checked hcheck short quiet takes valid unused
  obtain ⟨p, before, hprepare⟩ := exists_prepare hc calm hs hdb hb rfl hcheck valid
  obtain ⟨id, htaken⟩ := takes p before hprepare
  obtain ⟨⟨hcreator, hname, -, -⟩, hthere, -⟩ := finds_of_prepare hc hs hdb hprepare
  have hsave := save_of_prepare hc calm hs hdb short hprepare quiet htaken fun hnew f hf =>
    unused p before hprepare hnew _ (hledger.returned hf)
  -- the identifier is that of what is in the place, or it is an unused one
  have hid : (∃ e ∈ Event.live events, e.id = p.document.id ∧ e.slot = p.document.slot)
      ∨ ∀ e ∈ Event.returned events, e.id ≠ p.document.id := by
    cases hupdate : p.isUpdate with
    | true =>
      obtain ⟨f, hf, hid, hslot⟩ := hthere hupdate
      exact .inl ⟨f.document, (hledger.filed _).2 ⟨f, hf, rfl⟩, hid, hslot⟩
    | false => exact .inr (unused p before hprepare hupdate)
  have hplace : p.document.IsAt b request.name := ⟨hcreator, hname⟩
  refine ⟨p.document, hsave, hplace, fun owner request' e he hne heq => ?_, fun empty => ?_⟩
  · rcases hid with ⟨x, hx, hxid, hslot⟩ | hnew
    · have howner := hledger.owner_eq (Event.returned_of_live hx) he (hxid.trans heq)
      exact hne (howner.symm.trans ((congrArg Prod.fst hslot).trans hcreator))
    · exact hnew e (Event.returned_of_saved he) heq.symm
  · rcases hid with ⟨x, hx, -, hslot⟩ | hnew
    · exact absurd (hplace.congr hslot) (empty x hx)
    · exact hnew

/-! ## The isolation of accounts -/

/-- **A store whose accounts are apart**, in a state that a journal led to. -/
structure IsIsolated (c : Connection σ) (entries : List Entry) (events : List Event)
    (db : Contents) (s : σ) : Prop where
  /-- A live account is shown its own documents and no other. -/
  shown : ∀ b ∈ Entry.live entries, ∃ docs, SeesOwn c db events b docs
  /-- A deleted account is another one than every live account, though its name and its email
  address may be taken again. -/
  apart : ∀ old ∈ Entry.archived entries, ∀ b ∈ Entry.live entries, old.id ≠ b.id
  /-- Nothing can be saved on behalf of a deleted account. -/
  refused : ∀ old ∈ Entry.archived entries, ∀ owner : Account, owner.id = old.id →
    IsMissing c owner s
  /-- If the database refuses nothing for a reason of its own, a live account can save under
  every name. -/
  free : c.IsCalm → ∀ b ∈ Entry.live entries, CanSave c events b s

/-- **An account never sees or inherits the documents of another account**, after every run in
which no identifier is drawn twice. -/
theorem isIsolated_of_journal (hc : c.IsLawful) (journal : Journal c entries events s) :
    ∃ db, c.contents s = some db ∧ IsIsolated c entries events db s := by
  obtain ⟨db, r, xs, hs, hbook, hledger, hids⟩ := journal.hasJournal hc
  obtain ⟨-, -, hapart⟩ := Entry.nodup_live_archived hids
  refine ⟨db, hs, fun b hb => ?_, fun old hold b hb => (hapart b hb old hold).symm,
    fun old hold owner howner => ?_, fun calm b hb => ?_⟩
  · exact ⟨_, seesOwn_of_holds hc hbook.holds hledger (hbook.live ▸ hb)⟩
  · refine isMissing_of_holds hc hs hbook.holds fun a ha => ?_
    rw [howner]
    exact hapart a (hbook.live ▸ ha) old hold
  · exact canSave_of_holds hc calm hs hbook.holds hledger (hbook.live ▸ hb)

/-! ## An account that comes after another one -/

namespace World

/-- The account is deleted after it saved. -/
def deserted : World := (deleteAccount (file "records") ann published).2

/-- Another account takes its name and its email address. -/
def inherited : World := (createAccount (file "records") signup deserted).2

/-- The account it is then. -/
def heir : Account := { ann with id := ⟨"id2"⟩, createdAt := 3 }

/-- What was entered. -/
def inheritedEntries : List Entry := [.opening heir, .closing ann.id, .opening ann]

theorem inherited_journal :
    Journal (file "records") inheritedEntries [.saved ann first publication] inherited := by
  have hjoined : (createAccount (file "records") signup openedTwo).1.toOption = some ann := by
    decide +kernel
  have hpublished : (save (file "records") (History.commit (file "old")) ann first
      joined).1.toOption = some publication := by decide +kernel
  have hdeserted : (deleteAccount (file "records") ann published).1.toOption = some () := by
    decide +kernel
  have hinherited : (createAccount (file "records") signup deserted).1.toOption = some heir := by
    decide +kernel
  have hnone (a : Account) (_ : (.ok ann : Except StoreFailure Account) = .ok a) :
      ∀ b ∈ Entry.opened [], b.id ≠ a.id := nofun
  have hother (a : Account) (h : (.ok heir : Except StoreFailure Account) = .ok a) :
      ∀ b ∈ Entry.opened [.closing ann.id, .opening ann], b.id ≠ a.id := by
    cases h
    decide
  have hnew : DrawsUnused (file "records") [] ann first joined := fun _ _ _ _ _ hd =>
    absurd hd List.not_mem_nil
  have journal : Journal (file "records") [] [] openedTwo :=
    (Journal.opened rfl openRecords_new).elsewhere contents_openedTwo
  have journal := journal.createAccount signup (Outcome.run_eq_of_toOption hjoined) hnone
  have journal := journal.save (Surroundings.commit_isQuiet surroundings_isLawful (by decide)) hnew
    (Outcome.run_eq_of_toOption hpublished)
  have journal := journal.deleteAccount ann (Outcome.run_eq_of_toOption hdeserted)
  exact journal.createAccount signup (Outcome.run_eq_of_toOption hinherited) hother

end World

open World in
theorem isIsolated_of_journal_inherited :
    ∃ db docs d, (file "records").contents inherited = some db
      ∧ IsIsolated (file "records") inheritedEntries [.saved ann first publication] db inherited
      ∧ SeesOwn (file "records") db [.saved ann first publication] heir docs
      ∧ (∀ e ∈ docs, e.id ≠ publication.id)
      ∧ (save (file "records") (History.commit (file "old")) ann first inherited).1
        = .error (.ownerMissing ann.id)
      ∧ (save (file "records") (History.commit (file "old")) heir first inherited).1 = .ok d
      ∧ d.id ≠ publication.id := by
  obtain ⟨db, hdb, hisolated⟩ :=
    isIsolated_of_journal (file_isLawful "records") inherited_journal
  have hlive : heir ∈ Entry.live inheritedEntries := by decide
  have hdeleted : ann ∈ Entry.archived inheritedEntries := by decide
  have hsaved : Event.saved ann first publication ∈ [Event.saved ann first publication] :=
    List.mem_singleton_self _
  have hne : ann.id ≠ heir.id := by decide
  obtain ⟨docs, hsees⟩ := hisolated.shown heir hlive
  have hcheck : first.check.isOk = true := by decide +kernel
  obtain ⟨checked, hcheck⟩ := Outcome.exists_eq_ok_of_isOk hcheck
  have hmissing :=
    (hisolated.refused ann hdeleted ann rfl).fails (History.commit (file "old")) first
  rw [hcheck] at hmissing
  have hcommits : ((prepare (file "records") heir first >>= fun p =>
      (History.commit (file "old") p.key p.document.instruction p.author).mapError
        fun failure => StoreFailure.database (.history failure)) inherited).1.isOk = true := by
    decide +kernel
  have htakes (p : Pending) (before : World)
      (hprepare : prepare (file "records") heir first inherited = (.ok p, before)) :
      ∃ id, (History.commit (file "old") p.key p.document.instruction p.author before).1
        = .ok id := by
    have hcommit := Task.isOk_of_bind hprepare hcommits
    rw [Task.isOk_mapError] at hcommit
    exact Outcome.exists_eq_ok_of_isOk hcommit
  have hdrawn : (prepare (file "records") heir first inherited).1.toOption.map
      (fun p => p.document.id) = some ⟨"id3"⟩ := by decide +kernel
  have hunused : DrawsUnused (file "records") [.saved ann first publication] heir first
      inherited :=
    drawsUnused_of_prepare hdrawn (List.forall_mem_singleton.2 (by decide))
  obtain ⟨d, hsave, -, hforeign, -⟩ := hisolated.free (file_isCalm "records") heir hlive
    (History.commit (file "old")) first checked hcheck first_short
    (Surroundings.commit_isQuiet surroundings_isLawful (by decide)) htakes (by decide +kernel)
    hunused
  exact ⟨db, docs, d, hdb, hisolated, hsees, hsees.foreign ann first publication hsaved hne,
    congrArg Prod.fst hmissing, hsave, hforeign ann first publication hsaved hne⟩

end Store

end InstructionStore
