import InstructionStore.Proofs.Store.Agreement
import InstructionStore.Proofs.Store.SaveOutcome
import Mathlib.Logic.Relation

/-!
# Owners do not interfere

The rows of all owners stand in the same tables, a document is written over and removed by its
identifier alone, and the keys of a history are joined texts. **Still, what is done by others
makes no difference to an account** (`Store.seesAll_of_spares`). After any number of operations
that spare a live account, everything that can be looked up about it is as it was, in the
records and in the history: it is the same account with the same documents, and each of its
keys has the same head and the same log. It does not matter which of the operations failed.

An operation spares an account if it does not delete it, saves nothing on its behalf, and
deletes no document of it (`Store.Spares`). Whatever such an operation does, the part of the
account in the records is kept (`Store.Spares.hasPart`), and so are its chains in the history
(`Store.Spares.hasChains`): a save writes over the document that is in its own place, and a text
that is joined with a slash tells the account, since there is none in an identifier.
-/

namespace InstructionStore

open Database

/-! ## What a history shows -/

/-- **What a history shows of a key** as long as it has some contents. -/
structure History.Shows {σ : Type} (h : Connection σ) (past : Contents) (key : HistoryKey)
    (made : List Commit) : Prop where
  /-- The latest commit is the first of the list. -/
  head : ∀ s, h.contents s = some past → History.head h key s
    = (if (h.disturbed s).1 then .error .sql else .ok (made.head?.map Commit.id),
      (h.disturbed s).2)
  /-- The log is the list, as far as it is asked for. -/
  log : ∀ s limit, h.contents s = some past → History.log h key limit s
    = (if (h.disturbed s).1 then .error .sql else .ok (made.take limit), (h.disturbed s).2)

/-- **A history shows the commits of a key**, each as it is read from its row. -/
theorem History.exists_shows {σ : Type} {h : Connection σ} (hh : h.IsLawful) {past : Contents}
    {ys : List Commit.Content} (hys : past.HoldsCommits ys) (key : HistoryKey) :
    ∃ made, (Commit.Content.chain key.path ys).map (fun y => y.row.commit) = made.map .ok
      ∧ History.Shows h past key made := by
  obtain ⟨made, hlog, hread⟩ := hys.log_eq key
  refine ⟨made, hread, fun s hs => ?_, fun s limit hs => ?_⟩
  · have hids : made.map Commit.id = (Commit.Content.chain key.path ys).map Commit.Content.id :=
      map_eq_map_of_read hread fun _ _ hx => (Commit.Content.commit_row_eq_ok hx).1
    unfold History.head
    rw [Connection.query_apply hh _ _ hs, hys.heads]
    unfold Commit.Content.latest
    rw [← List.head?_map, ← List.head?_map, hids]
  · unfold History.log
    rw [Connection.query_apply hh _ _ hs, hlog]

namespace Store

variable {σ : Type} {c h : Connection σ}

/-! ## States of a store and a history -/

/-- **The states a store and a history can be in.** Steps of saves can come between one another,
and commits can be made for whatever keys. -/
inductive IsReachableWith (c h : Connection σ) : σ → Prop
  /-- Each of the two databases was opened without tables, and nothing has happened to it
  since. -/
  | opened {s s₁ s₂ t₁ t₂ : σ} (new : c.contents s₁ = some .empty)
    (opens : c.openRecords s₁ = (.ok (), s₂)) (fresh : h.contents t₁ = some .empty)
    (opensHistory : h.openHistory t₁ = (.ok (), t₂)) (records : c.contents s = c.contents s₂)
    (history : h.contents s = h.contents t₂) : IsReachableWith c h s
  /-- The store took a step, and the history was left alone. -/
  | step {s s' : σ} (reachable : IsReachableWith c h s) (steps : Step c s s')
    (alone : h.contents s' = h.contents s) : IsReachableWith c h s'
  /-- The history was opened once more. -/
  | reopenHistory {s : σ} (reachable : IsReachableWith c h s) :
    IsReachableWith c h (h.openHistory s).2
  /-- The history was given an instruction to commit, and took it or failed. -/
  | commit {s : σ} (reachable : IsReachableWith c h s) (key : HistoryKey) {body : Instruction}
    (accepted : body.IsAccepted) (author : Signature) :
    IsReachableWith c h (History.commit h key body author s).2

variable {s s' : σ}

/-- **A whole save leads from one such state to another.** -/
theorem IsReachableWith.save (hc : c.IsLawful) (apart : c.WorksPast h.contents)
    (reachable : IsReachableWith c h s) (owner : Account) (request : SaveRequest) :
    IsReachableWith c h (Store.save c (History.commit h) owner request s).2 := by
  refine save_preserves ?_ (fun hprepare hbefore => ?_) fun hprepare hafter => ?_
  · exact reachable.step (.elsewhere (prepare_isQuiet hc owner request _ s rfl))
      ((prepare_keeps apart.toReadsPast owner request).eq s)
  · exact hbefore.commit _ (isSound_of_prepare hprepare).accepted _
  · exact hafter.step (.persist hprepare _) ((persist_keeps apart _).eq _)

/-- **In every such state the tables hold the rows for some records and some commits.** -/
theorem IsReachableWith.holds (hc : c.IsLawful) (hh : h.IsLawful) (leaves : h.WorksPast c.contents)
    (reachable : IsReachableWith c h s) :
    HoldsRecords c s ∧ ∃ past ys, h.contents s = some past ∧ past.HoldsCommits ys := by
  induction reachable with
  | opened new opens fresh opensHistory records history =>
    obtain ⟨db, hs, hnew⟩ := contents_of_new hc new opens
    obtain ⟨past, hpast, hempty⟩ := History.holdsCommits_of_new hh fresh opensHistory
    exact ⟨⟨db, .empty, records.trans hs, holds_of_isNew hnew⟩, past, [], history.trans hpast,
      hempty⟩
  | step _ steps alone ih =>
    obtain ⟨⟨db, r, hs, hdb⟩, past, ys, hpast, hys⟩ := ih
    obtain ⟨db', hs', hchange⟩ := steps.change hc hs
    obtain ⟨r', hdb'⟩ := hchange.holds hdb
    exact ⟨⟨db', r', hs', hdb'⟩, past, ys, alone.trans hpast, hys⟩
  | @reopenHistory s _ ih =>
    obtain ⟨⟨db, r, hs, hdb⟩, past, ys, hpast, hys⟩ := ih
    obtain ⟨past', hpast', hys'⟩ := History.holdsCommits_of_reopen hh hpast hys
    have hs' := (Connection.openAs_keeps leaves .history).eq s
    exact ⟨⟨db, r, hs'.trans hs, hdb⟩, past', ys, hpast', hys'⟩
  | @commit s _ key body accepted author ih =>
    obtain ⟨⟨db, r, hs, hdb⟩, past, ys, hpast, hys⟩ := ih
    obtain ⟨past', ys', hpast', hys', -⟩ := History.holdsCommits_of_commit hh hpast hys accepted
    have hs' := (History.commit_keeps leaves key body author).eq s
    exact ⟨⟨db, r, hs'.trans hs, hdb⟩, past', ys', hpast', hys'⟩

/-! ## Operations that spare an account -/

/-- Whether a document of an account is on file under an identifier. -/
def KeepsDocument (c : Connection σ) (b : Account) (id : InstructionId) (s : σ) : Prop :=
  ∃ db rows row, c.contents s = some db ∧ db.documents = .rows rows ∧ row ∈ rows
    ∧ row.id = .text id.text ∧ row.creatorId = .text b.id.text

/-- **An operation that spares an account**, or what goes on around it. An operation counts
whether or not it fails. -/
inductive Spares (c h : Connection σ) (b : Account) : σ → σ → Prop
  /-- Something was looked up, or the rest of the state changed. -/
  | elsewhere {s s' : σ} (records : c.contents s' = c.contents s)
    (history : h.contents s' = h.contents s) : Spares c h b s s'
  /-- The store was opened once more. -/
  | reopen (s : σ) : Spares c h b s (c.openRecords s).2
  /-- The history was opened once more. -/
  | reopenHistory (s : σ) : Spares c h b s (h.openHistory s).2
  /-- An account was opened. -/
  | createAccount (request : Signup) (s : σ) : Spares c h b s (createAccount c request s).2
  /-- Another account was deleted. -/
  | deleteAccount {account : Account} (other : account.id ≠ b.id) (s : σ) :
    Spares c h b s (deleteAccount c account s).2
  /-- Something was saved on behalf of another account. -/
  | save {owner : Account} (other : owner.id ≠ b.id) (request : SaveRequest) (s : σ) :
    Spares c h b s (save c (History.commit h) owner request s).2
  /-- A document was deleted, and it is none of the account. -/
  | deleteDocument {document : Document} {s : σ} (other : ¬KeepsDocument c b document.id s) :
    Spares c h b s (deleteDocument c document s).2
  /-- The history was given an instruction to commit for a key of another account. -/
  | commit {key : HistoryKey} (other : key.accountId ≠ b.id)
    (valid : OpaqueId.IsValid key.accountId.text) {body : Instruction} (accepted : body.IsAccepted)
    (author : Signature) (s : σ) : Spares c h b s (History.commit h key body author s).2

/-! ## The records -/

/-- **The part of an account in some records**: the account and its documents. -/
structure IsPart (b : Account) (docs : List Filed) (r : Records) : Prop where
  /-- The account is live. -/
  live : b ∈ r.accounts
  /-- These are its documents. -/
  documents : (r.documents.filter fun f => f.document.creatorId = b.id) = docs

/-- Whether the tables hold the rows for some records that have a part. -/
def HasPart (c : Connection σ) (b : Account) (docs : List Filed) (s : σ) : Prop :=
  ∃ db r, c.contents s = some db ∧ db.Holds r ∧ IsPart b docs r

variable {b : Account} {docs : List Filed}

/-- Work that is done as a whole or not at all keeps a part if what it does does. -/
theorem HasPart.maintain (hx : HasPart c b docs s) {ε α : Type} {task : Task σ ε α}
    {change : Contents → α → Contents → Prop} (atomic : c.IsAtomic task change)
    (keeps : ∀ {db a db'} {r : Records}, c.contents s = some db → change db a db' → db.Holds r →
      IsPart b docs r → ∃ r' : Records, db'.Holds r' ∧ IsPart b docs r') :
    HasPart c b docs (task s).2 := by
  obtain ⟨db, r, hs, hdb, hpart⟩ := hx
  rcases atomic s db hs with ⟨_, -, hs'⟩ | ⟨a, db', -, hs', hchange⟩
  · exact ⟨db, r, hs', hdb, hpart⟩
  · obtain ⟨r', hdb', hpart'⟩ := keeps hs hchange hdb hpart
    exact ⟨db', r', hs', hdb', hpart'⟩

/-- **What spares an account keeps its part in the records.** -/
theorem Spares.hasPart (hc : c.IsLawful) (leaves : h.WorksPast c.contents)
    (spares : Spares c h b s s') (hx : HasPart c b docs s) : HasPart c b docs s' := by
  cases spares with
  | elsewhere records history =>
    obtain ⟨db, r, hs, hrest⟩ := hx
    exact ⟨db, r, records.trans hs, hrest⟩
  | reopen =>
    obtain ⟨db, r, hs, hdb, hpart⟩ := hx
    obtain ⟨db', hs', hextends⟩ := openRecords_extends hc hs
    exact ⟨db', r, hs', holds_of_extends hdb hextends, hpart⟩
  | reopenHistory =>
    obtain ⟨db, r, hs, hrest⟩ := hx
    have hs' := (Connection.openAs_keeps leaves .history).eq s
    exact ⟨db, r, hs'.trans hs, hrest⟩
  | createAccount request =>
    refine hx.maintain (createAccount_isAtomic hc request) ?_
    rintro db a db' r - ⟨live, inserts⟩ hdb hpart
    obtain ⟨free, hdb'⟩ := holds_of_openAccount hdb live inserts
    exact ⟨_, hdb', List.mem_append_left _ hpart.live, hpart.documents⟩
  | @deleteAccount account other =>
    refine hx.maintain (deleteAccount_isAtomic hc account) ?_
    rintro db a db' r - ⟨_, _, archives, removes⟩ hdb hpart
    exact ⟨_, holds_of_closeAccount hdb archives removes,
      List.mem_filter.2 ⟨hpart.live, decide_eq_true (Ne.symm other)⟩, hpart.documents⟩
  | @save owner other request =>
    obtain ⟨db, r, hs, hdb, hpart⟩ := hx
    rcases save_outcome hc (History.commit_keeps leaves) hs hdb (Prod.ext rfl rfl) with
      ⟨_, -, hs'⟩ | ⟨p, -, -, hasked, db', r', hs', hdb', hfiles, -⟩
    · exact ⟨db, r, hs', hdb, hpart⟩
    · have hother : p.document.creatorId ≠ b.id := hasked.place.1 ▸ other
      exact ⟨db', r', hs', hdb', hfiles.accounts_eq ▸ hpart.live,
        (hfiles.others hother).trans hpart.documents⟩
  | @deleteDocument document _ other =>
    refine hx.maintain (deleteDocument_isAtomic hc document) ?_
    intro db removed db' r hs removes hdb hpart
    refine ⟨_, (holds_of_removeDocument hdb removes).1, hpart.live, ?_⟩
    -- no document of the account has the identifier
    have hkept : ∀ f ∈ r.documents.filter fun f => f.document.creatorId = b.id,
        f.document.id ≠ document.id := by
      intro f hf hid
      obtain ⟨hf, hcreator⟩ := List.mem_filter.1 hf
      exact other ⟨db, _, f.row, hs, hdb.documents, List.mem_map_of_mem hf,
        InstructionId.cell_inj.2 hid, AccountId.cell_inj.2 (of_decide_eq_true hcreator)⟩
    unfold Records.remove
    dsimp only
    rw [List.filter_comm, List.filter_eq_self.2 fun f hf => decide_eq_true (hkept f hf)]
    exact hpart.documents
  | commit _ _ _ author =>
    obtain ⟨db, r, hs, hrest⟩ := hx
    exact ⟨db, r, ((History.commit_keeps leaves _ _ author).eq s).trans hs, hrest⟩

/-! ## The history -/

/-- Whether a history holds some commits, of which these are the chains of an account. -/
def HasChains (h : Connection σ) (b : Account) (chains : InstructionId → List Commit.Content)
    (s : σ) : Prop :=
  ∃ past ys, h.contents s = some past ∧ past.HoldsCommits ys
    ∧ ∀ id, Commit.Content.chain (HistoryKey.mk b.id id).path ys = chains id

variable {chains : InstructionId → List Commit.Content}

theorem HasChains.congr (hx : HasChains h b chains s) (same : h.contents s' = h.contents s) :
    HasChains h b chains s' := by
  obtain ⟨past, ys, hpast, hrest⟩ := hx
  exact ⟨past, ys, same.trans hpast, hrest⟩

/-- **A commit for a key of another account** keeps the chains of an account. -/
theorem HasChains.commit (hh : h.IsLawful) (valid : OpaqueId.IsValid b.id.text)
    (hx : HasChains h b chains s) {key : HistoryKey} {body : Instruction} (author : Signature)
    (other : key.accountId ≠ b.id) (hvalid : OpaqueId.IsValid key.accountId.text)
    (accepted : body.IsAccepted) : HasChains h b chains (History.commit h key body author s).2 := by
  obtain ⟨past, ys, hpast, hys, hchains⟩ := hx
  obtain ⟨past', ys', hpast', hys', hgained⟩ :=
    History.holdsCommits_of_commit hh hpast hys accepted
  refine ⟨past', ys', hpast', hys', fun id => ?_⟩
  rcases hgained with rfl | ⟨y, rfl, hkey⟩
  · exact hchains id
  · rw [Commit.Content.chain_cons_of_ne, hchains]
    intro hpath
    exact other (congrArg HistoryKey.accountId
      (HistoryKey.eq_of_path_eq hvalid valid (hkey.symm.trans hpath)))

theorem HasChains.save (hc : c.IsLawful) (hh : h.IsLawful) (apart : c.WorksPast h.contents)
    (hs : HoldsRecords c s) (valid : OpaqueId.IsValid b.id.text) (hx : HasChains h b chains s)
    {owner : Account} (other : owner.id ≠ b.id) (request : SaveRequest) :
    HasChains h b chains (save c (History.commit h) owner request s).2 := by
  obtain ⟨db, r, hs, hdb⟩ := hs
  refine save_preserves ?_ (fun {p _} hprepare hbefore => ?_) fun _ hafter => ?_
  · exact hx.congr ((prepare_keeps apart.toReadsPast owner request).eq s)
  · -- what is committed is for a document of the owner
    obtain ⟨⟨hcreator, -⟩, -⟩ := finds_of_prepare hc hs hdb hprepare
    have hsound := isSound_of_prepare hprepare
    have hother : p.key.accountId ≠ b.id := fun heq => other (hcreator.symm.trans heq)
    exact hbefore.commit hh valid p.author hother hsound.creatorId hsound.accepted
  · exact hafter.congr ((persist_keeps apart _).eq _)

/-- **What spares an account keeps its chains in the history.** -/
theorem Spares.hasChains (hc : c.IsLawful) (hh : h.IsLawful) (apart : c.WorksPast h.contents)
    (spares : Spares c h b s s') (hpart : HasPart c b docs s) (hx : HasChains h b chains s) :
    HasChains h b chains s' := by
  have valid : OpaqueId.IsValid b.id.text := by
    obtain ⟨_, r, -, -, hpart⟩ := hpart
    exact (r.live b hpart.live).id
  cases spares with
  | elsewhere records history => exact hx.congr history
  | reopen => exact hx.congr ((Connection.openAs_keeps apart _).eq s)
  | reopenHistory =>
    obtain ⟨past, ys, hpast, hys, hchains⟩ := hx
    obtain ⟨past', hpast', hys'⟩ := History.holdsCommits_of_reopen hh hpast hys
    exact ⟨past', ys, hpast', hys', hchains⟩
  | createAccount request => exact hx.congr ((createAccount_keeps apart request).eq s)
  | @deleteAccount account other => exact hx.congr ((deleteAccount_keeps apart account).eq s)
  | save other request =>
    obtain ⟨db, r, hs, hdb, hpart⟩ := hpart
    exact hx.save hc hh apart ⟨db, r, hs, hdb⟩ valid other request
  | @deleteDocument document other => exact hx.congr ((deleteDocument_keeps apart document).eq s)
  | commit other hvalid accepted author => exact hx.commit hh valid author other hvalid accepted

/-! ## What is seen of an account -/

/-- **All that is to be seen of an account**, in the records and in the history. -/
structure SeesAll (c h : Connection σ) (db past : Contents) (b : Account) (docs : List Document)
    (made : InstructionId → List Commit) : Prop where
  /-- The lookups show it and its documents. -/
  records : Sees c db b docs
  /-- The history shows the commits of its keys. -/
  history : ∀ id, History.Shows h past ⟨b.id, id⟩ (made id)

/-- What is seen of an account is told by its part in the records and its chains. -/
theorem seesAll_of_hasPart (hc : c.IsLawful) (hh : h.IsLawful) (hpart : HasPart c b docs s)
    (hchains : HasChains h b chains s) {made : InstructionId → List Commit}
    (hmade : ∀ id, (chains id).map (fun y => y.row.commit) = (made id).map .ok) :
    ∃ db past, c.contents s = some db ∧ h.contents s = some past
      ∧ SeesAll c h db past b
        ((docs.mergeSort fun f g => Cell.lePair f.key g.key).map fun f => f.document.reread)
        made := by
  obtain ⟨db, r, hs, hdb, hpart⟩ := hpart
  obtain ⟨past, ys, hpast, hys, hchains⟩ := hchains
  refine ⟨db, past, hs, hpast, ?_, fun id => ?_⟩
  · have hsees := sees_of_holds hc hdb hpart.live
    unfold Records.filedBy at hsees
    rwa [hpart.documents] at hsees
  · obtain ⟨made', hread, hshows⟩ := History.exists_shows hh hys ⟨b.id, id⟩
    rw [hchains, hmade] at hread
    rwa [List.map_injective_iff.2 (fun _ _ => Except.ok.inj) hread]

/-- **Owners do not interfere.** Whatever is done that spares a live account, all that is to be
seen of the account is the same before and after. -/
theorem seesAll_of_spares (hc : c.IsLawful) (hh : h.IsLawful) (apart : c.WorksPast h.contents)
    (leaves : h.WorksPast c.contents) (reachable : IsReachableWith c h s) {db : Contents}
    (hs : c.contents s = some db) (live : db.getAccount b.id = .ok (some b))
    (spares : Relation.ReflTransGen (Spares c h b) s s') :
    ∃ past db' past' docs made, h.contents s = some past ∧ c.contents s' = some db'
      ∧ h.contents s' = some past' ∧ SeesAll c h db past b docs made
      ∧ SeesAll c h db' past' b docs made := by
  obtain ⟨⟨db₁, r, hs₁, hdb⟩, past, ys, hpast, hys⟩ := reachable.holds hc hh leaves
  obtain rfl := Option.some.inj (hs.symm.trans hs₁)
  have hpart : HasPart c b (r.documents.filter fun f => f.document.creatorId = b.id) s :=
    ⟨db, r, hs, hdb, ((Contents.getAccount_eq_some_iff hdb).1 live).1, rfl⟩
  have hchains : HasChains h b
      (fun id => Commit.Content.chain (HistoryKey.mk b.id id).path ys) s :=
    ⟨past, ys, hpast, hys, fun _ => rfl⟩
  choose made hmade _ using fun id => History.exists_shows hh hys ⟨b.id, id⟩
  have hkept : HasPart c b (r.documents.filter fun f => f.document.creatorId = b.id) s'
      ∧ HasChains h b (fun id => Commit.Content.chain (HistoryKey.mk b.id id).path ys) s' := by
    induction spares with
    | refl => exact ⟨hpart, hchains⟩
    | tail _ next ih => exact ⟨next.hasPart hc leaves ih.1, next.hasChains hc hh apart ih.1 ih.2⟩
  obtain ⟨_, _, hs₂, hpast₂, hbefore⟩ := seesAll_of_hasPart hc hh hpart hchains hmade
  obtain ⟨db', past', hs', hpast', hafter⟩ := seesAll_of_hasPart hc hh hkept.1 hkept.2 hmade
  obtain rfl := Option.some.inj (hs.symm.trans hs₂)
  obtain rfl := Option.some.inj (hpast.symm.trans hpast₂)
  exact ⟨past, db', past', _, made, hpast, hs', hpast', hbefore, hafter⟩

/-! ## Another account comes and goes -/

namespace World

/-- The request of another account. -/
def joeSignup : Signup := ⟨"joe", "joe@example.com", ⟨"page", "2", none, none, none⟩⟩

/-- The account. -/
def joe : Account :=
  ⟨⟨"id2"⟩, ⟨"joe", by decide⟩, "joe@example.com", ⟨"page", "2", none, none, none⟩, false, 3⟩

/-- It is opened. -/
def withJoe : World := (createAccount (file "records") joeSignup published).2

/-- It saves under a name that is used already by the first account. -/
def withBoth : World :=
  (save (file "records") (History.commit (file "old")) joe second withJoe).2

/-- It is deleted. -/
def visited : World := (deleteAccount (file "records") joe withBoth).2

theorem published_isReachableWith : IsReachableWith (file "records") (file "old") published := by
  have hopened : IsReachableWith (file "records") (file "old") openedTwo := by
    have hnew : (file "records").contents new = some .empty := rfl
    refine .opened hnew openRecords_new ?_ openHistory_old ?_ rfl <;>
      decide +kernel
  have apart : (file "records").WorksPast (file "old").contents :=
    Surroundings.connect_worksPast surroundings_isLawful (by decide)
  have hjoined : IsReachableWith (file "records") (file "old") joined :=
    hopened.step (.createAccount signup _) ((createAccount_keeps apart signup).eq _)
  exact hjoined.save (file_isLawful "records") apart ann first

theorem visited_spares :
    Relation.ReflTransGen (Spares (file "records") (file "old") ann) published visited := by
  have hother : joe.id ≠ ann.id := by decide
  exact ((Relation.ReflTransGen.refl.tail (.createAccount joeSignup _)).tail
    (.save hother second _)).tail (.deleteAccount hother _)

end World

open World in
theorem seesAll_of_spares_visited :
    ∃ db past db' past' docs made, (file "records").contents published = some db
      ∧ (file "records").contents visited = some db'
      ∧ SeesAll (file "records") (file "old") db past ann docs made
      ∧ SeesAll (file "records") (file "old") db' past' ann docs made
      ∧ made publication.id ≠ [] := by
  have hlive : ((file "records").contents published).map
      (fun db => (db.getAccount ann.id).toOption) = some (some (some ann)) := by decide +kernel
  obtain ⟨db, hs, hlive⟩ := Option.map_eq_some_iff.1 hlive
  obtain ⟨past, db', past', docs, made, hpast, hs', -, hbefore, hafter⟩ :=
    seesAll_of_spares (file_isLawful "records") (file_isLawful "old")
      (Surroundings.connect_worksPast surroundings_isLawful (by decide))
      (Surroundings.connect_worksPast surroundings_isLawful (by decide)) published_isReachableWith
      hs (Outcome.eq_ok_of_toOption hlive) visited_spares
  have hhead : (History.head (file "old") publication.key published).1.toOption.map Option.isSome
      = some true := by decide +kernel
  rw [show publication.key = ⟨ann.id, publication.id⟩ from rfl,
    (hbefore.history publication.id).head published hpast] at hhead
  refine ⟨db, past, db', past', docs, made, hs, hs', hbefore, hafter, fun hempty => ?_⟩
  rw [hempty] at hhead
  exact absurd hhead (by decide)

end Store

end InstructionStore
