import InstructionStore.Proofs.History.Appending
import InstructionStore.Proofs.Store.Archive
import InstructionStore.Proofs.Store.Overlap

/-!
# Documents and their commits

The records and the history are two databases, and what is done to them is not done at
once. A save asks the history first and records its document then; other saves, deletions
and account operations come between, and the last step may fail. **Still, whatever is on
file has its commit in the history**, with the name of its owner for the author
(`Store.isTraceable_of_isShared`). And what is on file is what one save asked for: no document
has its instruction from one save and its tags from another.

The invariant says of each save that it has its commit in the history from the second step
on, and of each document on file that some save came to an end with it (`System.IsBacked`).
It is kept since the history only grows, as do the accounts that are known: an account that
is deleted is in the archive. What is asked of the identifiers is that none is drawn twice,
for documents as for accounts.
-/

namespace InstructionStore

open Database

/-- **Whether a history holds the commit of a save.** -/
def Store.Pending.IsIn (p : Store.Pending) (ys : List Commit.Content) : Prop :=
  ∃ y ∈ ys, y.key = p.key.path ∧ y.body = p.document.instruction.text ∧ y.author = p.author

/-- **Whether a save is made for one of some accounts**, and in its name. -/
def Store.Pending.IsBy (p : Store.Pending) (accounts : List Account) : Prop :=
  ∃ a ∈ accounts, a.id = p.document.creatorId ∧ p.author = a.signature

/-- **An account that a database knows**: it is live or it was deleted. -/
def Database.Contents.Knows (db : Contents) (a : Account) : Prop :=
  db.getAccount a.id = .ok (some a)
    ∨ ∃ deleted, db.deletedAccounts a.name.text = .ok deleted ∧ a ∈ deleted

namespace Store

variable {σ ι : Type} {c h : Connection σ} {saves : ι → Save σ}

/-! ## Saves that share a history -/

/-- Whether an account that is opened by a step has an identifier that no deleted account
has. -/
def OpensNew (c : Connection σ) (s s' : σ) : Prop :=
  ∀ a db db' rows, c.contents s = some db → c.contents s' = some db' →
    Contents.insertAccount a db = .ok ((), db') → db.archive = .rows rows →
    ∀ row ∈ rows, row.account.id ≠ .text a.id.text

namespace System

/-- **The systems there can be if all saves share one history**, to which nothing else
commits. -/
inductive IsShared [DecidableEq ι] (c h : Connection σ) (saves : ι → Save σ) :
    System σ ι → Prop
  /-- Both databases were opened without tables, and no save took a step. -/
  | opened {s s₁ s₂ : σ} (new : c.contents s = some .empty) (fresh : h.contents s = some .empty)
    (opens : c.openRecords s = (.ok (), s₁)) (opensHistory : h.openHistory s₁ = (.ok (), s₂)) :
    IsShared c h saves ⟨s₂, fun _ => .waiting, []⟩
  /-- An operation was carried out that saves nothing. The history was left alone. -/
  | operate {x : System σ ι} {s' : σ} (shared : IsShared c h saves x)
    (operates : Operation c x.state s') (alone : h.contents s' = h.contents x.state)
    (opensNew : OpensNew c x.state s') : IsShared c h saves { x with state := s' }
  /-- The history was opened once more. -/
  | reopen {x : System σ ι} (shared : IsShared c h saves x) :
    IsShared c h saves { x with state := (h.openHistory x.state).2 }
  /-- A save took its next step. If it drew an identifier, that was a new one. -/
  | advance {x : System σ ι} (shared : IsShared c h saves x) (i : ι)
    (fresh : ∀ id ∈ ((saves i).advance c (x.phase i) x.state).1.drawn, id ∉ x.drawn) :
    IsShared c h saves (x.advance c saves i)

/-- **Each document on file is backed by a commit**, for some records, some accounts that
are known and some commits that the history holds. -/
structure IsBacked (saves : ι → Save σ) (x : System σ ι) (r : Records) (accounts : List Account)
    (ys : List Commit.Content) : Prop where
  /-- What a save carries is signed by an account. -/
  signed : ∀ i p, (x.phase i).pending = some p → p.IsBy accounts
  /-- A save whose history took the commit has its commit there. -/
  committed : ∀ i p, x.phase i = .committed p → p.IsIn ys
  /-- A document on file is what a save came to an end with. -/
  filed : ∀ f ∈ r.documents, ∃ i p, x.phase i = .finished (.ok p.document)
    ∧ p.document = f.document ∧ (saves i).Carries p ∧ p.IsBy accounts ∧ p.IsIn ys

end System

/-! ## What one step does -/

theorem Pending.IsIn.mono {p : Pending} {ys ys' : List Commit.Content} (h : p.IsIn ys)
    (hsub : ys ⊆ ys') : p.IsIn ys' := by
  obtain ⟨y, hy, hrest⟩ := h
  exact ⟨y, hsub hy, hrest⟩

theorem Pending.IsBy.mono {p : Pending} {accounts accounts' : List Account}
    (h : p.IsBy accounts) (hsub : accounts ⊆ accounts') : p.IsBy accounts' := by
  obtain ⟨a, ha, hrest⟩ := h
  exact ⟨a, hsub ha, hrest⟩

/-- The first step signs with the name of the owner. -/
theorem isBy_of_prepare (hc : c.IsLawful) {s s' : σ} {db : Contents} {r : Records}
    (hs : c.contents s = some db) (hdb : db.Holds r) {owner : Account} {request : SaveRequest}
    {p : Pending} (hrun : prepare c owner request s = (.ok p, s')) : p.IsBy r.accounts := by
  unfold prepare at hrun
  rw [Task.bind_eq_ok_iff] at hrun
  obtain ⟨checked, s₁, hchecked, hrun⟩ := hrun
  obtain rfl : s = s₁ := congrArg Prod.snd hchecked
  rw [Task.bind_eq_ok_iff] at hrun
  obtain ⟨found, s₂, hfound, hrun⟩ := hrun
  obtain ⟨rfl, db₁, hdb₁, hget⟩ := lookUp_eq_ok hfound
  obtain rfl := Option.some.inj (((hc.disturbed s).trans hs).symm.trans hdb₁)
  cases found with
  | none => exact nomatch hrun
  | some a =>
    dsimp only at hrun
    rw [Task.bind_eq_ok_iff] at hrun
    obtain ⟨_, s₃, -, hrun⟩ := hrun
    cases hrun
    exact ⟨a, ((Contents.getAccount_eq_some_iff hdb).1 hget).1, rfl, rfl⟩

/-- **What one step of a save does to the history**: it holds what it held, and the commit
of the save if it took it. -/
theorem Save.Advances.holdsCommits (hh : h.IsLawful) (apart : c.WorksPast h.contents)
    {v : Save σ} (shared : v.history = History.commit h) {phase next : Phase} {s s' : σ}
    (advances : v.Advances c phase s next s')
    (accepted : ∀ p, phase.pending = some p → p.document.instruction.IsAccepted)
    {db : Contents} {ys : List Commit.Content} (hs : h.contents s = some db)
    (hys : db.HoldsCommits ys) :
    ∃ db' ys', h.contents s' = some db' ∧ db'.HoldsCommits ys' ∧ ys ⊆ ys'
      ∧ ∀ p, next = .committed p → p.IsIn ys' := by
  have hsame (hkept : h.contents s' = h.contents s) (hnext : ∀ p, next ≠ .committed p) :
      ∃ db' ys', h.contents s' = some db' ∧ db'.HoldsCommits ys' ∧ ys ⊆ ys'
        ∧ ∀ p, next = .committed p → p.IsIn ys' :=
    ⟨db, ys, hkept.trans hs, hys, List.Subset.refl _, fun p hp => absurd hp (hnext p)⟩
  cases advances with
  | refused refuses =>
    have hkept := (prepare_keeps apart.toReadsPast v.owner v.request).eq s
    rw [refuses] at hkept
    exact hsame hkept nofun
  | prepared prepares =>
    have hkept := (prepare_keeps apart.toReadsPast v.owner v.request).eq s
    rw [prepares] at hkept
    exact hsame hkept nofun
  | uncommitted fails =>
    rw [shared] at fails
    have hkept := History.commit_unchanged hh (congrArg Prod.fst fails)
    rw [fails] at hkept
    exact hsame hkept nofun
  | @committed _ _ p _ commits =>
    rw [shared] at commits
    rcases History.commit_isAtomic hh p.key p.document.instruction p.author s db hs with
      ⟨_, hfail, -⟩ | ⟨_, db', -, hs', y, hgains, -, hbody, hauthor⟩
    · exact nomatch hfail.symm.trans (congrArg Prod.fst commits)
    · rw [commits] at hs'
      have hread := (accepted p rfl).reread_spec.1
      refine ⟨db', y :: ys, hs', hgains.holdsCommits hys ⟨_, hbody ▸ hread⟩,
        List.subset_cons_self _ _, fun q hq => ?_⟩
      cases hq
      exact ⟨y, List.mem_cons_self, hgains.path, hbody, hauthor⟩
  | @unrecorded _ _ p _ fails =>
    have hkept := (persist_keeps apart p).eq s
    rw [fails] at hkept
    exact hsame hkept nofun
  | @recorded _ _ p persists =>
    have hkept := (persist_keeps apart p).eq s
    rw [persists] at hkept
    exact hsame hkept nofun
  | rested => exact hsame rfl nofun

namespace System

variable {x : System σ ι} {r r' : Records} {accounts accounts' : List Account}
  {ys ys' : List Commit.Content}

/-- Documents may go, accounts and commits may come. -/
theorem IsBacked.mono (hx : x.IsBacked saves r accounts ys)
    (hdocuments : r'.documents ⊆ r.documents) (haccounts : accounts ⊆ accounts')
    (hys : ys ⊆ ys') {s' : σ} :
    IsBacked saves { x with state := s' } r' accounts' ys' where
  signed i p hp := (hx.signed i p hp).mono haccounts
  committed i p hp := (hx.committed i p hp).mono hys
  filed f hf := by
    obtain ⟨i, p, hfinished, hdocument, hcarries, hby, hin⟩ := hx.filed f (hdocuments hf)
    exact ⟨i, p, hfinished, hdocument, hcarries, hby.mono haccounts, hin.mono hys⟩

/-- **A step of a save** keeps each document on file backed. -/
theorem IsBacked.advance [DecidableEq ι] (hx : x.IsBacked saves r accounts ys)
    {place : InstructionId → Option (AccountId × Identifier)}
    (hcons : x.IsConsistent saves r place) {i : ι} {next : Phase} {s' : σ}
    (advances : (saves i).Advances c (x.phase i) x.state next s') {db db' : Contents}
    (writes : Writes db r (x.phase i) next db' r')
    (signed : ∀ p, next = .prepared p → p.IsBy accounts) (hys : ys ⊆ ys')
    (committed : ∀ p, next = .committed p → p.IsIn ys') :
    IsBacked saves ⟨s', Function.update x.phase i next, next.drawn ++ x.drawn⟩ r' accounts ys' := by
  -- a save that came to an end stays there
  have hstays {j : ι} {d : Document} (hj : x.phase j = .finished (.ok d)) :
      Function.update x.phase i next j = .finished (.ok d) := by
    by_cases hne : j = i
    · subst hne
      rw [hj] at advances
      cases advances
      exact Function.update_self ..
    · exact (Function.update_of_ne hne _ _).trans hj
  have hold (f : Filed) (hf : f ∈ r.documents) : ∃ j p,
      Function.update x.phase i next j = .finished (.ok p.document)
        ∧ p.document = f.document ∧ (saves j).Carries p ∧ p.IsBy accounts ∧ p.IsIn ys' := by
    obtain ⟨j, p, hfinished, hdocument, hcarries, hby, hin⟩ := hx.filed f hf
    exact ⟨j, p, hstays hfinished, hdocument, hcarries, hby, hin.mono hys⟩
  refine ⟨fun j p hp => ?_, fun j p hp => ?_, ?_⟩
  · rcases pending_update hp with ⟨rfl, hnext⟩ | ⟨-, hbefore⟩
    · cases next with
      | prepared q => exact Option.some.inj hnext ▸ signed q rfl
      | committed q =>
        obtain rfl := Option.some.inj hnext
        generalize hphase : x.phase j = phase at advances
        cases advances
        exact hx.signed j q (hphase ▸ rfl)
      | _ => exact nomatch hnext
    · exact hx.signed j p hbefore
  · by_cases hj : j = i
    · subst hj
      exact committed p ((Function.update_self ..).symm.trans hp)
    · exact (hx.committed j p ((Function.update_of_ne hj _ _).symm.trans hp)).mono hys
  · generalize hphase : x.phase i = phase at writes
    cases writes with
    | nothing => exact hold
    | @document p g _ _ carried recorded rest =>
      have hp : (x.phase i).pending = some p := hphase ▸ rfl
      have hown {f : Filed} (hf : f.document = p.document) : ∃ j q,
          Function.update x.phase i (.finished (.ok p.document)) j = .finished (.ok q.document)
            ∧ q.document = f.document ∧ (saves j).Carries q ∧ q.IsBy accounts ∧ q.IsIn ys' :=
        ⟨i, p, Function.update_self .., hf.symm, hcons.asked i p hp, hx.signed i p hp,
          (hx.committed i p hphase).mono hys⟩
      intro f hf
      rcases recorded with rfl | ⟨admits, rfl⟩
      · obtain ⟨e, he, rfl⟩ := List.mem_map.1 hf
        by_cases hid : e.document.id = g.document.id
        · -- the whole document is that of the save, since it is in the same place
          have hslot := hcons.slot_eq hp he (carried ▸ hid)
          rw [← carried] at hslot
          exact hown ((Filed.document_rewrite hid (congrArg Prod.fst hslot)
            (congrArg Prod.snd hslot)).trans carried)
        · rw [Filed.rewrite_of_ne hid]
          exact hold e he
      · rcases List.mem_append.1 hf with hbefore | hlast
        · exact hold f hbefore
        · exact hown (List.mem_singleton.1 hlast ▸ carried)

/-! ## The invariant -/

/-- What a step of a save writes changes neither the accounts nor the archive. -/
theorem Writes.frame {db db' : Contents} {phase next : Phase} (h : Writes db r phase next db' r')
    {xs : List Archived} (harchive : db.HoldsArchive xs) :
    r'.accounts = r.accounts ∧ db'.HoldsArchive xs := by
  cases h with
  | nothing => exact ⟨rfl, harchive⟩
  | document carried recorded rest =>
    have hrows := congrArg Contents.archive rest
    have harchived := congrArg Contents.archived rest
    refine ⟨?_, hrows.trans harchive.archive, harchived.trans harchive.archived, harchive.fits⟩
    rcases recorded with rfl | ⟨admits, rfl⟩ <;> rfl

/-- **What is kept of both databases**: the tables hold the rows for some records and some
commits, no two accounts that are known have one identifier, and each document on file is
backed by a commit. -/
def HasBacking (c h : Connection σ) (saves : ι → Save σ) (x : System σ ι) : Prop :=
  ∃ db r xs place history ys, c.contents x.state = some db ∧ db.Holds r ∧ db.HoldsArchive xs
    ∧ ((r.known xs).map Account.id).Nodup ∧ x.IsConsistent saves r place
    ∧ h.contents x.state = some history ∧ history.HoldsCommits ys
    ∧ x.IsBacked saves r (r.known xs) ys

/-- At first there is nothing. -/
theorem HasBacking.opened (hc : c.IsLawful) (hh : h.IsLawful) (apart : c.WorksPast h.contents)
    (leaves : h.WorksPast c.contents) {s s₁ s₂ : σ} (new : c.contents s = some .empty)
    (fresh : h.contents s = some .empty) (opens : c.openRecords s = (.ok (), s₁))
    (opensHistory : h.openHistory s₁ = (.ok (), s₂)) :
    HasBacking c h saves ⟨s₂, fun _ => .waiting, []⟩ := by
  obtain ⟨db, hs₁, hnew⟩ := contents_of_new hc new opens
  have hkept : h.contents s₁ = h.contents s := by
    have hkeeps := (Connection.openAs_keeps apart .records).eq s
    rwa [show c.openAs .records s = _ from opens] at hkeeps
  have hs₂ : c.contents s₂ = c.contents s₁ := by
    have hkeeps := (Connection.openAs_keeps leaves .history).eq s₁
    rwa [show h.openAs .history s₁ = _ from opensHistory] at hkeeps
  obtain ⟨history, hhistory, hempty⟩ :=
    History.holdsCommits_of_new hh (hkept.trans fresh) opensHistory
  exact ⟨db, .empty, [], fun _ => none, history, [], hs₂.trans hs₁, holds_of_isNew hnew,
    holdsArchive_of_isNew hnew, List.nodup_nil, .waiting, hhistory, hempty, nofun, nofun, nofun⟩

theorem HasBacking.operate (hc : c.IsLawful) (hx : x.HasBacking c h saves) {s' : σ}
    (operates : Operation c x.state s') (alone : h.contents s' = h.contents x.state)
    (opensNew : OpensNew c x.state s') : HasBacking c h saves { x with state := s' } := by
  obtain ⟨db, r, xs, place, history, ys, hs, hdb, harchive, hnodup, hcons, hhistory, hys,
    hbacked⟩ := hx
  obtain ⟨db', hs', keeps⟩ := operates.upkeep hc hs
  obtain ⟨r', xs', hdb', harchive', hdocuments, hknown⟩ := keeps.known hdb harchive
  have hcons' : IsConsistent saves { x with state := s' } r' place :=
    hcons.mono (fun f hf => ⟨f, hdocuments hf, rfl, rfl⟩) fun _ _ hp => hp
  suffices hknown' : ((r'.known xs').map Account.id).Nodup ∧ r.known xs ⊆ r'.known xs' from
    ⟨db', r', xs', place, history, ys, hs', hdb', harchive', hknown'.1, hcons',
      alone.trans hhistory, hys, hbacked.mono hdocuments hknown'.2 (List.Subset.refl _)⟩
  rcases hknown with hperm | ⟨a, inserts, free, hperm⟩
  · exact ⟨(hperm.map _).nodup_iff.2 hnodup, hperm.symm.subset⟩
  · refine ⟨(hperm.map _).nodup_iff.2 (List.nodup_cons.2 ⟨fun hmem => ?_, hnodup⟩), ?_⟩
    · obtain ⟨b, hb, hid⟩ := List.mem_map.1 hmem
      rcases List.mem_append.1 hb with hlive | hdeleted
      · exact (free b hlive).1 hid
      · obtain ⟨y, hy, rfl⟩ := List.mem_map.1 hdeleted
        obtain ⟨row, hrow, haccount⟩ := exists_row_of_mem hy
        refine opensNew a db db' _ hs hs' inserts harchive.archive row hrow ?_
        rw [haccount, ← hid]
        rfl
    · exact List.Subset.trans (List.subset_cons_self a _) hperm.symm.subset

theorem HasBacking.reopen (hh : h.IsLawful) (leaves : h.WorksPast c.contents)
    (hx : x.HasBacking c h saves) :
    HasBacking c h saves { x with state := (h.openHistory x.state).2 } := by
  obtain ⟨db, r, xs, place, history, ys, hs, hdb, harchive, hnodup, hcons, hhistory, hys,
    hbacked⟩ := hx
  have hs' : c.contents (h.openHistory x.state).2 = some db :=
    ((Connection.openAs_keeps leaves .history).eq x.state).trans hs
  obtain ⟨history', hhistory', hys'⟩ := History.holdsCommits_of_reopen hh hhistory hys
  exact ⟨db, r, xs, place, history', ys, hs', hdb, harchive, hnodup,
    hcons.mono (fun f hf => ⟨f, hf, rfl, rfl⟩) fun _ _ hp => hp, hhistory', hys',
    hbacked.mono (List.Subset.refl _) (List.Subset.refl _) (List.Subset.refl _)⟩

theorem HasBacking.advance [DecidableEq ι] (hc : c.IsLawful) (hh : h.IsLawful)
    (apart : c.WorksPast h.contents) (leaves : h.WorksPast c.contents) {i : ι}
    (commits : (saves i).history = History.commit h) (hx : x.HasBacking c h saves)
    (fresh : ∀ id ∈ ((saves i).advance c (x.phase i) x.state).1.drawn, id ∉ x.drawn) :
    (x.advance c saves i).HasBacking c h saves := by
  obtain ⟨db, r, xs, place, history, ys, hs, hdb, harchive, hnodup, hcons, hhistory, hys,
    hbacked⟩ := hx
  have advances := (saves i).advances (c := c) (x.phase i) x.state
  have quiet (key : HistoryKey) (body : Instruction) (author : Signature) :
      c.IsQuiet ((saves i).history key body author) :=
    commits ▸ History.commit_keeps leaves key body author
  obtain ⟨db', r', place', hs', hdb', writes, hcons'⟩ :=
    hcons.advance hc quiet hs hdb advances fresh
  obtain ⟨history', ys', hhistory', hys', hsub, hcommitted⟩ :=
    advances.holdsCommits hh apart commits (fun p hp => (hcons.asked i p hp).sound.accepted)
      hhistory hys
  obtain ⟨haccounts, harchive'⟩ := writes.frame harchive
  have hknown : r'.known xs = r.known xs := congrArg (· ++ xs.map Archived.account) haccounts
  have hsigned (p : Pending) (hnext : ((saves i).advance c (x.phase i) x.state).1 = .prepared p) :
      p.IsBy (r.known xs) := by
    generalize (saves i).advance c (x.phase i) x.state = next at advances hnext
    rw [hnext] at advances
    generalize x.phase i = phase at advances
    cases advances with
    | prepared prepares =>
      exact (isBy_of_prepare hc hs hdb prepares).mono (List.subset_append_left _ _)
  refine ⟨db', r', xs, place', history', ys', hs', hdb', harchive', hknown ▸ hnodup, hcons',
    hhistory', hys', ?_⟩
  rw [hknown]
  exact hbacked.advance hcons advances writes hsigned hsub hcommitted

/-- **In every system whose saves share a history, each document on file is backed by a
commit.** -/
theorem IsShared.hasBacking [DecidableEq ι] (hc : c.IsLawful) (hh : h.IsLawful)
    (apart : c.WorksPast h.contents) (leaves : h.WorksPast c.contents)
    (commits : ∀ i, (saves i).history = History.commit h) (shared : IsShared c h saves x) :
    x.HasBacking c h saves := by
  induction shared with
  | opened new fresh opens opensHistory =>
    exact .opened hc hh apart leaves new fresh opens opensHistory
  | operate _ operates alone opensNew ih => exact ih.operate hc operates alone opensNew
  | reopen _ ih => exact ih.reopen hh leaves
  | advance _ i fresh ih => exact ih.advance hc hh apart leaves (commits i) fresh

end System

/-! ## What is on file -/

/-- **A document on file that the history backs.** -/
structure IsTraceable (h : Connection σ) (saves : ι → Save σ) (x : System σ ι) (db : Contents)
    (d : Document) : Prop where
  /-- It is what one save asked for, with its instruction and all its tags, and came to an
  end with. -/
  saved : ∃ i p, x.phase i = .finished (.ok p.document) ∧ (saves i).Carries p
    ∧ d = p.document.reread
  /-- Its owner is known. -/
  owner : ∃ a, db.Knows a ∧ a.id = d.creatorId
  /-- The log of its key has a commit with its instruction, by its owner. -/
  logged : ∃ made : List Commit,
    (∀ limit, History.log h ⟨d.creatorId, d.id⟩ limit x.state
      = (if (h.disturbed x.state).1 then .error .sql else .ok (made.take limit),
        (h.disturbed x.state).2))
    ∧ ∃ commit ∈ made, commit.body = d.instruction
      ∧ ∀ a, db.Knows a → a.id = d.creatorId → commit.author = ⟨a.name.text, a.name.text⟩

/-- An account that a database knows is one of those that the store knows. -/
theorem exists_of_knows {db : Contents} {r : Records} {xs : List Archived} (hdb : db.Holds r)
    (harchive : db.HoldsArchive xs) {a : Account} (ha : db.Knows a) :
    ∃ b ∈ r.known xs, b.id = a.id ∧ b.name = a.name := by
  rcases ha with hlive | ⟨deleted, hdeleted, ha⟩
  · exact ⟨a, List.mem_append_left _ ((Contents.getAccount_eq_some_iff hdb).1 hlive).1, rfl, rfl⟩
  · rw [Contents.deletedAccounts_eq harchive] at hdeleted
    cases hdeleted
    obtain ⟨y, hy, rfl⟩ := List.mem_map.1 ha
    have hmem := List.mem_map_of_mem (f := Archived.account) (List.mem_filter.1 hy).1
    exact ⟨y.account, List.mem_append_right _ hmem, rfl, rfl⟩

theorem exists_knows {db : Contents} {r : Records} {xs : List Archived} (hdb : db.Holds r)
    (harchive : db.HoldsArchive xs) {b : Account} (hb : b ∈ r.known xs) :
    ∃ a, db.Knows a ∧ a.id = b.id := by
  rcases List.mem_append.1 hb with hlive | hdeleted
  · exact ⟨b, .inl ((Contents.getAccount_eq_some_iff hdb).2 ⟨hlive, rfl⟩), rfl⟩
  · obtain ⟨y, hy, rfl⟩ := List.mem_map.1 hdeleted
    refine ⟨y.listed, .inr ⟨_, Contents.deletedAccounts_eq harchive _, ?_⟩, rfl⟩
    exact List.mem_map_of_mem (List.mem_filter.2 ⟨hy, decide_eq_true rfl⟩)

/-- The log of a key, in a state in which a history holds some commits. -/
theorem log_of_holdsCommits (hh : h.IsLawful) {s : σ} {history : Contents}
    {ys : List Commit.Content} (hs : h.contents s = some history) (hys : history.HoldsCommits ys)
    (key : HistoryKey) :
    ∃ made : List Commit,
      (∀ limit, History.log h key limit s
        = (if (h.disturbed s).1 then .error .sql else .ok (made.take limit), (h.disturbed s).2))
      ∧ ∀ y ∈ ys, y.key = key.path →
        ∃ commit ∈ made, commit.author = y.author ∧
          Instruction.ofText y.body = .ok commit.body := by
  obtain ⟨made, hlog, hmade⟩ := hys.log_eq key
  refine ⟨made, fun limit => ?_, fun y hy hkey => ?_⟩
  · unfold History.log
    rw [Connection.query_apply hh _ _ hs, hlog]
  · have hrow : y.row.commit ∈ made.map Except.ok :=
      hmade ▸ List.mem_map_of_mem (List.mem_filter.2 ⟨hy, decide_eq_true hkey⟩)
    obtain ⟨commit, hcommit, hread⟩ := List.mem_map.1 hrow
    obtain ⟨-, -, hauthor, hbody⟩ := Commit.Content.commit_row_eq_ok hread.symm
    exact ⟨commit, hcommit, hauthor, hbody⟩

/-- **No document on file is missing from the history, and none is a mixture.** Whatever the
order of the steps of saves that share a history, of deletions and of account operations,
and whichever of them fail: each row of a document is backed by a commit of the history and
is what one save asked for. -/
theorem isTraceable_of_isShared [DecidableEq ι] {x : System σ ι} (hc : c.IsLawful)
    (hh : h.IsLawful) (apart : c.WorksPast h.contents) (leaves : h.WorksPast c.contents)
    (commits : ∀ i, (saves i).history = History.commit h)
    (shared : System.IsShared c h saves x) :
    ∃ db rows, c.contents x.state = some db ∧ db.documents = .rows rows
      ∧ ∀ row ∈ rows, ∃ d, db.document row = .ok d ∧ IsTraceable h saves x db d := by
  obtain ⟨db, r, xs, place, history, ys, hs, hdb, harchive, hnodup, -, hhistory, hys, hbacked⟩ :=
    shared.hasBacking hc hh apart leaves commits
  refine ⟨db, _, hs, hdb.documents, fun row hrow => ?_⟩
  obtain ⟨f, hf, rfl⟩ := List.mem_map.1 hrow
  refine ⟨_, Contents.document_row hdb hf, ?_⟩
  obtain ⟨i, p, hfinished, hdocument, hcarries, ⟨b, hb, hid, hauthor⟩, y, hy, hkey, hbody, hby⟩ :=
    hbacked.filed f hf
  rw [← hdocument]
  obtain ⟨made, hlog, hmade⟩ := log_of_holdsCommits hh hhistory hys p.key
  obtain ⟨commit, hcommit, hsigned, hread⟩ := hmade y hy hkey
  obtain ⟨a, ha, haid⟩ := exists_knows hdb harchive hb
  refine ⟨⟨i, p, hfinished, hcarries, rfl⟩, ⟨a, ha, haid.trans hid⟩,
    made, hlog, commit, hcommit, ?_, fun a' ha' hid' => ?_⟩
  · rw [hbody, hcarries.sound.accepted.reread_spec.1] at hread
    exact (Except.ok.inj hread).symm
  · -- the owner is the one account of the identifier, whatever became of it
    obtain ⟨b', hb', hbid', hname⟩ := exists_of_knows hdb harchive ha'
    obtain rfl := eq_of_nodup hnodup hb hb' (hid.trans (hbid'.trans hid').symm)
    rw [hsigned, hby, hauthor]
    unfold Account.signature
    rw [hname]

/-! ## Two saves that share a history -/

namespace World

/-- Two saves of one account under one name, with one history. -/
def sharers : Bool → Save World
  | false => ⟨ann, first, History.commit (file "old"), first_short⟩
  | true => ⟨ann, second, History.commit (file "old"), second_short⟩

/-- The account is opened, and both saves have yet to begin. -/
def beforeSharers : System World Bool :=
  ⟨(createAccount (file "records") signup openedTwo).2, fun _ => .waiting, []⟩

/-- Both find nothing, and one of them commits and is recorded. -/
def afterSharers : System World Bool :=
  [false, true, false, false].foldl (System.advance (file "records") sharers) beforeSharers

theorem afterSharers_isShared :
    System.IsShared (file "records") (file "old") sharers afterSharers := by
  have hopened : System.IsShared (file "records") (file "old") sharers
      ⟨openedTwo, fun _ => .waiting, []⟩ :=
    .opened (s := new) rfl rfl openRecords_new openHistory_old
  have hempty : ((file "records").contents openedTwo).map Contents.archive = some (.rows []) := by
    decide +kernel
  have hbefore : System.IsShared (file "records") (file "old") sharers beforeSharers := by
    refine hopened.operate (.createAccount signup openedTwo) (by decide +kernel) ?_
    -- there are no deleted accounts yet
    intro a db db' rows hs _ _ harchive row hrow
    rw [show (file "records").contents openedTwo = some db from hs, Option.map_some,
      harchive] at hempty
    cases hempty
    exact nomatch hrow
  unfold afterSharers
  refine ((((hbefore.advance false ?_).advance true ?_).advance false ?_).advance false ?_) <;>
    decide +kernel

end World

open World in
theorem isTraceable_of_isShared_sharers :
    ∃ db row rows d, System.IsShared (file "records") (file "old") sharers afterSharers
      ∧ (file "records").contents afterSharers.state = some db
      ∧ db.documents = .rows (row :: rows) ∧ db.document row = .ok d
      ∧ IsTraceable (file "old") sharers afterSharers db d := by
  obtain ⟨db, rows, hs, hrows, htraceable⟩ := isTraceable_of_isShared (file_isLawful "records")
    (file_isLawful "old") (Surroundings.connect_worksPast surroundings_isLawful (by decide))
    (Surroundings.connect_worksPast surroundings_isLawful (by decide))
    (fun i => by cases i <;> rfl) afterSharers_isShared
  have hfiled : ((file "records").contents afterSharers.state).map Contents.documents
      ≠ some (.rows []) := by decide +kernel
  rw [hs, Option.map_some, hrows] at hfiled
  cases rows with
  | nil => exact absurd rfl hfiled
  | cons row rows =>
    obtain ⟨d, hd, htraceable⟩ := htraceable row List.mem_cons_self
    exact ⟨db, row, rows, d, afterSharers_isShared, hs, hrows, hd, htraceable⟩

end Store

end InstructionStore
