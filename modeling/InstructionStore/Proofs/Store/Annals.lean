import InstructionStore.Proofs.Store.Archive
import InstructionStore.Proofs.Store.Entries

/-!
# Stores and their books of accounts

Whatever is done to a store, in any order, what it comes to for the accounts can be written
down: an entry for each account that was opened and one for each deletion that succeeded
(`Store.Enters`, `Store.Passage`). From the opening of the store on, these are the annals of
the state it led to (`Store.Annals`), and every state a store can be in has annals
(`Store.isReachable_iff_exists_annals`).

**The annals tell the two tables of accounts** (`Store.Annals.isBook`). The live accounts are
those of the entries, in their order, and so are those in the archive, to which rows are only
added.
-/

namespace InstructionStore

open Database

namespace Store

variable {σ : Type} {c : Connection σ}

/-! ## Annals -/

/-- **One step of a store**, or of what goes on around it, with the entries made for it. -/
inductive Enters (c : Connection σ) (s : σ) : List Entry → σ → Prop
  /-- Something was looked up, or the rest of the state changed. -/
  | elsewhere {s' : σ} (same : c.contents s' = c.contents s) : Enters c s [] s'
  /-- The store was opened once more. -/
  | reopen : Enters c s [] (c.openRecords s).2
  /-- An account was opened, or that failed. -/
  | createAccount {s' : σ} {result : Except StoreFailure Account} (request : Signup)
    (opens : Store.createAccount c request s = (result, s')) :
    Enters c s (Entry.ofOpening result) s'
  /-- An account was deleted, if there was one, or that failed. -/
  | deleteAccount {s' : σ} {result : Except StoreFailure Unit} (account : Account)
    (closes : Store.deleteAccount c account s = (result, s')) :
    Enters c s (Entry.ofClosing account.id result) s'
  /-- The last step of a save was taken, whose first step was taken in some other state. -/
  | persist {owner : Account} {request : SaveRequest} {p : Pending} {before between : σ}
    (prepared : prepare c owner request before = (.ok p, between)) :
    Enters c s [] (Store.persist c p s).2
  /-- A document was deleted, or that failed or found nothing. -/
  | deleteDocument (document : Document) : Enters c s [] (Store.deleteDocument c document s).2

/-- **The steps from one state to another**, with the entries made for them. The latest entry
is the first. -/
inductive Passage (c : Connection σ) (s : σ) : List Entry → σ → Prop
  /-- Nothing was done. -/
  | rest : Passage c s [] s
  /-- One step more was taken. -/
  | step {entries new : List Entry} {between s' : σ} (passage : Passage c s entries between)
    (enters : Enters c between new s') : Passage c s (new ++ entries) s'

/-- **The entries that were made** since a store was opened on a database without tables. -/
def Annals (c : Connection σ) (entries : List Entry) (s : σ) : Prop :=
  ∃ s₁ s₂, c.contents s₁ = some .empty ∧ c.openRecords s₁ = (.ok (), s₂) ∧ Passage c s₂ entries s

theorem Enters.step {s s' : σ} {new : List Entry} (enters : Enters c s new s') : Step c s s' := by
  cases enters with
  | elsewhere same => exact .elsewhere same
  | reopen => exact .reopen s
  | createAccount request opens =>
    have hstep := Step.createAccount (c := c) request s
    rwa [opens] at hstep
  | deleteAccount account closes =>
    have hstep := Step.deleteAccount (c := c) account s
    rwa [closes] at hstep
  | persist prepared => exact .persist prepared s
  | deleteDocument document => exact .deleteDocument document s

theorem exists_enters_of_step {s s' : σ} (steps : Step c s s') : ∃ new, Enters c s new s' := by
  cases steps with
  | elsewhere same => exact ⟨_, .elsewhere same⟩
  | reopen => exact ⟨_, .reopen⟩
  | createAccount request => exact ⟨_, .createAccount request rfl⟩
  | deleteAccount account => exact ⟨_, .deleteAccount account rfl⟩
  | persist prepared => exact ⟨_, .persist prepared⟩
  | deleteDocument document => exact ⟨_, .deleteDocument document⟩

/-- One passage after another. -/
theorem Passage.trans {s between s' : σ} {older newer : List Entry}
    (first : Passage c s older between) (second : Passage c between newer s') :
    Passage c s (newer ++ older) s' := by
  induction second with
  | rest => exact first
  | step _ enters ih =>
    rw [List.append_assoc]
    exact ih.step enters

/-- Annals are continued. -/
theorem Annals.passage {s s' : σ} {older newer : List Entry} (annals : Annals c older s)
    (passage : Passage c s newer s') : Annals c (newer ++ older) s' := by
  obtain ⟨s₁, s₂, new, opens, first⟩ := annals
  exact ⟨s₁, s₂, new, opens, first.trans passage⟩

theorem Annals.step {s s' : σ} {entries new : List Entry} (annals : Annals c entries s)
    (enters : Enters c s new s') : Annals c (new ++ entries) s' := by
  have hpassage : Passage c s (new ++ []) s' := .step .rest enters
  rw [List.append_nil] at hpassage
  exact annals.passage hpassage

/-- **Every state a store can be in has annals**, and only such a state does. -/
theorem isReachable_iff_exists_annals {s : σ} :
    IsReachable c s ↔ ∃ entries, Annals c entries s := by
  constructor
  · intro reachable
    induction reachable with
    | opened new opens => exact ⟨[], _, _, new, opens, .rest⟩
    | step _ steps ih =>
      obtain ⟨entries, annals⟩ := ih
      obtain ⟨new, enters⟩ := exists_enters_of_step steps
      exact ⟨_, annals.step enters⟩
  · rintro ⟨entries, s₁, s₂, new, opens, passage⟩
    induction passage with
    | rest => exact .opened new opens
    | step _ enters ih => exact ih.step enters.step

/-- A step is entered once at most, and as an account that was opened only if it returned
that. -/
theorem Enters.new_cases {s s' : σ} {new : List Entry} (enters : Enters c s new s') :
    new = [] ∨ (∃ id, new = [.closing id])
      ∨ ∃ a request, new = [.opening a] ∧ Store.createAccount c request s = (.ok a, s') := by
  cases enters with
  | elsewhere => exact .inl rfl
  | reopen => exact .inl rfl
  | persist => exact .inl rfl
  | deleteDocument => exact .inl rfl
  | @deleteAccount _ result account =>
    cases result with
    | error e => exact .inl rfl
    | ok => exact .inr (.inl ⟨account.id, rfl⟩)
  | @createAccount _ result request opens =>
    cases result with
    | error e => exact .inl rfl
    | ok a => exact .inr (.inr ⟨a, request, rfl, opens⟩)

/-- **An account that was opened was returned** by the step that opened it. -/
theorem Passage.exists_createAccount {s s' : σ} {newer older : List Entry} {a : Account}
    (passage : Passage c s (newer ++ .opening a :: older) s') :
    ∃ before after request, Passage c s older before
      ∧ createAccount c request before = (.ok a, after) ∧ Passage c after newer s' := by
  generalize hentries : newer ++ .opening a :: older = entries at passage
  induction passage generalizing newer with
  | rest => exact absurd hentries (List.append_ne_nil_of_right_ne_nil _ (List.cons_ne_nil _ _))
  | @step entries new between s' passage enters ih =>
    -- the entry was made before the last step, or it is the one of that
    have hbefore {later : List Entry} (hnewer : newer = new ++ later)
        (hrest : later ++ .opening a :: older = entries) :
        ∃ before after request, Passage c s older before
          ∧ createAccount c request before = (.ok a, after) ∧ Passage c after newer s' := by
      obtain ⟨before, after, request, first, opens, second⟩ := ih hrest
      exact ⟨before, after, request, first, opens, hnewer ▸ second.step enters⟩
    rcases enters.new_cases with rfl | ⟨id, rfl⟩ | ⟨b, request, rfl, opens⟩
    · exact hbefore rfl hentries
    · cases newer with
      | nil => exact nomatch (List.cons.inj hentries).1
      | cons entry later =>
        obtain ⟨rfl, hrest⟩ := List.cons.inj hentries
        exact hbefore rfl hrest
    · cases newer with
      | nil =>
        obtain ⟨hentry, rfl⟩ := List.cons.inj hentries
        obtain rfl := Entry.opening.inj hentry
        exact ⟨between, s', request, passage, opens, .rest⟩
      | cons entry later =>
        obtain ⟨rfl, hrest⟩ := List.cons.inj hentries
        exact hbefore rfl hrest

/-! ## What the annals tell -/

/-- **Entries that tell the tables of accounts** of a database that holds the rows for some
records. -/
structure IsBook (entries : List Entry) (db : Contents) (r : Records) (xs : List Archived) :
    Prop where
  /-- The tables hold the rows for the records. -/
  holds : db.Holds r
  /-- The archive holds the rows for the accounts that were deleted. -/
  archive : db.HoldsArchive xs
  /-- The accounts of the records are those that are live after the entries. -/
  live : r.accounts = Entry.live entries
  /-- The accounts that were deleted are those in the archive after the entries. -/
  archived : xs.map Archived.account = Entry.archived entries

variable {entries : List Entry} {db db' : Contents} {r r' : Records} {xs : List Archived}

/-- Only the tables of accounts matter. -/
theorem IsBook.frame (h : IsBook entries db r xs) (holds : db'.Holds r')
    (accounts : r'.accounts = r.accounts) (archive : db'.archive = db.archive)
    (archived : db'.archived = db.archived) : IsBook entries db' r' xs where
  holds := holds
  archive := ⟨archive.trans h.archive.archive, archived.trans h.archive.archived, h.archive.fits⟩
  live := accounts.trans h.live
  archived := h.archived

/-- The store is opened once more. -/
theorem IsBook.extends (h : IsBook entries db r xs) (hextends : db.Extends db') :
    IsBook entries db' r xs := by
  have harchive := hextends.rows (p := .archive) (by decide) h.archive.archive
  exact h.frame (holds_of_extends h.holds hextends) rfl
    (Eq.trans harchive h.archive.archive.symm) hextends.archived

/-- **An account is opened.** -/
theorem IsBook.opening (h : IsBook entries db r xs) {a : Account} (live : a.IsLive)
    (inserts : Contents.insertAccount a db = .ok ((), db')) :
    ∃ r', IsBook (.opening a :: entries) db' r' xs ∧ r'.documents = r.documents := by
  obtain ⟨free, rfl⟩ := Contents.insertAccount_eq_ok h.holds live inserts
  refine ⟨r.openAccount a live free, ⟨⟨rfl, h.holds.documents, h.holds.tags⟩,
    ⟨h.archive.archive, h.archive.archived, h.archive.fits⟩, ?_, h.archived⟩, rfl⟩
  rw [Entry.live, ← h.live]
  rfl

/-- **An account is closed**, if there is one. -/
theorem IsBook.closing (h : IsBook entries db r xs) {id : AccountId} {now : Int64}
    {between : Contents} (archives : Contents.archiveAccount id now db = .ok ((), between))
    (removes : Contents.removeAccount id between = .ok ((), db')) :
    ∃ r' xs', IsBook (.closing id :: entries) db' r' xs' ∧ xs <+: xs'
      ∧ r'.documents = r.documents := by
  have hbetween := h.holds.archiveAccount archives
  have hlive : (r.closeAccount id).accounts = Entry.live (.closing id :: entries) := by
    rw [Entry.live, ← h.live]
    rfl
  rw [Contents.removeAccount_eq hbetween] at removes
  cases removes
  rcases Contents.archiveAccount_archive h.holds h.archive archives with
    ⟨hnone, rfl⟩ | ⟨a, ha, rfl, hlonger⟩
  · refine ⟨r.closeAccount id, xs, ⟨⟨rfl, hbetween.documents, hbetween.tags⟩,
      ⟨h.archive.archive, h.archive.archived, h.archive.fits⟩, hlive, ?_⟩, List.prefix_refl xs, rfl⟩
    rw [Entry.archived, ← h.live, ← h.archived, List.filter_eq_nil_iff.2, List.append_nil]
    exact fun a ha => by simpa using hnone a ha
  · refine ⟨r.closeAccount a.id, _, ⟨⟨rfl, hbetween.documents, hbetween.tags⟩,
      ⟨hlonger.archive, hlonger.archived, hlonger.fits⟩, hlive, ?_⟩, List.prefix_append xs _, rfl⟩
    rw [Entry.archived, ← h.live, ← h.archived, List.map_append, List.map_singleton,
      filter_eq_singleton_of_nodup r.ids_nodup ha]

/-- A document is removed, if there is one. -/
theorem IsBook.remove (h : IsBook entries db r xs) {id : InstructionId} {removed : Bool}
    (removes : Contents.removeDocument id db = .ok (removed, db')) :
    IsBook entries db' (r.remove id) xs := by
  obtain ⟨rows, hrows, -⟩ := h.holds.tags
  rw [Contents.removeDocument_eq h.holds hrows] at removes
  cases removes
  exact h.frame (h.holds.remove hrows _) rfl rfl rfl

/-- **Every step enters what it does to the accounts**, and takes nothing from the archive. -/
theorem IsBook.enters (hc : c.IsLawful) (h : IsBook entries db r xs) {s s' : σ}
    (hs : c.contents s = some db) {new : List Entry} (enters : Enters c s new s') :
    ∃ db' r' xs', c.contents s' = some db' ∧ IsBook (new ++ entries) db' r' xs' ∧ xs <+: xs' := by
  have hsame (hs' : c.contents s' = some db) :
      ∃ db' r' xs', c.contents s' = some db' ∧ IsBook entries db' r' xs' ∧ xs <+: xs' :=
    ⟨db, r, xs, hs', h, List.prefix_refl xs⟩
  cases enters with
  | elsewhere same => exact hsame (same.trans hs)
  | reopen =>
    obtain ⟨db', hs', hextends⟩ := openRecords_extends hc hs
    exact ⟨db', r, xs, hs', h.extends hextends, List.prefix_refl xs⟩
  | @createAccount _ result request opens =>
    have hopened := createAccount_isAtomic hc request s db hs
    rw [opens] at hopened
    rcases hopened with ⟨_, rfl, hs'⟩ | ⟨a, db', rfl, hs', live, inserts⟩
    · exact hsame hs'
    · obtain ⟨r', hbook, -⟩ := h.opening live inserts
      exact ⟨db', r', xs, hs', hbook, List.prefix_refl xs⟩
  | @deleteAccount _ result account closes =>
    have hclosed := deleteAccount_isAtomic hc account s db hs
    rw [closes] at hclosed
    rcases hclosed with ⟨_, rfl, hs'⟩ | ⟨_, db', rfl, hs', _, _, archives, removes⟩
    · exact hsame hs'
    · obtain ⟨r', xs', hbook, hprefix, -⟩ := h.closing archives removes
      exact ⟨db', r', xs', hs', hbook, hprefix⟩
  | @persist _ _ p _ _ prepared =>
    obtain ⟨rows, hrows, -⟩ := h.holds.tags
    rcases persist_cases hc (isSound_of_prepare prepared) hs h.holds hrows with
      ⟨_, -, hs'⟩ | ⟨_, r', db', -, hs', hdb', -, -, -, rfl, hwritten⟩
    · exact hsame hs'
    · have haccounts : r'.accounts = r.accounts := by
        rcases hwritten with ⟨-, -, rfl⟩ | ⟨_, rfl⟩ <;> rfl
      exact ⟨_, r', xs, hs', h.frame hdb' haccounts rfl rfl, List.prefix_refl xs⟩
  | deleteDocument document =>
    rcases deleteDocument_isAtomic hc document s db hs with ⟨_, -, hs'⟩ | ⟨_, db', -, hs', removes⟩
    · exact hsame hs'
    · exact ⟨db', _, xs, hs', h.remove removes, List.prefix_refl xs⟩

/-- What a passage enters is what it does to the accounts. -/
theorem Passage.isBook (hc : c.IsLawful) {s s' : σ} {newer : List Entry}
    (passage : Passage c s newer s') (hs : c.contents s = some db) (h : IsBook entries db r xs) :
    ∃ db' r' xs', c.contents s' = some db' ∧ IsBook (newer ++ entries) db' r' xs'
      ∧ xs <+: xs' := by
  induction passage with
  | rest => exact ⟨db, r, xs, hs, h, List.prefix_refl xs⟩
  | step _ enters ih =>
    obtain ⟨db₁, r₁, xs₁, hs₁, hbook₁, hprefix₁⟩ := ih
    obtain ⟨db', r', xs', hs', hbook', hprefix'⟩ := hbook₁.enters hc hs₁ enters
    rw [List.append_assoc]
    exact ⟨db', r', xs', hs', hbook', hprefix₁.trans hprefix'⟩

/-- The tables of a store that was just made are told by no entry. -/
theorem isBook_of_new (hc : c.IsLawful) {s s' : σ} (new : c.contents s = some .empty)
    (opens : c.openRecords s = (.ok (), s')) :
    ∃ db, c.contents s' = some db ∧ IsBook [] db .empty [] := by
  obtain ⟨db, hs, hnew⟩ := contents_of_new hc new opens
  exact ⟨db, hs, holds_of_isNew hnew, holdsArchive_of_isNew hnew, rfl, rfl⟩

/-- **The annals of a state tell the tables of accounts.** -/
theorem Annals.isBook (hc : c.IsLawful) {s : σ} (annals : Annals c entries s) :
    ∃ db r xs, c.contents s = some db ∧ IsBook entries db r xs := by
  obtain ⟨s₁, s₂, new, opens, passage⟩ := annals
  obtain ⟨db, hs, hempty⟩ := isBook_of_new hc new opens
  obtain ⟨db', r', xs', hs', hbook, -⟩ := passage.isBook hc hs hempty
  rw [List.append_nil] at hbook
  exact ⟨db', r', xs', hs', hbook⟩

end Store

end InstructionStore
