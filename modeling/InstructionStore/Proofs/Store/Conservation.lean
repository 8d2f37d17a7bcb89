import InstructionStore.Proofs.Store.Identity

/-!
# What becomes of an account

**Accounts are conserved** (`Store.conservesAccounts_of_annals`). An account that was opened is
in one row at every later moment, as it was opened: among the live accounts until its identifier
is deleted for the first time, and in the archive from then on. Nothing else enters the archive,
and no row of it is ever changed or removed.

The archive is listed in the order of deletion, which is that of the numbers of its rows. The
time of a deletion is kept, but nothing is sorted by it; so it makes no difference what the
clock shows.

All that is asked is that no identifier is drawn twice for an account that is opened. Nothing
is asked of the names and the email addresses: they can be taken again and again.
-/

namespace InstructionStore

open Database

/-! ## Rows of the archive -/

/-- The rows of the archive are those of the accounts that were deleted. -/
theorem map_account_archiveRowsFrom (number : Nat) (xs : List Archived) :
    (archiveRowsFrom number xs).map ArchiveRow.account
      = (xs.map Archived.account).map .ofAccount := by
  induction xs generalizing number with
  | nil => rfl
  | cons x xs ih => rw [archiveRowsFrom, List.map_cons, ih, List.map_cons, List.map_cons]

/-- More deleted accounts come to more rows at the end. -/
theorem archiveRowsFrom_prefix {xs ys : List Archived} (h : xs <+: ys) (number : Nat) :
    archiveRowsFrom number xs <+: archiveRowsFrom number ys := by
  obtain ⟨later, rfl⟩ := h
  rw [archiveRowsFrom_append]
  exact List.prefix_append _ _

namespace Database.Contents

variable {db : Contents} {r : Records} {xs : List Archived}

/-- A row is copied to the archive as long as there is a number left for it. -/
theorem exists_archiveAccount (h : db.Holds r) (harchive : db.HoldsArchive xs)
    (room : xs.length + 1 < 2 ^ 63) (id : AccountId) (now : Int64) :
    ∃ db', archiveAccount id now db = .ok ((), db') := by
  unfold archiveAccount
  rw [Slot.read_eq_ok_iff.2 harchive.archive, Outcome.ok_bind, Slot.read_eq_ok_iff.2 h.accounts,
    Outcome.ok_bind, List.find?_map, lastNumber_eq harchive]
  cases r.accounts.find?
      ((fun row : AccountRow => decide (row.id = .text id.text)) ∘ AccountRow.ofAccount) with
  | none => exact ⟨db, rfl⟩
  | some a =>
    have hmax : Int64.maxValue.toInt = 2 ^ 63 - 1 := rfl
    let row : ArchiveRow :=
      ⟨.integer (.ofNat (xs.length + 1)), .ofAccount a, .integer now⟩
    -- every number that was given before is smaller
    have hclash : ∀ other ∈ archiveRowsFrom 1 xs, ArchiveRow.table.clash row other = false := by
      intro other hother
      obtain ⟨n, -, hhigh, hnumber, -⟩ := exists_of_mem_archiveRowsFrom hother
      have hne : row.number ≠ other.number := by
        intro heq
        have hint := congrArg Int64.toInt (Cell.integer.inj (heq.trans hnumber))
        rw [Int64.toInt_ofNat_of_lt (by omega), Int64.toInt_ofNat_of_lt (by omega)] at hint
        omega
      unfold Table.clash ArchiveRow.table
      simp [hne]
    have hinsert : ArchiveRow.table.insert row (archiveRowsFrom 1 xs)
        = .ok (archiveRowsFrom 1 xs ++ [row]) :=
      Table.insert_eq_ok_iff.2 ⟨⟨rfl, hclash⟩, rfl⟩
    dsimp only [Option.map_some]
    rw [if_neg (by omega)]
    exact ⟨_, congrArg (· >>= _) hinsert⟩

end Database.Contents

namespace Store

variable {σ : Type} {c : Connection σ} {s : σ} {entries : List Entry} {db : Contents} {a : Account}

/-! ## Where an account is -/

/-- **Whether an account is among the live accounts**, in one row, and not in the archive. -/
def IsInLive (db : Contents) (a : Account) : Prop :=
  ∃ rows archive, db.accounts = .rows rows ∧ db.archive = .rows archive
    ∧ (rows.filter fun row => row.id = .text a.id.text) = [.ofAccount a]
    ∧ (archive.filter fun row => row.account.id = .text a.id.text) = []

/-- **Whether an account is in the archive**, in one row, and not among the live accounts. -/
def IsInArchive (db : Contents) (a : Account) : Prop :=
  ∃ rows archive, db.accounts = .rows rows ∧ db.archive = .rows archive
    ∧ (rows.filter fun row => row.id = .text a.id.text) = []
    ∧ ∃ row, (archive.filter fun row => row.account.id = .text a.id.text) = [row]
      ∧ row.account = .ofAccount a

/-- The rows with an identifier are those of the accounts that have it. -/
theorem filter_map_ofAccount (as : List Account) (id : AccountId) :
    ((as.map AccountRow.ofAccount).filter fun row => row.id = .text id.text)
      = (as.filter fun a => a.id = id).map .ofAccount := by
  rw [List.filter_map]
  exact congrArg (fun p => (as.filter p).map AccountRow.ofAccount)
    (funext fun a => decide_eq_decide.2 AccountId.cell_inj)

/-- So are those of the archive. -/
theorem map_account_filter (xs : List Archived) (id : AccountId) :
    ((archiveRowsFrom 1 xs).filter fun row => row.account.id = .text id.text).map ArchiveRow.account
      = ((xs.map Archived.account).filter fun a => a.id = id).map .ofAccount := by
  rw [← filter_map_ofAccount, ← map_account_archiveRowsFrom 1, List.filter_map]
  rfl

variable {r : Records} {xs : List Archived}

theorem IsBook.isInLive (h : IsBook entries db r xs)
    (unused : ((Entry.opened entries).map Account.id).Nodup) (ha : a ∈ Entry.live entries) :
    IsInLive db a := by
  obtain ⟨hlive, -, hapart⟩ := Entry.nodup_live_archived unused
  refine ⟨_, _, h.holds.accounts, h.archive.archive, ?_, ?_⟩
  · rw [filter_map_ofAccount, h.live, filter_eq_singleton_of_nodup hlive ha]
    rfl
  · have hnone : ((Entry.archived entries).filter fun b => b.id = a.id) = [] := by
      refine List.filter_eq_nil_iff.2 fun b hb heq => ?_
      exact hapart a ha b hb (of_decide_eq_true heq).symm
    have hrows := map_account_filter xs a.id
    rw [h.archived, hnone] at hrows
    exact List.map_eq_nil_iff.1 hrows

theorem IsBook.isInArchive (h : IsBook entries db r xs)
    (unused : ((Entry.opened entries).map Account.id).Nodup) (ha : a ∈ Entry.archived entries) :
    IsInArchive db a := by
  obtain ⟨-, harchived, hapart⟩ := Entry.nodup_live_archived unused
  refine ⟨_, _, h.holds.accounts, h.archive.archive, ?_, ?_⟩
  · have hnone : ((Entry.live entries).filter fun b => b.id = a.id) = [] := by
      refine List.filter_eq_nil_iff.2 fun b hb heq => ?_
      exact hapart b hb a ha (of_decide_eq_true heq)
    rw [filter_map_ofAccount, h.live, hnone]
    rfl
  · have hrows := map_account_filter xs a.id
    rw [h.archived, filter_eq_singleton_of_nodup harchived ha] at hrows
    obtain ⟨row, hrow, haccount⟩ := List.map_eq_singleton_iff.1 hrows
    exact ⟨row, hrow, haccount⟩

/-! ## Deleting an account -/

/-- **An account that is not live is deleted without a trace.** -/
theorem contents_of_deleteAccount (hc : c.IsLawful) (hs : c.contents s = some db)
    (h : IsBook entries db r xs) {account : Account}
    (gone : ∀ a ∈ r.accounts, a.id ≠ account.id) :
    c.contents (deleteAccount c account s).2 = some db := by
  rcases deleteAccount_isAtomic hc account s db hs with
    ⟨_, -, hs'⟩ | ⟨_, db', -, hs', _, between, archives, removes⟩
  · exact hs'
  · rcases Contents.archiveAccount_archive h.holds h.archive archives with
      ⟨-, rfl⟩ | ⟨a, ha, hid, -⟩
    · rw [Contents.removeAccount_eq h.holds] at removes
      have hall : (r.closeAccount account.id).accounts = r.accounts :=
        List.filter_eq_self.2 fun a ha => decide_eq_true (gone a ha)
      rw [hall, ← h.holds.accounts] at removes
      cases removes
      exact hs'
    · exact absurd hid (gone a ha)

/-- **A deletion succeeds** on a calm connection as long as there is a number left for a row of
the archive. -/
theorem deleteAccount_of_room (hc : c.IsLawful) (calm : c.IsCalm) (hs : c.contents s = some db)
    (h : IsBook entries db r xs) (room : xs.length + 1 < 2 ^ 63) (account : Account) :
    (deleteAccount c account s).1 = .ok () := by
  obtain ⟨between, archives⟩ :=
    Contents.exists_archiveAccount h.holds h.archive room account.id (c.now s)
  have removes := Contents.removeAccount_eq (h.holds.archiveAccount archives) account.id
  have hbody : c.IsContained (c.step (fun _ => StoreFailure.sql)
      (Contents.archiveAccount account.id (c.now s)) >>= fun _ =>
        c.step (fun _ => .sql) (Contents.removeAccount account.id)) :=
    ((Connection.OnlyDisturbs.step _ _).bind fun _ => .step _ _).isContained hc
  obtain ⟨s', hrun, -⟩ := calm.transact_of_yields hc .sql hbody hs
    ((calm.step_yields archives).bind (calm.step_yields removes))
  exact congrArg Prod.fst hrun

/-! ## The conservation of accounts -/

/-- **A store that conserves its accounts**, in a state that some entries led to. -/
structure ConservesAccounts (c : Connection σ) (entries : List Entry) (db : Contents) (s : σ) :
    Prop where
  /-- An account is among the live accounts until its identifier is deleted. -/
  live : ∀ newer a older, entries = newer ++ .opening a :: older → .closing a.id ∉ newer →
    IsInLive db a
  /-- It is in the archive from then on. -/
  archived : ∀ newer a older, entries = newer ++ .opening a :: older → .closing a.id ∈ newer →
    IsInArchive db a
  /-- Nothing else is in the archive. -/
  nothingElse : ∀ rows, db.archive = .rows rows → ∀ row ∈ rows, ∃ newer a older,
    entries = newer ++ .opening a :: older ∧ .closing a.id ∈ newer ∧ row.account = .ofAccount a
  /-- Whatever is done next, the rows of the archive stay as they are, before those that are
  added. -/
  kept : ∀ newer s', Passage c s newer s' → ∃ db' rows rows', c.contents s' = some db'
    ∧ db.archive = .rows rows ∧ db'.archive = .rows rows' ∧ rows <+: rows'
  /-- The accounts of the archive that had a name are listed in the order in which they were
  deleted. -/
  listed : ∀ name, Shows c db (deletedAccounts c name)
    (((Entry.archived entries).filter fun a => a.name.text = name).map
      fun a => { a with deleted := true })
  /-- They are not found by their identifiers, -/
  notFoundById : ∀ a ∈ Entry.archived entries, Shows c db (getAccount c a.id) none
  /-- nor by any text. -/
  notFound : ∀ a ∈ Entry.archived entries, ∀ t text b, c.contents t = some db →
    (findAccount c text t).1 = .ok (some b) → b.id ≠ a.id
  /-- Deleting an account that is not live changes nothing. -/
  unmoved : ∀ account : Account, (∀ a ∈ Entry.live entries, a.id ≠ account.id) →
    c.contents (deleteAccount c account s).2 = some db
  /-- If the database refuses nothing for a reason of its own, an account can be deleted as long
  as there is a number left for its row. -/
  moved : c.IsCalm → ∀ rows, db.archive = .rows rows → rows.length + 1 < 2 ^ 63 →
    ∀ account, (deleteAccount c account s).1 = .ok ()

/-- **Accounts are conserved**, whatever is done to a store, if no identifier is given to two of
them. -/
theorem conservesAccounts_of_annals (hc : c.IsLawful) (annals : Annals c entries s)
    (unused : ((Entry.opened entries).map Account.id).Nodup) :
    ∃ db, c.contents s = some db ∧ ConservesAccounts c entries db s := by
  obtain ⟨db, r, xs, hs, hbook⟩ := annals.isBook hc
  have hapart {a b : Account} (ha : a ∈ Entry.archived entries) (hb : b ∈ r.accounts) :
      b.id ≠ a.id :=
    (Entry.nodup_live_archived unused).2.2 b (hbook.live ▸ hb) a ha
  refine ⟨db, hs, ?_, ?_, ?_, ?_, ?_, ?_, ?_, ?_, ?_⟩
  · rintro newer a older rfl hopen
    exact hbook.isInLive unused ((Entry.mem_live_iff unused).2 hopen)
  · rintro newer a older rfl hclosed
    exact hbook.isInArchive unused ((Entry.mem_archived_iff unused).2 hclosed)
  · intro rows hrows row hrow
    obtain rfl := Slot.rows.inj (hbook.archive.archive.symm.trans hrows)
    obtain ⟨_, -, -, -, x, hx, haccount⟩ := exists_of_mem_archiveRowsFrom hrow
    have harchived : x.account ∈ Entry.archived entries :=
      hbook.archived ▸ List.mem_map_of_mem hx
    obtain ⟨newer, older, rfl⟩ := Entry.exists_split_of_opened (Entry.opened_of_archived harchived)
    exact ⟨newer, x.account, older, rfl, (Entry.mem_archived_iff unused).1 harchived, haccount⟩
  · intro newer s' passage
    obtain ⟨db', r', xs', hs', hbook', hprefix⟩ := passage.isBook hc hs hbook
    exact ⟨db', _, _, hs', hbook.archive.archive, hbook'.archive.archive,
      archiveRowsFrom_prefix hprefix 1⟩
  · intro name
    have hlisted : ((Entry.archived entries).filter fun a => a.name.text = name).map
          (fun a => { a with deleted := true })
        = (xs.filter fun x => x.account.name.text = name).map Archived.listed := by
      rw [← hbook.archived, List.filter_map, List.map_map]
      rfl
    rw [hlisted]
    exact shows_lookUp hc (Contents.deletedAccounts_eq hbook.archive name)
  · intro a ha
    exact shows_getAccount_none hc hbook.holds fun b hb => hapart ha hb
  · intro a ha t text b ht hfound
    have hfind := lookUp_finds hc ht hfound
    rw [Contents.findAccount_eq hbook.holds, Except.ok.injEq] at hfind
    exact hapart ha (mem_namesOf_of_owner_eq_some hfind).1
  · intro account gone
    exact contents_of_deleteAccount hc hs hbook (hbook.live ▸ gone)
  · intro calm rows hrows room account
    obtain rfl := Slot.rows.inj (hbook.archive.archive.symm.trans hrows)
    have hlength : (archiveRowsFrom 1 xs).length = xs.length := by
      rw [← List.length_map (f := ArchiveRow.account), map_account_archiveRowsFrom, List.length_map,
        List.length_map]
    exact deleteAccount_of_room hc calm hs hbook (hlength ▸ room) account

/-! ## An account that is deleted twice -/

namespace World

/-- The account is deleted once more, after another one took its name. -/
def deletedTwice : World := (deleteAccount (file "records") ann rejoined).2

theorem deletedTwice_annals :
    Annals (file "records") (.closing ann.id :: rejoinedEntries) deletedTwice := by
  have hdelete : (deleteAccount (file "records") ann rejoined).1.toOption = some () := by
    decide +kernel
  exact rejoined_annals.step (.deleteAccount ann (Outcome.run_eq_of_toOption hdelete))

end World

open World in
theorem conservesAccounts_of_annals_deletedTwice :
    ∃ db, (file "records").contents deletedTwice = some db
      ∧ ConservesAccounts (file "records") (.closing ann.id :: rejoinedEntries) db deletedTwice
      ∧ IsInLive db successor ∧ IsInArchive db ann
      ∧ Shows (file "records") db (deletedAccounts (file "records") "ann")
          [{ ann with deleted := true }] := by
  have hunused : ((Entry.opened (.closing ann.id :: rejoinedEntries)).map Account.id).Nodup := by
    decide
  obtain ⟨db, hdb, hconserves⟩ :=
    conservesAccounts_of_annals (file_isLawful "records") deletedTwice_annals hunused
  refine ⟨db, hdb, hconserves, ?_, ?_, hconserves.listed "ann"⟩
  · exact hconserves.live [.closing ann.id] successor _ rfl (by decide)
  · exact hconserves.archived [.closing ann.id, .opening successor, .closing ann.id] ann [] rfl
      (by decide)

end Store

end InstructionStore
