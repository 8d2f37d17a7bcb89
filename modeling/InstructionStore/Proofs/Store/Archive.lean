import InstructionStore.Proofs.Store.Reachability

/-!
# The archive

An account that is deleted goes to the end of the archive and stays there. The rows of
the archive are numbered from one on, so the number of the last is how many there are;
that no number is used again is what keeps the archive in the order of deletion.

`Contents.HoldsArchive db xs` says that the archive of `db` holds the rows for the
accounts `xs`, and in every state a store can be in it does so for some
(`Store.IsReachable.holdsArchive`). The accounts that had a name are listed in their
order (`Contents.deletedAccounts_eq`).
-/

namespace InstructionStore

open Database

/-- **An account in the archive.** -/
structure Archived where
  /-- The account as it was when it was live. -/
  account : Account
  /-- When it was deleted. -/
  deletedAt : Int64
  /-- It was live. -/
  live : account.IsLive

/-- The account as it is listed. -/
def Archived.listed (x : Archived) : Account := { x.account with deleted := true }

/-- The rows of the archive, the first with a given number. -/
def archiveRowsFrom : (number : Nat) → List Archived → List ArchiveRow
  | _, [] => []
  | number, x :: xs =>
    ⟨.integer (.ofNat number), .ofAccount x.account, .integer x.deletedAt⟩
      :: archiveRowsFrom (number + 1) xs

/-- **The archive holds the rows for the accounts that were deleted.** -/
structure Database.Contents.HoldsArchive (db : Contents) (xs : List Archived) : Prop where
  /-- The rows. -/
  archive : db.archive = .rows (archiveRowsFrom 1 xs)
  /-- The greatest number is how many rows there are. -/
  archived : db.archived = xs.length
  /-- The numbers fit 64 bits. -/
  fits : xs.length < 2 ^ 63

/-- **The accounts a store knows**: those that are live and those in its archive. -/
def Records.known (r : Records) (xs : List Archived) : List Account :=
  r.accounts ++ xs.map Archived.account

/-! ## The numbers of the rows -/

theorem Database.Cell.le_ofNat {m n : Nat} (h : m ≤ n) (hn : n < 2 ^ 63) :
    Cell.le (.integer (.ofNat m)) (.integer (.ofNat n)) = true :=
  decide_eq_true ((Int64.ofNat_le_iff_le (by omega) hn).2 h)

theorem archiveRowsFrom_append (number : Nat) (xs ys : List Archived) :
    archiveRowsFrom number (xs ++ ys)
      = archiveRowsFrom number xs ++ archiveRowsFrom (number + xs.length) ys := by
  induction xs generalizing number with
  | nil => rfl
  | cons x xs ih =>
    rw [List.cons_append, archiveRowsFrom, archiveRowsFrom, ih, List.cons_append, List.length_cons,
      Nat.add_right_comm, Nat.add_assoc]

/-- A number is known of each row, and the account it was made of. -/
theorem exists_of_mem_archiveRowsFrom {number : Nat} {xs : List Archived} {row : ArchiveRow}
    (h : row ∈ archiveRowsFrom number xs) :
    ∃ n, number ≤ n ∧ n < number + xs.length ∧ row.number = .integer (.ofNat n)
      ∧ ∃ x ∈ xs, row.account = .ofAccount x.account := by
  induction xs generalizing number with
  | nil => exact nomatch h
  | cons x xs ih =>
    rw [List.length_cons]
    rcases List.mem_cons.1 h with rfl | hmem
    · exact ⟨number, Nat.le_refl _, by omega, rfl, x, List.mem_cons_self, rfl⟩
    · obtain ⟨n, hlow, hhigh, hnumber, y, hy, haccount⟩ := ih hmem
      exact ⟨n, by omega, by omega, hnumber, y, List.mem_cons_of_mem _ hy, haccount⟩

/-- Each account has its row. -/
theorem exists_row_of_mem {number : Nat} {xs : List Archived} {x : Archived} (h : x ∈ xs) :
    ∃ row ∈ archiveRowsFrom number xs, row.account = .ofAccount x.account := by
  induction xs generalizing number with
  | nil => exact nomatch h
  | cons y xs ih =>
    rcases List.mem_cons.1 h with rfl | hmem
    · exact ⟨_, List.mem_cons_self, rfl⟩
    · obtain ⟨row, hrow, haccount⟩ := ih hmem
      exact ⟨row, List.mem_cons_of_mem _ hrow, haccount⟩

/-- The rows stand in the order of their numbers. -/
theorem pairwise_archiveRowsFrom {number : Nat} {xs : List Archived}
    (h : number + xs.length ≤ 2 ^ 63) :
    (archiveRowsFrom number xs).Pairwise fun a b => a.number.le b.number = true := by
  induction xs generalizing number with
  | nil => exact List.Pairwise.nil
  | cons x xs ih =>
    rw [List.length_cons] at h
    refine List.Pairwise.cons (fun row hrow => ?_) (ih (by omega))
    obtain ⟨n, hlow, hhigh, hnumber, -⟩ := exists_of_mem_archiveRowsFrom hrow
    rw [hnumber]
    exact Cell.le_ofNat (by omega) (by omega)

/-- No row has a number greater than how many there ever were. -/
theorem lastNumber_eq {db : Contents} {xs : List Archived} (h : db.HoldsArchive xs) :
    db.lastNumber (archiveRowsFrom 1 xs) = xs.length := by
  have hle : ∀ row ∈ archiveRowsFrom 1 xs, ∃ n : Nat, n ≤ xs.length
      ∧ row.number = .integer (.ofNat n) := by
    intro row hrow
    obtain ⟨n, -, hhigh, hnumber, -⟩ := exists_of_mem_archiveRowsFrom hrow
    exact ⟨n, by omega, hnumber⟩
  have hfits := h.fits
  unfold Contents.lastNumber
  rw [h.archived]
  generalize archiveRowsFrom 1 xs = rows at hle
  induction rows with
  | nil => rfl
  | cons row rows ih =>
    rw [List.forall_mem_cons] at hle
    obtain ⟨⟨n, hn, hnumber⟩, hle⟩ := hle
    rw [List.foldl_cons, hnumber]
    dsimp only
    rw [Int64.toInt_ofNat_of_lt (by omega), max_eq_left (by omega)]
    exact ih hle

/-! ## The statements -/

namespace Database.Contents

variable {db db' : Contents} {r : Records} {xs : List Archived}

/-- **The row of a live account is copied to the end of the archive**, and without one
nothing is changed. -/
theorem archiveAccount_archive (h : db.Holds r) (harchive : db.HoldsArchive xs)
    {id : AccountId} {now : Int64} (hrun : archiveAccount id now db = .ok ((), db')) :
    ((∀ a ∈ r.accounts, a.id ≠ id) ∧ db' = db)
      ∨ ∃ a, ∃ ha : a ∈ r.accounts, a.id = id
        ∧ db'.HoldsArchive (xs ++ [⟨a, now, r.live a ha⟩]) := by
  unfold archiveAccount at hrun
  rw [Slot.read_eq_ok_iff.2 harchive.archive, Outcome.ok_bind, Slot.read_eq_ok_iff.2 h.accounts,
    Outcome.ok_bind, List.find?_map, lastNumber_eq harchive] at hrun
  cases hfind : r.accounts.find?
      ((fun row : AccountRow => decide (row.id = .text id.text)) ∘ AccountRow.ofAccount) with
  | none =>
    rw [hfind] at hrun
    cases hrun
    refine .inl ⟨fun a ha hid => ?_, rfl⟩
    exact List.find?_eq_none.1 hfind a ha (decide_eq_true (AccountId.cell_inj.2 hid))
  | some a =>
    rw [hfind] at hrun
    dsimp only [Option.map_some] at hrun
    have hmax : Int64.maxValue.toInt = 2 ^ 63 - 1 := rfl
    split at hrun
    · exact nomatch hrun
    · rename_i hfits
      rw [Outcome.bind_eq_ok_iff] at hrun
      obtain ⟨rows, hinsert, hpure⟩ := hrun
      cases hpure
      obtain ⟨-, rfl⟩ := Table.insert_eq_ok_iff.1 hinsert
      have ha : a ∈ r.accounts := List.mem_of_find?_eq_some hfind
      have hid := List.find?_some hfind
      refine .inr ⟨a, ha, AccountId.cell_inj.1 (of_decide_eq_true hid), ?_, ?_, ?_⟩
      · dsimp only
        rw [archiveRowsFrom_append, Nat.add_comm 1 xs.length]
        rfl
      · rw [List.length_append, List.length_singleton]
        rfl
      · rw [List.length_append, List.length_singleton]
        omega

/-- **The accounts that had a name are listed** in the order of their deletion. -/
theorem deletedAccounts_eq (h : db.HoldsArchive xs) (name : String) :
    db.deletedAccounts name
      = .ok ((xs.filter fun x => x.account.name.text = name).map Archived.listed) := by
  have hfits := h.fits
  have hsorted : (archiveRowsFrom 1 xs).Pairwise fun a b => a.number.le b.number = true :=
    pairwise_archiveRowsFrom (by omega)
  -- the rows are sorted already, so sorting them changes nothing
  unfold deletedAccounts
  rw [readTable_rows h.archive, Outcome.ok_bind]
  dsimp only
  rw [List.mergeSort_of_pairwise (hsorted.filter _)]
  generalize 1 = number
  clear h hsorted hfits
  induction xs generalizing number with
  | nil => rfl
  | cons x xs ih =>
    rw [archiveRowsFrom]
    by_cases hname : x.account.name.text = name
    · rw [List.filter_cons_of_pos (by exact decide_eq_true (congrArg Cell.text hname)),
        List.filter_cons_of_pos (by exact decide_eq_true hname), List.mapM_cons, ih,
        AccountRow.account_ofAccount x.live]
      rfl
    · have hcell : ¬(AccountRow.ofAccount x.account).name = .text name :=
        fun heq => hname (Cell.text.inj heq)
      rw [List.filter_cons_of_neg (by simpa using hcell),
        List.filter_cons_of_neg (by simpa using hname), ih]

end Database.Contents

/-! ## The invariant -/

namespace Store

variable {σ : Type} {c : Connection σ}

/-- An account that is closed is no longer live, and it is known still. -/
theorem known_closeAccount {r : Records} {xs : List Archived} {a : Account} (ha : a ∈ r.accounts)
    {x : Archived} (hx : x.account = a) :
    ((r.closeAccount a.id).known (xs ++ [x])).Perm (r.known xs) := by
  obtain ⟨before, after, hsplit, hbefore, hafter⟩ := exists_split_of_nodup r.ids_nodup ha
  have hothers {as : List Account} (h : ∀ b ∈ as, b.id ≠ a.id) :
      (as.filter fun b => b.id ≠ a.id) = as :=
    List.filter_eq_self.2 fun b hb => decide_eq_true (h b hb)
  unfold Records.known Records.closeAccount
  dsimp only
  rw [hsplit, List.filter_append, List.filter_cons_of_neg (by simp), hothers hbefore,
    hothers hafter, List.map_append, List.map_singleton, hx, List.append_assoc, List.append_assoc,
    List.cons_append]
  refine List.Perm.append_left before ?_
  rw [← List.append_assoc]
  exact List.perm_append_singleton a _

/-- **Upkeep preserves** that the tables hold the rows for some records and for some
accounts in the archive. The same accounts are known afterwards, or there is one more. -/
theorem Upkeep.known {db db' : Contents} (h : Upkeep db db') {r : Records} {xs : List Archived}
    (hdb : db.Holds r) (harchive : db.HoldsArchive xs) :
    ∃ r' xs', db'.Holds r' ∧ db'.HoldsArchive xs' ∧ r'.documents ⊆ r.documents
      ∧ ((r'.known xs').Perm (r.known xs)
        ∨ ∃ a, Contents.insertAccount a db = .ok ((), db') ∧ r.IsFree a
          ∧ (r'.known xs').Perm (a :: r.known xs)) := by
  cases h with
  | none => exact ⟨r, xs, hdb, harchive, List.Subset.refl _, .inl (.refl _)⟩
  | install hextends =>
    have hrows := hextends.rows (p := .archive) (by decide) harchive.archive
    exact ⟨r, xs, holds_of_extends hdb hextends,
      ⟨hrows, hextends.archived.trans harchive.archived, harchive.fits⟩, List.Subset.refl _,
      .inl (.refl _)⟩
  | @openAccount a _ live inserts =>
    obtain ⟨free, rfl⟩ := Contents.insertAccount_eq_ok hdb live inserts
    refine ⟨r.openAccount a live free, xs, ⟨rfl, hdb.documents, hdb.tags⟩,
      ⟨harchive.archive, harchive.archived, harchive.fits⟩, List.Subset.refl _,
      .inr ⟨a, inserts, free, ?_⟩⟩
    unfold Records.known Records.openAccount
    dsimp only
    rw [List.append_assoc]
    exact List.perm_middle
  | @closeAccount id _ between _ archives removes =>
    have hbetween := hdb.archiveAccount archives
    rw [Contents.removeAccount_eq hbetween] at removes
    cases removes
    rcases Contents.archiveAccount_archive hdb harchive archives with
      ⟨hnone, rfl⟩ | ⟨a, ha, rfl, hlonger⟩
    · refine ⟨r.closeAccount id, xs, ⟨rfl, hbetween.documents, hbetween.tags⟩,
        ⟨harchive.archive, harchive.archived, harchive.fits⟩, List.Subset.refl _, .inl ?_⟩
      have hall : (r.closeAccount id).accounts = r.accounts :=
        List.filter_eq_self.2 fun a ha => decide_eq_true (hnone a ha)
      unfold Records.known
      rw [hall]
    · exact ⟨r.closeAccount a.id, _, ⟨rfl, hbetween.documents, hbetween.tags⟩,
        ⟨hlonger.archive, hlonger.archived, hlonger.fits⟩, List.Subset.refl _,
        .inl (known_closeAccount ha rfl)⟩
  | removeDocument removes =>
    obtain ⟨rows, hrows, -⟩ := hdb.tags
    rw [Contents.removeDocument_eq hdb hrows] at removes
    cases removes
    exact ⟨_, xs, hdb.remove hrows _, ⟨harchive.archive, harchive.archived, harchive.fits⟩,
      List.filter_subset_self _, .inl (.refl _)⟩

/-- **One change preserves** that the archive holds the rows for some accounts. -/
theorem Change.holdsArchive {db db' : Contents} (h : Change c db db') {r : Records}
    {xs : List Archived} (hdb : db.Holds r) (harchive : db.HoldsArchive xs) :
    ∃ xs', db'.HoldsArchive xs' := by
  cases h with
  | upkeep keeps =>
    obtain ⟨_, xs', -, hxs', -⟩ := keeps.known hdb harchive
    exact ⟨xs', hxs'⟩
  | record sound records =>
    obtain ⟨rows, hrows, -⟩ := hdb.tags
    obtain ⟨_, _, -, -, -, -, rfl, -⟩ := record_eq_ok sound hdb hrows records
    exact ⟨xs, harchive.archive, harchive.archived, harchive.fits⟩

/-- The archive of a store that was just made holds nothing. -/
theorem holdsArchive_of_isNew {db : Contents} (h : db.IsNew .records) : db.HoldsArchive [] :=
  ⟨h.slots .archive (by decide) (by decide), h.archived, by decide⟩

/-- **In every state a store can be in, the archive holds the rows for some accounts**,
besides the rows for the records. -/
theorem IsReachable.holdsArchive (hc : c.IsLawful) {s : σ} (h : IsReachable c s) :
    ∃ db r xs, c.contents s = some db ∧ db.Holds r ∧ db.HoldsArchive xs := by
  induction h with
  | opened new opens =>
    obtain ⟨db', hs', hnew⟩ := contents_of_new hc new opens
    exact ⟨db', .empty, [], hs', holds_of_isNew hnew, holdsArchive_of_isNew hnew⟩
  | step _ steps ih =>
    obtain ⟨db, r, xs, hs, hdb, harchive⟩ := ih
    obtain ⟨db', hs', hchange⟩ := steps.change hc hs
    obtain ⟨r', hdb'⟩ := hchange.holds hdb
    obtain ⟨xs', hxs'⟩ := hchange.holdsArchive hdb harchive
    exact ⟨db', r', xs', hs', hdb', hxs'⟩

end Store

end InstructionStore
