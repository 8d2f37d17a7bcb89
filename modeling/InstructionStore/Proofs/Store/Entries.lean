import InstructionStore.Account
import InstructionStore.Failure
import InstructionStore.Proofs.Lists

/-!
# The book of accounts

What becomes of the accounts of a store is told by two kinds of entries: an account was
opened and returned, or the one of an identifier was closed (`Store.Entry`). From the entries
it can be read which accounts are live (`Entry.live`) and which are in the archive
(`Entry.archived`), without any database.

**No account is lost and none is doubled**: the accounts that were opened are those that are
live and those in the archive, together (`Entry.live_append_archived_perm`). If no identifier
was given twice, an account is live until the first entry that closes its identifier, and in
the archive from then on (`Entry.mem_live_iff`, `Entry.mem_archived_iff`).
-/

namespace InstructionStore.Store

/-- **What happened to the accounts of a store.** -/
inductive Entry where
  /-- An account was opened and returned. -/
  | opening (account : Account)
  /-- The account of an identifier was deleted, if there was one. -/
  | closing (id : AccountId)
deriving DecidableEq

namespace Entry

/-- The entry of a request to open an account, if it succeeded. -/
def ofOpening : Except StoreFailure Account → List Entry
  | .ok a => [opening a]
  | .error _ => []

/-- The entry of a deletion, if it succeeded. -/
def ofClosing (id : AccountId) : Except StoreFailure Unit → List Entry
  | .ok () => [closing id]
  | .error _ => []

/-- The accounts that were opened, the latest first. -/
def opened : List Entry → List Account
  | [] => []
  | opening a :: entries => a :: opened entries
  | closing _ :: entries => opened entries

/-- **The accounts that are live** after some entries, the latest of which is the first. They
are in the order in which they were opened. -/
def live : List Entry → List Account
  | [] => []
  | opening a :: entries => live entries ++ [a]
  | closing id :: entries => (live entries).filter fun a => a.id ≠ id

/-- **The accounts in the archive** after some entries, in the order in which they were
closed. -/
def archived : List Entry → List Account
  | [] => []
  | opening _ :: entries => archived entries
  | closing id :: entries => archived entries ++ (live entries).filter fun a => a.id = id

variable {a b : Account} {id : AccountId} {entries newer older : List Entry}

theorem mem_live_opening : b ∈ live (opening a :: entries) ↔ b ∈ live entries ∨ b = a := by
  rw [live, List.mem_append, List.mem_singleton]

theorem mem_live_closing : b ∈ live (closing id :: entries) ↔ b ∈ live entries ∧ b.id ≠ id := by
  rw [live, List.mem_filter, decide_eq_true_eq]

/-- **No account is lost and none is doubled.** -/
theorem live_append_archived_perm (entries : List Entry) :
    (live entries ++ archived entries).Perm (opened entries) := by
  induction entries with
  | nil => exact List.Perm.nil
  | cons entry entries ih =>
    cases entry with
    | opening a =>
      rw [live, archived, opened, List.append_assoc]
      exact List.perm_middle.trans (ih.cons a)
    | closing id =>
      -- what is taken from the live accounts is what the archive gains
      have hparts : (((live entries).filter fun a => a.id ≠ id)
          ++ (live entries).filter fun a => a.id = id).Perm (live entries) := by
        have hsplit :=
          List.filter_append_perm (fun a : Account => decide (a.id = id)) (live entries)
        simp only [← decide_not] at hsplit
        exact List.perm_append_comm.trans hsplit
      refine List.Perm.trans ?_ ih
      rw [live, archived]
      refine (List.perm_append_comm.append_left _).trans ?_
      rw [← List.append_assoc]
      exact hparts.append_right _

theorem opened_of_live (h : a ∈ live entries) : a ∈ opened entries :=
  (live_append_archived_perm entries).subset (List.mem_append_left _ h)

theorem opened_of_archived (h : a ∈ archived entries) : a ∈ opened entries :=
  (live_append_archived_perm entries).subset (List.mem_append_right _ h)

theorem opened_append (newer older : List Entry) :
    opened (newer ++ older) = opened newer ++ opened older := by
  induction newer with
  | nil => rfl
  | cons entry newer ih => cases entry <;> simp only [List.cons_append, opened, ih]

/-- An account that was opened has its entry. -/
theorem exists_split_of_opened (h : a ∈ opened entries) :
    ∃ newer older, entries = newer ++ opening a :: older := by
  induction entries with
  | nil => exact nomatch h
  | cons entry entries ih =>
    have hrest (hmem : a ∈ opened entries) :
        ∃ newer older, entry :: entries = newer ++ opening a :: older := by
      obtain ⟨newer, older, rfl⟩ := ih hmem
      exact ⟨entry :: newer, older, rfl⟩
    cases entry with
    | closing id => exact hrest h
    | opening b =>
      rcases List.mem_cons.1 h with rfl | hmem
      · exact ⟨[], entries, rfl⟩
      · exact hrest hmem

/-! ## Identifiers that are given once -/

/-- The identifier of an account is in no other entry that opens one. -/
theorem id_ne_of_nodup
    (h : ((opened (newer ++ opening a :: older)).map Account.id).Nodup) :
    (∀ b ∈ opened newer, b.id ≠ a.id) ∧ ∀ b ∈ opened older, b.id ≠ a.id := by
  rw [opened_append, opened, List.map_append, List.map_cons, List.nodup_append,
    List.nodup_cons] at h
  obtain ⟨-, ⟨holder, -⟩, hnewer⟩ := h
  refine ⟨fun b hb => ?_, fun b hb heq => ?_⟩
  · exact hnewer _ (List.mem_map_of_mem hb) _ List.mem_cons_self
  · exact holder (heq ▸ List.mem_map_of_mem hb)

/-- **An account is live until its identifier is closed.** -/
theorem mem_live_iff (h : ((opened (newer ++ opening a :: older)).map Account.id).Nodup) :
    a ∈ live (newer ++ opening a :: older) ↔ closing a.id ∉ newer := by
  obtain ⟨hnewer, -⟩ := id_ne_of_nodup h
  clear h
  induction newer with
  | nil => exact ⟨fun _ => List.not_mem_nil, fun _ => mem_live_opening.2 (.inr rfl)⟩
  | cons entry newer ih =>
    rw [List.cons_append, List.mem_cons, not_or]
    cases entry with
    | opening b =>
      rw [opened, List.forall_mem_cons] at hnewer
      have hne : a ≠ b := fun heq => hnewer.1 (congrArg Account.id heq.symm)
      rw [mem_live_opening, ih hnewer.2, or_iff_left hne]
      exact (and_iff_right nofun).symm
    | closing id =>
      rw [mem_live_closing, ih hnewer, closing.injEq]
      exact and_comm

/-- No identifier is that of two accounts, live or in the archive. -/
theorem nodup_live_archived (h : ((opened entries).map Account.id).Nodup) :
    ((live entries).map Account.id).Nodup ∧ ((archived entries).map Account.id).Nodup
      ∧ ∀ a ∈ live entries, ∀ b ∈ archived entries, a.id ≠ b.id := by
  have hone := ((live_append_archived_perm entries).map Account.id).nodup_iff.2 h
  rw [List.map_append, List.nodup_append] at hone
  exact ⟨hone.1, hone.2.1, fun a ha b hb =>
    hone.2.2 _ (List.mem_map_of_mem ha) _ (List.mem_map_of_mem hb)⟩

/-- **An account is in the archive from when its identifier is closed.** -/
theorem mem_archived_iff (h : ((opened (newer ++ opening a :: older)).map Account.id).Nodup) :
    a ∈ archived (newer ++ opening a :: older) ↔ closing a.id ∈ newer := by
  have hlive := (mem_live_iff h).not.trans not_not
  obtain ⟨-, -, hapart⟩ := nodup_live_archived h
  -- the account was opened, so it is in one of the two lists, and it is in one only
  have hopened : a ∈ opened (newer ++ opening a :: older) := by
    rw [opened_append]
    exact List.mem_append_right _ List.mem_cons_self
  rw [← hlive]
  constructor
  · intro harchived hmem
    exact hapart a hmem a harchived rfl
  · intro hmem
    exact (List.mem_append.1 ((live_append_archived_perm _).symm.subset hopened)).resolve_left hmem

end Entry

end InstructionStore.Store
