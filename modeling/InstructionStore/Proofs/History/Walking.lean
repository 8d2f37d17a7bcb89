import InstructionStore.History.Chain
import InstructionStore.Proofs.Database.Cell
import InstructionStore.Proofs.Lists
import InstructionStore.Proofs.Outcome

/-!
# Walking a chain

The rows of the commits of a history are told apart by their names, and each tells the
name of the commit before it. In a list of contents that is **linked**, where each comes
after the latest older one of its key (`Commit.Content.IsLinked`), going from name to name
leads through the contents of one key in their order (`Contents.walk_eq_mapM`).

Whether the rows can be read does not matter here: the walk reads one after the other, and
ends at the first that cannot be.
-/

namespace InstructionStore

open Database

theorem CommitId.text_inj {a b : CommitId} : a.text = b.text ↔ a = b := by
  cases a
  cases b
  rw [CommitId.mk.injEq]

/-- Cells with the names of commits are the same if the names are. -/
theorem CommitId.cell_inj {a b : CommitId} : Cell.text a.text = .text b.text ↔ a = b :=
  Cell.text.injEq a.text b.text ▸ text_inj

namespace Commit.Content

variable {y : Content} {ys : List Content} {path : String}

/-- The contents of a key, by the text of the key. -/
def chain (path : String) (ys : List Content) : List Content := ys.filter fun y => y.key = path

/-- The name of the latest content of a key. -/
def latest (path : String) (ys : List Content) : Option CommitId := (chain path ys).head?.map id

/-- **Whether each content comes after the latest older one of its key.** The latest
content is the first of the list. -/
def IsLinked : List Content → Prop
  | [] => True
  | y :: ys => y.parent = latest y.key ys ∧ IsLinked ys

theorem chain_cons_self (h : y.key = path) : chain path (y :: ys) = y :: chain path ys :=
  List.filter_cons_of_pos (decide_eq_true h)

theorem chain_cons_of_ne (h : y.key ≠ path) : chain path (y :: ys) = chain path ys :=
  List.filter_cons_of_neg (by rwa [decide_eq_true_eq])

theorem latest_cons_self (h : y.key = path) : latest path (y :: ys) = some y.id := by
  unfold latest
  rw [chain_cons_self h]
  rfl

theorem latest_cons_of_ne (h : y.key ≠ path) : latest path (y :: ys) = latest path ys := by
  unfold latest
  rw [chain_cons_of_ne h]

/-- **The commit a content is read as**: only its instruction may be unreadable. -/
theorem commit_row (y : Content) :
    y.row.commit = match Instruction.ofText y.body with
      | .error fault => .error (.corruptCommit y.id.text fault.message)
      | .ok body => .ok ⟨y.id, y.key, y.parent, body, y.author, y.createdAt⟩ := by
  unfold CommitRow.commit Content.row
  dsimp only
  simp only [Cell.text?_text, Cell.optionalText?_ofOptional, Cell.integer?_integer,
    History.readCell, Outcome.ok_bind]
  cases Instruction.ofText y.body with
  | error fault => rfl
  | ok body => cases y.parent <;> rfl

/-- A commit that is read tells what its content does. -/
theorem commit_row_eq_ok {x : Commit} (h : y.row.commit = .ok x) :
    x.id = y.id ∧ x.parent = y.parent ∧ x.author = y.author
      ∧ Instruction.ofText y.body = .ok x.body := by
  rw [commit_row] at h
  split at h
  · exact nomatch h
  · rename_i body hbody
    cases h
    exact ⟨rfl, rfl, rfl, hbody⟩

/-- **In a chain each content comes after the next older one**, and the oldest after
none. -/
theorem linked_chain (h : IsLinked ys) (path : String) :
    ∀ i (hi : i < (chain path ys).length),
      ((chain path ys)[i]).parent = (chain path ys)[i + 1]?.map id := by
  induction ys with
  | nil => exact fun _ hi => nomatch hi
  | cons y ys ih =>
    by_cases hkey : y.key = path
    · rw [chain_cons_self hkey]
      intro i hi
      cases i with
      | zero =>
        show y.parent = (chain path ys)[0]?.map id
        rw [← List.head?_eq_getElem?, h.1, hkey]
        rfl
      | succ i => exact ih h.2 i (Nat.lt_of_succ_lt_succ hi)
    · rw [chain_cons_of_ne hkey]
      exact ih h.2

end Commit.Content

namespace Database.Contents

variable {db : Contents} {ys : List Commit.Content}

theorem readTable_rows_eq {Row : Type} {slot : Slot Row} {rows : List Row}
    (h : slot = .rows rows) : History.readTable slot = .ok rows := by
  rw [h]
  rfl

/-- **A row is found by the name of its commit.** -/
theorem commit?_of_mem (hrows : db.commits = .rows (ys.reverse.map Commit.Content.row))
    (hnodup : (ys.map Commit.Content.id).Nodup) {y : Commit.Content} (hy : y ∈ ys) :
    db.commit? y.id = y.row.commit.map some := by
  have hnodup' : ((ys.reverse.map Commit.Content.row).map CommitRow.id).Nodup := by
    rw [List.map_map, List.map_reverse, List.nodup_reverse]
    have hcells := hnodup.map (f := fun id : CommitId => Cell.text id.text)
      fun _ _ => CommitId.cell_inj.1
    rwa [List.map_map] at hcells
  have hfound : ((ys.reverse.map Commit.Content.row).find? fun row => row.id = .text y.id.text)
      = some y.row :=
    find?_eq_some_of_nodup hnodup' (List.mem_map_of_mem (List.mem_reverse.2 hy))
  unfold commit?
  rw [readTable_rows_eq hrows, Outcome.ok_bind, hfound]
  dsimp only
  cases y.row.commit <;> rfl

/-- **A chain is walked** to its end, or as far as it is asked for. -/
theorem walk_eq_mapM (hlinked : Commit.Content.IsLinked ys)
    (hfound : ∀ y ∈ ys, db.commit? y.id = y.row.commit.map some) (path : String) (limit : Nat) :
    db.walk limit (Commit.Content.latest path ys)
      = ((Commit.Content.chain path ys).take limit).mapM fun y => y.row.commit := by
  induction ys generalizing limit with
  | nil => cases limit <;> rfl
  | cons y ys ih =>
    obtain ⟨hparent, hlinked⟩ := hlinked
    rw [List.forall_mem_cons] at hfound
    by_cases hkey : y.key = path
    · rw [Commit.Content.latest_cons_self hkey, Commit.Content.chain_cons_self hkey]
      cases limit with
      | zero => rfl
      | succ limit =>
        unfold walk
        rw [hfound.1, List.take_succ_cons, List.mapM_cons]
        cases hrow : y.row.commit with
        | error failure => rfl
        | ok x =>
          dsimp only [Except.map, Outcome.ok_bind]
          rw [(Commit.Content.commit_row_eq_ok hrow).2.1, hparent, hkey, ih hlinked hfound.2]
    · rw [Commit.Content.latest_cons_of_ne hkey, Commit.Content.chain_cons_of_ne hkey]
      exact ih hlinked hfound.2 limit

end Database.Contents

end InstructionStore
