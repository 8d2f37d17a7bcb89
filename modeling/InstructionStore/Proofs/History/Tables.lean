import InstructionStore.Proofs.Database.Table
import InstructionStore.Proofs.History.Chains

/-!
# The tables of a history

The database of a history keeps the commits in the order they were made, and with each
key the name of its latest one (`Contents.Keeps`). Lookups find in it what the chains
say (`Contents.head_eq`, `Contents.log_eq`, `Contents.commit?_eq`), and a commit makes it
keep one commit more (`Contents.Keeps.commit`).

Of the heads only that is said that is found there. A key whose identifiers do not obey
the rule may have the text of another key, so nothing is said of those.
-/

namespace InstructionStore

open Database History

/-- **A database keeps the commits of a history.** -/
structure Database.Contents.Keeps (db : Contents) (xs : List Commit) : Prop where
  /-- The rows of the commits, the oldest first. -/
  commits : db.commits = .rows (xs.reverse.map fun x => x.content.row)
  /-- The latest commit of each key. -/
  heads : ∃ rows, db.heads = .rows rows ∧ ∀ key : HistoryKey, key.IsValid →
    (rows.find? fun row => row.key = .text key.path).map HeadRow.commit
      = (latest key xs).map fun id => .text id.text

namespace Database.Contents

variable {db : Contents} {es : List History.Entry} {key : HistoryKey}

/-! ## Lookups -/

/-- **The latest commit of a key.** -/
theorem head_eq {xs : List Commit} (h : db.Keeps xs) (hkey : key.IsValid) :
    db.head key = .ok (latest key xs) := by
  obtain ⟨rows, hrows, hheads⟩ := h.heads
  have hfound := hheads key hkey
  unfold head
  rw [readTable_rows_eq hrows, Outcome.ok_bind]
  cases hlatest : latest key xs with
  | none =>
    rw [hlatest] at hfound
    rw [Option.map_eq_none_iff.1 hfound]
    rfl
  | some id =>
    rw [hlatest] at hfound
    obtain ⟨row, hrow, hcommit⟩ := Option.map_eq_some_iff.1 hfound
    rw [hrow]
    dsimp only
    rw [hcommit]
    rfl

/-- The row of a commit stands for the commit. -/
theorem commit_row {x : Commit} (h : x ∈ History.commits es) :
    x.content.row.commit = .ok x := by
  obtain ⟨e, -, parent, rfl⟩ := exists_of_mem_commits h
  have hread : Instruction.ofText (e.commit parent).content.body = .ok e.body :=
    Instruction.ofText_text e.accepted e.floatFree
  rw [Commit.Content.commit_row, hread]
  rfl

theorem mapM_commit_row {xs : List Commit} (h : xs ⊆ History.commits es) :
    ((xs.map Commit.content).mapM fun y => y.row.commit) = .ok xs := by
  induction xs with
  | nil => rfl
  | cons x xs ih =>
    obtain ⟨hx, hxs⟩ := List.cons_subset.1 h
    rw [List.map_cons, List.mapM_cons, commit_row hx, ih hxs]
    rfl

/-- The contents in the rows are those of the commits. -/
theorem Keeps.rows {xs : List Commit} (h : db.Keeps xs) :
    db.commits = .rows ((xs.map Commit.content).reverse.map Commit.Content.row) := by
  rw [h.commits, ← List.map_reverse, List.map_map]
  rfl

/-- **The commit of a name.** -/
theorem commit?_eq (h : db.Keeps (History.commits es))
    (hnodup : ((History.commits es).map Commit.id).Nodup) {x : Commit}
    (hx : x ∈ History.commits es) : db.commit? x.id = .ok (some x) := by
  rw [id_eq_of_mem_commits hx, commit?_of_mem h.rows (map_id_content es ▸ hnodup)
    (List.mem_map_of_mem hx), commit_row hx]
  rfl

/-- **The commits of a key**, so many at most. -/
theorem log_eq (h : db.Keeps (History.commits es))
    (hnodup : ((History.commits es).map Commit.id).Nodup) (hkey : key.IsValid) (limit : Nat) :
    db.log key limit = .ok ((chain key (History.commits es)).take limit) := by
  have hfound := fun y => commit?_of_mem (y := y) h.rows (map_id_content es ▸ hnodup)
  have hchain : (chain key (History.commits es)).take limit ⊆ History.commits es :=
    ((List.take_sublist _ _).trans List.filter_sublist).subset
  unfold log
  rw [head_eq h hkey, Outcome.ok_bind, ← latest_content, walk_eq_mapM (isLinked_commits es) hfound,
    chain_content, ← List.map_take, mapM_commit_row hchain]

/-! ## Statements -/

/-- The row of a commit is allowed if it does not come after itself. -/
theorem allows_row {content : Commit.Content} (h : content.parent ≠ some content.id) :
    CommitRow.table.allows content.row = true := by
  have hrule : CommitRow.table.rule content.row = true := by
    unfold CommitRow.table Commit.Content.row
    dsimp only
    cases hparent : content.parent with
    | none => rfl
    | some id =>
      rw [hparent] at h
      refine bne_iff_ne.2 fun heq => h (congrArg some (CommitId.cell_inj.1 heq))
  unfold Table.allows
  rw [hrule]
  rfl

theorem clash_row (a b : Commit.Content) :
    CommitRow.table.clash a.row b.row = decide (a.id = b.id) := by
  unfold Table.clash CommitRow.table Commit.Content.row
  simp [CommitId.text_inj]

/-- **The row of a new commit is added.** -/
theorem insertCommit_eq {e : History.Entry} (h : db.Keeps (History.commits es))
    (free : HasNoCollision (History.commits (e :: es))) :
    insertCommit (e.commit (latest e.key (History.commits es))).content db
      = .ok ((), { db with
          commits := .rows ((History.commits (e :: es)).reverse.map fun x => x.content.row) }) := by
  have hnodup := nodup_ids free
  rw [History.commits, List.map_cons, List.nodup_cons] at hnodup
  have hnew : ∀ x ∈ History.commits es,
      x.id ≠ (e.commit (latest e.key (History.commits es))).id :=
    fun x hx heq => hnodup.1 (heq ▸ List.mem_map_of_mem hx)
  have hallows : CommitRow.table.allows
      (e.commit (latest e.key (History.commits es))).content.row = true := by
    refine allows_row fun hparent => ?_
    obtain ⟨x, hx, hid⟩ := exists_of_latest hparent
    exact hnew x hx hid
  have hclash : ∀ row ∈ (History.commits es).reverse.map fun x => x.content.row,
      CommitRow.table.clash (e.commit (latest e.key (History.commits es))).content.row row
        = false := by
    intro row hrow
    obtain ⟨x, hx, rfl⟩ := List.mem_map.1 hrow
    have hx := List.mem_reverse.1 hx
    rw [clash_row, decide_eq_false_iff_not, ← id_eq_of_mem_commits hx]
    exact (hnew x hx).symm
  unfold insertCommit
  rw [Slot.read_eq_ok_iff.2 h.commits, Outcome.ok_bind,
    Table.insert_eq_ok_iff.2 ⟨⟨hallows, hclash⟩, rfl⟩, Outcome.ok_bind]
  dsimp only
  rw [if_pos]
  · rw [History.commits, List.reverse_cons, List.map_append]
    rfl
  · show Option.all _ (latest e.key (History.commits es)) = true
    cases hlatest : latest e.key (History.commits es) with
    | none => rfl
    | some id =>
      obtain ⟨x, hx, rfl⟩ := exists_of_latest hlatest
      refine List.any_eq_true.2 ⟨x.content.row, ?_, ?_⟩
      · exact List.mem_append_left _ (List.mem_map_of_mem (List.mem_reverse.2 hx))
      · exact decide_eq_true (CommitId.cell_inj.2 (id_eq_of_mem_commits hx).symm)

/-- The heads after a commit became the latest of its key. -/
def movedHeads (key : HistoryKey) (id : CommitId) (now : Int64) (rows : List HeadRow) :
    List HeadRow :=
  let isIt (row : HeadRow) : Bool := row.key = .text key.path
  if rows.any isIt then
    rows.map fun row =>
      if isIt row then { row with commit := .text id.text, updatedAt := .integer now } else row
  else rows ++ [⟨.text key.path, .text id.text, .integer now⟩]

/-- **A head is moved**, or it is added. -/
theorem moveHead_eq {rows : List HeadRow} (h : db.heads = .rows rows) (key : HistoryKey)
    (id : CommitId) (now : Int64) :
    moveHead key id now db = .ok ((), { db with heads := .rows (movedHeads key id now rows) }) := by
  unfold moveHead movedHeads
  rw [Slot.read_eq_ok_iff.2 h, Outcome.ok_bind]
  dsimp only
  split
  · rfl
  · rename_i hnone
    have hclash : ∀ row ∈ rows, HeadRow.table.clash
        ⟨.text key.path, .text id.text, .integer now⟩ row = false := by
      intro row hrow
      have hne : ¬row.key = .text key.path :=
        fun heq => hnone (List.any_eq_true.2 ⟨row, hrow, decide_eq_true heq⟩)
      unfold Table.clash HeadRow.table
      simp [Ne.symm hne]
    rw [Table.insert_eq_ok_iff.2 ⟨⟨rfl, hclash⟩, rfl⟩]
    rfl

/-- The latest commit of the key is the new one, and those of other keys stay. -/
theorem find?_movedHeads (key : HistoryKey) (id : CommitId) (now : Int64) (rows : List HeadRow)
    (path : String) :
    ((movedHeads key id now rows).find? fun row => row.key = .text path).map HeadRow.commit
      = if key.path = path then some (.text id.text)
        else (rows.find? fun row => row.key = .text path).map HeadRow.commit := by
  unfold movedHeads
  dsimp only
  split
  · rename_i hany
    -- a row that is changed keeps its key
    rw [List.find?_map, Option.map_map]
    have hkept : ((fun row : HeadRow => decide (row.key = .text path)) ∘ fun row : HeadRow =>
        if decide (row.key = .text key.path) = true then
          { row with commit := .text id.text, updatedAt := .integer now } else row)
        = fun row => decide (row.key = .text path) := by
      funext row
      dsimp only [Function.comp_apply]
      split <;> rfl
    rw [hkept]
    by_cases hpath : key.path = path
    · subst hpath
      rw [if_pos rfl]
      obtain ⟨row, hrow⟩ :=
        Option.isSome_iff_exists.1 (List.find?_isSome.2 (List.any_eq_true.1 hany))
      rw [hrow, Option.map_some, Function.comp_apply, if_pos (List.find?_some hrow)]
    · rw [if_neg hpath]
      refine Option.map_congr fun row hrow => ?_
      have hkey := List.find?_some hrow
      rw [decide_eq_true_eq] at hkey
      rw [Function.comp_apply, if_neg]
      rw [decide_eq_true_eq, hkey, Cell.text.injEq]
      exact Ne.symm hpath
  · rename_i hnone
    rw [List.find?_append, List.find?_singleton]
    by_cases hpath : key.path = path
    · subst hpath
      rw [List.find?_eq_none.2 fun row hrow hit => hnone (List.any_eq_true.2 ⟨row, hrow, hit⟩)]
      simp
    · simp [hpath]

/-! ## One commit -/

/-- **The database keeps one commit more** after the two statements. -/
theorem Keeps.commit {e : History.Entry} (h : db.Keeps (History.commits es))
    (free : HasNoCollision (History.commits (e :: es))) :
    ∃ between db',
      insertCommit (e.commit (latest e.key (History.commits es))).content db = .ok ((), between)
        ∧ moveHead e.key (e.commit (latest e.key (History.commits es))).id e.createdAt between
          = .ok ((), db')
        ∧ db'.Keeps (History.commits (e :: es)) := by
  obtain ⟨rows, hrows, hheads⟩ := h.heads
  refine ⟨_, _, insertCommit_eq h free, moveHead_eq (by exact hrows) e.key _ _, rfl, _, rfl, ?_⟩
  intro key hkey
  rw [find?_movedHeads, History.commits]
  have hpath : (e.commit (latest e.key (History.commits es))).key = e.key.path := rfl
  by_cases he : e.key.path = key.path
  · rw [if_pos he, latest_cons_self (hpath.trans he)]
    rfl
  · rw [if_neg he, latest_cons_of_ne (hpath ▸ he)]
    exact hheads key hkey

end Database.Contents

end InstructionStore
