import InstructionStore.Proofs.History.Refinement

/-!
# What one commit does to the tables

A commit that succeeds does the same to the tables whatever is in them: there is one row
more, its commit comes after the head of its key and becomes the head, and nothing else is
changed (`Contents.Gains`). A commit that fails changes nothing
(`History.commit_unchanged`).

So whatever is committed, the tables hold some commits that were made one after another
(`Contents.HoldsCommits`), and the head and the log of a key are read off them
(`History.exists_tells`). No two commits are ever given one name, since the rules of the
table keep the second out. Nothing has to be assumed of digests for that.
-/

namespace InstructionStore

open Database

namespace Database.Contents

variable {db db' : Contents} {key : HistoryKey}

/-- **A database gains one commit**, the latest of its key. -/
structure Gains (db db' : Contents) (key : HistoryKey) (content : Commit.Content) : Prop where
  /-- The commit is made for the key. -/
  path : content.key = key.path
  /-- It comes after the commit that was the latest. -/
  parent : db.head key = .ok content.parent
  /-- Its row comes after those that were there, and it has a name of its own. -/
  commits : ∃ rows, db.commits = .rows rows ∧ (∀ row ∈ rows, row.id ≠ .text content.id.text)
    ∧ db'.commits = .rows (rows ++ [content.row])
  /-- It is the latest commit now. -/
  head : db'.head key = .ok (some content.id)
  /-- The latest commits of other keys are as before. -/
  otherHeads : ∀ other : HistoryKey, other.path ≠ key.path → db'.head other = db.head other
  /-- All other tables are as before. -/
  rest : { db' with commits := db.commits, heads := db.heads } = db

/-- The latest commit of a key, by what is found among the heads. -/
theorem head_of_heads {rows : List HeadRow} (h : db.heads = .rows rows) (key : HistoryKey) :
    db.head key
      = match (rows.find? fun row => row.key = .text key.path).map HeadRow.commit with
        | none => .ok none
        | some cell => (History.readCell cell.text?).map fun text => some ⟨text⟩ := by
  unfold head
  rw [readTable_rows_eq h, Outcome.ok_bind]
  cases rows.find? fun row => row.key = .text key.path with
  | none => rfl
  | some row =>
    dsimp only [Option.map_some]
    cases row.commit.text? <;> rfl

/-- What adding the row of a commit comes to. -/
theorem insertCommit_eq_ok {content : Commit.Content}
    (h : insertCommit content db = .ok ((), db')) :
    ∃ rows, db.commits = .rows rows ∧ (∀ row ∈ rows, row.id ≠ .text content.id.text)
      ∧ db' = { db with commits := .rows (rows ++ [content.row]) } := by
  unfold insertCommit at h
  rw [Outcome.bind_eq_ok_iff] at h
  obtain ⟨rows, hread, h⟩ := h
  rw [Outcome.bind_eq_ok_iff] at h
  obtain ⟨rows', hinsert, h⟩ := h
  obtain ⟨⟨-, hclash⟩, rfl⟩ := Table.insert_eq_ok_iff.1 hinsert
  refine ⟨rows, Slot.read_eq_ok_iff.1 hread, fun row hrow hid => ?_, ?_⟩
  · have hclear := hclash row hrow
    unfold Table.clash CommitRow.table at hclear
    simp [Commit.Content.row, hid] at hclear
  · dsimp only at h
    split at h
    · cases h
      rfl
    · exact nomatch h

/-- What moving the head of a key comes to. -/
theorem moveHead_eq_ok {id : CommitId} {now : Int64} (h : moveHead key id now db = .ok ((), db')) :
    ∃ rows, db.heads = .rows rows
      ∧ db' = { db with heads := .rows (movedHeads key id now rows) } := by
  have hread : ∃ rows, db.heads.read = .ok rows := by
    unfold moveHead at h
    rw [Outcome.bind_eq_ok_iff] at h
    exact h.imp fun _ => And.left
  obtain ⟨rows, hread⟩ := hread
  have hrows := Slot.read_eq_ok_iff.1 hread
  rw [moveHead_eq hrows] at h
  cases h
  exact ⟨rows, hrows, rfl⟩

/-! ## What the tables hold -/

/-- Keys with one text have one latest commit. -/
theorem head_congr {key' : HistoryKey} (h : key.path = key'.path) : db.head key = db.head key' := by
  unfold head
  rw [h]

/-- **A database holds commits that were made one after another**, the latest first. -/
structure HoldsCommits (db : Contents) (ys : List Commit.Content) : Prop where
  /-- The rows of the commits, the oldest first. -/
  commits : db.commits = .rows (ys.reverse.map Commit.Content.row)
  /-- Each has a name of its own. -/
  ids_nodup : (ys.map Commit.Content.id).Nodup
  /-- Each comes after the latest older one of its key. -/
  linked : Commit.Content.IsLinked ys
  /-- The head of a key is the latest commit of it. -/
  heads : ∀ key : HistoryKey, db.head key = .ok (Commit.Content.latest key.path ys)
  /-- The instructions can be read. -/
  readable : ∀ y ∈ ys, ∃ body, Instruction.ofText y.body = .ok body

/-- **A database links commits that were made one after another**, whether or not their
instructions can be read. -/
structure LinksCommits (db : Contents) (ys : List Commit.Content) : Prop where
  /-- The rows of the commits, the oldest first. -/
  commits : db.commits = .rows (ys.reverse.map Commit.Content.row)
  /-- Each has a name of its own. -/
  ids_nodup : (ys.map Commit.Content.id).Nodup
  /-- Each comes after the latest older one of its key. -/
  linked : Commit.Content.IsLinked ys
  /-- The head of a key is the latest commit of it. -/
  heads : ∀ key : HistoryKey, db.head key = .ok (Commit.Content.latest key.path ys)

theorem HoldsCommits.links {ys : List Commit.Content} (h : db.HoldsCommits ys) :
    db.LinksCommits ys :=
  ⟨h.commits, h.ids_nodup, h.linked, h.heads⟩

theorem LinksCommits.holds {ys : List Commit.Content} (h : db.LinksCommits ys)
    (readable : ∀ y ∈ ys, ∃ body, Instruction.ofText y.body = .ok body) : db.HoldsCommits ys :=
  ⟨h.commits, h.ids_nodup, h.linked, h.heads, readable⟩

/-- **A database that gains a commit links one more.** -/
theorem Gains.linksCommits {content : Commit.Content} (gains : db.Gains db' key content)
    {ys : List Commit.Content} (h : db.LinksCommits ys) : db'.LinksCommits (content :: ys) := by
  obtain ⟨rows, hrows, hnew, hrows'⟩ := gains.commits
  obtain rfl := Slot.rows.inj (hrows.symm.trans h.commits)
  have hparent : content.parent = Commit.Content.latest content.key ys :=
    gains.path ▸ Except.ok.inj (gains.parent.symm.trans (h.heads key))
  refine ⟨?_, List.nodup_cons.2 ⟨fun hmem => ?_, h.ids_nodup⟩, ⟨hparent, h.linked⟩,
    fun other => ?_⟩
  · rw [hrows', List.reverse_cons, List.map_append, List.map_singleton]
  · obtain ⟨y, hy, hid⟩ := List.mem_map.1 hmem
    exact hnew _ (List.mem_map_of_mem (List.mem_reverse.2 hy)) (CommitId.cell_inj.2 hid)
  · by_cases hother : other.path = key.path
    · rw [head_congr hother, gains.head,
        Commit.Content.latest_cons_self (gains.path.trans hother.symm)]
    · rw [gains.otherHeads other hother, h.heads,
        Commit.Content.latest_cons_of_ne (gains.path ▸ Ne.symm hother)]

/-- **A database that gains a commit holds one more**, if its instruction can be read. -/
theorem Gains.holdsCommits {content : Commit.Content} (gains : db.Gains db' key content)
    {ys : List Commit.Content} (h : db.HoldsCommits ys)
    (readable : ∃ body, Instruction.ofText content.body = .ok body) :
    db'.HoldsCommits (content :: ys) :=
  (gains.linksCommits h.links).holds (List.forall_mem_cons.2 ⟨readable, h.readable⟩)

/-- The latest commit of a key depends on the heads only. -/
theorem head_congr_heads (h : db'.heads = db.heads) (key : HistoryKey) :
    db'.head key = db.head key := by
  unfold head
  rw [h]

/-- Adding tables leaves the commits a database links. -/
theorem LinksCommits.extends {ys : List Commit.Content} (h : db.LinksCommits ys)
    (hextends : db.Extends db') : db'.LinksCommits ys := by
  have hread : ∃ rows, db.heads = .rows rows := by
    have hhead := h.heads ⟨⟨""⟩, ⟨""⟩⟩
    unfold head History.readTable at hhead
    cases hslot : db.heads.read with
    | ok rows => exact ⟨rows, Slot.read_eq_ok_iff.1 hslot⟩
    | error refusal =>
      rw [hslot] at hhead
      exact nomatch hhead
  obtain ⟨rows, hrows⟩ := hread
  have hcommits := hextends.rows (p := .commits) (by decide) h.commits
  have hheads := hextends.rows (p := .heads) (by decide) hrows
  refine ⟨hcommits, h.ids_nodup, h.linked, fun key => ?_⟩
  rw [head_congr_heads (Eq.trans hheads hrows.symm), h.heads]

/-- And those it holds. -/
theorem HoldsCommits.extends {ys : List Commit.Content} (h : db.HoldsCommits ys)
    (hextends : db.Extends db') : db'.HoldsCommits ys :=
  (h.links.extends hextends).holds h.readable

/-- A database with empty tables of history holds no commits. -/
theorem holdsCommits_of_isNew (h : db.IsNew .history) : db.HoldsCommits [] :=
  ⟨h.slots .commits (by decide) (by decide), List.nodup_nil, True.intro,
    fun key => head_of_heads (h.slots .heads (by decide) (by decide)) key, nofun⟩

/-- The log of a key reads the rows of its commits, as far as it is asked for. -/
theorem LinksCommits.log_eq_mapM {ys : List Commit.Content} (h : db.LinksCommits ys)
    (key : HistoryKey) (limit : Nat) :
    db.log key limit
      = ((Commit.Content.chain key.path ys).take limit).mapM fun y => y.row.commit := by
  unfold log
  rw [h.heads, Outcome.ok_bind,
    walk_eq_mapM h.linked (fun y => commit?_of_mem h.commits h.ids_nodup)]

/-- **The log of a key** has the commits of the key, each read from its row. -/
theorem HoldsCommits.log_eq {ys : List Commit.Content} (h : db.HoldsCommits ys)
    (key : HistoryKey) :
    ∃ made : List Commit, (∀ limit, db.log key limit = .ok (made.take limit))
      ∧ (Commit.Content.chain key.path ys).map (fun y => y.row.commit) = made.map .ok := by
  have hread : ∀ y ∈ Commit.Content.chain key.path ys, ∃ x, y.row.commit = .ok x := by
    intro y hy
    obtain ⟨body, hbody⟩ := h.readable y (List.mem_filter.1 hy).1
    rw [Commit.Content.commit_row, hbody]
    exact ⟨_, rfl⟩
  obtain ⟨made, hmade, htake⟩ := exists_mapM_take hread
  exact ⟨made, fun limit => (h.links.log_eq_mapM key limit).trans (htake limit), hmade⟩

end Database.Contents

namespace History

variable {σ : Type} {c : Connection σ} {key : HistoryKey} {body : Instruction}
  {author : Signature}

/-- **What a commit does in its transaction**: the database gains a commit. -/
theorem append_eq_ok {now : Int64} {s s' : σ} {db db' : Contents} {id : CommitId}
    (h : append c key body author now (s, db) = (.ok id, (s', db'))) :
    ∃ content : Commit.Content, db.Gains db' key content ∧ content.id = id
      ∧ content.body = body.text ∧ content.author = author := by
  unfold append at h
  rw [Task.bind_eq_ok_iff] at h
  obtain ⟨parent, ⟨s₁, db₁⟩, hread, h⟩ := h
  rw [Task.bind_eq_ok_iff] at h
  obtain ⟨_, ⟨s₂, db₂⟩, hinsert, h⟩ := h
  rw [Task.bind_eq_ok_iff] at h
  obtain ⟨_, ⟨s₃, db₃⟩, hmove, h⟩ := h
  cases h
  obtain ⟨hparent, rfl⟩ : db.head key = .ok parent ∧ db = db₁ := by
    have hread := Connection.step_eq_ok hread
    unfold Contents.readHead at hread
    split at hread
    · rename_i hhead
      cases hread
      exact ⟨hhead, rfl⟩
    · exact nomatch hread
  obtain ⟨commits, hcommits, hnew, rfl⟩ := Contents.insertCommit_eq_ok
    (Connection.step_eq_ok hinsert)
  obtain ⟨heads, hheads, rfl⟩ := Contents.moveHead_eq_ok (Connection.step_eq_ok hmove)
  have hheads : db.heads = .rows heads := hheads
  refine ⟨_, ⟨rfl, hparent, ⟨commits, hcommits, hnew, rfl⟩, ?_, fun other hother => ?_, rfl⟩,
    rfl, rfl, rfl⟩
  · rw [Contents.head_of_heads rfl, Contents.find?_movedHeads, if_pos rfl]
    rfl
  · rw [Contents.head_of_heads rfl, Contents.find?_movedHeads, if_neg (Ne.symm hother),
      Contents.head_of_heads hheads]

/-- **A commit is made** as a whole or not at all. -/
theorem commit_isAtomic (hc : c.IsLawful) (key : HistoryKey) (body : Instruction)
    (author : Signature) :
    c.IsAtomic (commit c key body author) fun db id db' => ∃ content : Commit.Content,
      db.Gains db' key content ∧ content.id = id ∧ content.body = body.text
        ∧ content.author = author := by
  refine .bind_of_isQuiet (fun _ => .get) fun s₀ => ?_
  refine (hc.transact _ (append_isContained hc key body author _)).imp ?_
  rintro db id db' ⟨s, s', hrun⟩
  exact append_eq_ok hrun

/-- **A commit that fails changes nothing**, even where there is no database. -/
theorem commit_unchanged (hc : c.IsLawful) {s : σ} {failure : HistoryFailure}
    (hfail : (commit c key body author s).1 = .error failure) :
    c.contents (commit c key body author s).2 = c.contents s := by
  cases hs : c.contents s with
  | some db => exact (commit_isAtomic hc key body author).unchanged hs hfail
  | none =>
    rw [commit_apply]
    unfold Connection.transact
    rw [hs]
    exact hs

/-- **What a commit leaves**, if it succeeds or not: the database holds what it held, and one
commit more of the key at most. -/
theorem holdsCommits_of_commit (hc : c.IsLawful) {s : σ} {db : Contents}
    {ys : List Commit.Content} (hs : c.contents s = some db) (hys : db.HoldsCommits ys)
    (accepted : body.IsAccepted) :
    ∃ db' ys', c.contents (commit c key body author s).2 = some db' ∧ db'.HoldsCommits ys'
      ∧ (ys' = ys ∨ ∃ content, ys' = content :: ys ∧ content.key = key.path) := by
  rcases commit_isAtomic hc key body author s db hs with
    ⟨_, -, hs'⟩ | ⟨_, db', -, hs', content, hgains, -, hbody, -⟩
  · exact ⟨db, ys, hs', hys, .inl rfl⟩
  · obtain ⟨read, hread, -⟩ := Instruction.exists_ofText_text accepted
    exact ⟨db', content :: ys, hs', hgains.holdsCommits hys ⟨read, hbody ▸ hread⟩,
      .inr ⟨content, rfl, hgains.path⟩⟩

/-! ## Opening a history -/

/-- A history that was just opened holds no commits. -/
theorem holdsCommits_of_new (hc : c.IsLawful) {s s' : σ} (new : c.contents s = some .empty)
    (opens : c.openHistory s = (.ok (), s')) :
    ∃ db, c.contents s' = some db ∧ db.HoldsCommits [] := by
  obtain ⟨db, hs', hnew⟩ := Connection.isNew_of_openAs hc new opens
  exact ⟨db, hs', Contents.holdsCommits_of_isNew hnew⟩

/-- Opening a history once more leaves the commits it holds. -/
theorem holdsCommits_of_reopen (hc : c.IsLawful) {s : σ} {db : Contents}
    {ys : List Commit.Content} (hs : c.contents s = some db) (hys : db.HoldsCommits ys) :
    ∃ db', c.contents (c.openHistory s).2 = some db' ∧ db'.HoldsCommits ys := by
  obtain ⟨db', hopened, hextends⟩ := Connection.openAs_extends hc .history hs
  exact ⟨db', hopened, hys.extends hextends⟩

/-! ## What the history tells -/

/-- **What a history tells of a key**: the commits that were made for it, which have some
instructions. -/
structure Tells (c : Connection σ) (s : σ) (key : HistoryKey) (bodies : List Instruction)
    (made : List Commit) : Prop where
  /-- The latest commit is the first of the list. -/
  head : (head c key s).1 = .ok (made.head?.map Commit.id)
  /-- The log is the list, as far as it is asked for. -/
  log : ∀ limit, (log c key limit s).1 = .ok (made.take limit)
  /-- The commits have the instructions, in their order. -/
  bodies : made.map Commit.body = bodies
  /-- Each commit comes after the next one in the list, and the last after none. -/
  linked : ∀ i (hi : i < made.length), (made[i]).parent = made[i + 1]?.map Commit.id

/-- A commit that is the only one of its key comes after none. -/
theorem Tells.single {s : σ} {made : List Commit} (h : Tells c s key [body] made) :
    ∃ commit : Commit, commit.parent = none ∧ Tells c s key [body] [commit] := by
  obtain ⟨commit, rfl, -⟩ := List.map_eq_singleton_iff.1 h.bodies
  exact ⟨commit, h.linked 0 Nat.one_pos, h⟩

/-- **A history tells what the commits it holds do.** -/
theorem exists_tells (hc : c.IsLawful) (calm : c.IsCalm) {s : σ} {db : Contents}
    (hs : c.contents s = some db) {ys : List Commit.Content} (hys : db.HoldsCommits ys)
    {bodies : List Instruction}
    (hbodies : (Commit.Content.chain key.path ys).map (fun y => Instruction.ofText y.body)
      = bodies.map .ok) :
    ∃ made, Tells c s key bodies made := by
  obtain ⟨made, hlog, hread⟩ := hys.log_eq key
  have hids : made.map Commit.id = (Commit.Content.chain key.path ys).map Commit.Content.id :=
    map_eq_map_of_read hread fun _ _ hx => (Commit.Content.commit_row_eq_ok hx).1
  have hparents :
      made.map Commit.parent = (Commit.Content.chain key.path ys).map Commit.Content.parent :=
    map_eq_map_of_read hread fun _ _ hx => (Commit.Content.commit_row_eq_ok hx).2.1
  have hmade : (made.map Commit.body).map Except.ok = bodies.map .ok :=
    List.map_map.trans <| (map_eq_map_of_read hread fun _ _ hx =>
      (Commit.Content.commit_row_eq_ok hx).2.2.2.symm).trans hbodies
  refine ⟨made, ?_, fun limit => ?_, ?_, fun i hi => ?_⟩
  · unfold head
    rw [calm.query hc hs, hys.heads]
    unfold Commit.Content.latest
    rw [← List.head?_map, ← List.head?_map, hids]
  · unfold log
    rw [calm.query hc hs, hlog]
  · exact List.map_injective_iff.2 (fun _ _ => Except.ok.inj) hmade
  · have hi' : i < (Commit.Content.chain key.path ys).length := by
      rwa [← List.length_map, ← hids, List.length_map]
    have hparent : (made[i]).parent = ((Commit.Content.chain key.path ys)[i]).parent := by
      have hnth := congrArg (fun parents => parents[i]?) hparents
      simpa only [List.getElem?_map, List.getElem?_eq_getElem hi, List.getElem?_eq_getElem hi',
        Option.map_some, Option.some.injEq] using hnth
    have hnext : made[i + 1]?.map Commit.id
        = (Commit.Content.chain key.path ys)[i + 1]?.map Commit.Content.id := by
      rw [← List.getElem?_map, hids, List.getElem?_map]
    rw [hparent, Commit.Content.linked_chain hys.linked key.path i hi', hnext]

end History

end InstructionStore
