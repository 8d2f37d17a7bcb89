import InstructionStore.Proofs.Grammar.Rereading
import InstructionStore.Proofs.History.Naming
import InstructionStore.Proofs.History.Walking

/-!
# Chains of commits

What a history should hold, apart from any database. An `Entry` is what is given to the
history to commit, and `commits es` are the commits it makes of a list of entries, both
with the latest first. A commit comes after the latest commit of its key, so the commits
of one key form a chain (`linked_chain`).

Commits are told apart by their names, and a name is a digest. Nothing more is assumed of
digests than that none is the same for two of the contents in question
(`HasNoCollision`). The contents themselves are always different: of one key, no two
commits come after the same one (`latest_ne_parent`), even if the same is committed
twice at the same time.
-/

namespace InstructionStore

/-- What the name of a commit depends on. -/
def Commit.content (x : Commit) : Commit.Content :=
  ⟨x.key, x.parent, x.body.text, x.author, x.createdAt⟩

namespace History

/-- **What is given to a history to commit.** -/
structure Entry where
  /-- The key. -/
  key : HistoryKey
  /-- The instruction. -/
  body : Instruction
  /-- The author. -/
  author : Signature
  /-- The time. -/
  createdAt : Int64
  /-- The identifiers of the key obey the rule. -/
  valid : key.IsValid
  /-- The grammar accepts the instruction. -/
  accepted : body.IsAccepted
  /-- There are no floats in it. -/
  floatFree : Json.IsFloatFree body.toJson

/-- The commit of an entry after a given commit. -/
def Entry.commit (e : Entry) (parent : Option CommitId) : Commit :=
  let content : Commit.Content := ⟨e.key.path, parent, e.body.text, e.author, e.createdAt⟩
  ⟨content.id, e.key.path, parent, e.body, e.author, e.createdAt⟩

/-- The commits of a key. -/
def chain (key : HistoryKey) (xs : List Commit) : List Commit := xs.filter fun x => x.key = key.path

/-- The name of the latest commit of a key. -/
def latest (key : HistoryKey) (xs : List Commit) : Option CommitId :=
  (chain key xs).head?.map Commit.id

/-- **The commits of a list of entries.** Each comes after the latest of its key. -/
def commits : List Entry → List Commit
  | [] => []
  | e :: es => e.commit (latest e.key (commits es)) :: commits es

/-- **No two different contents of commits have one digest.** -/
def HasNoCollision (xs : List Commit) : Prop :=
  ∀ x ∈ xs, ∀ y ∈ xs,
    Digest.ofBytes x.content.bytes = Digest.ofBytes y.content.bytes →
      x.content.bytes = y.content.bytes

variable {e : Entry} {es : List Entry} {xs : List Commit} {x : Commit} {key : HistoryKey}

/-! ## The latest commits -/

theorem chain_cons_self (h : x.key = key.path) : chain key (x :: xs) = x :: chain key xs :=
  List.filter_cons_of_pos (decide_eq_true h)

theorem chain_cons_of_ne (h : x.key ≠ key.path) : chain key (x :: xs) = chain key xs :=
  List.filter_cons_of_neg (by rwa [decide_eq_true_eq])

theorem latest_cons_self (h : x.key = key.path) : latest key (x :: xs) = some x.id := by
  unfold latest
  rw [chain_cons_self h]
  rfl

theorem latest_cons_of_ne (h : x.key ≠ key.path) : latest key (x :: xs) = latest key xs := by
  unfold latest
  rw [chain_cons_of_ne h]

/-- The latest commit of a key is a commit. -/
theorem exists_of_latest {id : CommitId} (h : latest key xs = some id) : ∃ x ∈ xs, x.id = id := by
  obtain ⟨x, hx, hid⟩ := Option.map_eq_some_iff.1 h
  exact ⟨x, (List.mem_filter.1 (List.mem_of_head? hx)).1, hid⟩

/-! ## Commits and their names -/

theorem exists_of_mem_commits (h : x ∈ commits es) : ∃ e ∈ es, ∃ parent, x = e.commit parent := by
  induction es with
  | nil => exact nomatch h
  | cons e es ih =>
    rcases List.mem_cons.1 h with rfl | hmem
    · exact ⟨e, List.mem_cons_self, _, rfl⟩
    · obtain ⟨e', he', parent, rfl⟩ := ih hmem
      exact ⟨e', List.mem_cons_of_mem _ he', parent, rfl⟩

theorem id_eq_of_mem_commits (h : x ∈ commits es) : x.id = x.content.id := by
  obtain ⟨e, -, parent, rfl⟩ := exists_of_mem_commits h
  rfl

/-- The commit before a commit is a commit. -/
theorem exists_of_parent (h : x ∈ commits es) {id : CommitId} (hid : x.parent = some id) :
    ∃ y ∈ commits es, y.id = id := by
  induction es with
  | nil => exact nomatch h
  | cons e es ih =>
    have holder : ∃ y ∈ commits es, y.id = id := by
      rcases List.mem_cons.1 h with rfl | hmem
      · exact exists_of_latest hid
      · exact ih hmem
    obtain ⟨y, hy, hyid⟩ := holder
    exact ⟨y, List.mem_cons_of_mem _ hy, hyid⟩

theorem zero_not_mem_key (h : x ∈ commits es) : '\x00' ∉ x.key.toList := by
  obtain ⟨e, -, parent, rfl⟩ := exists_of_mem_commits h
  exact HistoryKey.zero_not_mem_path e.valid

/-- The commit before a commit has the name of one. -/
theorem isDigest_of_parent (h : x ∈ commits es) (id : CommitId) (hid : x.parent = some id) :
    id.IsDigest := by
  obtain ⟨y, hy, rfl⟩ := exists_of_parent h hid
  rw [id_eq_of_mem_commits hy]
  exact y.content.id_isDigest

/-- **The bytes that are digested tell the key and the commit before.** -/
theorem key_parent_eq_of_bytes_eq {y : Commit} (hx : x ∈ commits es) (hy : y ∈ commits es)
    (h : x.content.bytes = y.content.bytes) : x.key = y.key ∧ x.parent = y.parent := by
  obtain ⟨hkey, hparent⟩ := Commit.Content.key_parent_eq_of_bytes_eq (a := x.content)
    (b := y.content) (zero_not_mem_key hx) (zero_not_mem_key hy)
    (Commit.Content.zero_not_mem_parentText (isDigest_of_parent hx))
    (Commit.Content.zero_not_mem_parentText (isDigest_of_parent hy)) h
  refine ⟨hkey, ?_⟩
  exact Commit.Content.parent_eq_of_parentText_eq (a := x.content) (b := y.content)
    (isDigest_of_parent hx) (isDigest_of_parent hy) hparent

/-- **Of one key, no two commits come after the same one**: nothing has come after the
latest yet. -/
theorem latest_ne_parent (hnodup : ((commits es).map Commit.id).Nodup) (hx : x ∈ commits es)
    (hxkey : x.key = key.path) : latest key (commits es) ≠ x.parent := by
  induction es with
  | nil => exact nomatch hx
  | cons e es ih =>
    rw [commits, List.map_cons, List.nodup_cons] at hnodup
    by_cases he : (e.commit (latest e.key (commits es))).key = key.path
    · -- a commit before one of these is older, and so is not the new one
      rw [commits, latest_cons_self he]
      intro hparent
      have hold : ∃ y ∈ commits es, y.id = (e.commit (latest e.key (commits es))).id := by
        rcases List.mem_cons.1 hx with rfl | hmem
        · exact exists_of_latest hparent.symm
        · exact exists_of_parent hmem hparent.symm
      obtain ⟨y, hy, hid⟩ := hold
      exact hnodup.1 (hid ▸ List.mem_map_of_mem hy)
    · rw [commits, latest_cons_of_ne he]
      rcases List.mem_cons.1 hx with rfl | hmem
      · exact absurd hxkey he
      · exact ih hnodup.2 hmem

theorem HasNoCollision.mono {ys : List Commit} (h : HasNoCollision ys) (hsub : xs ⊆ ys) :
    HasNoCollision xs :=
  fun x hx y hy => h x (hsub hx) y (hsub hy)

/-- **Commits have names of their own.** -/
theorem nodup_ids (h : HasNoCollision (commits es)) : ((commits es).map Commit.id).Nodup := by
  induction es with
  | nil => exact List.nodup_nil
  | cons e es ih =>
    have hnodup := ih (h.mono (List.subset_cons_self _ _))
    rw [commits, List.map_cons, List.nodup_cons]
    refine ⟨fun hmem => ?_, hnodup⟩
    obtain ⟨y, hy, hid⟩ := List.mem_map.1 hmem
    have hnew : e.commit (latest e.key (commits es)) ∈ commits (e :: es) := List.mem_cons_self
    have hold : y ∈ commits (e :: es) := List.mem_cons_of_mem _ hy
    -- one digest means the same bytes, so the same key and the same commit before
    rw [id_eq_of_mem_commits hold, id_eq_of_mem_commits hnew] at hid
    have hbytes := h y hold _ hnew (congrArg CommitId.text hid)
    obtain ⟨hkey, hparent⟩ := key_parent_eq_of_bytes_eq hold hnew hbytes
    exact latest_ne_parent hnodup hy hkey hparent.symm

/-- Commits with names of their own do not collide. -/
theorem hasNoCollision_of_nodup (hid : ∀ x ∈ xs, x.id = x.content.id)
    (h : (xs.map Commit.id).Nodup) : HasNoCollision xs := by
  intro x hx y hy hdigest
  have hsame : x.id = y.id := by
    rw [hid x hx, hid y hy]
    exact congrArg CommitId.mk hdigest
  rw [eq_of_nodup h hx hy hsame]

theorem hasNoCollision_of_nodup_ids (h : ((commits es).map Commit.id).Nodup) :
    HasNoCollision (commits es) :=
  hasNoCollision_of_nodup (fun _ => id_eq_of_mem_commits) h

/-! ## Chains -/

/-- The names of the contents are those of the commits. -/
theorem map_id_content (es : List Entry) :
    ((commits es).map Commit.content).map Commit.Content.id
      = (commits es).map Commit.id := by
  rw [List.map_map]
  exact List.map_congr_left fun x hx => (id_eq_of_mem_commits hx).symm

theorem chain_content (key : HistoryKey) (xs : List Commit) :
    Commit.Content.chain key.path (xs.map Commit.content) = (chain key xs).map Commit.content := by
  unfold Commit.Content.chain chain
  rw [List.filter_map]
  rfl

theorem latest_content (key : HistoryKey) (es : List Entry) :
    Commit.Content.latest key.path ((commits es).map Commit.content)
      = latest key (commits es) := by
  unfold Commit.Content.latest latest
  rw [chain_content, List.head?_map, Option.map_map]
  refine Option.map_congr fun x hx => ?_
  exact (id_eq_of_mem_commits (List.mem_filter.1 (List.mem_of_head? hx)).1).symm

/-- The contents of the commits are linked. -/
theorem isLinked_commits (es : List Entry) :
    Commit.Content.IsLinked ((commits es).map Commit.content) := by
  induction es with
  | nil => exact True.intro
  | cons e es ih => exact ⟨(latest_content e.key es).symm, ih⟩

/-- **In a chain each commit comes after the next older one**, and the oldest after
none. -/
theorem linked_chain (key : HistoryKey) (es : List Entry) :
    ∀ i (h : i < (chain key (commits es)).length),
      ((chain key (commits es))[i]).parent
        = (chain key (commits es))[i + 1]?.map Commit.id := by
  have hlinked := Commit.Content.linked_chain (isLinked_commits es) key.path
  rw [chain_content] at hlinked
  intro i h
  have hparent := hlinked i (by rwa [List.length_map])
  rw [List.getElem_map, List.getElem?_map, Option.map_map] at hparent
  refine hparent.trans (Option.map_congr fun x hx => ?_)
  exact (id_eq_of_mem_commits (List.mem_filter.1 (List.mem_of_getElem? hx)).1).symm

/-- **The chain of a key holds the commits that were made for it**: those of its
entries, in their order. -/
theorem chain_eq_zip (hkey : key.IsValid) (es : List Entry) :
    chain key (commits es)
      = ((es.zip (commits es)).filter fun made => made.1.key = key).map Prod.snd := by
  induction es with
  | nil => rfl
  | cons e es ih =>
    have hpath := HistoryKey.path_inj e.valid hkey
    rw [commits, List.zip_cons_cons]
    by_cases he : e.key = key
    · rw [chain_cons_self (hpath.2 he), List.filter_cons_of_pos (by exact decide_eq_true he),
        List.map_cons, ih]
    · rw [chain_cons_of_ne (mt hpath.1 he), List.filter_cons_of_neg (by simpa using he), ih]

/-- The commits of a chain hold what was given for them. -/
theorem map_given_chain (hkey : key.IsValid) (es : List Entry) :
    (chain key (commits es)).map (fun x => (x.body, x.author, x.createdAt))
      = (es.filter fun e => e.key = key).map fun e => (e.body, e.author, e.createdAt) := by
  induction es with
  | nil => rfl
  | cons e es ih =>
    have hpath := HistoryKey.path_inj e.valid hkey
    rw [commits]
    by_cases he : e.key = key
    · rw [chain_cons_self (hpath.2 he), List.filter_cons_of_pos (by exact decide_eq_true he),
        List.map_cons, List.map_cons, ih]
      rfl
    · rw [chain_cons_of_ne (mt hpath.1 he), List.filter_cons_of_neg (by simpa using he), ih]

/-- **Commits for other keys leave a chain as it is.** -/
theorem chain_append_of_ne (hkey : key.IsValid) {more : List Entry}
    (hne : ∀ e ∈ more, e.key ≠ key) :
    chain key (commits (more ++ es)) = chain key (commits es) := by
  induction more with
  | nil => rfl
  | cons e more ih =>
    rw [List.forall_mem_cons] at hne
    rw [List.cons_append, commits, chain_cons_of_ne (mt (HistoryKey.path_inj e.valid hkey).1 hne.1),
      ih hne.2]

/-- Commits stay. -/
theorem commits_subset_append (more es : List Entry) : commits es ⊆ commits (more ++ es) := by
  induction more with
  | nil => exact List.Subset.refl _
  | cons e more ih => exact List.subset_cons_of_subset _ ih

end History

end InstructionStore
