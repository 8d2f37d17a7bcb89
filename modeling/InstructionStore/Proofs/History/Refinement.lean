import InstructionStore.Proofs.Database.Calm
import InstructionStore.Proofs.Database.Opening
import InstructionStore.Proofs.History.Tables
import InstructionStore.Proofs.Store.World

/-!
# The history as lists that only grow

A history is opened on a database without tables, and then commits are made, for any keys
and at any times, while the rest of the state changes as it will (`History.Run`). It may
be opened any number of times in between: what is done through one handle is seen through
all.

**The history is a list of commits for each key** (`History.serves_of_run`). A commit is
put in front of the list of its key and changes no other list. The latest commit, the log
and single commits are read off the lists, now and ever after. This is so if the database
refuses nothing for a reason of its own and no two of the contents that are digested have
one digest.
-/

namespace InstructionStore

open Database

namespace History

variable {σ : Type} {c : Connection σ}

/-! ## Runs -/

/-- **A run of a history** from a given state: what was given to be committed and what
came of it, both with the latest first, and the state at the end. -/
inductive Run (c : Connection σ) (s₀ : σ) :
    List Entry → List (Except HistoryFailure CommitId) → σ → Prop
  /-- Nothing has happened. -/
  | start : Run c s₀ [] [] s₀
  /-- The rest of the state changes. -/
  | elsewhere {es : List Entry} {results : List (Except HistoryFailure CommitId)} {s s' : σ}
    (run : Run c s₀ es results s) (same : c.contents s' = c.contents s) : Run c s₀ es results s'
  /-- The history is opened once more. -/
  | reopen {es : List Entry} {results : List (Except HistoryFailure CommitId)} {s : σ}
    (run : Run c s₀ es results s) : Run c s₀ es results (c.openHistory s).2
  /-- A commit is made. -/
  | commit {es : List Entry} {results : List (Except HistoryFailure CommitId)} {s : σ}
    (run : Run c s₀ es results s) (e : Entry) (time : e.createdAt = c.now s) :
    Run c s₀ (e :: es) ((commit c e.key e.body e.author s).1 :: results)
      (commit c e.key e.body e.author s).2

/-- Whether the database keeps the commits of some entries. -/
def KeepsCommits (c : Connection σ) (es : List Entry) (s : σ) : Prop :=
  ∃ db, c.contents s = some db ∧ db.Keeps (commits es)

/-! ## One commit -/

/-- What a commit does in its transaction, at a given time. -/
def append (c : Connection σ) (key : HistoryKey) (body : Instruction) (author : Signature)
    (now : Int64) : Transaction σ HistoryFailure CommitId := do
  let parent ← c.step (fun _ => .sql) (Contents.readHead key)
  let content : Commit.Content := ⟨key.path, parent, body.text, author, now⟩
  c.step (fun _ => .sql) (Contents.insertCommit content)
  c.step (fun _ => .sql) (Contents.moveHead key content.id now)
  return content.id

theorem commit_apply (key : HistoryKey) (body : Instruction) (author : Signature) (s : σ) :
    commit c key body author s = c.transact .sql (append c key body author (c.now s)) s := rfl

theorem append_onlyDisturbs (key : HistoryKey) (body : Instruction) (author : Signature)
    (now : Int64) : c.OnlyDisturbs (append c key body author now) := by
  unfold append
  refine (Connection.OnlyDisturbs.step _ _).bind fun parent => ?_
  refine (Connection.OnlyDisturbs.step _ _).bind fun _ => ?_
  exact (Connection.OnlyDisturbs.step _ _).bind fun _ => .pure _

theorem append_isContained (hc : c.IsLawful) (key : HistoryKey) (body : Instruction)
    (author : Signature) (now : Int64) : c.IsContained (append c key body author now) :=
  (append_onlyDisturbs key body author now).isContained hc

theorem append_yields (calm : c.IsCalm) {db : Contents} {e : Entry} {es : List Entry}
    (h : db.Keeps (commits es)) (free : HasNoCollision (commits (e :: es))) :
    ∃ db', db'.Keeps (commits (e :: es))
      ∧ Yields (append c e.key e.body e.author e.createdAt) db
          (e.commit (latest e.key (commits es))).id db' := by
  obtain ⟨between, db', hinsert, hmove, hdb'⟩ := h.commit free
  have hread : Contents.readHead e.key db = .ok (latest e.key (commits es), db) := by
    unfold Contents.readHead
    rw [Contents.head_eq h e.valid]
  refine ⟨db', hdb', (calm.step_yields hread).bind ?_⟩
  exact (calm.step_yields hinsert).bind ((calm.step_yields hmove).bind (.pure _ _))

/-- **A commit succeeds**, and the database keeps one commit more. -/
theorem commit_eq (hc : c.IsLawful) (calm : c.IsCalm) {s : σ} {e : Entry} {es : List Entry}
    (time : e.createdAt = c.now s) (h : KeepsCommits c es s)
    (free : HasNoCollision (commits (e :: es))) :
    (commit c e.key e.body e.author s).1 = .ok (e.commit (latest e.key (commits es))).id
      ∧ KeepsCommits c (e :: es) (commit c e.key e.body e.author s).2 := by
  obtain ⟨db, hs, hdb⟩ := h
  obtain ⟨db', hdb', hyields⟩ := append_yields calm hdb free
  rw [time] at hyields
  obtain ⟨s', hrun, hs'⟩ :=
    calm.transact_of_yields hc .sql (append_isContained hc _ _ _ _) hs hyields
  rw [commit_apply, hrun]
  exact ⟨rfl, db', hs', hdb'⟩

/-! ## The invariant -/

theorem KeepsCommits.reopen (hc : c.IsLawful) {es : List Entry} {s : σ}
    (h : KeepsCommits c es s) : KeepsCommits c es (c.openHistory s).2 := by
  obtain ⟨db, hs, hdb⟩ := h
  obtain ⟨db', hs', hextends⟩ := Connection.openAs_extends hc .history hs
  obtain ⟨rows, hrows, hfound⟩ := hdb.heads
  exact ⟨db', hs', hextends.rows (p := .commits) (by decide) hdb.commits, rows,
    hextends.rows (p := .heads) (by decide) hrows, hfound⟩

/-- A history that was just opened keeps no commits. -/
theorem keepsCommits_of_new (hc : c.IsLawful) {s₀ s : σ} (new : c.contents s₀ = some .empty)
    (opens : c.openHistory s₀ = (.ok (), s)) : KeepsCommits c [] s := by
  obtain ⟨db', hs', hnew⟩ := Connection.isNew_of_openAs hc new opens
  exact ⟨db', hs', hnew.slots .commits (by decide) (by decide), [],
    hnew.slots .heads (by decide) (by decide), fun _ _ => rfl⟩

/-- **All commits of a run are made**, and the database keeps them. -/
theorem Run.keepsCommits (hc : c.IsLawful) (calm : c.IsCalm) {s₀ s : σ} {es more : List Entry}
    {results : List (Except HistoryFailure CommitId)} (run : Run c s₀ more results s)
    (h : KeepsCommits c es s₀) (free : HasNoCollision (commits (more ++ es))) :
    results ++ (commits es).map (fun x => .ok x.id)
        = (commits (more ++ es)).map (fun x => .ok x.id)
      ∧ KeepsCommits c (more ++ es) s := by
  induction run with
  | start => exact ⟨rfl, h⟩
  | elsewhere run same ih =>
    obtain ⟨hresults, db, hs, hdb⟩ := ih free
    exact ⟨hresults, db, same.trans hs, hdb⟩
  | reopen run ih =>
    obtain ⟨hresults, hkeeps⟩ := ih free
    exact ⟨hresults, hkeeps.reopen hc⟩
  | commit run e time ih =>
    obtain ⟨hresults, hkeeps⟩ := ih (free.mono (List.subset_cons_self _ _))
    obtain ⟨hresult, hkeeps'⟩ := commit_eq hc calm time hkeeps free
    refine ⟨?_, hkeeps'⟩
    rw [List.cons_append, hresults, hresult]
    rfl

/-! ## Lookups -/

/-- **The history serves a list of commits for a key**, made of some entries. -/
structure Serves (c : Connection σ) (s : σ) (key : HistoryKey) (es : List Entry)
    (made : List Commit) : Prop where
  /-- The latest commit is the first of the list. -/
  head : (head c key s).1 = .ok (made.head?.map Commit.id)
  /-- The log is the list, as far as it is asked for. -/
  log : ∀ limit, (log c key limit s).1 = .ok (made.take limit)
  /-- Each commit has the instruction, the author and the time it was given. -/
  given : made.map (fun x => (x.body, x.author, x.createdAt))
    = es.map fun e => (e.body, e.author, e.createdAt)
  /-- Each commit comes after the next one in the list, and the last after none. -/
  linked : ∀ i (h : i < made.length), (made[i]).parent = made[i + 1]?.map Commit.id

/-- **The history is a list of commits for each key.** Every commit of a run is made. In
every later state each of them is found by its name, and for a key for which nothing was
committed since, the history serves the commits that were made for it. -/
theorem serves_of_run (hc : c.IsLawful) (calm : c.IsCalm) {s₀ s₁ s s' : σ}
    (new : c.contents s₀ = some .empty) (opens : c.openHistory s₀ = (.ok (), s₁))
    {es more : List Entry} {results results' : List (Except HistoryFailure CommitId)}
    (run : Run c s₁ es results s) (later : Run c s more results' s')
    (free : HasNoCollision (commits (more ++ es))) :
    results = (commits es).map (fun x => .ok x.id)
      ∧ (∀ x ∈ commits es, (find c x.id s').1 = .ok (some x))
      ∧ ∀ key : HistoryKey, key.IsValid → (∀ e ∈ more, e.key ≠ key) →
        Serves c s' key (es.filter fun e => e.key = key)
          (((es.zip (commits es)).filter fun made => made.1.key = key).map Prod.snd) := by
  have hsub := commits_subset_append more es
  have hnew := keepsCommits_of_new hc new opens
  have free' : HasNoCollision (commits (es ++ [])) := by
    rw [List.append_nil]
    exact free.mono hsub
  obtain ⟨hresults, hkeeps⟩ := run.keepsCommits hc calm hnew free'
  rw [List.append_nil] at hresults hkeeps
  obtain ⟨-, db, hs', hdb⟩ := later.keepsCommits hc calm hkeeps free
  have hnodup := nodup_ids free
  refine ⟨(List.append_nil _).symm.trans hresults, fun x hx => ?_, fun key hkey hne => ?_⟩
  · unfold find
    rw [calm.query hc hs', Contents.commit?_eq hdb hnodup (hsub hx)]
  · rw [← chain_eq_zip hkey]
    have hchain : chain key (commits (more ++ es)) = chain key (commits es) :=
      chain_append_of_ne hkey hne
    refine ⟨?_, fun limit => ?_, map_given_chain hkey es, linked_chain key es⟩
    · unfold head
      rw [calm.query hc hs', Contents.head_eq hdb hkey, ← hchain]
      rfl
    · unfold log
      rw [calm.query hc hs', Contents.log_eq hdb hnodup hkey, hchain]

/-! ## A run on which the clock stands still -/

/-- What is committed for one key. -/
def here : Entry where
  key := ⟨⟨"a"⟩, ⟨"x"⟩⟩
  body := .reference "here"
  author := ⟨"ann", "ann"⟩
  createdAt := 0
  valid := ⟨by decide +kernel, by decide +kernel⟩
  accepted := Instruction.isAccepted_of_ofJson (v := .string "here") rfl
  floatFree := .string

/-- What is committed for another key. -/
def there : Entry where
  key := ⟨⟨"a"⟩, ⟨"y"⟩⟩
  body := .reference "there"
  author := ⟨"ann", "ann"⟩
  createdAt := 0
  valid := ⟨by decide +kernel, by decide +kernel⟩
  accepted := Instruction.isAccepted_of_ofJson (v := .string "there") rfl
  floatFree := .string

open Store.World in
theorem serves_of_run_sameTwice :
    ∃ s₁ s s' results results', (file "old").contents new = some .empty
      ∧ (file "old").openHistory new = (.ok (), s₁)
      ∧ Run (file "old") s₁ [here, here] results s ∧ Run (file "old") s [there] results' s'
      ∧ HasNoCollision (commits [there, here, here])
      ∧ results = (commits [here, here]).map (fun x => .ok x.id)
      ∧ (∀ x ∈ commits [here, here], (find (file "old") x.id s').1 = .ok (some x))
      ∧ here.key.IsValid ∧ (∀ e ∈ [there], e.key ≠ here.key)
      ∧ Serves (file "old") s' here.key [here, here]
          ((([here, here].zip (commits [here, here])).filter
            fun made => made.1.key = here.key).map Prod.snd) := by
  have opens := openHistory_new
  have hfree : HasNoCollision (commits [there, here, here]) :=
    hasNoCollision_of_nodup_ids (by decide +kernel)
  have hne : ∀ e ∈ [there], e.key ≠ here.key := by decide
  -- no identifier is ever drawn, so the clock stands at zero
  obtain ⟨s₁, hs₁, htime⟩ : ∃ s₁, ((file "old").openHistory new).2 = s₁ ∧ s₁.drawn = 0 :=
    ⟨_, rfl, by decide +kernel⟩
  rw [hs₁] at opens
  have hclock {w : Store.World} (h : w.drawn = 0) : (0 : Int64) = (file "old").now w :=
    (congrArg Int64.ofNat h).symm
  have hnext (e : Entry) {w : Store.World} (h : w.drawn = 0) :
      (commit (file "old") e.key e.body e.author w).2.drawn = 0 := (drawn_commit _ _ _ _ w).trans h
  have run := (Run.start (c := file "old")).commit here (hclock htime)
  have run := run.commit here (hclock (hnext here htime))
  have htime := hnext here (hnext here htime)
  have later := (Run.start (c := file "old")).commit there (hclock htime)
  have hserves := serves_of_run (file_isLawful _) (file_isCalm _) rfl opens run later hfree
  exact ⟨_, _, _, _, _, rfl, opens, run, later, hfree, hserves.1, hserves.2.1, here.valid, hne,
    hserves.2.2 _ here.valid hne⟩

end History

end InstructionStore
