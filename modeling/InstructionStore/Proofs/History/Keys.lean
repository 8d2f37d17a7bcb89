import InstructionStore.Proofs.History.Appending
import InstructionStore.Proofs.Wire

/-!
# Keys that share a chain

A chain belongs to the text of a key, and this is all that the history knows of the key. The
text has a slash between the two identifiers, so it tells them apart only where it is clear
which slash that is. Two keys have one text if part of the one's account and a slash stands at
the beginning of the other's document (`HistoryKey.Overlaps`), and in no other way
(`HistoryKey.path_eq_iff`).

The rule for identifiers keeps the slash out, but it is not asked for where an identifier is
decoded, on its own or in an account or a document. **Keys that overlap write into one chain**,
and each shows the commits of the other; all other keys have chains of their own
(`History.log_of_committed`).
-/

namespace InstructionStore

/-! ## Texts with a slash in them -/

/-- Two lists that are joined at one of their members are the same if they are cut in one place,
or one is cut at a later one. -/
theorem append_cons_eq_append_cons_iff {α : Type} {as bs cs ds : List α} {x : α} :
    as ++ x :: bs = cs ++ x :: ds ↔
      as = cs ∧ bs = ds ∨ (∃ ms, as = cs ++ x :: ms ∧ ds = ms ++ x :: bs)
        ∨ ∃ ms, cs = as ++ x :: ms ∧ bs = ms ++ x :: ds := by
  rw [List.append_eq_append_iff]
  constructor
  · rintro (⟨_ | ⟨y, ms⟩, hcs, hrest⟩ | ⟨_ | ⟨y, ms⟩, has, hrest⟩)
    · exact .inl ⟨(hcs.trans (List.append_nil _)).symm, (List.cons.inj hrest).2⟩
    · obtain ⟨rfl, rfl⟩ := List.cons.inj hrest
      exact .inr (.inr ⟨ms, hcs, rfl⟩)
    · exact .inl ⟨has.trans (List.append_nil _), (List.cons.inj hrest).2.symm⟩
    · obtain ⟨rfl, rfl⟩ := List.cons.inj hrest
      exact .inr (.inl ⟨ms, has, rfl⟩)
  · rintro (⟨rfl, rfl⟩ | ⟨ms, rfl, rfl⟩ | ⟨ms, rfl, rfl⟩)
    · exact .inl ⟨[], (List.append_nil _).symm, rfl⟩
    · exact .inr ⟨x :: ms, rfl, rfl⟩
    · exact .inl ⟨x :: ms, rfl, rfl⟩

namespace HistoryKey

variable {key key' : HistoryKey}

/-- **A key overlaps with another** if what its account has more than the other's, behind a slash,
is what the other's document has more. -/
def Overlaps (key key' : HistoryKey) : Prop :=
  ∃ middle : String, key.accountId.text = key'.accountId.text ++ "/" ++ middle
    ∧ key'.instructionId.text = middle ++ "/" ++ key.instructionId.text

theorem overlaps_iff : key.Overlaps key' ↔ ∃ middle : List Char,
    key.accountId.text.toList = key'.accountId.text.toList ++ '/' :: middle
      ∧ key'.instructionId.text.toList = middle ++ '/' :: key.instructionId.text.toList := by
  unfold Overlaps
  simp only [← String.toList_inj, String.toList_append, List.append_assoc]
  constructor
  · rintro ⟨middle, haccount, hinstruction⟩
    exact ⟨middle.toList, haccount, hinstruction⟩
  · rintro ⟨middle, haccount, hinstruction⟩
    refine ⟨String.ofList middle, ?_, ?_⟩
    · rw [String.toList_ofList, String.toList_ofList]
      exact haccount
    · rw [String.toList_ofList]
      exact hinstruction

theorem eq_iff : key = key' ↔ key.accountId.text.toList = key'.accountId.text.toList
    ∧ key.instructionId.text.toList = key'.instructionId.text.toList := by
  obtain ⟨⟨account⟩, ⟨instruction⟩⟩ := key
  obtain ⟨⟨account'⟩, ⟨instruction'⟩⟩ := key'
  simp [String.toList_inj]

/-- **Two keys have one text only if they are the same or overlap.** -/
theorem path_eq_iff :
    key.path = key'.path ↔ key = key' ∨ key.Overlaps key' ∨ key'.Overlaps key := by
  rw [eq_iff, overlaps_iff, overlaps_iff, ← String.toList_inj, toList_path, toList_path,
    append_cons_eq_append_cons_iff]

/-- A key overlaps with none if there is no slash in its account. -/
theorem not_overlaps (h : '/' ∉ key.accountId.text.toList) : ¬key.Overlaps key' := by
  intro hoverlaps
  obtain ⟨middle, haccount, -⟩ := overlaps_iff.1 hoverlaps
  exact h (haccount ▸ List.mem_append_right _ List.mem_cons_self)

/-- **Whether the account of a key was made of a text** that obeys the rule. -/
def HasCheckedAccount (key : HistoryKey) : Prop :=
  ∃ text, AccountId.ofString text = .ok key.accountId

theorem HasCheckedAccount.not_overlaps (h : key.HasCheckedAccount) : ¬key.Overlaps key' := by
  obtain ⟨text, htext⟩ := h
  unfold AccountId.ofString OpaqueId.check at htext
  split at htext
  · exact nomatch htext
  · rename_i hvalid
    have hid : AccountId.mk text = key.accountId := Except.ok.inj htext
    exact HistoryKey.not_overlaps (hid ▸ (OpaqueId.IsValid.spec hvalid).1)

theorem HasCheckedAccount.path_eq_iff (h : key.HasCheckedAccount) (h' : key'.HasCheckedAccount) :
    key.path = key'.path ↔ key = key' := by
  rw [HistoryKey.path_eq_iff]
  exact or_iff_left (not_or.2 ⟨h.not_overlaps, h'.not_overlaps⟩)

end HistoryKey

open Database

/-- What is read one by one is read of what it was read from. -/
theorem map_ok_of_mapM {α β ε : Type} {f : α → Except ε β} {xs : List α} {ys : List β}
    (h : xs.mapM f = .ok ys) : xs.map f = ys.map .ok := by
  induction xs generalizing ys with
  | nil =>
    cases h
    rfl
  | cons x xs ih =>
    rw [List.mapM_cons] at h
    obtain ⟨y, hy, h⟩ := Outcome.bind_eq_ok_iff.1 h
    obtain ⟨rest, hrest, h⟩ := Outcome.bind_eq_ok_iff.1 h
    cases h
    rw [List.map_cons, List.map_cons, hy, ih hrest]

namespace Database.Contents

variable {db : Contents} {ys : List Commit.Content}

/-- **The names in a log** are those of the commits of the key. -/
theorem LinksCommits.ids_of_log (h : db.LinksCommits ys) {key : HistoryKey} {limit : Nat}
    {xs : List Commit} (hlog : db.log key limit = .ok xs) :
    xs.map Commit.id
      = ((Commit.Content.chain key.path ys).map Commit.Content.id).take limit := by
  rw [h.log_eq_mapM] at hlog
  rw [← List.map_take]
  exact map_eq_map_of_read (map_ok_of_mapM hlog) fun _ _ hx =>
    (Commit.Content.commit_row_eq_ok hx).1

end Database.Contents

namespace History

variable {σ : Type} {c : Connection σ} {s₀ s : σ} {made : List (HistoryKey × CommitId)}

/-- **What was committed through a history**, from when it was opened: the keys, of whatever
identifiers, each with the name that was given, the latest first. A commit may fail, and the
rest of the state changes as it will. -/
inductive Committed (c : Connection σ) (s₀ : σ) : List (HistoryKey × CommitId) → σ → Prop
  /-- The history is opened. -/
  | opened {s : σ} (opens : c.openHistory s₀ = (.ok (), s)) : Committed c s₀ [] s
  /-- It is opened once more. -/
  | reopen {made : List (HistoryKey × CommitId)} {s : σ} (before : Committed c s₀ made s) :
    Committed c s₀ made (c.openHistory s).2
  /-- The rest of the state changes. -/
  | elsewhere {made : List (HistoryKey × CommitId)} {s s' : σ} (before : Committed c s₀ made s)
    (same : c.contents s' = c.contents s) : Committed c s₀ made s'
  /-- A commit is made. -/
  | commit {made : List (HistoryKey × CommitId)} {s s' : σ} (before : Committed c s₀ made s)
    {key : HistoryKey} {body : Instruction} {author : Signature} {id : CommitId}
    (commits : commit c key body author s = (.ok id, s')) : Committed c s₀ ((key, id) :: made) s'
  /-- A commit fails. -/
  | refused {made : List (HistoryKey × CommitId)} {s s' : σ} (before : Committed c s₀ made s)
    {key : HistoryKey} {body : Instruction} {author : Signature} {failure : HistoryFailure}
    (fails : commit c key body author s = (.error failure, s')) : Committed c s₀ made s'

/-- **The database links just what was committed**, under the texts of the keys. -/
def Links (c : Connection σ) (s : σ) (made : List (HistoryKey × CommitId)) : Prop :=
  ∃ db ys, c.contents s = some db ∧ db.LinksCommits ys
    ∧ ys.map (fun y => (y.key, y.id)) = made.map fun m => (m.1.path, m.2)

theorem Links.reopen (hc : c.IsLawful) (h : Links c s made) :
    Links c (c.openHistory s).2 made := by
  obtain ⟨db, ys, hs, hys, hmade⟩ := h
  obtain ⟨db', hs', hextends⟩ := Connection.openAs_extends hc .history hs
  exact ⟨db', ys, hs', hys.extends hextends, hmade⟩

/-- **A commit adds its key and its name**, if it does not fail. -/
theorem Links.commit (hc : c.IsLawful) (h : Links c s made) {s' : σ} {key : HistoryKey}
    {body : Instruction} {author : Signature} {id : CommitId}
    (commits : commit c key body author s = (.ok id, s')) : Links c s' ((key, id) :: made) := by
  obtain ⟨db, ys, hs, hys, hmade⟩ := h
  have hcases := commit_isAtomic hc key body author s db hs
  rw [commits] at hcases
  rcases hcases with ⟨_, hfail, -⟩ | ⟨_, db', hok, hs', content, hgains, rfl, -⟩
  · exact nomatch hfail
  · cases hok
    refine ⟨db', content :: ys, hs', hgains.linksCommits hys, ?_⟩
    rw [List.map_cons, List.map_cons, hmade, hgains.path]

theorem Committed.links (hc : c.IsLawful) (new : c.contents s₀ = some .empty)
    (h : Committed c s₀ made s) : Links c s made := by
  induction h with
  | opened opens =>
    obtain ⟨db, hs, hdb⟩ := holdsCommits_of_new hc new opens
    exact ⟨db, [], hs, hdb.links, rfl⟩
  | reopen _ ih => exact ih.reopen hc
  | elsewhere _ same ih =>
    obtain ⟨db, ys, hs, hys⟩ := ih
    exact ⟨db, ys, same.trans hs, hys⟩
  | commit _ commits ih => exact ih.commit hc commits
  | refused _ fails ih =>
    obtain ⟨db, ys, hs, hys⟩ := ih
    have hsame := commit_unchanged hc (congrArg Prod.fst fails)
    rw [fails] at hsame
    exact ⟨db, ys, hsame.trans hs, hys⟩

/-- The names that were given for a text. -/
theorem ids_of_map_eq {ys : List Commit.Content}
    (h : ys.map (fun y => (y.key, y.id)) = made.map fun m => (m.1.path, m.2)) (path : String) :
    (Commit.Content.chain path ys).map Commit.Content.id
      = (made.filter fun m => m.1.path = path).map Prod.snd := by
  have hfilter := congrArg (fun pairs => (pairs.filter fun p => p.1 = path).map Prod.snd) h
  rw [List.filter_map, List.filter_map, List.map_map, List.map_map] at hfilter
  exact hfilter

/-- **A log names the commits that were made for the text of its key**: those of the key itself and
of the keys it overlaps with. Any identifier is decoded from a text, so that any two keys that
overlap can be had. Keys whose accounts were made of texts that obey the rule overlap with
none, and the log of each names its own commits. -/
theorem log_of_committed (hc : c.IsLawful) (new : c.contents s₀ = some .empty)
    (h : Committed c s₀ made s) :
    (∀ key key' : HistoryKey,
      key.path = key'.path ↔ key = key' ∨ key.Overlaps key' ∨ key'.Overlaps key) ∧
    (∀ key : HistoryKey,
      Json.Reader.whole AccountId.reader key.accountId.layout.text = .ok key.accountId ∧
      Json.Reader.whole InstructionId.reader key.instructionId.layout.text
        = .ok key.instructionId) ∧
    (∀ (key : HistoryKey) (limit : Nat) (xs : List Commit), (log c key limit s).1 = .ok xs →
      xs.map Commit.id = ((made.filter fun m => m.1.path = key.path).map Prod.snd).take limit) ∧
    ∀ key : HistoryKey, key.HasCheckedAccount → (∀ m ∈ made, m.1.HasCheckedAccount) →
      ∀ (limit : Nat) (xs : List Commit), (log c key limit s).1 = .ok xs →
        xs.map Commit.id = ((made.filter fun m => m.1 = key).map Prod.snd).take limit := by
  obtain ⟨db, ys, hs, hys, hmade⟩ := h.links hc new
  have hids (key : HistoryKey) (limit : Nat) (xs : List Commit)
      (hlog : (log c key limit s).1 = .ok xs) :
      xs.map Commit.id
        = ((made.filter fun m => m.1.path = key.path).map Prod.snd).take limit := by
    obtain ⟨hstate, db', hs', hlog⟩ := Connection.query_eq_ok (Prod.ext hlog rfl)
    rw [hstate, hc.disturbed, hs] at hs'
    cases hs'
    rw [hys.ids_of_log hlog, ids_of_map_eq hmade]
  refine ⟨fun key key' => HistoryKey.path_eq_iff, fun key => ?_, hids,
    fun key hkey hchecked limit xs hlog => ?_⟩
  · exact ⟨Json.Reader.whole_of_reads key.accountId.reads_layout,
      Json.Reader.whole_of_reads key.instructionId.reads_layout⟩
  · have hsame : (made.filter fun m => m.1.path = key.path) = made.filter fun m => m.1 = key :=
      List.filter_congr fun m hm => by
        rw [decide_eq_decide, (hchecked m hm).path_eq_iff hkey]
    rw [hids key limit xs hlog, hsame]

/-! ## Two documents with one chain -/

/-- A document whose account has a slash in its identifier. -/
def slashed : Document := ⟨⟨"c"⟩, ⟨"a/b"⟩, ⟨"n", by decide⟩, [], .reference "mine"⟩

/-- A document of another account, which has a slash in its own identifier. -/
def slashing : Document := ⟨⟨"b/c"⟩, ⟨"a"⟩, ⟨"n", by decide⟩, [], .reference "theirs"⟩

/-- The key of the first. -/
def slashedKey : HistoryKey := ⟨slashed.creatorId, slashed.id⟩

/-- The key of the second. -/
def slashingKey : HistoryKey := ⟨slashing.creatorId, slashing.id⟩

open Store.World

/-- One commit in a new history. -/
def onlyCommit (key : HistoryKey) (body : Instruction) :
    Except HistoryFailure CommitId × Store.World :=
  commit (file "old") key body ⟨"ann", "ann"⟩ ((file "old").openHistory new).2

theorem committed_onlyCommit {key : HistoryKey} {body : Instruction} {id : CommitId}
    (h : (onlyCommit key body).1 = .ok id) :
    Committed (file "old") new [(key, id)] (onlyCommit key body).2 := by
  have opened : Committed (file "old") new [] ((file "old").openHistory new).2 :=
    .opened openHistory_new
  exact opened.commit (Prod.ext h rfl)

/-- What is committed for the first document is in the log of the second. -/
theorem exists_log_slashing :
    Json.Reader.whole Document.reader slashed.layout.text = .ok slashed ∧
    Json.Reader.whole Document.reader slashing.layout.text = .ok slashing ∧
    slashedKey ≠ slashingKey ∧ slashedKey.path = slashingKey.path ∧
    ∃ x id, (onlyCommit slashedKey slashed.instruction).1 = .ok id ∧
      (log (file "old") slashingKey 9 (onlyCommit slashedKey slashed.instruction).2).1 = .ok [x] ∧
      x.id = id ∧ x.body = slashed.instruction := by
  have hread (d : Document) (name : String) (h : d.instruction = .reference name) :
      Json.Reader.whole Document.reader d.layout.text = .ok d := by
    refine Json.Reader.whole_of_reads (Document.reads_layout ?_ ?_)
    · exact h ▸ .reference (Nat.zero_le _)
    · exact h ▸ .reference
  have hlog : (log (file "old") slashingKey 9
        (onlyCommit slashedKey slashed.instruction).2).1.toOption.map
        (·.map fun x => (x.id, x.body))
      = (onlyCommit slashedKey slashed.instruction).1.toOption.map
        fun id => [(id, slashed.instruction)] := by decide +kernel
  have hok : (onlyCommit slashedKey slashed.instruction).1.isOk = true := by decide +kernel
  obtain ⟨id, hid⟩ := Outcome.exists_eq_ok_of_isOk hok
  rw [hid] at hlog
  obtain ⟨xs, hxs, hmap⟩ := Option.map_eq_some_iff.1 hlog
  obtain ⟨x, rfl, hx⟩ := List.map_eq_singleton_iff.1 hmap
  refine ⟨hread _ _ rfl, hread _ _ rfl, by decide, by decide, x, id, hid, ?_, ?_, ?_⟩
  · exact Outcome.eq_ok_of_toOption hxs
  · exact congrArg Prod.fst hx
  · exact congrArg Prod.snd hx

theorem log_of_committed_slashed :
    ∃ id id' xs xs',
      Committed (file "old") new [(slashedKey, id)] (onlyCommit slashedKey (.reference "a")).2 ∧
      (log (file "old") slashingKey 9 (onlyCommit slashedKey (.reference "a")).2).1 = .ok xs ∧
      xs.map Commit.id = [id] ∧
      Committed (file "old") new [(here.key, id')] (onlyCommit here.key (.reference "a")).2 ∧
      here.key.HasCheckedAccount ∧ there.key.HasCheckedAccount ∧
      (log (file "old") there.key 9 (onlyCommit here.key (.reference "a")).2).1 = .ok xs' ∧
      xs'.map Commit.id = [] := by
  have hok : (onlyCommit slashedKey (.reference "a")).1.isOk = true := by decide +kernel
  have hlog : (log (file "old") slashingKey 9
      (onlyCommit slashedKey (.reference "a")).2).1.isOk = true := by decide +kernel
  have hok' : (onlyCommit here.key (.reference "a")).1.isOk = true := by decide +kernel
  have hlog' : (log (file "old") there.key 9
      (onlyCommit here.key (.reference "a")).2).1.isOk = true := by decide +kernel
  obtain ⟨id, hid⟩ := Outcome.exists_eq_ok_of_isOk hok
  obtain ⟨xs, hxs⟩ := Outcome.exists_eq_ok_of_isOk hlog
  obtain ⟨id', hid'⟩ := Outcome.exists_eq_ok_of_isOk hok'
  obtain ⟨xs', hxs'⟩ := Outcome.exists_eq_ok_of_isOk hlog'
  have hchecked : here.key.HasCheckedAccount := ⟨"a", by decide +kernel⟩
  have hchecked' : there.key.HasCheckedAccount := ⟨"a", by decide +kernel⟩
  have hcommitted := committed_onlyCommit hid
  have hcommitted' := committed_onlyCommit hid'
  obtain ⟨-, -, hids, -⟩ := log_of_committed (file_isLawful _) rfl hcommitted
  obtain ⟨-, -, -, hown⟩ := log_of_committed (file_isLawful _) rfl hcommitted'
  refine ⟨id, id', xs, xs', hcommitted, hxs, hids _ _ _ hxs, hcommitted', hchecked, hchecked',
    hxs', hown _ hchecked' ?_ _ _ hxs'⟩
  exact fun m hm => List.mem_singleton.1 hm ▸ hchecked

end History

end InstructionStore
