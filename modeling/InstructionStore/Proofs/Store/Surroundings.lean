import InstructionStore.History.Chain
import InstructionStore.Proofs.Database.Apart
import InstructionStore.Store.Opening

/-!
# The connections of the stores

What is asked of a connection holds of those that lead to the files of a tree
(`Surroundings.connect_isLawful`), if the surroundings keep the files apart from
everything else. And the history leaves the records alone whenever it lies in another
file (`Surroundings.commit_isQuiet`).
-/

namespace InstructionStore

open Database

/-- **Surroundings that keep the files apart** from the identifiers and the
disturbances. -/
structure Surroundings.IsLawful {σ : Type} (e : Surroundings σ) : Prop where
  /-- The files that are put in place are found there. -/
  replaced : ∀ t s, e.files (e.setFiles t s) = t
  /-- Drawing an identifier does not change them. -/
  drawn : ∀ s, e.files (e.draw s).2 = e.files s
  /-- A disturbance does not change them. -/
  disturbed : ∀ s, e.files (e.disturbed s).2 = e.files s

/-- What is put into a file is found there. -/
theorem Files.contents_put_self (t : Files) (path : FilePath) (db : Contents) :
    (t.put path (.database db)).contents path = some db := by
  unfold Files.put Files.contents
  rw [List.lookup_cons_self]
  rfl

/-- Whatever happens to one file, the others are found as before. -/
theorem Files.lookup_filter_of_ne {path path' : FilePath} (h : path ≠ path')
    (files : List (FilePath × FileData)) :
    (files.filter fun file => file.1 != path').lookup path = files.lookup path := by
  induction files with
  | nil => rfl
  | cons file files ih =>
    obtain ⟨name, data⟩ := file
    by_cases hname : name = path'
    · rw [List.filter_cons_of_neg (by simp [hname]), ih, List.lookup_cons, hname,
        beq_eq_false_iff_ne.2 h]
    · rw [List.filter_cons_of_pos (by simp [hname]), List.lookup_cons, List.lookup_cons, ih]

/-- What is put into a file changes no other. -/
theorem Files.lookup_put_of_ne {path path' : FilePath} (h : path ≠ path') (t : Files)
    (data : FileData) : (t.put path' data).files.lookup path = t.files.lookup path := by
  unfold put
  rw [List.lookup_cons, beq_eq_false_iff_ne.2 h]
  exact lookup_filter_of_ne h t.files

/-- The database in a file is told by what the file holds. -/
theorem Files.contents_congr {t t' : Files} {path : FilePath}
    (h : t'.files.lookup path = t.files.lookup path) : t'.contents path = t.contents path :=
  congrArg (fun data => data.bind FileData.contents?) h

/-- A commit preserves what disturbances do and what putting contents in place does. -/
theorem History.commit_preserves {σ : Type} {c : Connection σ} {I : σ → Prop}
    (hdisturbed : ∀ s, I s → I (c.disturbed s).2) (hreplace : ∀ db s, I s → I (c.replace db s))
    (key : HistoryKey) (body : Instruction) (author : Signature) :
    (commit c key body author).Preserves I := by
  unfold commit
  refine Task.Preserves.get.bind fun s => ?_
  refine Connection.transact_preserves ?_ hdisturbed hreplace
  refine (Connection.step_preserves hdisturbed _ _).bind fun parent => ?_
  refine (Connection.step_preserves hdisturbed _ _).bind fun _ => ?_
  exact (Connection.step_preserves hdisturbed _ _).bind fun _ => Task.Preserves.pure _

/-- A commit leaves alone what work with its database does. -/
theorem History.commit_keeps {σ τ : Type} {c : Connection σ} {view : σ → τ}
    (h : c.WorksPast view) (key : HistoryKey) (body : Instruction) (author : Signature) :
    (commit c key body author).Keeps view :=
  fun _ => commit_preserves (fun s hs => (h.disturbed s).trans hs)
    (fun db s hs => (h.replaced db s).trans hs) key body author

namespace Surroundings

variable {σ : Type} {e : Surroundings σ}

/-- **A connection to a file leads to one database.** -/
theorem connect_isLawful (he : e.IsLawful) (path : FilePath) : (e.connect path).IsLawful where
  replaced s db _ _ := by
    unfold connect
    dsimp only
    rw [he.replaced, Files.contents_put_self]
  drawn s := congrArg (fun t => t.contents path) (he.drawn s)
  disturbed s := congrArg (fun t => t.contents path) (he.disturbed s)

/-- **A connection to a file works past every other file.** -/
theorem connect_worksPast (he : e.IsLawful) {path path' : FilePath} (h : path ≠ path') :
    (e.connect path').WorksPast (e.connect path).contents where
  toReadsPast := ⟨(connect_isLawful he path).drawn, (connect_isLawful he path).disturbed⟩
  replaced db s := by
    unfold connect
    dsimp only
    rw [he.replaced, Files.contents_congr (Files.lookup_put_of_ne h _ _)]

/-- **The history leaves the records alone** if it lies in another file. -/
theorem commit_isQuiet (he : e.IsLawful) {path path' : FilePath} (h : path ≠ path')
    (key : HistoryKey) (body : Instruction) (author : Signature) :
    (e.connect path).IsQuiet (History.commit (e.connect path') key body author) :=
  History.commit_keeps (connect_worksPast he h) key body author

end Surroundings

end InstructionStore
