import InstructionStore.Proofs.Database.Outline
import InstructionStore.Proofs.History.Appending
import InstructionStore.Proofs.Store.Operations

/-!
# Work that makes and drops no table

Once a database has been opened, rows are all that work with it ever touches. Each statement
reads a table before it puts rows into it, so it fails where there is none and makes none
(`Statement.KeepsTables`). A transaction of such statements keeps the tables as well
(`Transaction.KeepsTables`), and so does every operation of the stores, whether or not it
fails (`Connection.KeepsTables`).

It is said of contents of every kind, and not only of those that a store can have: an
operation that meets a table of another shape leaves it there.
-/

namespace InstructionStore

open Database

variable {σ ε α β : Type}

namespace Database

/-! ## Statements -/

/-- **A statement that keeps the tables**, and the rows of state. -/
def Statement.KeepsTables (statement : Statement α) : Prop :=
  ∀ ⦃db a db'⦄, statement db = .ok (a, db') → db.Refills db'

namespace Contents

variable {db db' : Contents}

/-- **A table that is no table of state is filled anew.** -/
theorem Refills.put {p : Place} {slot : Slot p.Row} (hrecords : p ≠ .recordsState)
    (hhistory : p ≠ .historyState) (h : (db.slot p).Refills slot) : db.Refills (db.put p slot) where
  slots q := by
    by_cases hq : q = p
    · subst hq
      rwa [slot_put_self]
    · rw [slot_put_of_ne hq]
      exact .refl _
  recordsState := slot_put_of_ne hrecords.symm slot
  historyState := slot_put_of_ne hhistory.symm slot
  others := by cases p <;> rfl

/-- Rows are put where there were rows before. -/
theorem Refills.put_rows {p : Place} {before after : List p.Row} (hrecords : p ≠ .recordsState)
    (hhistory : p ≠ .historyState) (h : db.slot p = .rows before) :
    db.Refills (db.put p (.rows after)) :=
  .put hrecords hhistory (.of_rows h)

/-- The numbering of the archive is in no table. -/
theorem Refills.archived (number : Int) : db.Refills { db with archived := number } :=
  ⟨fun p => by cases p <;> exact .refl _, rfl, rfl, rfl⟩

theorem insertAccount_keepsTables (a : Account) : (insertAccount a).KeepsTables := by
  intro db _ db' h
  unfold insertAccount at h
  rw [Outcome.bind_eq_ok_iff] at h
  obtain ⟨rows, hread, h⟩ := h
  rw [Outcome.bind_eq_ok_iff] at h
  obtain ⟨rows', -, h⟩ := h
  cases h
  exact .put_rows (p := .accounts) nofun nofun (Slot.read_eq_ok_iff.1 hread)

theorem archiveAccount_keepsTables (id : AccountId) (now : Int64) :
    (archiveAccount id now).KeepsTables := by
  intro db _ db' h
  unfold archiveAccount at h
  rw [Outcome.bind_eq_ok_iff] at h
  obtain ⟨archive, hread, h⟩ := h
  rw [Outcome.bind_eq_ok_iff] at h
  obtain ⟨accounts, -, h⟩ := h
  split at h
  · cases h
    exact .refl _
  · dsimp only at h
    split at h
    · exact nomatch h
    · rw [Outcome.bind_eq_ok_iff] at h
      obtain ⟨archive', -, h⟩ := h
      cases h
      have harchive : db.slot .archive = .rows archive := Slot.read_eq_ok_iff.1 hread
      exact (Refills.put_rows (p := .archive) nofun nofun harchive).trans (.archived _)

theorem removeAccount_keepsTables (id : AccountId) : (removeAccount id).KeepsTables := by
  intro db _ db' h
  unfold removeAccount at h
  rw [Outcome.bind_eq_ok_iff] at h
  obtain ⟨rows, hread, h⟩ := h
  cases h
  exact .put_rows (p := .accounts) nofun nofun (Slot.read_eq_ok_iff.1 hread)

theorem updateBody_keepsTables (id : InstructionId) (body : String) (now : Int64) :
    (updateBody id body now).KeepsTables := by
  intro db _ db' h
  unfold updateBody at h
  rw [Outcome.bind_eq_ok_iff] at h
  obtain ⟨rows, hread, h⟩ := h
  cases h
  exact .put_rows (p := .documents) nofun nofun (Slot.read_eq_ok_iff.1 hread)

theorem insertDocument_keepsTables (d : Document) (body : String) (now : Int64) :
    (insertDocument d body now).KeepsTables := by
  intro db _ db' h
  unfold insertDocument at h
  rw [Outcome.bind_eq_ok_iff] at h
  obtain ⟨rows, hread, h⟩ := h
  rw [Outcome.bind_eq_ok_iff] at h
  obtain ⟨rows', -, h⟩ := h
  cases h
  exact .put_rows (p := .documents) nofun nofun (Slot.read_eq_ok_iff.1 hread)

theorem removeTags_keepsTables (id : InstructionId) : (removeTags id).KeepsTables := by
  intro db _ db' h
  obtain ⟨rows, hrows, rfl⟩ := removeTags_eq_ok h
  exact .put_rows (p := .tags) nofun nofun hrows

theorem insertTag_keepsTables (id : InstructionId) (tag : Identifier) (ordinal : Nat) :
    (insertTag id tag ordinal).KeepsTables := by
  intro db _ db' h
  have hread := h
  unfold insertTag at hread
  rw [Outcome.bind_eq_ok_iff] at hread
  obtain ⟨rows, hread, -⟩ := hread
  have hrows := Slot.read_eq_ok_iff.1 hread
  rw [insertTag_eq_ok hrows h]
  exact .put_rows (p := .tags) nofun nofun hrows

/-- The tags of a document go with it, where there is a table of tags. -/
theorem removeDocument_keepsTables (id : InstructionId) : (removeDocument id).KeepsTables := by
  intro db _ db' h
  unfold removeDocument at h
  rw [Outcome.bind_eq_ok_iff] at h
  obtain ⟨rows, hread, h⟩ := h
  cases h
  refine Refills.trans (.put_rows (p := .documents) nofun nofun (Slot.read_eq_ok_iff.1 hread))
    (.put (p := .tags) nofun nofun ?_)
  show db.tags.Refills _
  cases htags : db.tags with
  | rows tags =>
    dsimp only
    split <;> exact .rows _ _
  | _ => exact .refl _

theorem readHead_keepsTables (key : HistoryKey) : (readHead key).KeepsTables := by
  intro db _ db' h
  unfold readHead at h
  split at h
  · cases h
    exact .refl _
  · exact nomatch h

theorem insertCommit_keepsTables (content : Commit.Content) :
    (insertCommit content).KeepsTables := by
  intro db _ db' h
  obtain ⟨rows, hrows, -, rfl⟩ := insertCommit_eq_ok h
  exact .put_rows (p := .commits) nofun nofun hrows

theorem moveHead_keepsTables (key : HistoryKey) (id : CommitId) (now : Int64) :
    (moveHead key id now).KeepsTables := by
  intro db _ db' h
  obtain ⟨rows, hrows, rfl⟩ := moveHead_eq_ok h
  exact .put_rows (p := .heads) nofun nofun hrows

end Contents

/-! ## Transactions -/

/-- **A transaction that keeps the tables** of its copy. -/
def Transaction.KeepsTables (body : Transaction σ ε α) : Prop :=
  ∀ db : Contents, Task.Preserves (fun x : σ × Contents => db.Refills x.2) body

namespace Transaction.KeepsTables

theorem pure (a : α) : KeepsTables (pure a : Transaction σ ε α) := fun _ => .pure a

theorem throw (e : ε) : KeepsTables (throw e : Transaction σ ε α) := fun _ => .throw e

theorem bind {x : Transaction σ ε α} {f : α → Transaction σ ε β} (hx : KeepsTables x)
    (hf : ∀ a, KeepsTables (f a)) : KeepsTables (x >>= f) :=
  fun db => (hx db).bind fun a => hf a db

theorem step {c : Connection σ} {failed : Refusal → ε} {statement : Statement α}
    (h : statement.KeepsTables) : KeepsTables (c.step failed statement) := by
  rintro db ⟨s, between⟩ hbetween
  unfold Connection.step
  dsimp only
  split
  · exact hbetween
  · cases hrun : statement between with
    | error refusal => exact hbetween
    | ok result => exact hbetween.trans (h hrun)

end Transaction.KeepsTables

/-- **Work that keeps the tables** of its database, and fails without a change or is done as
a whole. -/
def Connection.KeepsTables (c : Connection σ) (task : Task σ ε α) : Prop :=
  c.IsAtomic task fun db _ db' => db.Refills db'

theorem Connection.KeepsTables.refills {c : Connection σ} {task : Task σ ε α}
    (h : c.KeepsTables task) {s : σ} {db : Contents} (hs : c.contents s = some db) :
    ∃ db', c.contents (task s).2 = some db' ∧ db.Refills db' := by
  rcases h s db hs with ⟨_, -, hs'⟩ | ⟨_, db', -, hs', hrefills⟩
  · exact ⟨db, hs', .refl db⟩
  · exact ⟨db', hs', hrefills⟩

theorem Connection.IsLawful.transact_keepsTables {c : Connection σ} (hc : c.IsLawful) (failed : ε)
    {body : Transaction σ ε α} (hbody : c.IsContained body)
    (h : Transaction.KeepsTables body) : c.KeepsTables (c.transact failed body) := by
  refine (hc.transact failed hbody).imp ?_
  rintro db a db' ⟨s, s', hrun⟩
  have hafter := h db (s, db) (.refl db)
  rwa [hrun] at hafter

end Database

/-! ## The operations of the stores -/

namespace Store

open Contents

variable {c : Connection σ}

theorem createAccount_keepsTables (hc : c.IsLawful) (request : Signup) :
    c.KeepsTables (createAccount c request) :=
  (createAccount_isAtomic hc request).imp fun _ _ _ h => insertAccount_keepsTables _ h.2

theorem deleteAccount_keepsTables (hc : c.IsLawful) (account : Account) :
    c.KeepsTables (deleteAccount c account) := by
  refine (deleteAccount_isAtomic hc account).imp ?_
  rintro db _ db' ⟨now, between, harchive, hremove⟩
  exact (archiveAccount_keepsTables _ _ harchive).trans (removeAccount_keepsTables _ hremove)

theorem deleteDocument_keepsTables (hc : c.IsLawful) (document : Document) :
    c.KeepsTables (deleteDocument c document) :=
  (deleteDocument_isAtomic hc document).imp fun _ _ _ h => removeDocument_keepsTables _ h

theorem writeDocument_keepsTables (p : Pending) (now : Int64) :
    Transaction.KeepsTables (writeDocument c p now) := by
  unfold writeDocument
  dsimp only
  split
  · refine (Transaction.KeepsTables.step (updateBody_keepsTables _ _ _)).bind fun updated => ?_
    split
    · exact .step (insertDocument_keepsTables _ _ _)
    · exact .pure _
  · exact .step (insertDocument_keepsTables _ _ _)

theorem addTags_keepsTables (id : InstructionId) (tags : List Identifier) (ordinal : Nat) :
    Transaction.KeepsTables (addTags c id ordinal tags) := by
  induction tags generalizing ordinal with
  | nil => exact .pure _
  | cons tag tags ih =>
    rw [addTags]
    dsimp only
    have hrest : Transaction.KeepsTables (c.step (fun _ => StoreFailure.sql)
        (insertTag id tag ordinal) >>= fun _ => addTags c id (ordinal + 1) tags) :=
      (Transaction.KeepsTables.step (insertTag_keepsTables _ _ _)).bind fun _ => ih _
    split
    · exact (Transaction.KeepsTables.throw _).bind fun _ => hrest
    · exact hrest

/-- **The last step of a save keeps the tables**, whatever it is to record. -/
theorem persist_keepsTables (hc : c.IsLawful) (p : Pending) : c.KeepsTables (persist c p) := by
  have hrecord (now : Int64) : Transaction.KeepsTables (record c p now) := by
    unfold record
    refine (writeDocument_keepsTables p now).bind fun _ => ?_
    refine (Transaction.KeepsTables.step (removeTags_keepsTables _)).bind fun _ => ?_
    exact addTags_keepsTables _ _ _
  intro s
  rw [persist_apply]
  exact hc.transact_keepsTables _ (record_isContained hc p _) (hrecord _) s

end Store

/-- **A commit keeps the tables.** -/
theorem History.commit_keepsTables {c : Connection σ} (hc : c.IsLawful) (key : HistoryKey)
    (body : Instruction) (author : Signature) : c.KeepsTables (commit c key body author) := by
  have happend (now : Int64) : Transaction.KeepsTables (append c key body author now) := by
    unfold append
    refine (Transaction.KeepsTables.step (Contents.readHead_keepsTables _)).bind fun _ => ?_
    refine (Transaction.KeepsTables.step (Contents.insertCommit_keepsTables _)).bind fun _ => ?_
    exact (Transaction.KeepsTables.step (Contents.moveHead_keepsTables _ _ _)).bind fun _ => .pure _
  intro s
  rw [commit_apply]
  exact hc.transact_keepsTables _ (append_isContained hc key body author _) (happend _) s

end InstructionStore
