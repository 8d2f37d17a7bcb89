import InstructionStore.Proofs.History.Appending
import InstructionStore.Proofs.Store.SaveThenFind

/-!
# Operations that fail

The database may refuse any statement, so that an operation can fail at any of its
statements, and a save at those of two databases. **Whatever fails, the records are as
they were** (`Store.failuresAreClean_of_isReachable`).

The history is another matter. It is not asked before the input is checked and the owner
is found, and when it fails, its failure is that of the save. But what it took is not
taken back: if the record is refused after the commit, the commit stays. It is the only
one, and nothing else is done to the history by a save (`Store.LeavesOneCommit`).
-/

namespace InstructionStore

open Database

/-! ## What work can fail with -/

/-- **Work whose failures are of a kind.** -/
def Task.FailsWithin {σ ε α : Type} (kind : ε → Prop) (task : Task σ ε α) : Prop :=
  ∀ s e s', task s = (.error e, s') → kind e

section
variable {σ ε α β : Type} {kind : ε → Prop}

theorem Task.FailsWithin.pure (a : α) : FailsWithin kind (pure a : Task σ ε α) :=
  fun _ _ _ h => nomatch h

theorem Task.FailsWithin.throw {e : ε} (he : kind e) :
    FailsWithin kind (throw e : Task σ ε α) := by
  intro s e' s' h
  cases h
  exact he

theorem Task.FailsWithin.bind {x : Task σ ε α} {f : α → Task σ ε β} (hx : x.FailsWithin kind)
    (hf : ∀ a, (f a).FailsWithin kind) : (x >>= f).FailsWithin kind := by
  intro s e s' h
  rw [Task.bind_apply] at h
  rcases hrun : x s with ⟨e' | a, s₁⟩ <;> rw [hrun] at h
  · cases h
    exact hx s _ _ hrun
  · exact hf a s₁ e s' h

variable {c : Connection σ}

theorem Database.Connection.step_failsWithin {failed : Refusal → ε}
    (hfailed : ∀ refusal, kind (failed refusal)) (statement : Statement α) :
    (c.step failed statement).FailsWithin kind := by
  intro x e x' h
  unfold step at h
  dsimp only at h
  split at h
  · cases h
    exact hfailed _
  · split at h <;> cases h
    exact hfailed _

theorem Database.Connection.transact_failsWithin {failed : ε} (hfailed : kind failed)
    {body : Transaction σ ε α} (hbody : body.FailsWithin kind) :
    (c.transact failed body).FailsWithin kind := by
  intro s e s' h
  unfold transact at h
  split at h
  · cases h
    exact hfailed
  · split at h
    · rename_i hrun
      cases h
      exact hbody _ _ _ hrun
    · dsimp only at h
      split at h <;> cases h
      exact hfailed

end

/-- **Whether a save is refused** for its input or for its owner. -/
def StoreFailure.IsRefusal : StoreFailure → Prop
  | invalid _ | ownerMissing _ => True
  | duplicate _ | database _ => False

namespace Store

variable {σ : Type} {c : Connection σ}

/-! ## What fails cleanly -/

/-- **Work that changes nothing in a database if it fails** in a given state. -/
def FailsCleanly {ε α : Type} (c : Connection σ) (task : Task σ ε α) (s : σ) : Prop :=
  ∀ e, (task s).1 = .error e → c.contents (task s).2 = c.contents s

/-- **What a save that fails leaves behind**, whichever history it works with. -/
structure SaveFails (c : Connection σ) (history : VersionHistory σ) (owner : Account)
    (request : SaveRequest) (s : σ) (e : StoreFailure) (s' : σ) : Prop where
  /-- The records are as they were. -/
  records : c.contents s' = c.contents s
  /-- If the save is refused, the history was not asked: it would have been refused with
  any other. -/
  unasked : e.IsRefusal → ∀ other, save c other owner request s = (.error e, s')
  /-- A failure of the history is the failure of the save, and nothing comes after it. -/
  passedOn : ∀ {p before failure after}, prepare c owner request s = (.ok p, before) →
    history p.key p.document.instruction p.author before = (.error failure, after) →
    e = .database (.history failure) ∧ s' = after
  /-- The history was asked for the document of the owner, and all that is apart from the
  records is as it was when the history was asked and when it had answered. -/
  asked : ∀ {p before answer after}, prepare c owner request s = (.ok p, before) →
    history p.key p.document.instruction p.author before = (answer, after) →
    p.key = ⟨owner.id, p.document.id⟩ ∧ ∀ {τ : Type} {view : σ → τ}, c.WorksPast view →
      view before = view s ∧ view s' = view after

/-- **What a save that fails leaves in the history.** -/
structure LeavesOneCommit (c h : Connection σ) (owner : Account) (request : SaveRequest)
    (s s' : σ) : Prop where
  /-- If the commit was made, it stays, and it is the only one. -/
  made : ∀ {p before id after}, prepare c owner request s = (.ok p, before) →
    History.commit h p.key p.document.instruction p.author before = (.ok id, after) →
    ∃ db db' content, h.contents s = some db ∧ h.contents s' = some db'
      ∧ db.Gains db' ⟨owner.id, p.document.id⟩ content ∧ content.id = id
      ∧ content.body = p.document.instruction.text ∧ content.author = p.author
  /-- Otherwise the history is as it was. -/
  unmade : (∀ {p before id after}, prepare c owner request s = (.ok p, before) →
      History.commit h p.key p.document.instruction p.author before ≠ (.ok id, after)) →
    h.contents s' = h.contents s

/-- **Operations that fail change nothing.** -/
structure FailuresAreClean (c : Connection σ) (s : σ) : Prop where
  /-- No account is opened. -/
  createAccount : ∀ request, FailsCleanly c (createAccount c request) s
  /-- No account is deleted. -/
  deleteAccount : ∀ account, FailsCleanly c (deleteAccount c account) s
  /-- No document is deleted. -/
  deleteDocument : ∀ document, FailsCleanly c (deleteDocument c document) s
  /-- Nothing is saved, if the history does not work with the records itself. -/
  save : ∀ history : VersionHistory σ,
    (∀ key body author, c.IsQuiet (history key body author)) →
    ∀ {owner request e s'}, save c history owner request s = (.error e, s') →
      SaveFails c history owner request s e s'
  /-- Nothing is committed, and if the history is apart from the records, these are as they
  were as well. -/
  commit : ∀ h : Connection σ, h.IsLawful → ∀ key body author,
    FailsCleanly h (History.commit h key body author) s
      ∧ (h.WorksPast c.contents → FailsCleanly c (History.commit h key body author) s)
  /-- A save leaves one commit or none. -/
  history : ∀ h : Connection σ, h.IsLawful → h.WorksPast c.contents → c.WorksPast h.contents →
    ∀ {owner request e s'}, Store.save c (History.commit h) owner request s = (.error e, s') →
      LeavesOneCommit c h owner request s s'

/-! ## Saves that fail -/

/-- The last step of a save fails with what is wrong with the database, or since there is
another document. -/
theorem persist_failsWithin (p : Pending) :
    (persist c p).FailsWithin fun e => ¬e.IsRefusal := by
  have hsql {α : Type} (statement : Statement α) :
      (c.step (fun _ => StoreFailure.sql) statement).FailsWithin fun e => ¬e.IsRefusal :=
    Connection.step_failsWithin (fun _ => id) statement
  have htags (tags : List Identifier) (ordinal : Nat) :
      (addTags c p.document.id ordinal tags).FailsWithin fun e => ¬e.IsRefusal := by
    induction tags generalizing ordinal with
    | nil => exact .pure _
    | cons tag tags ih =>
      have hrest := (hsql (Contents.insertTag p.document.id tag ordinal)).bind
        fun _ => ih (ordinal + 1)
      rw [addTags]
      dsimp only
      split
      · exact Task.FailsWithin.bind (.throw id) fun _ => hrest
      · exact hrest
  have hinsert (now : Int64) : (c.step (insertFailure .instruction) (Contents.insertDocument
      p.document p.document.instruction.text now)).FailsWithin fun e => ¬e.IsRefusal := by
    refine Connection.step_failsWithin (fun refusal => ?_) _
    cases refusal <;> exact id
  have hwrite (now : Int64) : (writeDocument c p now).FailsWithin fun e => ¬e.IsRefusal := by
    unfold writeDocument
    dsimp only
    split
    · refine (hsql _).bind fun updated => ?_
      split
      · exact hinsert now
      · exact .pure _
    · exact hinsert now
  have hrecord (now : Int64) : (record c p now).FailsWithin fun e => ¬e.IsRefusal :=
    (hwrite now).bind fun _ => (hsql _).bind fun _ => htags _ _
  have htransact (now : Int64) :
      (c.transact .sql (record c p now)).FailsWithin fun e => ¬e.IsRefusal :=
    Connection.transact_failsWithin id (hrecord now)
  exact fun s => htransact (c.now s) s

/-- A save that fails in its first step fails so with any history. -/
theorem save_of_refused {owner : Account} {request : SaveRequest} {s s' : σ} {e : StoreFailure}
    (h : prepare c owner request s = (.error e, s')) (history : VersionHistory σ) :
    save c history owner request s = (.error e, s') := by
  unfold save
  rw [Task.bind_apply, h]

/-- The chain a save adds to is that of its owner. -/
theorem key_of_prepare (hc : c.IsLawful) {s s' : σ} (reachable : IsReachable c s)
    {owner : Account} {request : SaveRequest} {p : Pending}
    (h : prepare c owner request s = (.ok p, s')) : p.key = ⟨owner.id, p.document.id⟩ := by
  obtain ⟨db, r, hs, hdb⟩ := reachable.holds hc
  obtain ⟨checked, a, db₁, -, hdb₁, hget, hdocument, -⟩ := prepare_eq_ok h
  obtain rfl := Option.some.inj (((hc.disturbed s).trans hs).symm.trans hdb₁)
  obtain ⟨-, ha⟩ := (Contents.getAccount_eq_some_iff hdb).1 hget
  have hcreator : p.document.creatorId = a.id := congrArg Document.creatorId hdocument
  unfold Pending.key
  rw [hcreator, ha]

variable {s s' : σ} {owner : Account} {request : SaveRequest} {e : StoreFailure}

/-- **A save that fails changes nothing in the records**, wherever it fails. -/
theorem contents_of_save_fails (hc : c.IsLawful) (reachable : IsReachable c s)
    {history : VersionHistory σ} (quiet : ∀ key body author, c.IsQuiet (history key body author))
    (hsave : save c history owner request s = (.error e, s')) : c.contents s' = c.contents s := by
  obtain ⟨db, r, hs, -⟩ := reachable.holds hc
  have hprepare {result : Except StoreFailure Pending} {before : σ}
      (hrun : prepare c owner request s = (result, before)) :
      c.contents before = c.contents s := by
    have hkeeps := (prepare_keeps hc.readsPast owner request).eq s
    rwa [hrun] at hkeeps
  have hanswer {p : Pending} {answer : Except HistoryFailure CommitId} {before after : σ}
      (hrun : history p.key p.document.instruction p.author before = (answer, after)) :
      c.contents after = c.contents before := by
    have hkeeps := Task.Keeps.eq (quiet p.key p.document.instruction p.author) before
    rwa [hrun] at hkeeps
  cases course_of_save hsave with
  | refused refuses => exact hprepare refuses
  | uncommitted prepared fails => exact (hanswer fails).trans (hprepare prepared)
  | @unrecorded p _ after _ _ _ prepared commits fails =>
    have hafter := (hanswer commits).trans (hprepare prepared)
    have hpersist := (persist_isAtomic hc p).unchanged (hafter.trans hs)
      (congrArg Prod.fst fails)
    rw [fails] at hpersist
    exact hpersist.trans hs.symm

/-- **What a save that fails leaves behind.** -/
theorem saveFails_of_save (hc : c.IsLawful) (reachable : IsReachable c s)
    {history : VersionHistory σ} (quiet : ∀ key body author, c.IsQuiet (history key body author))
    (hsave : save c history owner request s = (.error e, s')) :
    SaveFails c history owner request s e s' := by
  refine ⟨contents_of_save_fails hc reachable quiet hsave, fun hrefusal => ?_,
    fun {p before failure after} hprepare hanswer => ?_,
    fun {p before answer after} hprepare hanswer => ?_⟩
  · cases course_of_save hsave with
    | refused refuses => exact save_of_refused refuses
    | uncommitted => exact hrefusal.elim
    | @unrecorded p _ after _ _ _ prepared commits fails =>
      exact absurd hrefusal (persist_failsWithin p after e s' fails)
  · cases course_of_save hsave with
    | refused refuses => exact nomatch hprepare.symm.trans refuses
    | uncommitted prepared fails =>
      cases hprepare.symm.trans prepared
      cases hanswer.symm.trans fails
      exact ⟨rfl, rfl⟩
    | unrecorded prepared commits fails =>
      cases hprepare.symm.trans prepared
      exact nomatch hanswer.symm.trans commits
  · refine ⟨key_of_prepare hc reachable hprepare, fun {τ view} apart => ⟨?_, ?_⟩⟩
    · have hkeeps := (prepare_keeps apart.toReadsPast owner request).eq s
      rwa [hprepare] at hkeeps
    · cases course_of_save hsave with
      | refused refuses => exact nomatch hprepare.symm.trans refuses
      | uncommitted prepared fails =>
        cases hprepare.symm.trans prepared
        cases hanswer.symm.trans fails
        rfl
      | unrecorded prepared commits fails =>
        cases hprepare.symm.trans prepared
        cases hanswer.symm.trans commits
        have hkeeps := (persist_keeps apart p).eq after
        rwa [fails] at hkeeps

/-- **What a save that fails leaves in the history**: the commit, if there was one. -/
theorem leavesOneCommit_of_save (hc : c.IsLawful) (reachable : IsReachable c s)
    {h : Connection σ} (hh : h.IsLawful) (leaves : h.WorksPast c.contents)
    (apart : c.WorksPast h.contents)
    (hsave : save c (History.commit h) owner request s = (.error e, s')) :
    LeavesOneCommit c h owner request s s' := by
  have hfails := saveFails_of_save hc reachable
    (fun key body author => History.commit_keeps leaves key body author) hsave
  constructor
  · intro p before id after hprepare hcommit
    obtain ⟨hkey, happart⟩ := hfails.asked hprepare hcommit
    obtain ⟨hbefore, hafter⟩ := happart apart
    cases hs : h.contents before with
    | none =>
      have hnone := hcommit
      rw [History.commit_apply] at hnone
      unfold Connection.transact at hnone
      rw [hs] at hnone
      exact nomatch hnone
    | some db =>
      rcases History.commit_isAtomic hh p.key p.document.instruction p.author before db hs with
        ⟨_, hfail, -⟩ | ⟨id', db', hok, hs', content, hgains, hid, hcontent⟩
      · rw [hcommit] at hfail
        exact nomatch hfail
      · rw [hcommit] at hok hs'
        cases hok
        exact ⟨db, db', content, hbefore.symm.trans hs, hafter.trans hs', hkey ▸ hgains, hid,
          hcontent⟩
  · intro hunmade
    cases course_of_save hsave with
    | refused refuses =>
      have hkeeps := (prepare_keeps apart.toReadsPast owner request).eq s
      rwa [refuses] at hkeeps
    | uncommitted prepared fails =>
      obtain ⟨hbefore, -⟩ := (hfails.asked prepared fails).2 apart
      have hunchanged := History.commit_unchanged hh (congrArg Prod.fst fails)
      rw [fails] at hunchanged
      exact hunchanged.trans hbefore
    | unrecorded prepared commits => exact absurd commits (hunmade prepared)

/-! ## All operations -/

/-- **An operation that fails leaves the records exactly as they were**, in every state a
store can be in and at whichever statement it fails. -/
theorem failuresAreClean_of_isReachable (hc : c.IsLawful) (reachable : IsReachable c s) :
    FailuresAreClean c s := by
  obtain ⟨db, r, hs, -⟩ := reachable.holds hc
  have hclean {ε α : Type} {task : Task σ ε α} {change : Contents → α → Contents → Prop}
      (hatomic : c.IsAtomic task change) : FailsCleanly c task s :=
    fun _ hfail => (hatomic.unchanged hs hfail).trans hs.symm
  exact {
    createAccount := fun request => hclean (createAccount_isAtomic hc request)
    deleteAccount := fun account => hclean (deleteAccount_isAtomic hc account)
    deleteDocument := fun document => hclean (deleteDocument_isAtomic hc document)
    save := fun history quiet => saveFails_of_save hc reachable quiet
    commit := fun h hh key body author =>
      ⟨fun _ => History.commit_unchanged hh,
        fun leaves _ _ => (History.commit_keeps leaves key body author).eq s⟩
    history := fun h hh leaves apart => leavesOneCommit_of_save hc reachable hh leaves apart }

/-! ## A record that is refused after its commit -/

namespace World

/-- The records, in a database that refuses everything once two identifiers were drawn. -/
def strained : Connection World :=
  { file "records" with disturbed := fun w => (decide (2 ≤ w.drawn), w) }

theorem strained_isLawful : strained.IsLawful :=
  ⟨(file_isLawful "records").replaced, (file_isLawful "records").drawn, fun _ => rfl⟩

theorem strained_worksPast : strained.WorksPast (file "old").contents :=
  ⟨⟨fun _ => rfl, fun _ => rfl⟩,
    (Surroundings.connect_worksPast surroundings_isLawful (by decide)).replaced⟩

theorem old_worksPast : (file "old").WorksPast strained.contents :=
  Surroundings.connect_worksPast surroundings_isLawful (by decide)

/-- An account is opened, for which the first identifier is drawn. -/
def signedUp : World := (createAccount strained signup opened).2

theorem signedUp_isReachable : IsReachable strained signedUp := by
  have hopened : (strained.openRecords new).1.isOk = true := by decide +kernel
  obtain ⟨⟨⟩, hok⟩ := Outcome.exists_eq_ok_of_isOk hopened
  have hsame : strained.contents opened = strained.contents (strained.openRecords new).2 := by
    decide +kernel
  have hreachable : IsReachable strained (strained.openRecords new).2 :=
    .opened rfl (Prod.ext hok rfl)
  have hothers : IsReachable strained opened := hreachable.step (.elsewhere hsame)
  exact hothers.step (.createAccount signup opened)

end World

open World in
theorem failuresAreClean_of_isReachable_signedUp :
    ∃ e w db db' key content, FailuresAreClean strained signedUp
      ∧ save strained (History.commit (file "old")) ann first signedUp = (.error e, w)
      ∧ strained.contents w = strained.contents signedUp
      ∧ (file "old").contents signedUp = some db ∧ (file "old").contents w = some db'
      ∧ key.accountId = ann.id ∧ db.Gains db' key content := by
  have hclean := failuresAreClean_of_isReachable strained_isLawful signedUp_isReachable
  -- the first step and the commit succeed, and then the second identifier is drawn
  have hprepare : (prepare strained ann first signedUp).1.isOk = true := by decide +kernel
  have hcommit : ((prepare strained ann first >>= fun p =>
      (History.commit (file "old") p.key p.document.instruction p.author).mapError
        fun failure => StoreFailure.database (.history failure)) signedUp).1.isOk = true := by
    decide +kernel
  have hsave : (save strained (History.commit (file "old")) ann first signedUp).1.isOk
      = false := by decide +kernel
  rcases hprepared : prepare strained ann first signedUp with ⟨_ | p, before⟩
  · rw [hprepared] at hprepare
    exact nomatch hprepare
  have hcommit := Task.isOk_of_bind hprepared hcommit
  rw [Task.isOk_mapError] at hcommit
  obtain ⟨id, hid⟩ := Outcome.exists_eq_ok_of_isOk hcommit
  rcases hrun : save strained (History.commit (file "old")) ann first signedUp with ⟨e | d, w⟩
  · have hrecords := (hclean.save _ (History.commit_keeps old_worksPast) hrun).records
    obtain ⟨db, db', content, hs, hs', hgains, -⟩ := (hclean.history _ (file_isLawful "old")
      old_worksPast strained_worksPast hrun).made hprepared (Prod.ext hid rfl)
    exact ⟨e, w, db, db', _, content, hclean, rfl, hrecords, hs, hs', rfl, hgains⟩
  · rw [hrun] at hsave
    exact nomatch hsave

end Store

end InstructionStore
