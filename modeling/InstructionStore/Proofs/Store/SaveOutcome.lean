import InstructionStore.Proofs.Store.Chronicle

/-!
# What a save comes to

A save that nothing comes between changes the records in one way or in none, whatever the
history is that it asks, as long as that leaves the records alone (`Store.save_outcome`). If it
succeeds, its document took the place it was for: it was written over the one that was there,
or it was added (`Records.Files`). All other documents are as before.

On a calm connection a save for a live account succeeds if the request passes its check, the
history takes the commit and the identifier that is drawn, if one is, obeys the rule and is an
unused one (`Store.exists_prepare`, `Store.save_of_prepare`).
-/

namespace InstructionStore

open Database

/-! ## Filing a document -/

/-- **Records with a document filed.** -/
inductive Records.Files (r : Records) (d : Document) : Records → Prop
  /-- It was written over the document in its place, which has its identifier. -/
  | replaced {f g : Filed} (there : f ∈ r.documents) (id : f.document.id = d.id)
    (slot : f.document.slot = d.slot) (written : g.document = d) : r.Files d (r.rewrite g)
  /-- It was added. -/
  | added {g : Filed} (admits : r.Admits g) (written : g.document = d) :
    r.Files d (r.add g admits)

namespace Records.Files

variable {r r' : Records} {d : Document}

/-- The document is on file then, with all others but the one that had its identifier. -/
theorem takes (h : r.Files d r') : r.Takes d r' := by
  cases h with
  | replaced there id slot written =>
    subst written
    exact takes_rewrite there id slot
  | added admits written => exact written ▸ takes_add admits

/-- The accounts are as before. -/
theorem accounts_eq (h : r.Files d r') : r'.accounts = r.accounts := by
  cases h <;> rfl

/-- **The documents of all other accounts are as before.** -/
theorem others (h : r.Files d r') {id : AccountId} (hne : d.creatorId ≠ id) :
    (r'.documents.filter fun f => f.document.creatorId = id)
      = r.documents.filter fun f => f.document.creatorId = id := by
  cases h with
  | @replaced f g there hid slot written =>
    refine filter_map_eq_filter fun e he => ⟨?_, fun hcreator => ?_⟩
    · rw [(g.rewrite_frame e).2.1]
    · -- a document of another account is not the one that is written over
      refine Filed.rewrite_of_ne fun heid => hne ?_
      obtain rfl := eq_of_nodup r.documentIds_nodup he there (heid.trans (written ▸ hid.symm))
      exact (congrArg Prod.fst slot).symm.trans (of_decide_eq_true hcreator)
  | @added g admits written =>
    unfold Records.add
    rw [List.filter_append, List.filter_cons_of_neg, List.filter_nil, List.append_nil]
    rw [written, decide_eq_true_eq]
    exact hne

end Records.Files

namespace Store

variable {σ : Type} {c : Connection σ} {s : σ} {db : Contents} {r : Records}
  {history : VersionHistory σ} {owner : Account} {request : SaveRequest}

/-- **A save that succeeds**, in a state in which some records were on file. -/
structure SaveSucceeds (c : Connection σ) (owner : Account) (request : SaveRequest) (s : σ)
    (db : Contents) (r : Records) (p : Pending) (s' : σ) : Prop where
  /-- The first step settled what is recorded. -/
  prepared : ∃ before, prepare c owner request s = (.ok p, before)
  /-- It is what was asked for. -/
  asked : IsAskedFor owner request p.document
  /-- The document is on file, and all other tables are as before. -/
  recorded : ∃ db' r', c.contents s' = some db' ∧ db'.Holds r' ∧ r.Files p.document r'
    ∧ { db' with documents := db.documents, tags := db.tags } = db

/-- **What a save comes to** that nothing comes between, with any history that leaves the
records alone: it fails and changes nothing, or its document is filed. -/
theorem save_outcome (hc : c.IsLawful)
    (quiet : ∀ key body author, c.IsQuiet (history key body author)) (hs : c.contents s = some db)
    (hdb : db.Holds r) {result : Except StoreFailure Document} {s' : σ}
    (hrun : save c history owner request s = (result, s')) :
    (∃ e, result = .error e ∧ c.contents s' = some db)
      ∨ ∃ p, result = .ok p.document ∧ SaveSucceeds c owner request s db r p s' := by
  have hprepared {answer : Except StoreFailure Pending} {before : σ}
      (hprepare : prepare c owner request s = (answer, before)) : c.contents before = some db := by
    have hkept := prepare_isQuiet hc owner request _ s hs
    rwa [hprepare] at hkept
  have hanswered {p : Pending} {before after : σ} {answer : Except HistoryFailure CommitId}
      (hprepare : prepare c owner request s = (.ok p, before))
      (hcommit : history p.key p.document.instruction p.author before = (answer, after)) :
      c.contents after = some db := by
    have hkept := quiet p.key p.document.instruction p.author _ before (hprepared hprepare)
    rwa [hcommit] at hkept
  cases course_of_save hrun with
  | refused refuses => exact .inl ⟨_, rfl, hprepared refuses⟩
  | uncommitted prepared fails => exact .inl ⟨_, rfl, hanswered prepared fails⟩
  | unrecorded prepared commits fails =>
    have hkept := (persist_isAtomic hc _).unchanged (hanswered prepared commits)
      (congrArg Prod.fst fails)
    rw [fails] at hkept
    exact .inl ⟨_, rfl, hkept⟩
  | @recorded p before after _ _ prepared commits persists =>
    obtain ⟨rows, hrows, -⟩ := hdb.tags
    obtain ⟨⟨hcreator, hname, hinstruction, htags⟩, hthere, -⟩ :=
      finds_of_prepare hc hs hdb prepared
    rcases persist_cases hc (isSound_of_prepare prepared) (hanswered prepared commits) hdb hrows
      with ⟨e, hfail, -⟩ | ⟨g, r', db', -, hs', hdb', hg, -, -, hcontents, hwritten⟩
    · exact nomatch hfail.symm.trans (congrArg Prod.fst persists)
    · rw [persists] at hs'
      refine .inr ⟨p, rfl, ⟨before, prepared⟩, ⟨⟨hcreator, hname⟩, hinstruction, htags⟩,
        db', r', hs', hdb', ?_, by rw [hcontents]⟩
      rcases hwritten with ⟨hupdate, -, rfl⟩ | ⟨admits, rfl⟩
      · obtain ⟨f, hf, hid, hslot⟩ := hthere hupdate
        exact .replaced hf hid hslot hg
      · exact .added admits hg

/-! ## Saves that succeed -/

/-- A lookup on a calm connection gives what it finds. -/
theorem lookUp_of_calm (hc : c.IsLawful) (calm : c.IsCalm) (hs : c.contents s = some db)
    {α : Type} {look : Contents → Except DatabaseFailure α} {a : α} (h : look db = .ok a) :
    lookUp c look s = (.ok a, (c.disturbed s).2) := by
  rw [shows_lookUp hc h s hs, calm s]
  rfl

/-- **The first step of a save succeeds** for a live account. -/
theorem exists_prepare (hc : c.IsLawful) (calm : c.IsCalm) (hs : c.contents s = some db)
    (hdb : db.Holds r) {a : Account} (ha : a ∈ r.accounts) (hid : a.id = owner.id)
    {checked : SaveRequest.Checked} (hcheck : request.check = .ok checked)
    (valid : OpaqueId.IsValid (c.draw (c.disturbed (c.disturbed s).2).2).1) :
    ∃ p before, prepare c owner request s = (.ok p, before) := by
  have hs₁ := (hc.disturbed s).trans hs
  have hget : getAccount c owner.id s = (.ok (some a), (c.disturbed s).2) :=
    lookUp_of_calm hc calm hs ((Contents.getAccount_eq_some_iff hdb).2 ⟨ha, hid⟩)
  have hfind : lookUp c (fun db => db.existingId a.id checked.name) (c.disturbed s).2
      = (.ok ((r.filed a.id checked.name.text).map fun f => f.document.id),
        (c.disturbed (c.disturbed s).2).2) :=
    lookUp_of_calm hc calm hs₁ (Contents.existingId_eq hdb a.id checked.name)
  have hidentify : ∃ found t,
      identify c a.id checked.name (c.disturbed s).2 = (.ok found, t) := by
    unfold identify
    rw [Task.bind_apply, hfind]
    cases (r.filed a.id checked.name.text).map fun f => f.document.id with
    | some id => exact ⟨_, _, rfl⟩
    | none =>
      have hdrawn : InstructionId.ofString (c.draw (c.disturbed (c.disturbed s).2).2).1
          = .ok ⟨(c.draw (c.disturbed (c.disturbed s).2).2).1⟩ :=
        InstructionId.ofString_eq_ok_iff.2 ⟨valid, rfl⟩
      dsimp only
      rw [Task.bind_apply]
      dsimp only [Connection.drawId, Task.ofState]
      rw [hdrawn]
      exact ⟨_, _, rfl⟩
  obtain ⟨found, t, hidentify⟩ := hidentify
  unfold prepare
  rw [hcheck, Task.bind_apply]
  dsimp only [Except.mapError, Task.ofExcept_apply]
  rw [Task.bind_apply, hget]
  dsimp only
  rw [Task.bind_apply, hidentify]
  exact ⟨_, _, rfl⟩

/-- **A save succeeds** if its first step does, the history takes the commit, and the
identifier it drew, if it drew one, is an unused one. -/
theorem save_of_prepare (hc : c.IsLawful) (calm : c.IsCalm) (hs : c.contents s = some db)
    (hdb : db.Holds r) (short : request.tags.length ≤ 2 ^ 63) {p : Pending} {before : σ}
    (prepared : prepare c owner request s = (.ok p, before))
    (quiet : ∀ key body author, c.IsQuiet (history key body author)) {id : CommitId}
    (taken : (history p.key p.document.instruction p.author before).1 = .ok id)
    (unused : p.isUpdate = false → ∀ f ∈ r.documents, f.document.id ≠ p.document.id) :
    (save c history owner request s).1 = .ok p.document := by
  let v : Save σ := ⟨owner, request, history, short⟩
  obtain ⟨hcarries, hthere, hempty⟩ := Save.carries_of_prepare (v := v) hc hs hdb prepared
  have hbefore := prepare_isQuiet hc owner request _ s hs
  rw [prepared] at hbefore
  have hafter := quiet p.key p.document.instruction p.author _ before hbefore
  have hpersist := persist_of_found hc calm hcarries hafter hdb hthere
    fun hnew f hf => ⟨unused hnew f hf, hempty hnew f hf⟩
  obtain ⟨-, -, hok, -⟩ := hpersist
  rcases hcommit : history p.key p.document.instruction p.author before with ⟨answer, after⟩
  rw [hcommit] at taken hok
  obtain rfl : answer = .ok id := taken
  rcases hrun : persist c p after with ⟨result, s'⟩
  rw [hrun] at hok
  obtain rfl : result = .ok () := hok
  have hsave : save c history owner request s = (.ok p.document, s') := by
    unfold save
    refine Task.bind_eq_ok_iff.2 ⟨p, before, prepared, Task.bind_eq_ok_iff.2 ⟨id, after, ?_, ?_⟩⟩
    · exact Task.mapError_eq_ok_iff.2 hcommit
    · exact Task.bind_eq_ok_iff.2 ⟨(), s', hrun, rfl⟩
  exact congrArg Prod.fst hsave

end Store

end InstructionStore
