import InstructionStore.Proofs.History.Appending
import InstructionStore.Proofs.Store.Interleaving
import InstructionStore.Proofs.Store.Recording

/-!
# A save that nothing comes between

What the first step of a save finds is still so when the last one is taken, if nothing comes
between them. On calm connections the last step then cannot fail. So the save fails and
**changes nothing in either database**, or it succeeds and **both have what was saved**
(`Store.save_cases`): the document is on file with all others, and the history gained its
commit and no other.
-/

namespace InstructionStore

open Database

/-! ## Documents on file -/

namespace Records

/-- Whether a document is on file. -/
def Has (r : Records) (d : Document) : Prop := ∃ f ∈ r.documents, f.document = d

/-- **Records that take a document**: it is on file afterwards, with all others but the one
that had its identifier. -/
def Takes (r : Records) (d : Document) (r' : Records) : Prop :=
  ∀ e, r'.Has e ↔ e = d ∨ r.Has e ∧ e.id ≠ d.id

variable {r : Records} {f g : Filed} {d : Document}

/-- A document is written over in its place. -/
theorem takes_rewrite (hf : f ∈ r.documents) (hid : f.document.id = g.document.id)
    (hslot : f.document.slot = g.document.slot) : r.Takes g.document (r.rewrite g) := by
  have hwritten : (g.rewrite f).document = g.document :=
    Filed.document_rewrite hid (congrArg Prod.fst hslot) (congrArg Prod.snd hslot)
  intro d
  constructor
  · rintro ⟨_, hmem, rfl⟩
    obtain ⟨e, he, rfl⟩ := List.mem_map.1 hmem
    by_cases heid : e.document.id = g.document.id
    · obtain rfl := eq_of_nodup r.documentIds_nodup he hf (heid.trans hid.symm)
      exact .inl hwritten
    · rw [Filed.rewrite_of_ne heid]
      exact .inr ⟨⟨e, he, rfl⟩, heid⟩
  · rintro (rfl | ⟨⟨e, he, rfl⟩, hne⟩)
    · exact ⟨_, List.mem_map_of_mem hf, hwritten⟩
    · exact ⟨_, List.mem_map_of_mem he, congrArg Filed.document (Filed.rewrite_of_ne hne)⟩

/-- A document is added. -/
theorem takes_add (admits : r.Admits g) : r.Takes g.document (r.add g admits) := by
  intro d
  constructor
  · rintro ⟨e, he, rfl⟩
    rcases List.mem_append.1 he with hold | hlast
    · exact .inr ⟨⟨e, hold, rfl⟩, (admits e hold).1⟩
    · exact .inl (congrArg Filed.document (List.mem_singleton.1 hlast))
  · rintro (rfl | ⟨⟨e, he, rfl⟩, -⟩)
    · exact ⟨g, List.mem_append_right _ (List.mem_singleton_self g), rfl⟩
    · exact ⟨e, List.mem_append_left _ he, rfl⟩

/-- After a document is removed, all others are on file. -/
theorem has_remove {id : InstructionId} : (r.remove id).Has d ↔ r.Has d ∧ d.id ≠ id := by
  constructor
  · rintro ⟨e, he, rfl⟩
    obtain ⟨hmem, hne⟩ := List.mem_filter.1 he
    exact ⟨⟨e, hmem, rfl⟩, of_decide_eq_true hne⟩
  · rintro ⟨⟨e, he, rfl⟩, hne⟩
    exact ⟨e, List.mem_filter.2 ⟨he, decide_eq_true hne⟩, rfl⟩

end Records

namespace Store

variable {σ : Type} {c h : Connection σ}

/-! ## A save that nothing comes between -/

variable {s : σ} {db : Contents} {r : Records}

/-- **The last step succeeds** if what the first step found is still so. -/
theorem persist_of_found (hc : c.IsLawful) (calm : c.IsCalm) {v : Save σ} {p : Pending}
    (carries : v.Carries p) (hs : c.contents s = some db) (hdb : db.Holds r)
    (there : p.isUpdate = true → ∃ f ∈ r.documents,
      f.document.id = p.document.id ∧ f.document.slot = p.document.slot)
    (new : p.isUpdate = false → ∀ f ∈ r.documents,
      f.document.id ≠ p.document.id ∧ f.document.slot ≠ p.document.slot) :
    ∃ db' r', (persist c p s).1 = .ok () ∧ c.contents (persist c p s).2 = some db'
      ∧ db'.Holds r' ∧ r.Takes p.document r' := by
  let g : Filed := ⟨p.document, c.now s, c.now s, carries.sound, carries.short⟩
  have hadmitted : p.Overwrites r ∨ r.Admits g := by
    cases hupdate : p.isUpdate with
    | true =>
      obtain ⟨f, hf, hid, -⟩ := there hupdate
      exact .inl ⟨hupdate, f, hf, hid⟩
    | false => exact .inr (new hupdate)
  have hok := persist_of_admits hc calm hs hdb (g := g) rfl rfl rfl hadmitted
  obtain ⟨rows, hrows, -⟩ := hdb.tags
  rcases persist_cases hc carries.sound hs hdb hrows with
    ⟨e, hfail, -⟩ | ⟨g', r', db', -, hs', hdb', hg', -, -, -, hwritten⟩
  · exact nomatch hfail.symm.trans hok
  · refine ⟨db', r', hok, hs', hdb', ?_⟩
    rw [← hg'] at there ⊢
    rcases hwritten with ⟨hupdate, -, rfl⟩ | ⟨admits, rfl⟩
    · obtain ⟨f, hf, hid, hslot⟩ := there hupdate
      exact Records.takes_rewrite hf hid hslot
    · exact Records.takes_add admits

/-- **What a save leaves that nothing comes between** and that succeeds, where some records
were on file and the history had some contents. -/
structure Save.Leaves (c h : Connection σ) (v : Save σ) (s : σ) (r : Records)
    (history : Contents) (p : Pending) (s' : σ) : Prop where
  /-- The first step settled what is recorded. -/
  prepared : ∃ before, prepare c v.owner v.request s = (.ok p, before)
  /-- The document is on file. -/
  recorded : ∃ db' r', c.contents s' = some db' ∧ db'.Holds r' ∧ r.Takes p.document r'
  /-- The history gained a commit of the instruction, and no other. -/
  committed : ∃ history' content, h.contents s' = some history'
    ∧ history.Gains history' p.key content ∧ content.body = p.document.instruction.text

/-- **What a save does that nothing comes between**: it fails and changes nothing in either
database, or its document is on file and its commit in the history. -/
theorem save_cases (hc : c.IsLawful) (calm : c.IsCalm) (hh : h.IsLawful)
    (apart : c.WorksPast h.contents) (leaves : h.WorksPast c.contents) (v : Save σ)
    (shared : v.history = History.commit h) {history : Contents} (hs : c.contents s = some db)
    (hdb : db.Holds r) (hhistory : h.contents s = some history)
    (unused : ∀ p before, prepare c v.owner v.request s = (.ok p, before) → p.isUpdate = false →
      ∀ f ∈ r.documents, f.document.id ≠ p.document.id)
    {result : Except StoreFailure Document} {s' : σ}
    (hrun : save c v.history v.owner v.request s = (result, s')) :
    (∃ e, result = .error e ∧ c.contents s' = some db ∧ h.contents s' = some history)
      ∨ ∃ p, result = .ok p.document ∧ v.Leaves c h s r history p s' := by
  rw [shared] at hrun
  have hprepared {answer : Except StoreFailure Pending} {before : σ}
      (hprepare : prepare c v.owner v.request s = (answer, before)) :
      c.contents before = some db ∧ h.contents before = some history := by
    have hrecords := (prepare_keeps hc.readsPast v.owner v.request).eq s
    have hcommits := (prepare_keeps apart.toReadsPast v.owner v.request).eq s
    rw [hprepare] at hrecords hcommits
    exact ⟨hrecords.trans hs, hcommits.trans hhistory⟩
  have hanswered {p : Pending} {before after : σ} {answer : Except HistoryFailure CommitId}
      (hprepare : prepare c v.owner v.request s = (.ok p, before))
      (hcommit : History.commit h p.key p.document.instruction p.author before = (answer, after)) :
      c.contents after = some db := by
    have hrecords :=
      (History.commit_keeps leaves p.key p.document.instruction p.author).eq before
    rw [hcommit] at hrecords
    exact hrecords.trans (hprepared hprepare).1
  have hpersist {p : Pending} {before after : σ} {id : CommitId}
      (hprepare : prepare c v.owner v.request s = (.ok p, before))
      (hcommit : History.commit h p.key p.document.instruction p.author before
        = (.ok id, after)) :
      ∃ db' r', (persist c p after).1 = .ok () ∧ c.contents (persist c p after).2 = some db'
        ∧ db'.Holds r' ∧ r.Takes p.document r' := by
    obtain ⟨hcarries, hthere, hempty⟩ := Save.carries_of_prepare hc hs hdb hprepare
    refine persist_of_found hc calm hcarries (hanswered hprepare hcommit) hdb hthere ?_
    exact fun hnew f hf => ⟨unused p before hprepare hnew f hf, hempty hnew f hf⟩
  cases course_of_save hrun with
  | refused refuses => exact .inl ⟨_, rfl, hprepared refuses⟩
  | uncommitted prepared fails =>
    have hunchanged := History.commit_unchanged hh (congrArg Prod.fst fails)
    rw [fails] at hunchanged
    exact .inl ⟨_, rfl, hanswered prepared fails, hunchanged.trans (hprepared prepared).2⟩
  | unrecorded prepared commits fails =>
    obtain ⟨_, _, hok, -⟩ := hpersist prepared commits
    rw [fails] at hok
    exact nomatch hok
  | @recorded p before after _ _ prepared commits persists =>
    obtain ⟨db', r', -, hs', hdb', htakes⟩ := hpersist prepared commits
    rcases History.commit_isAtomic hh p.key p.document.instruction p.author before history
      (hprepared prepared).2 with ⟨_, hfail, -⟩ | ⟨_, history', -, hafter, y, hgains, -, hbody, -⟩
    · exact nomatch hfail.symm.trans (congrArg Prod.fst commits)
    · have hkept := (persist_keeps apart p).eq after
      rw [persists] at hs' hkept
      rw [commits] at hafter
      exact .inr ⟨p, rfl, ⟨before, prepared⟩, ⟨db', r', hs', hdb', htakes⟩,
        ⟨history', y, hkept.trans hafter, hgains, hbody⟩⟩

end Store

end InstructionStore
