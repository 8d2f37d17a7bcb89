import InstructionStore.Proofs.Store.Reachability
import Mathlib.Data.List.Perm.Subperm

/-!
# Saves that overlap

A save goes through three steps, and anything can come between them: steps of other
saves, of which there may be any number, and all other operations, through whichever
handles. A `System` is a state with how far each save is, its `Phase`, and
`System.IsReached` says which systems there can be. A save that nothing comes between is a
whole save (`Save.advance_thrice`).

The commit of a history is one step if it leaves the records alone. A history can also
work with the store itself before it answers; then what it does are steps of their own,
and its answer is another one (`System.IsReached.answer`).

All that is asked of the identifiers that are drawn is that none is drawn twice. It
follows that **each identifier belongs to one account and name for good**, both among the
documents on file and among those that saves carry, and that a new identifier is carried
by one save until it is on file (`System.IsConsistent`). Every step keeps it so
(`System.IsReached.isKept`), whether or not it fails.
-/

namespace InstructionStore

open Database

/-- The account and the name of a document, which tell its place. -/
def Document.slot (d : Document) : AccountId × Identifier := (d.creatorId, d.name)

namespace Store

variable {σ ι : Type}

/-! ## The steps of one save -/

/-- **A save that is asked for.** -/
structure Save (σ : Type) where
  /-- On whose behalf. -/
  owner : Account
  /-- What is to be saved. -/
  request : SaveRequest
  /-- The history that takes the commit. -/
  history : VersionHistory σ
  /-- No list in memory is longer. -/
  short : request.tags.length ≤ 2 ^ 63

/-- **How far a save is.** -/
inductive Phase where
  /-- No step was taken. -/
  | waiting
  /-- The first step settled what is to be recorded. -/
  | prepared (p : Pending)
  /-- The history took the commit. -/
  | committed (p : Pending)
  /-- There is a result. -/
  | finished (result : Except StoreFailure Document)

namespace Phase

/-- The phase after a step: the next one, or the end if the step fails. -/
def after {α : Type} (task : Task σ StoreFailure α) (next : α → Phase) (s : σ) : Phase × σ :=
  match task s with
  | (.ok a, s') => (next a, s')
  | (.error e, s') => (.finished (.error e), s')

/-- What a save on its way carries. -/
def pending : Phase → Option Pending
  | prepared p => some p
  | committed p => some p
  | _ => none

/-- The identifier that was drawn in the step to a phase, if one was. -/
def drawn : Phase → List InstructionId
  | prepared p => if p.isUpdate then [] else [p.document.id]
  | _ => []

/-- The phase after a history has answered. -/
def answered (p : Pending) : Except HistoryFailure CommitId → Phase
  | .ok _ => committed p
  | .error failure => finished (.error (.database (.history failure)))

end Phase

/-- **The next step of a save.** -/
def Save.advance (c : Connection σ) (v : Save σ) : Phase → σ → Phase × σ
  | .waiting => Phase.after (prepare c v.owner v.request) .prepared
  | .prepared p =>
    Phase.after ((v.history p.key p.document.instruction p.author).mapError fun failure =>
      .database (.history failure)) fun _ => .committed p
  | .committed p => Phase.after (persist c p) fun _ => .finished (.ok p.document)
  | .finished result => fun s => (.finished result, s)

variable {c : Connection σ}

/-- **A save that nothing comes between** is a whole save. -/
theorem Save.advance_thrice (v : Save σ) (s : σ) :
    let first := v.advance c .waiting s
    let second := v.advance c first.1 first.2
    v.advance c second.1 second.2
      = (.finished (save c v.history v.owner v.request s).1,
        (save c v.history v.owner v.request s).2) := by
  unfold save
  rw [Task.bind_apply]
  dsimp only [advance, Phase.after]
  rcases prepare c v.owner v.request s with ⟨e | p, s₁⟩
  · rfl
  · dsimp only [advance, Phase.after]
    rw [Task.bind_apply]
    rcases (v.history p.key p.document.instruction p.author).mapError
      (fun failure => StoreFailure.database (.history failure)) s₁ with ⟨e | id, s₂⟩
    · rfl
    · dsimp only [advance, Phase.after]
      rw [Task.bind_apply]
      rcases persist c p s₂ with ⟨e | _, s₃⟩ <;> rfl

/-- **What one step of a save is**, by its phases before and after. -/
inductive Save.Advances (c : Connection σ) (v : Save σ) : Phase → σ → Phase → σ → Prop
  /-- The first step fails. -/
  | refused {s s' : σ} {e : StoreFailure}
    (refuses : prepare c v.owner v.request s = (.error e, s')) :
    Advances c v .waiting s (.finished (.error e)) s'
  /-- The first step settles what is to be recorded. -/
  | prepared {s s' : σ} {p : Pending} (prepares : prepare c v.owner v.request s = (.ok p, s')) :
    Advances c v .waiting s (.prepared p) s'
  /-- The history fails. -/
  | uncommitted {s s' : σ} {p : Pending} {failure : HistoryFailure}
    (fails : v.history p.key p.document.instruction p.author s = (.error failure, s')) :
    Advances c v (.prepared p) s (.finished (.error (.database (.history failure)))) s'
  /-- The history takes the commit. -/
  | committed {s s' : σ} {p : Pending} {id : CommitId}
    (commits : v.history p.key p.document.instruction p.author s = (.ok id, s')) :
    Advances c v (.prepared p) s (.committed p) s'
  /-- The last step fails. -/
  | unrecorded {s s' : σ} {p : Pending} {e : StoreFailure}
    (fails : persist c p s = (.error e, s')) :
    Advances c v (.committed p) s (.finished (.error e)) s'
  /-- The document is recorded. -/
  | recorded {s s' : σ} {p : Pending} (persists : persist c p s = (.ok (), s')) :
    Advances c v (.committed p) s (.finished (.ok p.document)) s'
  /-- There is nothing left to do. -/
  | rested {s : σ} {result : Except StoreFailure Document} :
    Advances c v (.finished result) s (.finished result) s

/-- **A save takes one of seven steps.** -/
theorem Save.advances (v : Save σ) (phase : Phase) (s : σ) :
    v.Advances c phase s (v.advance c phase s).1 (v.advance c phase s).2 := by
  cases phase with
  | waiting =>
    dsimp only [advance, Phase.after]
    rcases hrun : prepare c v.owner v.request s with ⟨e | p, s'⟩
    · exact .refused hrun
    · exact .prepared hrun
  | prepared p =>
    dsimp only [advance, Phase.after, Task.mapError]
    rcases hrun : v.history p.key p.document.instruction p.author s with ⟨failure | id, s'⟩
    · exact .uncommitted hrun
    · exact .committed hrun
  | committed p =>
    dsimp only [advance, Phase.after]
    rcases hrun : persist c p s with ⟨e | _, s'⟩
    · exact .unrecorded hrun
    · exact .recorded hrun
  | finished result => exact .rested

/-- **What a save carries is what was asked for.** -/
structure Save.Carries (v : Save σ) (p : Pending) : Prop where
  /-- The store accepts it. -/
  sound : p.document.IsSound
  /-- The places of its tags fit 64 bits. -/
  short : p.document.tags.length ≤ 2 ^ 63
  /-- It is for the account of the owner. -/
  creatorId : p.document.creatorId = v.owner.id
  /-- It has the name asked for. -/
  name : p.document.name.text = v.request.name
  /-- It has the instruction asked for. -/
  instruction : p.document.instruction.toJson = v.request.instruction
  /-- It has the tags asked for, each once. -/
  tags : p.document.tagTexts = v.request.tags.eraseDups

/-- **What the first step of a save finds on file**, and what it makes of what was asked for.
Either there is a document in its place, and it carries the identifier of that, or its place
is empty. -/
theorem finds_of_prepare (hc : c.IsLawful) {owner : Account} {request : SaveRequest}
    {p : Pending} {s s' : σ} {db : Contents} {r : Records} (hs : c.contents s = some db)
    (hdb : db.Holds r) (h : prepare c owner request s = (.ok p, s')) :
    (p.document.creatorId = owner.id ∧ p.document.name.text = request.name
        ∧ p.document.instruction.toJson = request.instruction
        ∧ p.document.tagTexts = request.tags.eraseDups)
      ∧ (p.isUpdate = true → ∃ f ∈ r.documents,
        f.document.id = p.document.id ∧ f.document.slot = p.document.slot)
      ∧ (p.isUpdate = false → ∀ f ∈ r.documents, f.document.slot ≠ p.document.slot) := by
  obtain ⟨checked, a, db₁, hcheck, hdb₁, hget, hdocument, hidentify⟩ := prepare_eq_ok h
  have hdisturbed := (hc.disturbed s).trans hs
  obtain rfl := Option.some.inj (hdisturbed.symm.trans hdb₁)
  obtain ⟨hname, htags, hinstruction, -, -⟩ := SaveRequest.check_eq_ok hcheck
  obtain ⟨db₂, hdb₂, -, hfound⟩ := identify_eq_ok hidentify
  obtain rfl := Option.some.inj (((hc.disturbed _).trans hdisturbed).symm.trans hdb₂)
  obtain ⟨-, ha⟩ := (Contents.getAccount_eq_some_iff hdb).1 hget
  have hcreator : p.document.creatorId = a.id := congrArg Document.creatorId hdocument
  rw [← show p.document.name = checked.name from congrArg Document.name hdocument] at hname hfound
  rw [← show p.document.tags = checked.tags from congrArg Document.tags hdocument] at htags
  rw [← show p.document.instruction = checked.instruction from
    congrArg Document.instruction hdocument] at hinstruction
  refine ⟨⟨hcreator.trans ha, hname, hinstruction, htags⟩, fun hupdate => ?_,
    fun hupdate f hf hslot => ?_⟩
  · rcases hfound with ⟨-, hexisting⟩ | ⟨hnew, -, -⟩
    · rw [Contents.existingId_eq hdb, Except.ok.injEq] at hexisting
      obtain ⟨f, hfiled, hid⟩ := Option.map_eq_some_iff.1 hexisting
      obtain ⟨hf, hfcreator, htext⟩ := Records.filed_eq_some_iff.1 hfiled
      exact ⟨f, hf, hid, Prod.ext (hfcreator.trans hcreator.symm) (Identifier.text_inj.1 htext)⟩
    · exact absurd (hupdate.symm.trans hnew) (by decide)
  · rcases hfound with ⟨hthere, -⟩ | ⟨-, hexisting, -⟩
    · exact absurd (hupdate.symm.trans hthere) (by decide)
    · obtain ⟨hfcreator, hfname⟩ := Prod.mk.inj hslot
      rw [Contents.existingId_eq hdb, Except.ok.injEq, Records.filed_eq_some_iff.2
        ⟨hf, hfcreator.trans hcreator, congrArg Identifier.text hfname⟩] at hexisting
      exact nomatch hexisting

/-- A save carries what its first step made of what was asked for. -/
theorem Save.carries_of_prepare (hc : c.IsLawful) {v : Save σ} {p : Pending} {s s' : σ}
    {db : Contents} {r : Records} (hs : c.contents s = some db) (hdb : db.Holds r)
    (h : prepare c v.owner v.request s = (.ok p, s')) :
    v.Carries p
      ∧ (p.isUpdate = true → ∃ f ∈ r.documents,
        f.document.id = p.document.id ∧ f.document.slot = p.document.slot)
      ∧ (p.isUpdate = false → ∀ f ∈ r.documents, f.document.slot ≠ p.document.slot) := by
  obtain ⟨⟨hcreator, hname, hinstruction, htags⟩, hfinds⟩ := finds_of_prepare hc hs hdb h
  have hsound := isSound_of_prepare h
  refine ⟨⟨hsound, ?_, hcreator, hname, hinstruction, htags⟩, hfinds⟩
  -- each tag is among those asked for, and none is there twice
  have htexts : p.document.tagTexts.Nodup := hsound.tags_nodup.map fun _ _ => Identifier.text_inj.1
  have hsub : p.document.tagTexts ⊆ v.request.tags := fun text htext =>
    List.mem_eraseDups.1 (htags ▸ htext)
  have hlength := (List.subperm_of_subset htexts hsub).length_le
  rw [Document.tagTexts, List.length_map] at hlength
  exact hlength.trans v.short

/-! ## Systems -/

/-- **A state with some saves**, each in its phase, and the identifiers that were drawn
for them. -/
structure System (σ ι : Type) where
  /-- The state. -/
  state : σ
  /-- How far each save is. -/
  phase : ι → Phase
  /-- The identifiers that were drawn. -/
  drawn : List InstructionId

namespace System

variable {saves : ι → Save σ}

/-- **One save takes its next step.** -/
def advance [DecidableEq ι] (c : Connection σ) (saves : ι → Save σ) (x : System σ ι) (i : ι) :
    System σ ι :=
  let next := (saves i).advance c (x.phase i) x.state
  ⟨next.2, Function.update x.phase i next.1, next.1.drawn ++ x.drawn⟩

/-- **The systems there can be.** -/
inductive IsReached [DecidableEq ι] (c : Connection σ) (saves : ι → Save σ) : System σ ι → Prop
  /-- The store was opened on a database without tables, and no save took a step. -/
  | opened {s s' : σ} (new : c.contents s = some .empty) (opens : c.openRecords s = (.ok (), s')) :
    IsReached c saves ⟨s', fun _ => .waiting, []⟩
  /-- An operation was carried out that saves nothing. -/
  | operate {x : System σ ι} {s' : σ} (reached : IsReached c saves x)
    (operates : Operation c x.state s') : IsReached c saves { x with state := s' }
  /-- A save took its next step. If it drew an identifier, that was a new one. -/
  | advance {x : System σ ι} (reached : IsReached c saves x) (i : ι)
    (fresh : ∀ id ∈ ((saves i).advance c (x.phase i) x.state).1.drawn, id ∉ x.drawn) :
    IsReached c saves (x.advance c saves i)
  /-- A history answered. What it did until then are steps of their own. -/
  | answer {x : System σ ι} (reached : IsReached c saves x) (i : ι) {p : Pending}
    (asked : x.phase i = .prepared p) (result : Except HistoryFailure CommitId) :
    IsReached c saves { x with phase := Function.update x.phase i (.answered p result) }

/-! ## Identifiers and places -/

/-- **Each identifier belongs to one place for good**, for some records and an assignment
of places to identifiers. -/
structure IsConsistent (saves : ι → Save σ) (x : System σ ι) (r : Records)
    (place : InstructionId → Option (AccountId × Identifier)) : Prop where
  /-- What a save carries is what was asked for. -/
  asked : ∀ i p, (x.phase i).pending = some p → (saves i).Carries p
  /-- The identifiers on file were drawn and belong to the places of their documents. -/
  filed : ∀ f ∈ r.documents, f.document.id ∈ x.drawn ∧ place f.document.id = some f.document.slot
  /-- So do those that saves carry. -/
  carried : ∀ i p, (x.phase i).pending = some p →
    p.document.id ∈ x.drawn ∧ place p.document.id = some p.document.slot
  /-- A new identifier is not on file. -/
  unfiled : ∀ i p, (x.phase i).pending = some p → p.isUpdate = false →
    ∀ f ∈ r.documents, f.document.id ≠ p.document.id
  /-- It is carried by one save only. -/
  own : ∀ i p, (x.phase i).pending = some p → p.isUpdate = false →
    ∀ j q, (x.phase j).pending = some q → q.document.id = p.document.id → j = i

variable {x : System σ ι} {r r' : Records}
  {place : InstructionId → Option (AccountId × Identifier)}

/-- The saves that carry something after a step of one of them. -/
theorem pending_update [DecidableEq ι] {i j : ι} {next : Phase} {q : Pending}
    (h : (Function.update x.phase i next j).pending = some q) :
    (j = i ∧ next.pending = some q) ∨ (j ≠ i ∧ (x.phase j).pending = some q) := by
  by_cases hj : j = i
  · subst hj
    rw [Function.update_self] at h
    exact .inl ⟨rfl, h⟩
  · rw [Function.update_of_ne hj] at h
    exact .inr ⟨hj, h⟩

/-- At first there is nothing. -/
theorem IsConsistent.waiting {s : σ} :
    IsConsistent saves ⟨s, fun _ => .waiting, []⟩ .empty place where
  asked _ _ h := nomatch h
  filed _ h := nomatch h
  carried _ _ h := nomatch h
  unfiled _ _ h := nomatch h
  own _ _ h := nomatch h

/-- Documents may be written over in their places or go, and saves may come to an end. -/
theorem IsConsistent.mono (h : x.IsConsistent saves r place) {s' : σ} {phase : ι → Phase}
    (documents : ∀ f ∈ r'.documents, ∃ e ∈ r.documents,
      f.document.id = e.document.id ∧ f.document.slot = e.document.slot)
    (pending : ∀ i p, (phase i).pending = some p → (x.phase i).pending = some p) :
    IsConsistent saves ⟨s', phase, x.drawn⟩ r' place where
  asked i p hp := h.asked i p (pending i p hp)
  filed f hf := by
    obtain ⟨e, he, hid, hslot⟩ := documents f hf
    rw [hid, hslot]
    exact h.filed e he
  carried i p hp := h.carried i p (pending i p hp)
  unfiled i p hp hnew f hf := by
    obtain ⟨e, he, hid, -⟩ := documents f hf
    exact hid ▸ h.unfiled i p (pending i p hp) hnew e he
  own i p hp hnew j q hq := h.own i p (pending i p hp) hnew j q (pending j q hq)

/-- **A save finds a document in its place or draws a new identifier.** -/
theorem IsConsistent.lookUp [DecidableEq ι] (h : x.IsConsistent saves r place) {i : ι} {p : Pending}
    (asked : (saves i).Carries p)
    (there : p.isUpdate = true → ∃ f ∈ r.documents,
      f.document.id = p.document.id ∧ f.document.slot = p.document.slot)
    (fresh : p.isUpdate = false → p.document.id ∉ x.drawn) {s' : σ} :
    IsConsistent saves ⟨s', Function.update x.phase i (.prepared p),
        (Phase.prepared p).drawn ++ x.drawn⟩ r
      (Function.update place p.document.id (some p.document.slot)) := by
  have hplace {id : InstructionId} (hid : id ∈ x.drawn) :
      Function.update place p.document.id (some p.document.slot) id = place id := by
    by_cases heq : id = p.document.id
    · cases hupdate : p.isUpdate with
      | false => exact absurd (heq ▸ hid) (fresh hupdate)
      | true =>
        obtain ⟨f, hf, hfid, hslot⟩ := there hupdate
        rw [heq, Function.update_self, ← hslot, ← (h.filed f hf).2, hfid]
    · exact Function.update_of_ne heq _ _
  have hdrawn : p.document.id ∈ (Phase.prepared p).drawn ++ x.drawn := by
    cases hupdate : p.isUpdate with
    | false =>
      dsimp only [Phase.drawn]
      rw [hupdate]
      exact List.mem_cons_self
    | true =>
      obtain ⟨f, hf, hfid, -⟩ := there hupdate
      exact List.mem_append_right _ (hfid ▸ (h.filed f hf).1)
  refine ⟨fun j q hq => ?_, fun f hf => ?_, fun j q hq => ?_, fun j q hq hnew f hf => ?_,
    fun j q hq hnew k q' hq' hid => ?_⟩
  · rcases pending_update hq with ⟨rfl, hnext⟩ | ⟨-, hold⟩
    · exact Option.some.inj hnext ▸ asked
    · exact h.asked j q hold
  · obtain ⟨hid, hslot⟩ := h.filed f hf
    exact ⟨List.mem_append_right _ hid, (hplace hid).trans hslot⟩
  · rcases pending_update hq with ⟨rfl, hnext⟩ | ⟨-, hold⟩
    · obtain rfl := Option.some.inj hnext
      exact ⟨hdrawn, Function.update_self ..⟩
    · obtain ⟨hid, hslot⟩ := h.carried j q hold
      exact ⟨List.mem_append_right _ hid, (hplace hid).trans hslot⟩
  · rcases pending_update hq with ⟨rfl, hnext⟩ | ⟨-, hold⟩
    · obtain rfl := Option.some.inj hnext
      exact fun hid => fresh hnew (hid ▸ (h.filed f hf).1)
    · exact h.unfiled j q hold hnew f hf
  · rcases pending_update hq with ⟨rfl, hnext⟩ | ⟨-, hold⟩ <;>
      rcases pending_update hq' with ⟨rfl, hnext'⟩ | ⟨-, hold'⟩
    · rfl
    · obtain rfl := Option.some.inj hnext
      exact absurd (hid ▸ (h.carried k q' hold').1) (fresh hnew)
    · -- another save carries the identifier as a new one, so it is drawn and not on file
      obtain rfl := Option.some.inj hnext'
      cases hupdate : p.isUpdate with
      | false => exact absurd (hid ▸ (h.carried j q hold).1) (fresh hupdate)
      | true =>
        obtain ⟨f, hf, hfid, -⟩ := there hupdate
        exact absurd (hfid.trans hid) (h.unfiled j q hold hnew f hf)
    · exact h.own j q hold hnew k q' hold' hid

/-- **A save records its document** and comes to an end. -/
theorem IsConsistent.record [DecidableEq ι] (h : x.IsConsistent saves r place) {i : ι}
    {p : Pending} {g : Filed} (hp : (x.phase i).pending = some p) (hg : g.document = p.document)
    (recorded : r' = r.rewrite g ∨ ∃ admits : r.Admits g, r' = r.add g admits) {s' : σ}
    {result : Except StoreFailure Document} :
    IsConsistent saves ⟨s', Function.update x.phase i (.finished result), x.drawn⟩ r' place := by
  have hpending (j : ι) (q : Pending)
      (hq : (Function.update x.phase i (.finished result) j).pending = some q) :
      (x.phase j).pending = some q := by
    rcases pending_update hq with ⟨-, hnext⟩ | ⟨-, hold⟩
    · exact nomatch hnext
    · exact hold
  rcases recorded with rfl | ⟨admits, rfl⟩
  · refine h.mono (fun f hf => ?_) hpending
    obtain ⟨e, he, rfl⟩ := List.mem_map.1 hf
    obtain ⟨hid, hcreator, hname, -⟩ := g.rewrite_frame e
    exact ⟨e, he, hid, Prod.ext hcreator hname⟩
  · have hframe : IsConsistent saves
        ⟨s', Function.update x.phase i (.finished result), x.drawn⟩ r place :=
      h.mono (fun f hf => ⟨f, hf, rfl, rfl⟩) hpending
    refine ⟨hframe.asked, fun f hf => ?_, hframe.carried, fun j q hq hnew f hf => ?_, hframe.own⟩
    · rcases List.mem_append.1 hf with hold | hlast
      · exact h.filed f hold
      · rw [List.mem_singleton.1 hlast, hg]
        exact h.carried i p hp
    · rcases List.mem_append.1 hf with hold | hlast
      · exact hframe.unfiled j q hq hnew f hold
      · -- the identifier is that of a save that has come to an end
        rw [List.mem_singleton.1 hlast, hg]
        intro hid
        obtain rfl := h.own j q (hpending j q hq) hnew i p hp hid
        rcases pending_update hq with ⟨-, hnext⟩ | ⟨hne, -⟩
        · exact nomatch hnext
        · exact hne rfl

/-- A step after which a save carries what it did before, or nothing, leaves the rest as it
is. -/
theorem IsConsistent.update [DecidableEq ι] (h : x.IsConsistent saves r place) {i : ι}
    {next : Phase} {s' : σ}
    (hnext : ∀ p, next.pending = some p → (x.phase i).pending = some p) :
    IsConsistent saves ⟨s', Function.update x.phase i next, x.drawn⟩ r place := by
  refine h.mono (fun f hf => ⟨f, hf, rfl, rfl⟩) fun j q hq => ?_
  rcases pending_update hq with ⟨rfl, hcarried⟩ | ⟨-, hold⟩
  · exact hnext q hcarried
  · exact hold

/-- **What one step of a save does to the records**, by its phases before and after:
nothing, or its document is recorded. -/
inductive Writes (db : Contents) (r : Records) : Phase → Phase → Contents → Records → Prop
  /-- Nothing is written, and the save does not succeed by this step. -/
  | nothing {phase next : Phase} (before : ∀ d, next = .finished (.ok d) → phase = next) :
    Writes db r phase next db r
  /-- A document is written over or added. -/
  | document {p : Pending} {g : Filed} {db' : Contents} {r' : Records}
    (carried : g.document = p.document)
    (recorded : r' = r.rewrite g ∨ ∃ admits : r.Admits g, r' = r.add g admits)
    (rest : { db' with documents := db.documents, tags := db.tags } = db) :
    Writes db r (.committed p) (.finished (.ok p.document)) db' r'

/-- **A step of a save** keeps each identifier in its place. -/
theorem IsConsistent.advance [DecidableEq ι] (hc : c.IsLawful) {i : ι}
    (quiet : ∀ key body author, c.IsQuiet ((saves i).history key body author))
    (h : x.IsConsistent saves r place) {db : Contents} (hs : c.contents x.state = some db)
    (hdb : db.Holds r) {next : Phase} {s' : σ}
    (advances : (saves i).Advances c (x.phase i) x.state next s')
    (fresh : ∀ id ∈ next.drawn, id ∉ x.drawn) :
    ∃ db' r' place', c.contents s' = some db' ∧ db'.Holds r' ∧ Writes db r (x.phase i) next db' r'
      ∧ IsConsistent saves ⟨s', Function.update x.phase i next, next.drawn ++ x.drawn⟩ r'
        place' := by
  have hprepare := prepare_isQuiet hc (saves i).owner (saves i).request _ x.state hs
  generalize hphase : x.phase i = phase at advances
  cases advances with
  | refused refuses =>
    rw [refuses] at hprepare
    exact ⟨db, r, place, hprepare, hdb, .nothing nofun, h.update nofun⟩
  | @prepared _ _ p prepares =>
    rw [prepares] at hprepare
    obtain ⟨hcarries, hthere, -⟩ := Save.carries_of_prepare hc hs hdb prepares
    refine ⟨db, r, _, hprepare, hdb, .nothing nofun, h.lookUp hcarries hthere fun hnew => ?_⟩
    dsimp only [Phase.drawn] at fresh
    rw [hnew] at fresh
    exact fresh _ List.mem_cons_self
  | @uncommitted _ _ p _ fails =>
    have hquiet := quiet p.key p.document.instruction p.author _ x.state hs
    rw [fails] at hquiet
    exact ⟨db, r, place, hquiet, hdb, .nothing nofun, h.update nofun⟩
  | @committed _ _ p _ commits =>
    have hquiet := quiet p.key p.document.instruction p.author _ x.state hs
    rw [commits] at hquiet
    exact ⟨db, r, place, hquiet, hdb, .nothing nofun, h.update fun q hq => hphase ▸ hq⟩
  | @unrecorded _ _ p _ fails =>
    have hfails := (persist_isAtomic hc p).unchanged hs (congrArg Prod.fst fails)
    rw [fails] at hfails
    exact ⟨db, r, place, hfails, hdb, .nothing nofun, h.update nofun⟩
  | @recorded _ _ p persists =>
    have hp : (x.phase i).pending = some p := hphase ▸ rfl
    obtain ⟨rows, hrows, -⟩ := hdb.tags
    rcases persist_cases hc (h.asked i p hp).sound hs hdb hrows with
      ⟨e, hfail, -⟩ | ⟨g, r', db', -, hs', hdb', hg, -, -, hcontents, hwritten⟩
    · exact nomatch hfail.symm.trans (congrArg Prod.fst persists)
    · rw [persists] at hs'
      have hrecorded := hwritten.imp_left fun hover => hover.2.2
      exact ⟨db', r', place, hs', hdb', .document hg hrecorded (by rw [hcontents]),
        h.record hp hg hrecorded⟩
  | rested => exact ⟨db, r, place, hs, hdb, .nothing fun _ _ => rfl, h.update nofun⟩

/-- Whether the tables hold the rows for some records, and each identifier belongs to one
place. -/
def IsKept (c : Connection σ) (saves : ι → Save σ) (x : System σ ι) : Prop :=
  ∃ db r place, c.contents x.state = some db ∧ db.Holds r ∧ x.IsConsistent saves r place

/-- **In every system there can be, each identifier belongs to one place for good.** -/
theorem IsReached.isKept [DecidableEq ι] (hc : c.IsLawful)
    (quiet : ∀ i key body author, c.IsQuiet ((saves i).history key body author))
    (h : IsReached c saves x) : x.IsKept c saves := by
  induction h with
  | opened new opens =>
    obtain ⟨db, hs, hnew⟩ := contents_of_new hc new opens
    exact ⟨db, .empty, fun _ => none, hs, holds_of_isNew hnew, .waiting⟩
  | operate _ operates ih =>
    obtain ⟨db, r, place, hs, hdb, hcons⟩ := ih
    obtain ⟨db', hs', hkeeps⟩ := operates.upkeep hc hs
    obtain ⟨r', hdb', hsub⟩ := hkeeps.holds hdb
    exact ⟨db', r', place, hs', hdb',
      hcons.mono (fun f hf => ⟨f, hsub hf, rfl, rfl⟩) fun _ _ hp => hp⟩
  | @advance x _ i fresh ih =>
    obtain ⟨db, r, place, hs, hdb, hcons⟩ := ih
    obtain ⟨db', r', place', hs', hdb', -, hcons'⟩ :=
      hcons.advance hc (quiet i) hs hdb ((saves i).advances (x.phase i) x.state) fresh
    exact ⟨db', r', place', hs', hdb', hcons'⟩
  | @answer x _ i p asked result ih =>
    obtain ⟨db, r, place, hs, hdb, hcons⟩ := ih
    refine ⟨db, r, place, hs, hdb, hcons.update fun q hq => ?_⟩
    cases result with
    | ok => exact asked ▸ hq
    | error => exact nomatch hq

end System

end Store

end InstructionStore
