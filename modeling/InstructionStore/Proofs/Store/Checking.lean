import InstructionStore.Proofs.Grammar.Rejections
import InstructionStore.Proofs.Input.Tags
import InstructionStore.Proofs.Store.Agreement
import InstructionStore.Proofs.Store.Failing

/-!
# A save is checked before anything else

A request can be wrong in three ways: its name or one of its tags is no identifier, or the
grammar does not derive its instruction from anything. A request with nothing wrong is
**proper** (`SaveRequest.IsProper`). Of several things that are wrong the first is told, in
the order name, tags from left to right, instruction (`SaveRequest.IsRefusedFor`), and the
request alone decides which that is (`SaveRequest.check_eq_error_iff`).

A save tells it whatever state the store is in, whoever the owner is and whichever
connection and history it works with, and leaves the state untouched
(`Store.save_checksFirst`). The other way round, a proper request is never refused for
itself: what stands in its way later is the owner, the database or the history.
-/

namespace InstructionStore

open Database Outcome

/-! ## What is wrong with a request -/

namespace SaveRequest

variable {request : SaveRequest} {refused : InvalidInput}

/-- **A request with nothing wrong.** -/
structure IsProper (request : SaveRequest) : Prop where
  /-- The name is an identifier. -/
  name : Identifier.IsValid request.name
  /-- Each tag is. -/
  tags : ∀ tag ∈ request.tags, Identifier.IsValid tag
  /-- The grammar derives an instruction from the value. -/
  instruction : ∃ i : Instruction, Grammar.Derives 0 request.instruction i

/-- **What a request is refused for**: the first thing that is wrong with it. -/
inductive IsRefusedFor (request : SaveRequest) : InvalidInput → Prop where
  /-- The name is no identifier. -/
  | name {d : Identifier.Defect} (defect : Identifier.HasDefect request.name d) :
    request.IsRefusedFor ⟨"name", request.name, .identifier d⟩
  /-- A tag is no identifier, and all those before it are. -/
  | tag {before after : List String} {tag : String} {d : Identifier.Defect}
    (name : Identifier.IsValid request.name) (split : request.tags = before ++ tag :: after)
    (earlier : ∀ t ∈ before, Identifier.IsValid t) (defect : Identifier.HasDefect tag d) :
    request.IsRefusedFor ⟨"tags", tag, .identifier d⟩
  /-- The value is no instruction. What is shown is the part that was rejected. -/
  | instruction {r : Rejection} {part : Json} (name : Identifier.IsValid request.name)
    (tags : ∀ tag ∈ request.tags, Identifier.IsValid tag)
    (rejected : Instruction.ofJson request.instruction = .error r)
    (found : request.instruction.at? r.path = some part) :
    request.IsRefusedFor ⟨"instruction", part.text, .grammar r⟩

theorem checkInstruction_eq_error_iff {v : Json} :
    checkInstruction v = .error refused ↔ ∃ r part, Instruction.ofJson v = .error r
      ∧ v.at? r.path = some part ∧ refused = ⟨"instruction", part.text, .grammar r⟩ := by
  unfold checkInstruction
  cases h : Instruction.ofJson v with
  | ok i => exact ⟨nofun, fun ⟨_, _, herror, _⟩ => nomatch herror⟩
  | error r =>
    obtain ⟨part, hpart, -⟩ := (Grammar.located_of_ofJson h).found
    dsimp only
    rw [hpart, Option.getD_some, Except.error.injEq]
    constructor
    · rintro rfl
      exact ⟨r, part, rfl, hpart, rfl⟩
    · rintro ⟨_, _, ⟨⟩, hpart', rfl⟩
      rw [Option.some.inj (hpart.symm.trans hpart')]

/-- **The check refuses a request for the first thing that is wrong with it.** -/
theorem check_eq_error_iff : request.check = .error refused ↔ request.IsRefusedFor refused := by
  unfold check
  rw [bind_eq_error_iff]
  constructor
  · rintro (hname | ⟨name, hname, hrest⟩)
    · obtain ⟨d, hd, rfl⟩ := Identifier.ofField_eq_error_iff.1 hname
      exact .name hd
    · have hname := (Identifier.exists_ofField_eq_ok_iff _).1 ⟨name, hname⟩
      obtain htags | ⟨tags, htags, hrest⟩ := bind_eq_error_iff.1 hrest
      · obtain ⟨before, tag, after, d, hsplit, hearlier, hd, rfl⟩ :=
          Identifier.normalizeTags_eq_error_iff.1 htags
        exact .tag hname hsplit hearlier hd
      · have htags := Identifier.exists_normalizeTags_eq_ok_iff.1 ⟨tags, htags⟩
        obtain hinstruction | ⟨i, -, hpure⟩ := bind_eq_error_iff.1 hrest
        · obtain ⟨r, part, hr, hpart, rfl⟩ := checkInstruction_eq_error_iff.1 hinstruction
          exact .instruction hname htags hr hpart
        · exact nomatch hpure
  · intro h
    cases h with
    | name defect => exact .inl (Identifier.ofField_eq_error_iff.2 ⟨_, defect, rfl⟩)
    | tag name split earlier defect =>
      obtain ⟨name, hname⟩ := (Identifier.exists_ofField_eq_ok_iff "name").2 name
      refine .inr ⟨name, hname, bind_eq_error_iff.2 (.inl ?_)⟩
      exact Identifier.normalizeTags_eq_error_iff.2 ⟨_, _, _, _, split, earlier, defect, rfl⟩
    | instruction name tags rejected found =>
      obtain ⟨name, hname⟩ := (Identifier.exists_ofField_eq_ok_iff "name").2 name
      obtain ⟨tags, htags⟩ := Identifier.exists_normalizeTags_eq_ok_iff.2 tags
      refine .inr ⟨name, hname, bind_eq_error_iff.2 (.inr ⟨tags, htags, ?_⟩)⟩
      refine bind_eq_error_iff.2 (.inl ?_)
      exact checkInstruction_eq_error_iff.2 ⟨_, _, rejected, found, rfl⟩

/-- **A request passes the check if nothing is wrong with it.** -/
theorem exists_check_eq_ok_iff : (∃ checked, request.check = .ok checked) ↔ request.IsProper := by
  constructor
  · rintro ⟨checked, h⟩
    obtain ⟨hname, htags, hinstruction, -, haccepted⟩ := check_eq_ok h
    have hderives : Grammar.Derives 0 request.instruction checked.instruction :=
      hinstruction ▸ haccepted
    refine ⟨hname ▸ checked.name.valid, fun tag htag => ?_, _, hderives⟩
    obtain ⟨tag, -, rfl⟩ := List.mem_map.1 (htags ▸ List.mem_eraseDups.2 htag)
    exact tag.valid
  · rintro ⟨hname, htags, i, hi⟩
    obtain ⟨name, hname⟩ := (Identifier.exists_ofField_eq_ok_iff "name").2 hname
    obtain ⟨tags, htags⟩ := Identifier.exists_normalizeTags_eq_ok_iff.2 htags
    refine ⟨⟨name, tags, i⟩, ?_⟩
    unfold check checkInstruction
    rw [hname, htags, show Instruction.ofJson _ = .ok i from (Grammar.read_eq_ok_iff _).2 hi]
    rfl

end SaveRequest

/-! ## Saves of proper requests -/

section
variable {σ ε α : Type} {kind : ε → Prop} {c : Connection σ}

theorem Task.FailsWithin.ofExcept {result : Except ε α} (h : ∀ e, result = .error e → kind e) :
    FailsWithin kind (ofExcept result : Task σ ε α) :=
  fun _ e _ hrun => h e (congrArg Prod.fst hrun)

theorem Database.Connection.query_failsWithin {failed : ε} (hfailed : kind failed)
    {look : Contents → Except ε α} (hlook : ∀ db e, look db = .error e → kind e) :
    (c.query failed look).FailsWithin kind := by
  intro s e s' h
  unfold query at h
  dsimp only at h
  split at h
  · cases h
    exact hfailed
  · split at h
    · cases h
      exact hfailed
    · exact hlook _ e (congrArg Prod.fst h)

end

namespace Store

variable {σ : Type} {c : Connection σ} {owner : Account} {request : SaveRequest} {s : σ}

/-- Whether a failure is not one of the input. -/
def IsNotInvalid (e : StoreFailure) : Prop := ∀ refused, e ≠ .invalid refused

theorem lookUp_failsWithin {α : Type} (look : Contents → Except DatabaseFailure α) :
    (lookUp c look).FailsWithin IsNotInvalid := by
  refine Connection.query_failsWithin (fun _ => nofun) fun db e h => ?_
  split at h <;> cases h
  exact fun _ => nofun

/-- The first step of a save does not fail for the input once it has passed its check. -/
theorem prepare_failsWithin (proper : request.IsProper) :
    (prepare c owner request).FailsWithin IsNotInvalid := by
  obtain ⟨checked, hchecked⟩ := SaveRequest.exists_check_eq_ok_iff.2 proper
  have hdatabase {δ : Type} (x : Except DatabaseFailure δ) :
      (Task.ofExcept (σ := σ) (x.mapError StoreFailure.database)).FailsWithin IsNotInvalid := by
    refine .ofExcept fun e h => ?_
    obtain ⟨_, -, rfl⟩ := mapError_eq_error_iff.1 h
    exact fun _ => nofun
  unfold prepare
  rw [hchecked]
  refine Task.FailsWithin.bind (.ofExcept nofun) fun checked => ?_
  refine (lookUp_failsWithin _).bind fun found => ?_
  cases found with
  | none => exact .throw fun _ => nofun
  | some creator =>
    refine Task.FailsWithin.bind ?_ fun _ => .pure _
    unfold identify
    refine (lookUp_failsWithin _).bind fun there => ?_
    cases there with
    | some id => exact .pure _
    | none =>
      refine Task.FailsWithin.bind (fun _ _ _ h => nomatch h) fun drawn => ?_
      exact (hdatabase _).bind fun _ => .pure _

/-- **A proper request is not refused for itself**, wherever the save fails. -/
theorem save_ne_invalid (proper : request.IsProper) (history : VersionHistory σ)
    (refused : InvalidInput) :
    (save c history owner request s).1 ≠ .error (.invalid refused) := by
  rcases hsave : save c history owner request s with ⟨result, s'⟩
  rintro rfl
  have hcourse := course_of_save hsave
  generalize hfailure : StoreFailure.invalid refused = e at hcourse
  generalize hresult : Except.error e = result at hcourse
  cases hcourse with
  | refused refuses =>
    cases hresult
    exact prepare_failsWithin proper _ _ _ refuses refused hfailure.symm
  | uncommitted =>
    cases hresult
    exact nomatch hfailure
  | unrecorded _ _ fails =>
    cases hresult
    cases hfailure
    exact persist_failsWithin _ _ _ _ fails trivial
  | recorded => exact nomatch hresult

/-- Whether an account of an identifier is live. -/
def HasAccount (c : Connection σ) (s : σ) (id : AccountId) : Prop :=
  ∃ db rows, c.contents s = some db ∧ db.accounts = .rows rows ∧
    ∃ row ∈ rows, row.id = .text id.text

/-- **A proper request of an owner who is not live** is refused for the owner. -/
theorem save_of_not_hasAccount (hc : c.IsLawful) (reachable : IsReachable c s)
    (proper : request.IsProper) (gone : ¬HasAccount c s owner.id)
    (undisturbed : (c.disturbed s).1 = false) (history : VersionHistory σ) :
    save c history owner request s = (.error (.ownerMissing owner.id), (c.disturbed s).2) := by
  obtain ⟨checked, hchecked⟩ := SaveRequest.exists_check_eq_ok_iff.2 proper
  obtain ⟨db, r, hs, hdb⟩ := reachable.holds hc
  have hgone : ∀ a ∈ r.accounts, a.id ≠ owner.id := by
    rintro a ha hid
    refine gone ⟨db, _, hs, hdb.accounts, _, List.mem_map_of_mem ha, ?_⟩
    exact AccountId.cell_inj.2 hid
  have hlook := shows_getAccount_none hc hdb hgone s hs
  rw [undisturbed] at hlook
  refine save_of_refused ?_ history
  unfold prepare
  rw [hchecked, Task.bind_apply]
  dsimp only [Task.ofExcept_apply, Except.mapError]
  rw [Task.bind_apply, hlook]
  rfl

/-- **A save is checked before anything else, and the request alone decides.** A request with
something wrong is refused for the first such thing, by every connection and history, for
every owner and in every state, and the state is as it was: nothing was read, drawn or
committed. A proper request is never refused for itself, and an owner who is not live is
what it is refused for first. -/
theorem save_checksFirst (request : SaveRequest) :
    (¬request.IsProper → ∃ refused, request.IsRefusedFor refused ∧
      ∀ {σ : Type} (c : Connection σ) (history : VersionHistory σ) (owner : Account) (s : σ),
        save c history owner request s = (.error (.invalid refused), s)) ∧
    (request.IsProper → ∀ {σ : Type} (c : Connection σ) (history : VersionHistory σ)
      (owner : Account) (s : σ),
      (∀ refused, (save c history owner request s).1 ≠ .error (.invalid refused)) ∧
      (c.IsLawful → IsReachable c s → ¬HasAccount c s owner.id → (c.disturbed s).1 = false →
        save c history owner request s
          = (.error (.ownerMissing owner.id), (c.disturbed s).2))) := by
  constructor
  · intro improper
    cases hcheck : request.check with
    | ok checked => exact absurd (SaveRequest.exists_check_eq_ok_iff.1 ⟨checked, hcheck⟩) improper
    | error refused =>
      refine ⟨refused, SaveRequest.check_eq_error_iff.1 hcheck, fun c history owner s => ?_⟩
      exact Grammar.save_of_check_eq_error c history owner hcheck s
  · intro proper σ c history owner s
    refine ⟨save_ne_invalid proper history, fun hc reachable gone undisturbed => ?_⟩
    exact save_of_not_hasAccount hc reachable proper gone undisturbed history

namespace World

/-- A request whose second tag is no identifier, and whose value is no instruction. -/
def spaced : SaveRequest := ⟨"way", .null, ["a", "b c"]⟩

/-- An account that was never opened. -/
def stranger : Account := { ann with id := ⟨"id9"⟩ }

theorem spaced_isRefusedFor {refused : InvalidInput} (h : spaced.IsRefusedFor refused) :
    refused = ⟨"tags", "b c", .identifier (.invalidChar ' ' 1)⟩ := by
  have hcheck := SaveRequest.check_eq_error_iff.2 h
  have hspaced : spaced.check = .error ⟨"tags", "b c", .identifier (.invalidChar ' ' 1)⟩ := by
    rfl
  exact Except.error.inj (hcheck.symm.trans hspaced)

theorem second_isProper : second.IsProper := by
  refine SaveRequest.exists_check_eq_ok_iff.1 (Outcome.exists_eq_ok_of_isOk ?_)
  decide +kernel

theorem not_hasAccount_stranger : ¬HasAccount (file "records") withFirst stranger.id := by
  have hlive : ((file "records").contents withFirst).bind (fun db =>
      db.accounts.read.toOption.map fun rows => rows.map AccountRow.id)
      = some [.text "id0"] := by decide +kernel
  rintro ⟨db, rows, hs, hrows, row, hrow, hid⟩
  rw [hs, Option.bind_some, hrows] at hlive
  have hmem : row.id ∈ [Cell.text "id0"] := Option.some.inj hlive ▸ List.mem_map_of_mem hrow
  rw [hid] at hmem
  exact absurd hmem (by decide)

theorem file_disturbed (name : String) (w : World) : (file name).disturbed w = (false, w) := rfl

end World

open World in
theorem save_checksFirst_spaced_second :
    ¬spaced.IsProper ∧ second.IsProper ∧ (file "records").IsLawful ∧
    IsReachable (file "records") withFirst ∧ ¬HasAccount (file "records") withFirst stranger.id ∧
    (∀ w ∈ [new, withFirst], ∀ owner ∈ [ann, stranger],
      save (file "records") (History.commit (file "new")) owner spaced w
        = (.error (.invalid ⟨"tags", "b c", .identifier (.invalidChar ' ' 1)⟩), w)) ∧
    save (file "records") (History.commit (file "new")) stranger second withFirst
      = (.error (.ownerMissing stranger.id), withFirst) := by
  have hspaced : ¬spaced.IsProper := fun h => absurd (h.tags "b c" (by decide)) (by decide)
  obtain ⟨refused, hrefused, hsave⟩ := (save_checksFirst spaced).1 hspaced
  obtain rfl := spaced_isRefusedFor hrefused
  have hmissing := ((save_checksFirst second).2 second_isProper (file "records")
    (History.commit (file "new")) stranger withFirst).2 (file_isLawful _) withFirst_isReachable
    not_hasAccount_stranger (file_isCalm _ _)
  exact ⟨hspaced, second_isProper, file_isLawful _, withFirst_isReachable,
    not_hasAccount_stranger, fun w _ owner _ => hsave _ _ owner w,
    hmissing.trans (by rw [file_disturbed])⟩

end Store

end InstructionStore
