import InstructionStore.Proofs.Grammar.Rejections
import InstructionStore.Proofs.Grammar.Rereading
import InstructionStore.Proofs.Json.Nesting
import InstructionStore.Proofs.Json.Refusal
import InstructionStore.Proofs.Store.SaveThenFind

/-!
# Requests given as texts

A request to save a document can be given with the instruction and the tags as texts. Such
a request goes through a reader of its own, which refuses texts that nest too deeply, while
a request given as values is limited by the grammar alone. The two limits differ, and it is
the grammar's that is met first: a value the reader refuses is one the grammar does not
accept either (`SaveRequest.exists_check_eq_error`). A text that is read is read as the
value it was written from, so the request is the same (`SaveRequest.ofText_text`).
-/

namespace InstructionStore

open Json (IsFloatFree openContainers)
open Outcome

namespace SaveRequest

variable {name : String} {v : Json} {tags : List String}

/-- The text of a list of tags. -/
def tagsText (tags : List String) : String := (Json.ofList (tags.map .string)).text

theorem ofList_strings (tags : List String) :
    Json.ofList (tags.map .string)
      = .array tags.length fun i => .string tags[i] := by
  rw [← Json.ofList_ofFn]
  refine congrArg Json.ofList (List.ext_getElem (by simp) fun i _ _ => by simp)

theorem parse_tagsText (tags : List String) :
    Json.parse (tagsText tags) = .ok (Json.ofList (tags.map .string)) := by
  unfold tagsText
  rw [ofList_strings]
  refine Json.parse_text (.array fun _ => .string) ?_
  have hle : Json.greatest (fun i : Fin tags.length => (Json.string tags[i]).depth) ≤ 0 :=
    Json.greatest_le_iff.2 fun i => Nat.le_refl 0
  show 1 + Json.greatest (fun i : Fin tags.length => (Json.string tags[i]).depth) ≤ 127
  omega

theorem tagsOf_strings (text : String) (tags : List String) :
    tagsOf text (Json.ofList (tags.map .string)) = .ok tags := by
  have hitems : (Json.ofList (tags.map .string)).items? = some (tags.map .string) := by
    rw [ofList_strings]
    exact congrArg some (List.ext_getElem (by simp) fun i _ _ => by simp)
  unfold tagsOf
  rw [hitems]
  dsimp only
  clear hitems
  induction tags with
  | nil => rfl
  | cons tag tags ih =>
    rw [List.map_cons, List.mapM_cons, ih]
    rfl

/-- **A request is made of texts as it was written**, if its instruction does not nest too
deeply for the reader. -/
theorem ofText_text (hfree : IsFloatFree v) (hdepth : v.depth ≤ Json.nestingLimit) :
    ofText name v.text (tagsText tags) = .ok ⟨name, v, tags⟩ := by
  unfold ofText parseField
  rw [Json.parse_text hfree hdepth, parse_tagsText]
  dsimp only
  rw [ok_bind, ok_bind, tagsOf_strings]
  rfl

/-- Otherwise it is refused for its instruction. -/
theorem ofText_text_of_lt_depth (hdepth : Json.nestingLimit < v.depth) (tags : String) :
    ∃ left, ofText name v.text tags = .error ⟨"instruction", v.text, .malformed
      ("invalid JSON: " ++ (Json.Fault.located .nestedTooDeeply left).message v.text)⟩ := by
  obtain ⟨left, hleft⟩ := Json.parse_text_of_lt_depth hdepth
  refine ⟨left, ?_⟩
  unfold ofText parseField
  rw [hleft]
  rfl

/-- **What nests too deeply for the reader does not pass the check.** -/
theorem exists_check_eq_error (hdepth : Json.nestingLimit < v.depth) :
    ∃ refused, (⟨name, v, tags⟩ : SaveRequest).check = .error refused := by
  cases hcheck : (⟨name, v, tags⟩ : SaveRequest).check with
  | error refused => exact ⟨refused, rfl⟩
  | ok checked =>
    unfold check at hcheck
    obtain ⟨_, -, hcheck⟩ := bind_eq_ok_iff.1 hcheck
    obtain ⟨_, -, hcheck⟩ := bind_eq_ok_iff.1 hcheck
    obtain ⟨i, hinstruction, -⟩ := bind_eq_ok_iff.1 hcheck
    unfold checkInstruction at hinstruction
    split at hinstruction
    case h_1 j hj =>
      have hle := Grammar.depth_le_of_derives v ((Grammar.read_eq_ok_iff v).1 hj)
      unfold Json.nestingLimit at hdepth
      omega
    case h_2 => exact nomatch hinstruction

end SaveRequest

namespace Store

open Database

variable {σ : Type} (c : Connection σ) (history : VersionHistory σ)

/-- **Saves a document from a request given as texts.** -/
def saveText (owner : Account) (name instruction tags : String) :
    Task σ StoreFailure Document := do
  let request ← Task.ofExcept ((SaveRequest.ofText name instruction tags).mapError .invalid)
  save c history owner request

variable (owner : Account) (s : σ) {name instruction tags : String}

theorem saveText_of_ofText_eq_ok {request : SaveRequest}
    (h : SaveRequest.ofText name instruction tags = .ok request) :
    saveText c history owner name instruction tags s = save c history owner request s := by
  unfold saveText
  rw [h]
  rfl

theorem saveText_of_ofText_eq_error {refused : InvalidInput}
    (h : SaveRequest.ofText name instruction tags = .error refused) :
    saveText c history owner name instruction tags s = (.error (.invalid refused), s) := by
  unfold saveText
  rw [h]
  rfl

/-- **A save from texts and a save from values agree.** For the texts of a value without
floats and of a list of tags, one succeeds if the other does, and then both give the same
document and leave the same state. As long as fewer than 128 containers are open anywhere
in the text of the instruction, the request made of the texts is the request itself;
otherwise it is refused for the nesting of its instruction, and the request itself is not
saved either. -/
theorem saveText_agrees {v : Json} (hfree : IsFloatFree v) (name : String)
    (tags : List String) :
    ((saveText c history owner name v.text (SaveRequest.tagsText tags) s).1.isOk = true ↔
        (save c history owner ⟨name, v, tags⟩ s).1.isOk = true) ∧
    ((saveText c history owner name v.text (SaveRequest.tagsText tags) s).1.isOk = true →
      saveText c history owner name v.text (SaveRequest.tagsText tags) s
        = save c history owner ⟨name, v, tags⟩ s) ∧
    ((∀ k, openContainers (v.text.toList.take k) < 128) →
      SaveRequest.ofText name v.text (SaveRequest.tagsText tags) = .ok ⟨name, v, tags⟩) ∧
    ((∃ k, 128 ≤ openContainers (v.text.toList.take k)) →
      (∃ left, SaveRequest.ofText name v.text (SaveRequest.tagsText tags)
        = .error ⟨"instruction", v.text, .malformed ("invalid JSON: " ++
          (Json.Fault.located .nestedTooDeeply left).message v.text)⟩) ∧
      ∃ refused, save c history owner ⟨name, v, tags⟩ s = (.error (.invalid refused), s)) := by
  have hread (hle : v.depth ≤ Json.nestingLimit) :
      SaveRequest.ofText name v.text (SaveRequest.tagsText tags) = .ok ⟨name, v, tags⟩ :=
    SaveRequest.ofText_text hfree hle
  have hrefused (hlt : Json.nestingLimit < v.depth) :
      ∃ refused, save c history owner ⟨name, v, tags⟩ s = (.error (.invalid refused), s) := by
    obtain ⟨refused, hcheck⟩ := SaveRequest.exists_check_eq_error hlt
    exact ⟨refused, Grammar.save_of_check_eq_error c history owner hcheck s⟩
  refine and_assoc.1 ⟨?_, fun hopen => ?_, fun ⟨k, hk⟩ => ?_⟩
  · rcases Nat.lt_or_ge Json.nestingLimit v.depth with hlt | hle
    · obtain ⟨left, hraw⟩ := SaveRequest.ofText_text_of_lt_depth hlt (SaveRequest.tagsText tags)
      obtain ⟨refused, hsave⟩ := hrefused hlt
      rw [saveText_of_ofText_eq_error c history owner s hraw, hsave]
      exact ⟨⟨nofun, nofun⟩, nofun⟩
    · rw [saveText_of_ofText_eq_ok c history owner s (hread hle)]
      exact ⟨Iff.rfl, fun _ => rfl⟩
  · obtain ⟨k, hk⟩ := v.exists_openContainers_eq_depth
    exact hread (Nat.le_of_lt_succ (hk ▸ hopen k))
  · have hlt : Json.nestingLimit < v.depth := hk.trans (v.openContainers_le_depth k)
    exact ⟨SaveRequest.ofText_text_of_lt_depth hlt _, hrefused hlt⟩

/-! ### Saves in a tree of files -/

namespace World

/-- Arrays within arrays. -/
def nested : Nat → Json
  | 0 => .null
  | n + 1 => .array 1 fun _ => nested n

theorem nested_isFloatFree (n : Nat) : IsFloatFree (nested n) := by
  induction n with
  | zero => exact .null
  | succ n ih => exact .array fun _ => ih

theorem depth_nested (n : Nat) : (nested n).depth = n := by
  induction n with
  | zero => rfl
  | succ n ih =>
    show 1 + max 0 (nested n).depth = n + 1
    rw [ih, Nat.zero_max, Nat.add_comm]

end World

open World in
theorem saveText_agrees_second :
    IsFloatFree second.instruction ∧ IsFloatFree (nested 128) ∧
    (save (file "records") (History.commit (file "new")) ann second withFirst).1.isOk = true ∧
    saveText (file "records") (History.commit (file "new")) ann second.name
        second.instruction.text (SaveRequest.tagsText second.tags) withFirst
      = save (file "records") (History.commit (file "new")) ann second withFirst ∧
    (∃ k, 128 ≤ openContainers ((nested 128).text.toList.take k)) ∧
    (∃ e, SaveRequest.ofText "way" (nested 128).text (SaveRequest.tagsText ["b"]) = .error e ∧
      e.field = "instruction") ∧
    ∃ refused, save (file "records") (History.commit (file "new")) ann ⟨"way", nested 128, ["b"]⟩
      withFirst = (.error (.invalid refused), withFirst) := by
  have hsave : (save (file "records") (History.commit (file "new")) ann second
      withFirst).1.isOk = true := by decide +kernel
  have hsecond := saveText_agrees (file "records") (History.commit (file "new")) ann withFirst
    second_isFloatFree second.name second.tags
  have hopen : ∃ k, 128 ≤ openContainers ((nested 128).text.toList.take k) := by
    obtain ⟨k, hk⟩ := (nested 128).exists_openContainers_eq_depth
    exact ⟨k, (depth_nested 128 ▸ hk).ge⟩
  obtain ⟨⟨left, hraw⟩, hrefused⟩ := (saveText_agrees (file "records")
    (History.commit (file "new")) ann withFirst (nested_isFloatFree 128) "way" ["b"]).2.2.2 hopen
  exact ⟨second_isFloatFree, nested_isFloatFree 128, hsave, hsecond.2.1 (hsecond.1.2 hsave),
    hopen, ⟨_, hraw, rfl⟩, hrefused⟩

end Store

end InstructionStore
