import InstructionStore.InvalidInput
import InstructionStore.Proofs.Outcome

/-!
# What is wrong with a text that is no identifier

`HasDefect` says by the text alone what is wrong with it: there is nothing of it, it is too
long, or there is a first character that is not allowed. The check finds exactly that
(`defect?_eq_some_iff`), so a text is refused with one defect only, whatever field it was
given for (`ofField_eq_error_iff`).
-/

namespace InstructionStore.Identifier

theorem text_inj {a b : Identifier} : a.text = b.text ↔ a = b := by
  refine ⟨fun h => ?_, congrArg Identifier.text⟩
  cases a
  cases b
  cases h
  rfl

/-- An identifier has no `@` in it. -/
theorem at_not_mem (name : Identifier) : '@' ∉ name.text.toList := by
  intro h
  exact absurd (name.valid.2.2 '@' h) (by decide)

/-! ## Defects -/

/-- **What is wrong with a text that is no identifier**, by the text. -/
inductive HasDefect : String → Defect → Prop where
  /-- There is nothing of it. -/
  | empty : HasDefect "" .empty
  /-- It is too long, whatever its characters are. -/
  | tooLong {text : String} (long : maxLength < text.length) : HasDefect text .tooLong
  /-- A character is not allowed, and all those before it are. -/
  | invalidChar {text : String} {before after : List Char} {c : Char}
    (short : text.length ≤ maxLength) (split : text.toList = before ++ c :: after)
    (allowed : ∀ b ∈ before, isAllowed b = true) (refused : isAllowed c = false) :
    HasDefect text (.invalidChar c before.length)

variable {text : String} {d : Defect}

theorem firstInvalid_eq_some_iff {chars : List Char} {index i : Nat} {c : Char} :
    firstInvalid index chars = some (c, i) ↔
      ∃ before after, chars = before ++ c :: after ∧ (∀ b ∈ before, isAllowed b = true)
        ∧ isAllowed c = false ∧ i = index + before.length := by
  induction chars generalizing index with
  | nil => simp [firstInvalid]
  | cons a chars ih =>
    unfold firstInvalid
    by_cases ha : isAllowed a = true
    · rw [if_pos ha, ih]
      constructor
      · rintro ⟨before, after, rfl, hallowed, hc, rfl⟩
        refine ⟨a :: before, after, rfl, List.forall_mem_cons.2 ⟨ha, hallowed⟩, hc, ?_⟩
        rw [List.length_cons]
        omega
      · rintro ⟨_ | ⟨b, before⟩, after, hsplit, hallowed, hc, rfl⟩
        · exact absurd ((List.cons.inj hsplit).1 ▸ ha) (by rw [hc]; decide)
        · obtain ⟨rfl, rfl⟩ := List.cons.inj hsplit
          refine ⟨before, after, rfl, (List.forall_mem_cons.1 hallowed).2, hc, ?_⟩
          rw [List.length_cons]
          omega
    · rw [if_neg ha]
      constructor
      · rintro ⟨⟩
        have hnone : ∀ b ∈ ([] : List Char), isAllowed b = true :=
          fun _ hb => absurd hb List.not_mem_nil
        exact ⟨[], chars, rfl, hnone, eq_false_of_ne_true ha, rfl⟩
      · rintro ⟨_ | ⟨b, before⟩, after, hsplit, hallowed, -, rfl⟩
        · rw [(List.cons.inj hsplit).1]
        · exact absurd (hallowed b List.mem_cons_self) ((List.cons.inj hsplit).1 ▸ ha)

/-- **The defect that is found is the one the text has**: emptiness before length, and length
before the characters. -/
theorem defect?_eq_some_iff : defect? text = some d ↔ HasDefect text d := by
  unfold defect?
  split
  case isTrue hempty =>
    subst hempty
    constructor
    · rintro ⟨⟩
      exact .empty
    · intro h
      cases h with
      | empty => rfl
      | tooLong long => exact nomatch long
      | invalidChar _ split => exact absurd split.symm (List.append_ne_nil_of_right_ne_nil _ nofun)
  case isFalse hne =>
    split
    case isTrue hlong =>
      constructor
      · rintro ⟨⟩
        exact .tooLong hlong
      · intro h
        cases h with
        | empty => exact absurd rfl hne
        | tooLong => rfl
        | invalidChar short => exact absurd hlong (Nat.not_lt.2 short)
    case isFalse hshort =>
      rw [Option.map_eq_some_iff]
      constructor
      · rintro ⟨⟨c, i⟩, hfirst, rfl⟩
        obtain ⟨before, after, hsplit, hallowed, hc, rfl⟩ := firstInvalid_eq_some_iff.1 hfirst
        rw [Nat.zero_add]
        exact .invalidChar (Nat.not_lt.1 hshort) hsplit hallowed hc
      · intro h
        cases h with
        | empty => exact absurd rfl hne
        | tooLong long => exact absurd long hshort
        | invalidChar _ split allowed refused =>
          exact ⟨_, firstInvalid_eq_some_iff.2
            ⟨_, _, split, allowed, refused, (Nat.zero_add _).symm⟩, rfl⟩

/-! ## Texts given for a field -/

theorem text_of_ofField {field text : String} {name : Identifier}
    (h : ofField field text = .ok name) : name.text = text := by
  unfold ofField at h
  split at h
  case h_1 hname =>
    cases h
    exact text_of_ofString hname
  case h_2 => exact nomatch h

/-- A field is given an identifier by the text of it. -/
theorem ofField_eq_ok_iff {field : String} {name : Identifier} :
    ofField field text = .ok name ↔ name.text = text := by
  refine ⟨text_of_ofField, ?_⟩
  rintro rfl
  unfold ofField
  rw [ofString_text]

/-- A text that is an identifier is taken for a field. -/
theorem exists_ofField_eq_ok_iff (field : String) :
    (∃ name, ofField field text = .ok name) ↔ IsValid text := by
  simp only [ofField_eq_ok_iff]
  constructor
  · rintro ⟨name, rfl⟩
    exact name.valid
  · exact fun hvalid => ⟨⟨text, hvalid⟩, rfl⟩

/-- Any other text is refused for its defect. -/
theorem ofField_eq_error_iff {field : String} {refused : InvalidInput} :
    ofField field text = .error refused ↔
      ∃ d, HasDefect text d ∧ refused = ⟨field, text, .identifier d⟩ := by
  simp only [← defect?_eq_some_iff]
  unfold ofField ofString
  split
  case h_1 name hname =>
    refine ⟨nofun, ?_⟩
    rintro ⟨d, hd, -⟩
    split at hname
    · exact nomatch hname
    · rename_i hnone
      exact nomatch hnone.symm.trans hd
  case h_2 found hfound =>
    split at hfound
    · rename_i hd
      cases hfound
      rw [hd, Except.error.injEq]
      exact ⟨fun h => ⟨_, rfl, h.symm⟩, fun ⟨_, heq, h⟩ => Option.some.inj heq ▸ h.symm⟩
    · exact nomatch hfound

end InstructionStore.Identifier
