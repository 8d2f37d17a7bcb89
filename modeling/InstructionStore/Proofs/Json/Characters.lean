import InstructionStore.Json.Printer
import InstructionStore.Proofs.Text.Numeral
import Mathlib.Data.List.OfFn

/-!
# The characters of a text

A number is written with digits, a sign, a point and an exponent (`IsNumeral`), and words
and marks are what they are. Strings hold what they are given, but escape the characters
below the space, so that **no text of a value has one of these**
(`isPrintable_of_mem_text`), whatever is in its strings and names. In particular it has no
zero character.
-/

namespace InstructionStore.Json

variable {c : Char}

/-! ## Numbers -/

/-- **A character of a number.** -/
def IsNumeral (c : Char) : Prop := c.isDigit = true ∨ c = '-' ∨ c = '+' ∨ c = '.' ∨ c = 'e'

instance : DecidablePred IsNumeral := fun _ => inferInstanceAs (Decidable (_ ∨ _))

theorem isNumeral_of_mem_decimal {n : Nat} (h : c ∈ Text.decimal n) : IsNumeral c :=
  .inl (Text.isDigit_of_mem_decimal h)

theorem isNumeral_of_mem_positional {d : Binary64.Decimal} (h : c ∈ d.positional) :
    IsNumeral c := by
  have hdot : IsNumeral '.' := by decide
  have hzero : IsNumeral '0' := by decide
  unfold Binary64.Decimal.positional at h
  split at h
  · simp only [List.mem_append, List.mem_replicate, List.mem_cons, List.not_mem_nil,
      or_false] at h
    obtain (h | ⟨-, rfl⟩) | rfl | rfl := h
    · exact isNumeral_of_mem_decimal h
    · exact hzero
    · exact hdot
    · exact hzero
  · dsimp only at h
    split at h
    · simp only [List.mem_append, List.mem_cons] at h
      obtain h | rfl | h := h
      · exact isNumeral_of_mem_decimal (List.mem_of_mem_take h)
      · exact hdot
      · exact isNumeral_of_mem_decimal (List.mem_of_mem_drop h)
    · simp only [List.mem_append, List.mem_replicate, List.mem_cons, List.not_mem_nil,
        or_false] at h
      obtain ((rfl | rfl) | ⟨-, rfl⟩) | h := h
      · exact hzero
      · exact hdot
      · exact hzero
      · exact isNumeral_of_mem_decimal h

theorem isNumeral_of_mem_scientific {d : Binary64.Decimal} (h : c ∈ d.scientific) :
    IsNumeral c := by
  unfold Binary64.Decimal.scientific at h
  simp only [List.mem_append, List.mem_cons] at h
  obtain (h | h) | rfl | rfl | h := h
  · exact isNumeral_of_mem_decimal (List.mem_of_mem_take h)
  · split at h
    · exact nomatch h
    · rcases List.mem_cons.1 h with rfl | h
      · decide
      · exact isNumeral_of_mem_decimal (List.mem_of_mem_drop h)
  · decide
  · split <;> decide
  · exact isNumeral_of_mem_decimal h

theorem isNumeral_of_mem_printMagnitude {rank : Nat} (h : c ∈ printMagnitude rank) :
    IsNumeral c := by
  unfold printMagnitude at h
  dsimp only at h
  split at h
  · exact isNumeral_of_mem_positional h
  · exact isNumeral_of_mem_scientific h

/-- **A number is written with the characters of numbers.** -/
theorem isNumeral_of_mem_printNumber {x : Number} (h : c ∈ printNumber x) : IsNumeral c := by
  have hminus : IsNumeral '-' := by decide
  cases x with
  | integer n inRange =>
    cases n with
    | ofNat n => exact isNumeral_of_mem_decimal h
    | negSucc n =>
      rcases List.mem_cons.1 h with rfl | h
      · exact hminus
      · exact isNumeral_of_mem_decimal h
  | float x =>
    unfold printNumber printFloat at h
    dsimp only at h
    split at h
    · rcases List.mem_cons.1 h with rfl | h
      · exact hminus
      · exact isNumeral_of_mem_printMagnitude h
    · exact isNumeral_of_mem_printMagnitude h

/-! ## All values -/

/-- **A character that is not below the space.** -/
def IsPrintable (c : Char) : Prop := 0x20 ≤ c.toNat

instance : DecidablePred IsPrintable := fun _ => inferInstanceAs (Decidable (_ ≤ _))

theorem IsNumeral.isPrintable (h : IsNumeral c) : IsPrintable c := by
  obtain hdigit | rfl | rfl | rfl | rfl := h
  · simp only [Char.isDigit, Bool.and_eq_true, decide_eq_true_eq] at hdigit
    have hle : 48 ≤ c.toNat := hdigit.1
    unfold IsPrintable
    omega
  all_goals decide

theorem isPrintable_digitChar {n : Nat} (h : n < 16) : IsPrintable (Nat.digitChar n) := by
  have hall : ∀ m : Fin 16, IsPrintable (Nat.digitChar m) := by decide
  exact hall ⟨n, h⟩

/-- **No character is written with one below the space**, however it is written. -/
theorem isPrintable_of_mem_escapeChar {a : Char} (h : c ∈ escapeChar a) : IsPrintable c := by
  have hshort {b : Char} (hb : IsPrintable b) (h : c ∈ ['\\', b]) : IsPrintable c := by
    rcases List.mem_cons.1 h with rfl | h
    · decide
    · exact List.mem_singleton.1 h ▸ hb
  unfold escapeChar at h
  split at h
  · exact hshort (by decide) h
  split at h
  · exact hshort (by decide) h
  split at h
  · exact hshort (by decide) h
  split at h
  · exact hshort (by decide) h
  split at h
  · exact hshort (by decide) h
  split at h
  · exact hshort (by decide) h
  split at h
  · exact hshort (by decide) h
  split at h
  · rename_i hcontrol
    simp only [List.mem_cons, List.not_mem_nil, or_false] at h
    obtain rfl | rfl | rfl | rfl | rfl | rfl := h
    all_goals first | decide | exact isPrintable_digitChar (by omega)
  · rename_i hvisible
    exact List.mem_singleton.1 h ▸ Nat.not_lt.1 hvisible

theorem isPrintable_of_mem_printString {s : String} (h : c ∈ printString s) : IsPrintable c := by
  have hquote : IsPrintable '"' := by decide
  unfold printString at h
  simp only [List.cons_append, List.mem_cons, List.mem_append, List.not_mem_nil, or_false] at h
  obtain rfl | h | rfl := h
  · exact hquote
  · obtain ⟨a, -, ha⟩ := List.mem_flatMap.1 h
    exact isPrintable_of_mem_escapeChar ha
  · exact hquote

/-- What stands in texts with a separator between them is in one of them, or is it. -/
theorem mem_separated {separator : Char} {texts : List (List Char)}
    (h : c ∈ separated separator texts) : c = separator ∨ ∃ text ∈ texts, c ∈ text := by
  induction texts with
  | nil => exact nomatch h
  | cons text texts ih =>
    cases texts with
    | nil => exact .inr ⟨text, List.mem_cons_self, h⟩
    | cons next texts =>
      rcases List.mem_append.1 h with htext | hrest
      · exact .inr ⟨text, List.mem_cons_self, htext⟩
      · rcases List.mem_cons.1 hrest with hseparator | hrest
        · exact .inl hseparator
        · obtain hseparator | ⟨later, hlater, hc⟩ := ih hrest
          · exact .inl hseparator
          · exact .inr ⟨later, List.mem_cons_of_mem _ hlater, hc⟩

/-- What stands between brackets is printable if the parts are. -/
theorem isPrintable_of_mem_bracketed {first last : Char} {texts : List (List Char)}
    (hfirst : IsPrintable first) (hlast : IsPrintable last)
    (htexts : ∀ text ∈ texts, ∀ c ∈ text, IsPrintable c)
    (h : c ∈ first :: separated ',' texts ++ [last]) : IsPrintable c := by
  simp only [List.cons_append, List.mem_cons, List.mem_append, List.not_mem_nil, or_false] at h
  obtain rfl | h | rfl := h
  · exact hfirst
  · obtain rfl | ⟨text, htext, hc⟩ := mem_separated h
    · decide
    · exact htexts text htext c hc
  · exact hlast

theorem isPrintable_of_mem_print (v : Json) : ∀ c ∈ v.print, IsPrintable c := by
  have hword {word : List Char} (h : word.all (fun c => decide (IsPrintable c)) = true) :
      ∀ c ∈ word, IsPrintable c := fun c hc => of_decide_eq_true (List.all_eq_true.1 h c hc)
  induction v with
  | null => exact hword (by decide)
  | bool b => cases b <;> exact hword (by decide)
  | number x => exact fun c h => (isNumeral_of_mem_printNumber h).isPrintable
  | string s => exact fun c => isPrintable_of_mem_printString
  | array size item ih =>
    intro c h
    refine isPrintable_of_mem_bracketed (by decide) (by decide) ?_ h
    rw [List.forall_mem_ofFn_iff]
    exact ih
  | object keys value ih =>
    intro c h
    refine isPrintable_of_mem_bracketed (by decide) (by decide) ?_ h
    rw [List.forall_mem_ofFn_iff]
    intro i c hc
    rcases List.mem_append.1 hc with hname | hrest
    · exact isPrintable_of_mem_printString hname
    · rcases List.mem_cons.1 hrest with rfl | hvalue
      · decide
      · exact ih i c hvalue

/-- **No text of a value has a character below the space.** -/
theorem isPrintable_of_mem_text {v : Json} (h : c ∈ v.text.toList) : IsPrintable c := by
  unfold text at h
  rw [String.toList_ofList] at h
  exact isPrintable_of_mem_print v c h

theorem zero_not_mem_text (v : Json) : '\x00' ∉ v.text.toList :=
  fun h => absurd (isPrintable_of_mem_text h) (by decide)

end InstructionStore.Json
