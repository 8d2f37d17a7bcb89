import InstructionStore.Json.Printer
import InstructionStore.Json.Reader
import InstructionStore.Proofs.Outcome
import InstructionStore.Proofs.Text.Numeral

/-!
# Integers are read as they were written

A number ends where no further digit, point or exponent follows it; inside a
value that is where the text ends or a separator follows (`Ends`). Digits that
fit 64 bits are collected as the number they denote (`accumulate_eq`), and the
digits of an integer are read as it.
-/

namespace InstructionStore.Json.Reader

open Nat (ofDigitChars)
open Outcome

/-- **A text that can follow a value**: it is over, or a separator comes next. -/
def Ends (rest : List Char) : Prop := ∀ c ∈ rest.head?, c = ',' ∨ c = ']' ∨ c = '\x7d'

theorem ends_nil : Ends [] := nofun

theorem ends_comma (rest : List Char) : Ends (',' :: rest) := by
  rintro c ⟨⟩
  exact .inl rfl

theorem ends_bracket (rest : List Char) : Ends (']' :: rest) := by
  rintro c ⟨⟩
  exact .inr (.inl rfl)

theorem ends_brace (rest : List Char) : Ends ('\x7d' :: rest) := by
  rintro c ⟨⟩
  exact .inr (.inr rfl)

/-- **The text begins like a value**: there is a character, and it is no blank and
closes nothing. -/
def Begins (text : List Char) : Prop :=
  ∃ c rest, text = c :: rest ∧ isBlank c = false ∧ c ≠ ']' ∧ c ≠ '\x7d'

/-- **The text is read as a value**, up to its end. -/
def Reads {α : Type} (item : Reader α) (text : List Char) (a : α) : Prop :=
  Begins text ∧ ∀ rest, Ends rest → item (text ++ rest) = .ok (a, rest)

/-! ## Digits -/

theorem ne_of_isDigit {c d : Char} (hc : c.isDigit = true) (hd : d.isDigit = false) : c ≠ d := by
  rintro rfl
  rw [hc] at hd
  exact nomatch hd

theorem isBlank_of_isDigit {c : Char} (h : c.isDigit = true) : isBlank c = false := by
  unfold isBlank
  rw [decide_eq_false (ne_of_isDigit h (by decide)),
    decide_eq_false (ne_of_isDigit h (by decide)), decide_eq_false (ne_of_isDigit h (by decide)),
    decide_eq_false (ne_of_isDigit h (by decide))]
  rfl

theorem begins_of_isDigit {c : Char} {text : List Char} (h : c.isDigit = true) :
    Begins (c :: text) :=
  ⟨c, text, rfl, isBlank_of_isDigit h, ne_of_isDigit h (by decide), ne_of_isDigit h (by decide)⟩

theorem begins_of_minus (text : List Char) : Begins ('-' :: text) :=
  ⟨'-', text, rfl, by decide, by decide, by decide⟩

/-- No digit comes next. -/
def NoDigit (rest : List Char) : Prop := ∀ c ∈ rest.head?, c.isDigit = false

theorem Ends.noDigit {rest : List Char} (h : Ends rest) : NoDigit rest := by
  intro c hc
  rcases h c hc with rfl | rfl | rfl <;> decide

theorem noDigit_cons {c : Char} {rest : List Char} (h : c.isDigit = false) :
    NoDigit (c :: rest) := by
  rintro d ⟨⟩
  exact h

theorem takeWhile_digits {digits rest : List Char} (hdigits : ∀ c ∈ digits, c.isDigit = true)
    (hrest : NoDigit rest) : (digits ++ rest).takeWhile Char.isDigit = digits := by
  rw [List.takeWhile_append_of_pos hdigits]
  cases rest with
  | nil => rw [List.takeWhile_nil, List.append_nil]
  | cons c rest =>
    rw [List.takeWhile_cons_of_neg (by rw [hrest c rfl]; decide), List.append_nil]

theorem dropWhile_digits {digits rest : List Char} (hdigits : ∀ c ∈ digits, c.isDigit = true)
    (hrest : NoDigit rest) : (digits ++ rest).dropWhile Char.isDigit = rest := by
  rw [List.dropWhile_append_of_pos hdigits]
  cases rest with
  | nil => rfl
  | cons c rest => rw [List.dropWhile_cons_of_neg (by rw [hrest c rfl]; decide)]

theorem le_ofDigitChars (digits : List Char) (n : Nat) : n ≤ ofDigitChars 10 digits n := by
  rw [Nat.ofDigitChars_eq_ofDigitChars_zero]
  exact Nat.le_add_right_of_le (Nat.le_mul_of_pos_left n (Nat.pow_pos (by decide)))

/-- **Digits are collected as long as what they denote fits.** -/
theorem accumulate_eq {bound : Nat} {digits : List Char} {n : Nat}
    (h : ofDigitChars 10 digits n ≤ bound) :
    accumulate bound n digits = (ofDigitChars 10 digits n, []) := by
  induction digits generalizing n with
  | nil => rfl
  | cons c digits ih =>
    have hstep : ofDigitChars 10 (c :: digits) n
        = ofDigitChars 10 digits (n * 10 + digitValue c) := by
      rw [Nat.ofDigitChars_cons, Nat.mul_comm]
      rfl
    rw [hstep] at h ⊢
    unfold accumulate
    rw [if_pos (Nat.le_trans (le_ofDigitChars digits _) h), ih h]

/-! ## Integers -/

/-- What follows the digits of a number decides how it is read on. -/
def continueNumber (negative : Bool) (n : Nat) : Reader Number
  | '.' :: rest => fractionPart negative n 0 rest
  | 'e' :: rest | 'E' :: rest => exponentPart negative n 0 rest
  | rest => wholeNumber negative n 0 rest

/-- **Digits without needless zeros that fit 64 bits** are read as the number
they denote. -/
theorem number_digits {negative : Bool} {digits rest : List Char} {n : Nat}
    (hdigits : ∀ c ∈ digits, c.isDigit = true) (hne : digits ≠ [])
    (hzero : ∀ ds, digits = '0' :: ds → ds = []) (hn : ofDigitChars 10 digits 0 = n)
    (hfits : n ≤ maxWord) (hrest : NoDigit rest) :
    number negative (digits ++ rest) = continueNumber negative n rest := by
  cases digits with
  | nil => exact absurd rfl hne
  | cons c digits =>
    have htail : ∀ d ∈ digits, d.isDigit = true := fun d hd =>
      hdigits d (List.mem_cons_of_mem c hd)
    have hfirst : ¬(c = '0' ∧ ¬digits.isEmpty = true) := by
      rintro ⟨rfl, h⟩
      rw [hzero digits rfl] at h
      exact h rfl
    subst hn
    unfold number continueNumber
    rw [List.cons_append]
    dsimp only
    rw [if_pos (hdigits c List.mem_cons_self), takeWhile_digits htail hrest,
      dropWhile_digits htail hrest, if_neg hfirst, accumulate_eq hfits]
    rfl

theorem number_decimal {negative : Bool} {n : Nat} {rest : List Char} (hfits : n ≤ maxWord)
    (hrest : NoDigit rest) :
    number negative (Text.decimal n ++ rest) = continueNumber negative n rest := by
  refine number_digits (fun c => Text.isDigit_of_mem_decimal) (Text.decimal_ne_nil n)
    (fun ds hds => ?_) (Text.ofDigitChars_decimal n) hfits hrest
  obtain rfl := Text.eq_zero_of_decimal hds
  exact (List.cons.inj hds).2.symm

theorem continueNumber_of_ends {negative : Bool} {n : Nat} {rest : List Char} (h : Ends rest) :
    continueNumber negative n rest = wholeNumber negative n 0 rest := by
  unfold continueNumber
  split
  case h_1 rest => rcases h _ rfl with hc | hc | hc <;> cases hc
  case h_2 rest => rcases h _ rfl with hc | hc | hc <;> cases hc
  case h_3 rest => rcases h _ rfl with hc | hc | hc <;> cases hc
  case h_4 => rfl

theorem wholeNumber_eq {negative : Bool} {m : Nat} {n : Int} {rest : List Char}
    (hn : (if negative then -(m : Int) else m) = n) (hsign : ¬(negative = true ∧ m = 0))
    (inRange : minInteger ≤ n ∧ n ≤ maxInteger) :
    wholeNumber negative m 0 rest = .ok (.integer n inRange, rest) := by
  subst hn
  unfold wholeNumber
  exact dif_pos ⟨inRange, rfl, hsign⟩

/-- A digit is none of the characters that begin other values. -/
theorem value_of_digit {room : Nat} {c : Char} {rest : List Char} (h : c.isDigit = true) :
    value room (c :: rest)
      = (number false (c :: rest)).map fun (n, rest) => (Json.number n, rest) := by
  unfold value
  rw [skipBlank, List.dropWhile_cons_of_neg (by rw [isBlank_of_isDigit h]; decide)]
  dsimp only
  rw [if_neg (ne_of_isDigit h (by decide)), if_neg (ne_of_isDigit h (by decide)),
    if_neg (ne_of_isDigit h (by decide)), if_neg (ne_of_isDigit h (by decide)), if_pos h]

theorem value_of_minus {room : Nat} {rest : List Char} :
    value room ('-' :: rest)
      = (number true rest).map fun (n, rest) => (Json.number n, rest) := by
  unfold value
  rfl

theorem reads_of_digit {room : Nat} {c : Char} {text : List Char} {n : Number}
    (hc : c.isDigit = true)
    (h : ∀ rest, Ends rest → number false (c :: (text ++ rest)) = .ok (n, rest)) :
    Reads (value room) (c :: text) (.number n) := by
  refine ⟨begins_of_isDigit hc, fun rest hrest => ?_⟩
  rw [List.cons_append, value_of_digit hc, h rest hrest]
  rfl

theorem reads_of_minus {room : Nat} {text : List Char} {n : Number}
    (h : ∀ rest, Ends rest → number true (text ++ rest) = .ok (n, rest)) :
    Reads (value room) ('-' :: text) (.number n) := by
  refine ⟨begins_of_minus text, fun rest hrest => ?_⟩
  rw [List.cons_append, value_of_minus, h rest hrest]
  rfl

/-- **The text of a number**: its digits are read as the number, behind its sign. -/
inductive NumberText (n : Number) : List Char → Prop where
  /-- A number without a sign begins with a digit. -/
  | digit {c : Char} {text : List Char} (isDigit : c.isDigit = true)
    (reads : ∀ rest, Ends rest → number false (c :: (text ++ rest)) = .ok (n, rest)) :
    NumberText n (c :: text)
  /-- A number below zero begins with its sign. -/
  | minus {text : List Char}
    (reads : ∀ rest, Ends rest → number true (text ++ rest) = .ok (n, rest)) :
    NumberText n ('-' :: text)

theorem NumberText.reads {room : Nat} {n : Number} {text : List Char} (h : NumberText n text) :
    Reads (value room) text (.number n) := by
  cases h with
  | digit hc hreads => exact reads_of_digit hc hreads
  | minus hreads => exact reads_of_minus hreads

/-- **An integer is read as it was written.** -/
theorem numberText_signed {n : Int} (inRange : minInteger ≤ n ∧ n ≤ maxInteger) :
    NumberText (.integer n inRange) (Text.signed n) := by
  have hrange := inRange
  simp only [minInteger, maxInteger] at hrange
  cases n with
  | ofNat n =>
    have hfits : n ≤ maxWord := by
      rw [Int.ofNat_eq_natCast] at hrange
      unfold maxWord
      omega
    have hvalue : (if false = true then -(n : Int) else n) = Int.ofNat n := rfl
    have hsign : ¬(false = true ∧ n = 0) := fun h => Bool.false_ne_true h.1
    have hnumber (rest : List Char) (hrest : Ends rest) :
        number false (Text.decimal n ++ rest) = .ok (.integer (.ofNat n) inRange, rest) := by
      rw [number_decimal hfits hrest.noDigit, continueNumber_of_ends hrest,
        wholeNumber_eq hvalue hsign inRange]
    show NumberText _ (Text.decimal n)
    obtain ⟨c, digits, hc⟩ := List.exists_cons_of_ne_nil (Text.decimal_ne_nil n)
    rw [hc] at hnumber ⊢
    exact .digit (Text.isDigit_of_mem_decimal (hc ▸ List.mem_cons_self)) hnumber
  | negSucc n =>
    have hfits : n + 1 ≤ maxWord := by
      unfold maxWord
      omega
    have hvalue : (if true = true then -((n + 1 : Nat) : Int) else (n + 1 : Nat))
        = Int.negSucc n := by
      rw [if_pos rfl, Int.negSucc_eq, Int.natCast_succ]
    -- only zero would be read as a float behind the sign
    have hsign : ¬(true = true ∧ n + 1 = 0) := fun h => Nat.succ_ne_zero n h.2
    refine .minus fun rest hrest => ?_
    rw [number_decimal hfits hrest.noDigit, continueNumber_of_ends hrest,
      wholeNumber_eq hvalue hsign inRange]

end InstructionStore.Json.Reader
