import InstructionStore.Text.Numeral
import Mathlib.Algebra.Ring.Nat

/-!
# Digits

The decimal digits of a number are digits, denote the number
(`ofDigitChars_decimal`), and are as few as they can be: only zero begins with a
zero. Hexadecimal digits fill a width they do not exceed.
-/

namespace InstructionStore.Text

open Nat (ofDigitChars)

theorem isDigit_of_mem_decimal {n : Nat} {c : Char} (h : c ∈ decimal n) : c.isDigit = true :=
  Nat.isDigit_of_mem_toDigits (by decide) (by decide) h

theorem decimal_ne_nil (n : Nat) : decimal n ≠ [] := Nat.toDigits_ne_nil

/-- The digits of a number denote it. -/
theorem ofDigitChars_decimal (n : Nat) : ofDigitChars 10 (decimal n) 0 = n :=
  Nat.ofDigitChars_ten_toDigits

theorem digitValue_lt {c : Char} (h : c.isDigit = true) : c.toNat - '0'.toNat < 10 := by
  simp only [Char.isDigit, Bool.and_eq_true, decide_eq_true_eq] at h
  have hle : c.toNat ≤ 57 := h.2
  have hzero : '0'.toNat = 48 := rfl
  omega

/-- Digits denote less than the power of ten of their number. -/
theorem ofDigitChars_lt {digits : List Char} (h : ∀ c ∈ digits, c.isDigit = true) :
    ofDigitChars 10 digits 0 < 10 ^ digits.length := by
  induction digits with
  | nil => exact Nat.one_pos
  | cons c digits ih =>
    have hc := digitValue_lt (h c List.mem_cons_self)
    have hrest := ih fun d hd => h d (List.mem_cons_of_mem c hd)
    rw [Nat.ofDigitChars_cons, Nat.ofDigitChars_eq_ofDigitChars_zero, Nat.mul_zero, Nat.zero_add,
      List.length_cons, Nat.pow_succ]
    have hmul : 10 ^ digits.length * (c.toNat - '0'.toNat) ≤ 10 ^ digits.length * 9 :=
      Nat.mul_le_mul_left _ (by omega)
    omega

/-- **Only zero begins with a zero.** -/
theorem eq_zero_of_decimal {n : Nat} {rest : List Char} (h : decimal n = '0' :: rest) :
    n = 0 := by
  have hdigits : ∀ c ∈ rest, c.isDigit = true := fun c hc =>
    isDigit_of_mem_decimal (n := n) (h ▸ List.mem_cons_of_mem _ hc)
  have hvalue : ofDigitChars 10 rest 0 = n := by
    rw [← ofDigitChars_decimal n, h, Nat.ofDigitChars_cons]
    rfl
  have hlt := ofDigitChars_lt hdigits
  rw [hvalue] at hlt
  cases rest with
  | nil => exact Nat.lt_one_iff.1 hlt
  | cons c rest =>
    have hlength := (Nat.length_toDigits_le_iff (by decide) (Nat.succ_pos _)).2 hlt
    rw [show Nat.toDigits 10 n = '0' :: c :: rest from h, List.length_cons] at hlength
    exact absurd hlength (Nat.not_succ_le_self _)

/-! ## Widths -/

/-- Digits that fit a width are filled up to it. -/
theorem length_filled {width : Nat} {digits : List Char} (h : digits.length ≤ width) :
    (List.replicate (width - digits.length) '0' ++ digits).length = width := by
  rw [List.length_append, List.length_replicate]
  omega

theorem length_paddedDecimal {width n : Nat} (hwidth : 0 < width) (h : n < 10 ^ width) :
    (paddedDecimal width n).length = width :=
  length_filled ((Nat.length_toDigits_le_iff (by decide) hwidth).2 h)

theorem isDigit_of_mem_paddedDecimal {width n : Nat} {c : Char} (h : c ∈ paddedDecimal width n) :
    c.isDigit = true := by
  rcases List.mem_append.1 h with hzero | hmem
  · exact (List.mem_replicate.1 hzero).2 ▸ rfl
  · exact isDigit_of_mem_decimal hmem

/-- The zeros in front of a number do not change it. -/
theorem ofDigitChars_paddedDecimal (width n : Nat) :
    ofDigitChars 10 (paddedDecimal width n) 0 = n := by
  unfold paddedDecimal
  rw [Nat.ofDigitChars_append, Nat.ofDigitChars_replicate_zero, Nat.mul_zero]
  exact ofDigitChars_decimal n

/-! ## Hexadecimal digits -/

/-- The hexadecimal digits of a number are digits to the base sixteen. -/
theorem isSome_digit?_of_mem_hex {n : Nat} {c : Char} (h : c ∈ hex n) :
    (digit? 16 c).isSome = true := by
  have hdigit : ∀ d < 16, (digit? 16 (Nat.digitChar d)).isSome = true := by decide
  unfold hex at h
  induction n using Nat.strongRecOn with
  | ind n ih =>
    rw [Nat.toDigits_eq_if (by decide)] at h
    split at h
    case isTrue hlt => exact List.mem_singleton.1 h ▸ hdigit n hlt
    case isFalse hge =>
      rcases List.mem_append.1 h with hmem | hlast
      · exact ih (n / 16) (Nat.div_lt_self (by omega) (by decide)) hmem
      · exact List.mem_singleton.1 hlast ▸ hdigit _ (Nat.mod_lt _ (by decide))

theorem isSome_digit?_of_mem_paddedHex {width n : Nat} {c : Char} (h : c ∈ paddedHex width n) :
    (digit? 16 c).isSome = true := by
  rcases List.mem_append.1 h with hzero | hmem
  · exact (List.mem_replicate.1 hzero).2 ▸ rfl
  · exact isSome_digit?_of_mem_hex hmem

/-- A number that fits the width is filled up to it. -/
theorem length_paddedHex {width n : Nat} (hwidth : 0 < width) (h : n < 16 ^ width) :
    (paddedHex width n).length = width :=
  length_filled ((Nat.length_toDigits_le_iff (by decide) hwidth).2 h)

end InstructionStore.Text
