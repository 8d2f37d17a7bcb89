import InstructionStore.Number.Shortest
import InstructionStore.Proofs.Number.Rounding
import Mathlib.Tactic.Ring

/-!
# What the shortest decimal of a rank is like

The decimal written for a number has at most seventeen digits, its leading digit
is that of the number, and it is not more than half way to the next number
(`shortest_isNear`). That it is the shortest to round to the number is not used
here.

A comparison of decimals is one of whole numbers once both sides are scaled by
the powers of ten that their exponents lack. `Decimal.AtMost` is such a
comparison, and all that is needed about exponents is how these powers go
together, which `omega` tells.
-/

namespace InstructionStore.Binary64

/-- The decimal is at most `num / den`. -/
def Decimal.AtMost (d : Decimal) (num den : Nat) : Prop :=
  d.digits * 10 ^ d.exponent.toNat * den ≤ num * 10 ^ (-d.exponent).toNat

/-- **What is known of the decimal of a rank.** -/
structure Decimal.IsNear (rank : Nat) (d : Decimal) : Prop where
  /-- It is not zero. -/
  pos : 1 ≤ d.digits
  /-- It has few digits. -/
  short : d.digits ≤ 10 ^ 17
  /-- It is not more than half way to the next rank. -/
  atMost : d.AtMost (units rank + units (rank + 1)) (2 * unitsInOne)
  /-- Its exponent is not far below that of the leading digit. -/
  exponent : leadingExponent rank - 16 ≤ d.exponent

theorem ten_pow_pos (n : Nat) : 0 < 10 ^ n := Nat.pow_pos (by decide)

theorem powerOfTen_le {k n : Nat} (h : k ≤ n) : powerOfTen k ≤ 10 ^ n :=
  Nat.pow_le_pow_right (by decide) h

/-! ## The leading digit -/

theorem lt_ten_pow_decimalLength (n : Nat) : n < 10 ^ decimalLength n :=
  (Nat.length_toDigits_le_iff (by decide) Nat.length_toDigits_pos).1 (Nat.le_refl _)

theorem ten_pow_le_of_decimalLength {n : Nat} (h : 0 < n) : 10 ^ (decimalLength n - 1) ≤ n := by
  rcases Nat.eq_zero_or_pos (decimalLength n - 1) with hone | hmore
  · rw [hone]
    exact h
  · refine Nat.le_of_not_lt fun hlt => ?_
    have hle := (Nat.length_toDigits_le_iff (by decide) hmore).2 hlt
    have hpos : 0 < decimalLength n := Nat.length_toDigits_pos
    have hle' : decimalLength n ≤ decimalLength n - 1 := hle
    omega

theorem decimalLength_pos (n : Nat) : 0 < decimalLength n := Nat.length_toDigits_pos

theorem units_pos {rank : Nat} (h : 0 < rank) : 0 < units rank := by
  have hlt := units_strictMono h
  rwa [units_zero] at hlt

/-- **The leading exponent is that of the leading digit**: the value lies between
its power of ten and the next. -/
theorem leadingExponent_spec {rank : Nat} (h : 0 < rank) :
    unitsInOne * 10 ^ (leadingExponent rank).toNat
        ≤ units rank * 10 ^ (-leadingExponent rank).toNat
      ∧ units rank * 10 ^ (-(leadingExponent rank + 1)).toNat
        < unitsInOne * 10 ^ (leadingExponent rank + 1).toNat := by
  have hone := unitsInOne_pos
  have hpos := units_pos h
  unfold leadingExponent
  generalize units rank = u at hpos
  generalize unitsInOne = one at hone
  dsimp only
  split
  case isTrue hge =>
    -- the value is one or more, and the digits of its whole part are counted
    have hquotient : 0 < u / one := Nat.div_pos hge hone
    have hlow := ten_pow_le_of_decimalLength hquotient
    have hhigh := lt_ten_pow_decimalLength (u / one)
    have hlength := decimalLength_pos (u / one)
    generalize decimalLength (u / one) = length at *
    rw [show ((length : Int) - 1).toNat = length - 1 by omega,
      show (-((length : Int) - 1)).toNat = 0 by omega,
      show ((length : Int) - 1 + 1).toNat = length by omega,
      show (-((length : Int) - 1 + 1)).toNat = 0 by omega, Nat.pow_zero, Nat.mul_one]
    rw [Nat.le_div_iff_mul_le hone] at hlow
    rw [Nat.div_lt_iff_lt_mul hone] at hhigh
    exact ⟨by rwa [Nat.mul_comm], by rwa [Nat.mul_comm one]⟩
  case isFalse hlt =>
    -- the value is less than one, and the digits of what it goes into one are counted,
    -- rounded up and less one so that a power of ten does not count as more
    generalize hc : (one + u - 1) / u = c
    have hceil : c * u ≤ one + u - 1 := by
      rw [← hc]
      exact Nat.div_mul_le_self _ _
    have hfloor : one + u - 1 < (c + 1) * u := by
      rw [← hc, Nat.mul_comm]
      exact Nat.lt_mul_div_succ _ hpos
    have htwo : 2 ≤ c := by
      rw [← hc, Nat.le_div_iff_mul_le hpos]
      omega
    have hlow := ten_pow_le_of_decimalLength (show 0 < c - 1 by omega)
    have hhigh := lt_ten_pow_decimalLength (c - 1)
    have hlength := decimalLength_pos (c - 1)
    generalize decimalLength (c - 1) = length at *
    rw [show (-(length : Int)).toNat = 0 by omega,
      show (-(-(length : Int))).toNat = length by omega,
      show (-(length : Int) + 1).toNat = 0 by omega,
      show (-(-(length : Int) + 1)).toNat = length - 1 by omega, Nat.pow_zero, Nat.mul_one]
    constructor
    · calc one ≤ c * u := by rw [Nat.add_mul] at hfloor; omega
        _ ≤ 10 ^ length * u := Nat.mul_le_mul_right u (by omega)
        _ = u * 10 ^ length := Nat.mul_comm _ _
    · have hless : (c - 1) * u < one := by
        rw [Nat.sub_mul]
        omega
      calc u * 10 ^ (length - 1) = 10 ^ (length - 1) * u := Nat.mul_comm _ _
        _ ≤ (c - 1) * u := Nat.mul_le_mul_right u hlow
        _ < one := hless

/-! ## The points of a grid -/

/-- The powers of ten of an exponent and of one that is `n` less. -/
theorem ten_pow_shift (e : Int) (n : Nat) :
    10 ^ e.toNat * 10 ^ (-(e - n)).toNat
      = 10 ^ n * 10 ^ (e - n).toNat * 10 ^ (-e).toNat := by
  rw [← Nat.pow_add, ← Nat.pow_add, ← Nat.pow_add]
  congr 1
  omega

/-- **On a grid of `n` digits the point below has no more than them.** -/
theorem below_digits_lt {rank : Nat} (h : 0 < rank) (n : Nat) :
    (below rank (leadingExponent rank + 1 - n)).digits < 10 ^ n := by
  have hspec := (leadingExponent_spec h).2
  have hshift := ten_pow_shift (leadingExponent rank + 1) n
  generalize leadingExponent rank + 1 = e at hspec hshift ⊢
  have hden : 0 < unitsInOne * 10 ^ (e - n).toNat :=
    Nat.mul_pos unitsInOne_pos (ten_pow_pos _)
  show units rank * 10 ^ (-(e - n)).toNat / (unitsInOne * 10 ^ (e - n).toNat) < 10 ^ n
  rw [Nat.div_lt_iff_lt_mul hden]
  refine Nat.lt_of_mul_lt_mul_right (a := 10 ^ (-e).toNat) ?_
  calc units rank * 10 ^ (-(e - n)).toNat * 10 ^ (-e).toNat
      = units rank * 10 ^ (-e).toNat * 10 ^ (-(e - n)).toNat := Nat.mul_right_comm _ _ _
    _ < unitsInOne * 10 ^ e.toNat * 10 ^ (-(e - n)).toNat :=
      Nat.mul_lt_mul_of_pos_right hspec (ten_pow_pos _)
    _ = unitsInOne * (10 ^ n * 10 ^ (e - n).toNat * 10 ^ (-e).toNat) := by
      rw [Nat.mul_assoc, hshift]
    _ = 10 ^ n * (unitsInOne * 10 ^ (e - n).toNat) * 10 ^ (-e).toNat := by
      rw [← Nat.mul_assoc, ← Nat.mul_assoc, ← Nat.mul_assoc, Nat.mul_comm unitsInOne]

/-- On a grid that has the place of the leading digit the point below is not
zero. -/
theorem one_le_below_digits {rank : Nat} (h : 0 < rank) (n : Nat) :
    1 ≤ (below rank (leadingExponent rank - n)).digits := by
  have hspec := (leadingExponent_spec h).1
  have hshift := ten_pow_shift (leadingExponent rank) n
  generalize leadingExponent rank = e at hspec hshift ⊢
  have hden : 0 < unitsInOne * 10 ^ (e - n).toNat :=
    Nat.mul_pos unitsInOne_pos (ten_pow_pos _)
  show 1 ≤ units rank * 10 ^ (-(e - n)).toNat / (unitsInOne * 10 ^ (e - n).toNat)
  rw [Nat.le_div_iff_mul_le hden, Nat.one_mul]
  refine Nat.le_of_mul_le_mul_right ?_ (ten_pow_pos (-e).toNat)
  calc unitsInOne * 10 ^ (e - n).toNat * 10 ^ (-e).toNat
      ≤ unitsInOne * (10 ^ n * 10 ^ (e - n).toNat) * 10 ^ (-e).toNat :=
        Nat.mul_le_mul_right _ (Nat.mul_le_mul_left _ (Nat.le_mul_of_pos_left _ (ten_pow_pos n)))
    _ = unitsInOne * 10 ^ e.toNat * 10 ^ (-(e - n)).toNat := by
      rw [Nat.mul_assoc, ← hshift, Nat.mul_assoc]
    _ ≤ units rank * 10 ^ (-e).toNat * 10 ^ (-(e - n)).toNat := Nat.mul_le_mul_right _ hspec
    _ = units rank * 10 ^ (-(e - n)).toNat * 10 ^ (-e).toNat := Nat.mul_right_comm _ _ _

theorem atMost_below (rank : Nat) (e : Int) :
    (below rank e).AtMost (units rank + units (rank + 1)) (2 * unitsInOne) := by
  have hle : (below rank e).digits * (unitsInOne * 10 ^ e.toNat)
      ≤ units rank * 10 ^ (-e).toNat := Nat.div_mul_le_self _ _
  have hlt := Nat.le_of_lt (units_lt_succ rank)
  show (below rank e).digits * 10 ^ e.toNat * (2 * unitsInOne)
    ≤ (units rank + units (rank + 1)) * 10 ^ (-e).toNat
  calc (below rank e).digits * 10 ^ e.toNat * (2 * unitsInOne)
      = 2 * ((below rank e).digits * (unitsInOne * 10 ^ e.toNat)) := by ring
    _ ≤ 2 * (units rank * 10 ^ (-e).toNat) := Nat.mul_le_mul_left 2 hle
    _ = (units rank + units rank) * 10 ^ (-e).toNat := by ring
    _ ≤ (units rank + units (rank + 1)) * 10 ^ (-e).toNat :=
      Nat.mul_le_mul_right _ (Nat.add_le_add_left hlt _)

/-- What rounds to a rank is not more than half way to the next. -/
theorem atMost_of_roundsTo {rank : Nat} {d : Decimal} (h : roundsTo rank d = true) :
    d.AtMost (units rank + units (rank + 1)) (2 * unitsInOne) := by
  have hle : 2 * d.digits * unitsInOne * 10 ^ d.exponent.toNat
      ≤ (units rank + units (rank + 1)) * 10 ^ (-d.exponent).toNat := by
    unfold roundsTo at h
    dsimp only at h
    split at h
    · exact (of_decide_eq_true h).2
    · exact Nat.le_of_lt (of_decide_eq_true h).2
  unfold Decimal.AtMost
  calc d.digits * 10 ^ d.exponent.toNat * (2 * unitsInOne)
      = 2 * d.digits * unitsInOne * 10 ^ d.exponent.toNat := by ring
    _ ≤ _ := hle

/-- The point chosen on a grid is the one below or the one after it. -/
theorem onGrid_cases {rank : Nat} {e : Int} {d : Decimal} (h : onGrid rank e = some d) :
    d = below rank e
      ∨ d = ⟨(below rank e).digits + 1, e⟩ ∧ roundsTo rank d = true := by
  unfold onGrid at h
  dsimp only at h
  split at h
  case h_1 => exact nomatch h
  case h_2 => exact .inl (Option.some.inj h).symm
  case h_3 habove => exact .inr ⟨(Option.some.inj h).symm, Option.some.inj h ▸ habove⟩
  case h_4 habove =>
    split at h
    · exact .inl (Option.some.inj h).symm
    · exact .inr ⟨(Option.some.inj h).symm, Option.some.inj h ▸ habove⟩

/-- **The point below on a grid of up to seventeen digits** is near. -/
theorem below_isNear {rank : Nat} (h : 0 < rank) {n : Nat} (hn : n < 17) :
    (below rank (leadingExponent rank - n)).IsNear rank where
  pos := one_le_below_digits h n
  short := by
    have hlt := below_digits_lt h (n + 1)
    rw [show leadingExponent rank + 1 - ((n + 1 : Nat) : Int) = leadingExponent rank - n by omega]
      at hlt
    exact Nat.le_of_lt (Nat.lt_of_lt_of_le hlt (Nat.pow_le_pow_right (by decide) hn))
  atMost := atMost_below rank _
  exponent := by
    show leadingExponent rank - 16 ≤ leadingExponent rank - n
    omega

theorem onGrid_isNear {rank : Nat} (h : 0 < rank) {n : Nat} (hn : n < 17) {d : Decimal}
    (hd : onGrid rank (leadingExponent rank - n) = some d) : d.IsNear rank := by
  have hbelow := below_isNear h hn
  rcases onGrid_cases hd with rfl | ⟨rfl, hrounds⟩
  · exact hbelow
  · have hlt := below_digits_lt h (n + 1)
    rw [show leadingExponent rank + 1 - ((n + 1 : Nat) : Int) = leadingExponent rank - n by omega]
      at hlt
    exact ⟨Nat.le_add_left 1 _,
      Nat.le_trans hlt (Nat.pow_le_pow_right (by decide) hn), atMost_of_roundsTo hrounds,
      hbelow.exponent⟩

theorem firstGrid_isNear {rank : Nat} (h : 0 < rank) {n tries : Nat} (hn : n + tries = 17) :
    (firstGrid rank (leadingExponent rank) (n + 1) tries).IsNear rank := by
  induction tries generalizing n with
  | zero =>
    have hexponent : leadingExponent rank + 2 - ((n + 1 : Nat) : Int)
        = leadingExponent rank - (16 : Nat) := by omega
    rw [firstGrid, hexponent]
    exact below_isNear h (by decide)
  | succ tries ih =>
    have hexponent : leadingExponent rank + 1 - ((n + 1 : Nat) : Int)
        = leadingExponent rank - n := by omega
    rw [firstGrid, hexponent]
    split
    case h_1 d hd => exact onGrid_isNear h (by omega) hd
    case h_2 => exact ih (by omega)

/-- Zeros at the end of the digits are as well in the exponent. -/
theorem trim_isNear {rank : Nat} (d : Decimal) (h : d.IsNear rank) : d.trim.IsNear rank := by
  fun_induction Decimal.trim d with
  | case1 d hzero ih =>
    refine ih ⟨?_, ?_, ?_, ?_⟩
    · show 1 ≤ d.digits / 10
      omega
    · exact Nat.le_trans (Nat.div_le_self _ _) h.short
    · -- both sides are multiplied by a power of ten that makes the exponents natural
      have hdigits : d.digits = d.digits / 10 * 10 := by omega
      have hpow : 10 ^ (d.exponent + 1).toNat * 10 ^ (-d.exponent).toNat
          = 10 * 10 ^ d.exponent.toNat * 10 ^ (-(d.exponent + 1)).toNat := by
        rw [← Nat.pow_add, ← Nat.pow_succ', ← Nat.pow_add]
        congr 1
        omega
      have hle := h.atMost
      unfold Decimal.AtMost at hle ⊢
      dsimp only
      generalize units rank + units (rank + 1) = high at hle ⊢
      generalize 2 * unitsInOne = one at hle ⊢
      refine Nat.le_of_mul_le_mul_right ?_ (ten_pow_pos (-d.exponent).toNat)
      calc d.digits / 10 * 10 ^ (d.exponent + 1).toNat * one * 10 ^ (-d.exponent).toNat
          = d.digits / 10 * one * (10 ^ (d.exponent + 1).toNat * 10 ^ (-d.exponent).toNat) := by
            ring
        _ = d.digits / 10 * 10 * 10 ^ d.exponent.toNat * one
            * 10 ^ (-(d.exponent + 1)).toNat := by
          rw [hpow]
          ring
        _ ≤ high * 10 ^ (-d.exponent).toNat * 10 ^ (-(d.exponent + 1)).toNat := by
          rw [← hdigits]
          exact Nat.mul_le_mul_right _ hle
        _ = high * 10 ^ (-(d.exponent + 1)).toNat * 10 ^ (-d.exponent).toNat :=
          Nat.mul_right_comm _ _ _
    · exact Int.le_trans h.exponent (Int.le_add_one (Int.le_refl _))
  | case2 d => exact h

/-- **The shortest decimal of a rank is near it.** -/
theorem shortest_isNear {rank : Nat} (h : 0 < rank) : (shortest rank).IsNear rank := by
  unfold shortest
  rw [if_neg (Nat.ne_of_gt h)]
  exact trim_isNear _ (firstGrid_isNear h rfl)

/-! ## Exponents -/

/-- The exponent of a number is not far below zero. -/
theorem le_leadingExponent {rank : Nat} (h : 0 < rank) : -324 ≤ leadingExponent rank := by
  refine Int.not_lt.1 fun hlt => ?_
  have hspec := (leadingExponent_spec h).2
  rw [show (leadingExponent rank + 1).toNat = 0 by omega, Nat.pow_zero, Nat.mul_one] at hspec
  have hpow : powerOfTen 324 ≤ 10 ^ (-(leadingExponent rank + 1)).toNat :=
    powerOfTen_le (by omega)
  have hone : unitsInOne < powerOfTen 324 := by decide +kernel
  have hle := Nat.le_mul_of_pos_left (10 ^ (-(leadingExponent rank + 1)).toNat) (units_pos h)
  exact absurd (Nat.lt_of_lt_of_le hone (Nat.le_trans hpow hle)) (Nat.lt_asymm hspec)

/-- The exponent of a finite number is not far above zero. -/
theorem Decimal.IsNear.exponent_le {rank : Nat} {d : Decimal} (h : d.IsNear rank)
    (hrank : rank < limit) : d.exponent ≤ 308 := by
  refine Int.not_lt.1 fun hlt => ?_
  have hle := h.atMost
  unfold AtMost at hle
  rw [show (-d.exponent).toNat = 0 by omega, Nat.pow_zero, Nat.mul_one] at hle
  have hhigh : units rank + units (rank + 1) ≤ units limit + units limit :=
    Nat.add_le_add (units_le (Nat.le_of_lt hrank)) (units_le hrank)
  have hbound : units limit + units limit < powerOfTen 309 * (2 * unitsInOne) := by
    decide +kernel
  have hpow : powerOfTen 309 * (2 * unitsInOne)
      ≤ d.digits * 10 ^ d.exponent.toNat * (2 * unitsInOne) :=
    Nat.mul_le_mul_right _ (Nat.le_trans (powerOfTen_le (by omega))
      (Nat.le_mul_of_pos_left _ h.pos))
  exact absurd (Nat.le_trans hpow (Nat.le_trans hle hhigh)) (Nat.not_le.2 hbound)

end InstructionStore.Binary64
