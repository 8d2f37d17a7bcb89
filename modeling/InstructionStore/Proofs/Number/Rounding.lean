import InstructionStore.Number.Binary64
import Mathlib.Algebra.Ring.Nat
import Mathlib.Order.Monotone.Basic

/-!
# Rounding to the nearest rank

A rank is a place `m` in a block `s`, and it counts `m` steps of `2 ^ s` units
(`units_block`). Greater ranks are more units, and rounding is described by how
many units it is given. Up to half way to the next rank nothing greater is
reached (`nearestRank_le`), and from a rank on nothing smaller
(`le_nearestRank`). So rounding is monotone.
-/

namespace InstructionStore.Binary64

/-! ## Units -/

theorem span_pos : 0 < span := by decide

/-- **The ranks of a block count steps**, up to the first of the next block. The
blocks begin at `span`, besides that of zero. -/
theorem units_block {s m : Nat} (hle : m ≤ 2 * span) (hge : s = 0 ∨ span ≤ m) :
    units (s * span + m) = m * 2 ^ s := by
  have hpos := span_pos
  -- the quotient by `span` tells the block, and it is another one at both ends
  rcases Nat.lt_trichotomy m span with hm | rfl | hm
  · obtain rfl : s = 0 := hge.resolve_right (Nat.not_le.2 hm)
    rw [Nat.zero_mul, Nat.zero_add, Nat.pow_zero, Nat.mul_one, units_of_lt (by omega)]
  · have hdiv : (s * span + span) / span = s + 1 := by
      rw [← Nat.succ_mul, Nat.mul_div_cancel _ hpos]
    have hmod : (s * span + span) % span = 0 := by
      rw [← Nat.succ_mul, Nat.mul_mod_left]
    unfold units
    rw [hdiv, hmod, if_neg (Nat.succ_ne_zero s), Nat.add_zero, Nat.add_sub_cancel,
      Nat.shiftLeft_eq]
  · rcases Nat.lt_or_eq_of_le hle with hlt | rfl
    · have hdiv : (s * span + m) / span = s + 1 := by
        rw [show s * span + m = (s + 1) * span + (m - span) by rw [Nat.succ_mul]; omega,
          Nat.mul_comm, Nat.mul_add_div hpos, Nat.div_eq_of_lt (by omega), Nat.add_zero]
      have hmod : (s * span + m) % span = m - span := by
        rw [show s * span + m = (s + 1) * span + (m - span) by rw [Nat.succ_mul]; omega,
          Nat.mul_comm, Nat.mul_add_mod, Nat.mod_eq_of_lt (by omega)]
      unfold units
      rw [hdiv, hmod, if_neg (Nat.succ_ne_zero s), Nat.add_sub_cancel, Nat.shiftLeft_eq,
        Nat.add_sub_of_le (Nat.le_of_lt hm)]
    · have hdiv : (s * span + 2 * span) / span = s + 2 := by
        rw [← Nat.add_mul, Nat.mul_div_cancel _ hpos]
      have hmod : (s * span + 2 * span) % span = 0 := by
        rw [← Nat.add_mul, Nat.mul_mod_left]
      unfold units
      rw [hdiv, hmod, if_neg (Nat.succ_ne_zero _), Nat.add_zero,
        show s + 2 - 1 = s + 1 from rfl, Nat.shiftLeft_eq, Nat.pow_succ, Nat.mul_comm (2 ^ s),
        ← Nat.mul_assoc, Nat.mul_comm span]

/-- Every rank has a place in a block. -/
theorem exists_block (rank : Nat) :
    ∃ s m, rank = s * span + m ∧ m < 2 * span ∧ (s = 0 ∨ span ≤ m) := by
  have hpos := span_pos
  by_cases h : rank < 2 * span
  · exact ⟨0, rank, by rw [Nat.zero_mul, Nat.zero_add], h, .inl rfl⟩
  · have hdiv : 1 ≤ rank / span := by
      rw [Nat.le_div_iff_mul_le hpos]
      omega
    have hmod := Nat.mod_lt rank hpos
    refine ⟨rank / span - 1, span + rank % span, ?_, by omega, .inr (by omega)⟩
    rw [← Nat.add_assoc, ← Nat.succ_mul, Nat.succ_eq_add_one, Nat.sub_add_cancel hdiv,
      Nat.mul_comm, Nat.div_add_mod]

theorem units_lt_succ (rank : Nat) : units rank < units (rank + 1) := by
  obtain ⟨s, m, rfl, hlt, hge⟩ := exists_block rank
  rw [units_block (Nat.le_of_lt hlt) hge, Nat.add_assoc,
    units_block hlt (hge.imp_right fun h => Nat.le_succ_of_le h)]
  exact Nat.mul_lt_mul_of_pos_right (Nat.lt_succ_self m) (Nat.pow_pos (by decide))

/-- **Greater ranks are more units.** -/
theorem units_strictMono : StrictMono units := strictMono_nat_of_lt_succ units_lt_succ

theorem units_le {a b : Nat} (h : a ≤ b) : units a ≤ units b := units_strictMono.monotone h

/-! ## Rounding -/

/-- A whole number without its last bits, so many that 53 are left, lies within one
block, and in its upper half if any bits were dropped. -/
theorem block_of_log2 {quotient s : Nat} (hs : quotient.log2 + 1 - 53 = s) :
    quotient / 2 ^ s < 2 * span ∧ (s = 0 ∨ span ≤ quotient / 2 ^ s) := by
  have hpow : 0 < 2 ^ s := Nat.pow_pos (by decide)
  constructor
  · rw [Nat.div_lt_iff_lt_mul hpow, show 2 * span = 2 ^ 53 from rfl, ← Nat.pow_add]
    refine Nat.lt_of_lt_of_le Nat.lt_log2_self (Nat.pow_le_pow_right (by decide) ?_)
    omega
  · rcases Nat.eq_zero_or_pos s with h | h
    · exact .inl h
    · have hne : quotient ≠ 0 := by
        rintro rfl
        rw [Nat.log2_zero] at hs
        omega
      refine .inr ?_
      rw [Nat.le_div_iff_mul_le hpow, show span = 2 ^ 52 from rfl, ← Nat.pow_add]
      refine Nat.le_trans (Nat.pow_le_pow_right (by decide) ?_) (Nat.log2_self_le hne)
      omega

/-- **What rounding comes to**: the last rank that is not above, or the one after
it if that is not farther. -/
theorem nearestRank_cases (num : Nat) {den : Nat} (hden : 0 < den) :
    ∃ below, units below * den ≤ num ∧ num < units (below + 1) * den
      ∧ (nearestRank num den = below ∧ 2 * num ≤ (units below + units (below + 1)) * den
        ∨ nearestRank num den = below + 1
          ∧ (units below + units (below + 1)) * den ≤ 2 * num) := by
  generalize hs : (num / den).log2 + 1 - 53 = s
  generalize hm : num / (den * 2 ^ s) = m
  have hstep : 0 < den * 2 ^ s := Nat.mul_pos hden (Nat.pow_pos (by decide))
  have hquotient : m = num / den / 2 ^ s := by rw [← hm, Nat.div_div_eq_div_mul]
  obtain ⟨hlt, hge⟩ := block_of_log2 hs
  rw [← hquotient] at hlt hge
  -- the ratio lies between two neighbours, and it is rounded to the nearer one
  have hbelow := units_block (Nat.le_of_lt hlt) hge
  have habove := units_block hlt (hge.imp_right fun h => Nat.le_succ_of_le h)
  have hdivmod := Nat.div_add_mod num (den * 2 ^ s)
  have hmod := Nat.mod_lt num hstep
  rw [hm] at hdivmod
  have hunits : units (s * span + m) * den = den * 2 ^ s * m := by
    rw [hbelow, Nat.mul_comm, Nat.mul_comm m, Nat.mul_assoc]
  have hunits' : units (s * span + m + 1) * den = den * 2 ^ s * m + den * 2 ^ s := by
    rw [Nat.add_assoc, habove, Nat.mul_comm, Nat.mul_comm (m + 1), ← Nat.mul_assoc, Nat.mul_succ]
  refine ⟨s * span + m, by omega, by omega, ?_⟩
  rw [Nat.add_mul, hunits, hunits']
  unfold nearestRank
  dsimp only
  rw [hs, Nat.shiftLeft_eq, hm]
  split
  case isTrue hup => exact .inr ⟨(Nat.add_assoc _ _ _).symm, by omega⟩
  case isFalse hdown => exact .inl ⟨rfl, by omega⟩

/-- **Less than half way to the next rank** rounds to nothing greater. -/
theorem nearestRank_le {num den k : Nat} (hden : 0 < den)
    (h : 2 * num < (units k + units (k + 1)) * den) : nearestRank num den ≤ k := by
  obtain ⟨below, hle, -, ⟨hrank, -⟩ | ⟨hrank, hhalf⟩⟩ := nearestRank_cases num hden
  · rw [hrank]
    by_contra hlt
    have hk := units_le (Nat.le_of_lt (Nat.lt_of_not_le hlt))
    have hk' := units_le (Nat.lt_of_not_le hlt)
    have hsum : (units k + units (k + 1)) * den ≤ (units below + units below) * den :=
      Nat.mul_le_mul_right den (Nat.add_le_add hk hk')
    rw [← Nat.two_mul, Nat.mul_assoc] at hsum
    omega
  · rw [hrank]
    by_contra hlt
    have hk := units_le (Nat.le_of_lt_succ (Nat.lt_of_not_le hlt))
    have hk' := units_le (Nat.lt_of_not_le hlt)
    have hsum : (units k + units (k + 1)) * den ≤ (units below + units (below + 1)) * den :=
      Nat.mul_le_mul_right den (Nat.add_le_add hk hk')
    omega

/-- What is not more than a rank rounds to nothing greater. -/
theorem nearestRank_le_of_le {num den k : Nat} (hden : 0 < den) (h : num ≤ units k * den) :
    nearestRank num den ≤ k := by
  refine nearestRank_le hden ?_
  have hlt := Nat.mul_lt_mul_of_pos_right (units_lt_succ k) hden
  rw [Nat.add_mul]
  omega

/-- **What is not less than a rank** rounds to nothing smaller. -/
theorem le_nearestRank {num den k : Nat} (hden : 0 < den) (h : units k * den ≤ num) :
    k ≤ nearestRank num den := by
  obtain ⟨below, -, hlt, hrank⟩ := nearestRank_cases num hden
  have hk : units k < units (below + 1) :=
    Nat.lt_of_mul_lt_mul_right (Nat.lt_of_le_of_lt h hlt)
  have hle := Nat.le_of_lt_succ (units_strictMono.lt_iff_lt.1 hk)
  omega

/-- **Rounding is monotone.** -/
theorem nearestRank_mono {num num' den : Nat} (hden : 0 < den) (h : num ≤ num') :
    nearestRank num den ≤ nearestRank num' den := by
  rcases Nat.eq_or_lt_of_le h with rfl | hlt
  · exact Nat.le_refl _
  · refine nearestRank_le hden ?_
    obtain ⟨below, -, hlt', ⟨hrank, hhalf⟩ | ⟨hrank, -⟩⟩ := nearestRank_cases num' hden
    · rw [hrank]
      omega
    · have hmore := Nat.mul_lt_mul_of_pos_right (units_lt_succ (below + 1)) hden
      rw [hrank, Nat.add_mul]
      omega

theorem unitsInOne_pos : 0 < unitsInOne := by decide

theorem rankOfRatio_mono {num num' den : Nat} (hden : 0 < den) (h : num ≤ num') :
    rankOfRatio num den ≤ rankOfRatio num' den :=
  nearestRank_mono hden (Nat.mul_le_mul_right _ h)

theorem powerOfTenRank_mono {k k' : Nat} (h : k ≤ k') : powerOfTenRank k ≤ powerOfTenRank k' :=
  rankOfRatio_mono Nat.one_pos (Nat.pow_le_pow_right (by decide) h)

theorem mulRank_mono {a a' b b' : Nat} (ha : a ≤ a') (hb : b ≤ b') :
    mulRank a b ≤ mulRank a' b' :=
  nearestRank_mono unitsInOne_pos (Nat.mul_le_mul (units_le ha) (units_le hb))

/-- Dividing by one or more makes nothing greater. -/
theorem divRank_le {a b : Nat} (hb : unitsInOne ≤ units b) : divRank a b ≤ a :=
  nearestRank_le_of_le (Nat.lt_of_lt_of_le unitsInOne_pos hb) (Nat.mul_le_mul_left _ hb)

/-- A power of ten is one or more. -/
theorem unitsInOne_le_powerOfTenRank (k : Nat) : unitsInOne ≤ units (powerOfTenRank k) := by
  have hone : units (1023 * span) = unitsInOne := by decide
  rw [← hone]
  refine units_le (le_nearestRank Nat.one_pos ?_)
  rw [hone, Nat.mul_one]
  exact Nat.le_mul_of_pos_left _ (Nat.pow_pos (by decide))

end InstructionStore.Binary64
