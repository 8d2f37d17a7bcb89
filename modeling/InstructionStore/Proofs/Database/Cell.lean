import InstructionStore.Database.Cell

/-!
# The order of cells

Cells are in a linear order, and so are pairs of them with the first cell
counting more. A list is sorted by such an order in one way only, whatever
order its rows were in before (`mergeSort_eq_of_perm`).
-/

namespace InstructionStore.Database

namespace Cell

/-- Cells of different kinds are ordered by their kind. -/
theorem le_of_rank_lt {a b : Cell} (h : a.rank < b.rank) : le a b = true := by
  cases a <;> cases b <;> simp [le, rank] at h ⊢

theorem rank_le_of_le {a b : Cell} (h : le a b = true) : a.rank ≤ b.rank := by
  cases a <;> cases b <;> simp [le, rank] at h ⊢

theorem le_total (a b : Cell) : (le a b || le b a) = true := by
  rw [Bool.or_eq_true]
  rcases Nat.lt_trichotomy a.rank b.rank with h | h | h
  · exact .inl (le_of_rank_lt h)
  · cases a <;> cases b <;> simp [rank] at h
    case null => exact .inl rfl
    case integer m n =>
      exact (Int64.le_total m n).imp decide_eq_true decide_eq_true
    case text s t =>
      simp only [le, Bool.not_eq_true', decide_eq_false_iff_not, String.not_lt]
      exact String.le_total s t
    case blob x y =>
      simp only [le, Bool.not_eq_true', decide_eq_false_iff_not, List.not_lt]
      exact List.le_total x y
  · exact .inr (le_of_rank_lt h)

theorem le_antisymm {a b : Cell} (hab : le a b = true) (hba : le b a = true) : a = b := by
  have hrank := Nat.le_antisymm (rank_le_of_le hab) (rank_le_of_le hba)
  cases a <;> cases b <;> simp [rank] at hrank
  case null => rfl
  case integer m n =>
    rw [Int64.le_antisymm (of_decide_eq_true hab) (of_decide_eq_true hba)]
  case text s t =>
    simp only [le, Bool.not_eq_true', decide_eq_false_iff_not, String.not_lt] at hab hba
    rw [String.le_antisymm hab hba]
  case blob x y =>
    simp only [le, Bool.not_eq_true', decide_eq_false_iff_not, List.not_lt] at hab hba
    rw [List.le_antisymm hab hba]

theorem le_trans {a b c : Cell} (hab : le a b = true) (hbc : le b c = true) :
    le a c = true := by
  have hrank := rank_le_of_le hab
  have hrank' := rank_le_of_le hbc
  rcases Nat.lt_or_ge a.rank c.rank with h | h
  · exact le_of_rank_lt h
  · obtain ⟨heq, heq'⟩ : a.rank = b.rank ∧ b.rank = c.rank := by omega
    cases a <;> cases b <;> simp [rank] at heq <;> cases c <;> simp [rank] at heq'
    case null => rfl
    case integer m n k =>
      exact decide_eq_true (Int64.le_trans (of_decide_eq_true hab) (of_decide_eq_true hbc))
    case text s t u =>
      simp only [le, Bool.not_eq_true', decide_eq_false_iff_not, String.not_lt] at hab hbc ⊢
      exact String.le_trans hab hbc
    case blob x y z =>
      simp only [le, Bool.not_eq_true', decide_eq_false_iff_not, List.not_lt] at hab hbc ⊢
      exact List.le_trans hab hbc

theorem lePair_total (a b : Cell × Cell) : (lePair a b || lePair b a) = true := by
  unfold lePair
  by_cases h : a.1 = b.1
  · rw [if_pos h, if_pos h.symm]
    exact le_total a.2 b.2
  · rw [if_neg h, if_neg (Ne.symm h)]
    exact le_total a.1 b.1

theorem lePair_antisymm {a b : Cell × Cell} (hab : lePair a b = true)
    (hba : lePair b a = true) : a = b := by
  unfold lePair at hab hba
  by_cases h : a.1 = b.1
  · rw [if_pos h] at hab
    rw [if_pos h.symm] at hba
    exact Prod.ext h (le_antisymm hab hba)
  · rw [if_neg h] at hab
    rw [if_neg (Ne.symm h)] at hba
    exact absurd (le_antisymm hab hba) h

theorem lePair_trans {a b c : Cell × Cell} (hab : lePair a b = true)
    (hbc : lePair b c = true) : lePair a c = true := by
  unfold lePair at hab hbc ⊢
  by_cases h : a.1 = b.1
  · rw [if_pos h] at hab
    by_cases h' : b.1 = c.1
    · rw [if_pos h'] at hbc
      rw [if_pos (h.trans h')]
      exact le_trans hab hbc
    · rw [if_neg h'] at hbc
      rw [if_neg (h ▸ h'), h]
      exact hbc
  · rw [if_neg h] at hab
    by_cases h' : b.1 = c.1
    · rw [if_neg (h' ▸ h), ← h']
      exact hab
    · rw [if_neg h'] at hbc
      have hne : ¬a.1 = c.1 := fun heq => h (le_antisymm hab (heq ▸ hbc))
      rw [if_neg hne]
      exact le_trans hab hbc

end Cell

section
variable {Row : Type} (key : Row → Cell × Cell)

/-- Rows sorted by a pair of their cells are in the order of these. -/
theorem pairwise_mergeSort_lePair (rows : List Row) :
    (rows.mergeSort fun a b => Cell.lePair (key a) (key b)).Pairwise
      fun a b => Cell.lePair (key a) (key b) = true := by
  refine List.pairwise_mergeSort (fun a b c hab hbc => ?_) (fun a b => ?_) rows
  · exact Cell.lePair_trans hab hbc
  · exact Cell.lePair_total (key a) (key b)

/-- **Rows with different keys are sorted in one way only.** -/
theorem mergeSort_eq_of_perm {rows sorted : List Row} (hperm : rows.Perm sorted)
    (hkey : ∀ a ∈ sorted, ∀ b ∈ sorted, key a = key b → a = b)
    (hsorted : sorted.Pairwise fun a b => Cell.lePair (key a) (key b) = true) :
    (rows.mergeSort fun a b => Cell.lePair (key a) (key b)) = sorted := by
  have hmerge : (rows.mergeSort fun a b => Cell.lePair (key a) (key b)).Perm sorted :=
    (List.mergeSort_perm rows _).trans hperm
  refine List.Perm.eq_of_pairwise (fun a b ha hb hab hba => ?_)
    (pairwise_mergeSort_lePair key rows) hsorted hmerge
  exact hkey a (hmerge.mem_iff.1 ha) b hb (Cell.lePair_antisymm hab hba)

end

end InstructionStore.Database
