/-!
# Finite binary64 numbers

A finite binary64 number is a sign and **a rank**: the place of its absolute
value when all of them are counted upward from zero. Ranks are what the
encoding of the format stores, so rank `k + 1` is always the next number after
rank `k`, and comparing two absolute values is comparing two ranks.

Every absolute value is a whole number of **units**, a unit being the smallest
positive value `2 ^ -1074`; `units` gives that whole number. The arithmetic
below is exact arithmetic on natural numbers followed by one rounding,
`nearestRank`: to the nearest rank, and to the even one of two equally near.

A result too large for the format is a rank of `limit` or more; the
operations return ranks, and only a rank below `limit` makes a number.
-/

namespace InstructionStore

/-- How many ranks there are between two powers of two. -/
def Binary64.span : Nat := 0x10000000000000

/-- The rank one beyond the largest finite number. -/
def Binary64.limit : Nat := 0x7ff * Binary64.span

/-- **A finite binary64 number.** Zero has two forms, one of each sign. -/
structure Binary64 where
  /-- Whether the sign is minus. -/
  negative : Bool
  /-- The place of the absolute value, counted from zero. -/
  rank : Nat
  /-- The absolute value is finite. -/
  rank_lt : rank < Binary64.limit
deriving DecidableEq

namespace Binary64

/-- How many units the absolute value of a given rank is. Over the first two
spans the ranks are consecutive units; from there the step doubles after every
span. -/
def units (rank : Nat) : Nat :=
  if rank / span = 0 then rank % span
  else (span + rank % span) <<< (rank / span - 1)

/-- One, in units. -/
def unitsInOne : Nat := 1 <<< 1074

/-- **The rank nearest to `num / den` units**, the even one of two equally
near. The step between neighbouring ranks is `2 ^ s`, where the quotient has
`53 + s` binary digits, or one when it has fewer. -/
def nearestRank (num den : Nat) : Nat :=
  let quotient := num / den
  let s := quotient.log2 + 1 - 53
  let step := den <<< s
  let m := num / step
  let r := num % step
  let up := step < 2 * r ∨ (step = 2 * r ∧ m % 2 = 1)
  s * span + (if up then m + 1 else m)

/-- The rank of the value nearest to the rational `num / den`. -/
def rankOfRatio (num den : Nat) : Nat := nearestRank (num * unitsInOne) den

/-- The rank of a rounded product. -/
def mulRank (a b : Nat) : Nat := nearestRank (units a * units b) unitsInOne

/-- The rank of a rounded quotient. -/
def divRank (a b : Nat) : Nat := nearestRank (units a * unitsInOne) (units b)

/-- A power of ten. -/
def powerOfTen (k : Nat) : Nat := Nat.pow 10 k

/-- The rank nearest to a power of ten. -/
def powerOfTenRank (k : Nat) : Nat := rankOfRatio (powerOfTen k) 1

/-- The number of a rank, when the rank is that of a finite number. -/
def ofRank? (negative : Bool) (rank : Nat) : Option Binary64 :=
  if h : rank < limit then some ⟨negative, rank, h⟩ else none

/-- Zero, with a sign. -/
def zero (negative : Bool) : Binary64 := ⟨negative, 0, by decide⟩

@[simp] theorem units_zero : units 0 = 0 := by simp [units]

/-- The ranks of the first two spans count units. -/
theorem units_of_lt {rank : Nat} (h : rank < 2 * span) : units rank = rank := by
  unfold units
  unfold span at *
  split
  · omega
  · have : rank / 0x10000000000000 = 1 := by omega
    rw [this]; simp only [Nat.sub_self, Nat.shiftLeft_zero]; omega

end Binary64

end InstructionStore
