import InstructionStore.Number.Binary64
import InstructionStore.Text.Numeral

/-!
# The shortest decimal that reads back

A binary64 number is written with **the fewest decimal digits that round to
it**, and among those with the digits nearest to its exact value.

The numbers that round to a given rank form an interval around its value: it
ends half way to either neighbour, and the ends belong to it when the rank is
even. On the decimal grid of `n` significant digits only the two points next
to the value need to be looked at, since any grid point of the interval has
one of them between itself and the value. `shortest` tries `n = 1, 2, …` and
stops at the first grid with a point in the interval; seventeen digits always
suffice.
-/

namespace InstructionStore.Binary64

/-- **A decimal**: `digits * 10 ^ exponent`. -/
structure Decimal where
  /-- The significant digits, as a whole number. -/
  digits : Nat
  /-- The power of ten that scales them. -/
  exponent : Int
deriving DecidableEq

/-- How many decimal digits a number has; zero has one. -/
def decimalLength (n : Nat) : Nat := (Text.decimal n).length

/-- The power of ten of the leading digit of a positive rank. -/
def leadingExponent (rank : Nat) : Int :=
  let u := units rank
  if unitsInOne ≤ u then (decimalLength (u / unitsInOne) : Int) - 1
  else -(decimalLength ((unitsInOne + u - 1) / u - 1) : Int)

/-- Whether `digits * 10 ^ exponent` rounds to a rank. The comparison is made
in half units over a common denominator, so that the ends of the interval are
whole numbers. -/
def roundsTo (rank : Nat) (d : Decimal) : Bool :=
  let low := units (rank - 1) + units rank
  let high := units rank + units (rank + 1)
  let num := 2 * d.digits * unitsInOne * powerOfTen d.exponent.toNat
  let den := powerOfTen (-d.exponent).toNat
  if rank % 2 = 0 then low * den ≤ num ∧ num ≤ high * den
  else low * den < num ∧ num < high * den

/-- The last point of a decimal grid that is not above the value of a rank. -/
def below (rank : Nat) (exponent : Int) : Decimal :=
  ⟨units rank * powerOfTen (-exponent).toNat / (unitsInOne * powerOfTen exponent.toNat), exponent⟩

/-- The point of a decimal grid chosen for a rank, if one of its two neighbours
rounds to the rank: the nearer one, and of two equally near the even one. -/
def onGrid (rank : Nat) (exponent : Int) : Option Decimal :=
  let below := below rank exponent
  let above : Decimal := ⟨below.digits + 1, exponent⟩
  let den := unitsInOne * powerOfTen exponent.toNat
  let r := units rank * powerOfTen (-exponent).toNat % den
  match roundsTo rank below, roundsTo rank above with
  | false, false => none
  | true, false => some below
  | false, true => some above
  | true, true =>
    if 2 * r < den ∨ (2 * r = den ∧ below.digits % 2 = 0) then some below else some above

/-- The first of the grids with `n`, `n + 1`, … digits that has a point for the
rank, `tries` grids at most. If none has, the point below on the last of them. -/
def firstGrid (rank : Nat) (leading : Int) : (n tries : Nat) → Decimal
  | n, 0 => below rank (leading + 2 - n)
  | n, tries + 1 =>
    match onGrid rank (leading + 1 - n) with
    | some d => d
    | none => firstGrid rank leading (n + 1) tries

/-- Moves the zeros at the end of the digits into the exponent. -/
def Decimal.trim (d : Decimal) : Decimal :=
  if h : d.digits ≠ 0 ∧ d.digits % 10 = 0 then trim ⟨d.digits / 10, d.exponent + 1⟩
  else d
termination_by d.digits
decreasing_by omega

/-- **The shortest decimal that rounds to a rank**, without zeros at its end. -/
def shortest (rank : Nat) : Decimal :=
  if rank = 0 then ⟨0, 0⟩
  else (firstGrid rank (leadingExponent rank) 1 17).trim

/-! ## Writing decimals -/

/-- **Positional notation**: no exponent, and at least one digit on either side
of the point. -/
def Decimal.positional (d : Decimal) : List Char :=
  let digits := Text.decimal d.digits
  match d.exponent with
  | .ofNat e => digits ++ List.replicate e '0' ++ ['.', '0']
  | .negSucc e =>
    let places := e + 1
    if places < digits.length then
      digits.take (digits.length - places) ++ '.' :: digits.drop (digits.length - places)
    else ['0', '.'] ++ List.replicate (places - digits.length) '0' ++ digits

/-- The power of ten of the leading digit. -/
def Decimal.magnitude (d : Decimal) : Int := (Text.decimal d.digits).length - 1 + d.exponent

/-- **Scientific notation**: one digit before the point, the point only when
digits follow it, and an exponent with its sign. -/
def Decimal.scientific (d : Decimal) : List Char :=
  let fraction := (Text.decimal d.digits).drop 1
  (Text.decimal d.digits).take 1 ++ (if fraction.isEmpty then [] else '.' :: fraction) ++
    'e' :: (if d.magnitude < 0 then '-' else '+') :: Text.decimal d.magnitude.natAbs

/-- **The number nearest to a decimal**, given by its sign, digits and
exponent; `none` when it is beyond the largest finite number. Exponents far
outside the range of the format are cut off before the power is formed. -/
def ofDecimal? (negative : Bool) (d : Decimal) : Option Binary64 :=
  let size : Int := decimalLength d.digits + d.exponent
  if d.digits = 0 ∨ size < -400 then some (zero negative)
  else if 400 < size then none
  else ofRank? negative
    (rankOfRatio (d.digits * powerOfTen d.exponent.toNat) (powerOfTen (-d.exponent).toNat))

end InstructionStore.Binary64
