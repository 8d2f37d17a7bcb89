/-!
# Names in plain letters

Where only plain letters will do, a part of a name is written with those of its
characters that are plain, a hyphen, and a **run of digits** that tells which
other characters go where. The digits are the 26 letters and then the ten
figures. They form numbers of varying length: a digit below a threshold ends a
number, and the threshold depends on the place of the digit and on the numbers
before it.

Each number is a distance, in the order of all pairs of a character and a place,
to the next character to be put in. `decode?` reads such a part. Distances that
do not fit in 32 bits are refused.
-/

namespace InstructionStore.Web.Punycode

/-- The value of a digit; letters of both cases count. -/
def digit? (c : Char) : Option Nat :=
  if 'a' ≤ c ∧ c ≤ 'z' then some (c.toNat - 'a'.toNat)
  else if 'A' ≤ c ∧ c ≤ 'Z' then some (c.toNat - 'A'.toNat)
  else if '0' ≤ c ∧ c ≤ '9' then some (c.toNat - '0'.toNat + 26)
  else none

/-- The threshold at a place of a number: at least 1 and at most 26. -/
def threshold (place bias : Nat) : Nat := min 26 (max 1 (place - bias))

/-- The first number above what distances can be. -/
def limit : Nat := 0x100000000

/-- **One number** of a run of digits, with the digits after it. The digit in
front has a weight and a place, and what was read before it is added to. -/
def number? (bias : Nat) : (place weight sum : Nat) → List Char → Option (Nat × List Char)
  | _, _, _, [] => none
  | place, weight, sum, c :: rest =>
    match digit? c with
    | none => none
    | some d =>
      let sum := sum + d * weight
      if limit ≤ sum then none
      else
        let t := threshold place bias
        if d < t then some (sum, rest)
        else
          let weight := weight * (36 - t)
          if limit ≤ weight then none else number? bias (place + 36) weight sum rest

theorem length_of_number? {bias place weight sum n : Nat} {digits rest : List Char}
    (h : number? bias place weight sum digits = some (n, rest)) : rest.length < digits.length := by
  induction digits generalizing place weight sum with
  | nil => simp [number?] at h
  | cons c tail ih =>
    simp only [number?] at h
    split at h
    · exact absurd h (by simp)
    · split at h
      · exact absurd h (by simp)
      · split at h
        · simp only [Option.some.injEq, Prod.mk.injEq] at h
          simp [← h.2]
        · split at h
          · exact absurd h (by simp)
          · exact Nat.lt_succ_of_lt (ih h)

/-- Divides a distance until it is small, counting by 36. -/
def settle (delta k : Nat) : Nat :=
  if 455 < delta then settle (delta / 35) (k + 36) else k + 36 * delta / (delta + 38)
termination_by delta
decreasing_by omega

/-- The bias after a distance to the character that makes the text so long. -/
def adapt (delta length : Nat) (isFirst : Bool) : Nat :=
  let delta := if isFirst then delta / 700 else delta / 2
  settle (delta + delta / length) 0

/-- Puts the characters of a run of digits into a text. The next distance counts
from a code point and a place. -/
def fill (text : List Char) (codePoint place bias : Nat) (digits : List Char) :
    Option (List Char) :=
  if digits.isEmpty then some text
  else
    match _h : number? bias 36 1 place digits with
    | none => none
    | some (reached, rest) =>
      let length := text.length + 1
      let codePoint := codePoint + reached / length
      let index := reached % length
      if codePoint.isValidChar then
        fill (text.insertIdx index (Char.ofNat codePoint)) codePoint (index + 1)
          (adapt (reached - place) length (place = 0)) rest
      else none
termination_by digits.length
decreasing_by exact length_of_number? _h

/-- **The part of a name** that a text in plain letters stands for. Capitals count
as small letters. There is no hyphen in front of the digits when there is nothing
in front of the hyphen. -/
def decode? (text : List Char) : Option (List Char) :=
  let digits := (text.reverse.takeWhile (· != '-')).reverse
  let plain := (text.reverse.dropWhile (· != '-')).reverse
  if plain = ['-'] then none else fill (plain.dropLast.map Char.toLower) 128 0 72 digits

end InstructionStore.Web.Punycode
