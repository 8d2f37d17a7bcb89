import InstructionStore.Text.Numeral
import InstructionStore.Time.Calendar

/-!
# Points in time

A point in time is kept as a number of milliseconds since the beginning of the year
1970, in universal time. `text` writes one as a date and a time of day with the
letter `T` between them and the letter `Z` behind:
`2024-02-29T00:00:00.25Z`. What is below a second is written as a fraction of it
without zeros at its end, and left out when there is nothing.

Calendar time is counted in nanoseconds, which milliseconds are converted to first.
An `Instant` is such a time whose year has at most four digits, of either sign. The
written form has room for years from 0 to 9999 only. All other times are written as
the beginning of the year 1970, those that are no instant as well as those whose
year is negative.
-/

namespace InstructionStore.Time

/-- The nanoseconds of a number of milliseconds, as a signed word of 128 bits. -/
def nanoseconds (ms : Int64) : BitVec 128 := ms.toBitVec.signExtend 128 * 1000000#128

/-- The nanoseconds of a day. -/
def dayLength : Int := 86400000000000

/-- The number of days from the beginning of the year 1 to that of 1970. -/
def epochDay : Int := daysBeforeYear 1970

/-- The date of a number of nanoseconds since the beginning of the year 1970. -/
def date (ns : Int) : Date := .ofDayCount (ns / dayLength + epochDay)

/-- The nanoseconds passed of the day. -/
def ofDay (ns : Int) : Nat := (ns % dayLength).toNat

/-! ## Writing -/

/-- Digits without the zeros at their end. -/
def withoutFinalZeros (digits : List Char) : List Char :=
  (digits.reverse.dropWhile (· = '0')).reverse

/-- Nanoseconds below a second as a fraction: digits behind a point, and no zero at
the end. -/
def fractionText (ns : Nat) : List Char :=
  if ns = 0 then [] else '.' :: withoutFinalZeros (Text.paddedDecimal 9 ns)

/-- A date as a year of four digits, a month and a day of two. -/
def dateText (d : Date) : List Char :=
  Text.paddedDecimal 4 d.year.toNat ++ '-' :: Text.paddedDecimal 2 d.month ++
    '-' :: Text.paddedDecimal 2 d.day

/-- The nanoseconds passed of a day as a time of day. -/
def clockText (ns : Nat) : List Char :=
  Text.paddedDecimal 2 (ns / 3600000000000) ++
    ':' :: Text.paddedDecimal 2 (ns / 60000000000 % 60) ++
    ':' :: Text.paddedDecimal 2 (ns / 1000000000 % 60) ++ fractionText (ns % 1000000000)

/-! ## Instants -/

/-- **A time whose year has at most four digits.** -/
structure Instant where
  /-- The nanoseconds since the beginning of the year 1970. -/
  nanoseconds : Int
  /-- Its year has at most four digits. -/
  inRange : -9999 ≤ (date nanoseconds).year ∧ (date nanoseconds).year ≤ 9999

namespace Instant

/-- The instant of a number of nanoseconds, if there is one. -/
def ofNanoseconds? (ns : Int) : Option Instant :=
  if h : -9999 ≤ (date ns).year ∧ (date ns).year ≤ 9999 then some ⟨ns, h⟩ else none

/-- The beginning of the year 1970. -/
def epoch : Instant := ⟨0, by decide⟩

/-- An instant as text, if its year can be written. -/
def text? (t : Instant) : Option String :=
  if (date t.nanoseconds).year < 0 then none
  else some (String.ofList
    (dateText (date t.nanoseconds) ++ 'T' :: clockText (ofDay t.nanoseconds) ++ ['Z']))

end Instant

/-- What stands for the times that cannot be written. -/
def epochText : String := "1970-01-01T00:00:00Z"

/-- **A point in time as text.** -/
def text (ms : Int64) : String :=
  ((Instant.ofNanoseconds? (nanoseconds ms).toInt).getD .epoch).text?.getD epochText

end InstructionStore.Time
