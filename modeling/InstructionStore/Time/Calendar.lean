/-!
# The calendar

Days are counted from the first of January of the year 1, and years run in both
directions without end, each under the Gregorian rule.

The calendar is given twice over. `Date.dayCount` counts the days before a date
from the lengths of the years and of the months. `Date.ofDayCount` finds the
date of a day by dividing: a span of four hundred years has 146097 days, of
which each century but the last has one day less than its share, and likewise
downwards.
-/

namespace InstructionStore.Time

/-- Whether a year has a twenty-ninth of February. -/
def isLeap (year : Int) : Bool :=
  year % 4 == 0 && (year % 100 != 0 || year % 400 == 0)

/-- The lengths of the months of a year, from January on. -/
def monthLengths (year : Int) : List Nat :=
  [31, if isLeap year then 29 else 28, 31, 30, 31, 30, 31, 31, 30, 31, 30, 31]

/-- The number of days from the beginning of the year 1 to that of another
year; negative for the years before it. -/
def daysBeforeYear (year : Int) : Int :=
  let past := year - 1
  365 * past + past / 4 - past / 100 + past / 400

/-- **A date of the calendar.** -/
structure Date where
  /-- The year; the year before 1 is 0. -/
  year : Int
  /-- The month, from 1 on. -/
  month : Nat
  /-- The day of the month, from 1 on. -/
  day : Nat
deriving DecidableEq, Repr

namespace Date

/-- The number of days from the first of January of the year 1 to a date. -/
def dayCount (d : Date) : Int :=
  let past : Nat := ((monthLengths d.year).take (d.month - 1)).foldl (· + ·) 0
  daysBeforeYear d.year + past + (d.day - 1)

/-- Finds the month and the day of the month of a day, both from 1 on, given the
lengths of the months, the number of the first of them, and how many days have
passed before it. -/
def monthAndDay : List Nat → (month past : Nat) → Nat × Nat
  | length :: later, month, past =>
    if past < length then (month, past + 1) else monthAndDay later (month + 1) (past - length)
  | [], month, past => (month, past + 1)

/-- **The date of a day.** A span of four hundred years is cut into centuries,
these into spans of four years, and these into years; the last part of each cut
takes the leap day that the others lack. -/
def ofDayCount (days : Int) : Date :=
  let span := days / 146097
  let inSpan := (days % 146097).toNat
  let century := min (inSpan / 36524) 3
  let inCentury := inSpan - century * 36524
  let four := inCentury / 1461
  let inFour := inCentury - four * 1461
  let single := min (inFour / 365) 3
  let year := 400 * span + (100 * century + 4 * four + single : Nat) + 1
  let (month, day) := monthAndDay (monthLengths year) 1 (inFour - single * 365)
  { year, month, day }

end Date

end InstructionStore.Time
