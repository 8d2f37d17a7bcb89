import InstructionStore.Time.Calendar
import Mathlib.Algebra.GroupWithZero.Nat
import Mathlib.Tactic.ByContra

/-!
# The calendar counts days

Days can be counted in two ways. One adds up the lengths of the years and months that have
passed, and the other divides. `Date.dayCount_ofDayCount` says that the division finds the
date whose days are counted, and `Date.ofDayCount_isValid` that this is a date of the calendar.

Each division cuts a span into parts of one length, although the last part is one day longer
or shorter than the others. `IsCut` says what the divisions come to. Nothing is lost, because
the days before a year are those of the parts that have passed (`IsCut.daysBeforeYear_eq`), and
what is left over never goes beyond the year, because the leap day is the last day of the last
part (`IsCut.rest_lt_yearLength`).
-/

namespace InstructionStore.Time

/-! ## Years -/

/-- The days of a year. -/
def yearLength (year : Int) : Nat := if isLeap year then 366 else 365

theorem isLeap_iff {year : Int} :
    isLeap year = true ↔ year % 4 = 0 ∧ (year % 100 ≠ 0 ∨ year % 400 = 0) := by
  simp [isLeap]

/-- The months of a year have the days of the year. -/
theorem sum_monthLengths (year : Int) : (monthLengths year).sum = yearLength year := by
  unfold monthLengths yearLength
  cases isLeap year <;> rfl

/-- **The next year begins when the days of this one have passed.** -/
theorem daysBeforeYear_succ (year : Int) :
    daysBeforeYear (year + 1) = daysBeforeYear year + yearLength year := by
  unfold daysBeforeYear yearLength
  split
  case isTrue h =>
    rw [isLeap_iff] at h
    dsimp only
    omega
  case isFalse h =>
    rw [isLeap_iff] at h
    dsimp only
    omega

/-- Later years begin later. -/
theorem daysBeforeYear_lt {year year' : Int} (h : year < year') :
    daysBeforeYear year < daysBeforeYear year' := by
  unfold daysBeforeYear
  dsimp only
  omega

/-- **The year of a day**, counted like the days from the beginning of the year 1. -/
def IsYearOf (year day : Int) : Prop :=
  daysBeforeYear year ≤ day ∧ day < daysBeforeYear (year + 1)

theorem IsYearOf.unique {year year' day : Int} (h : IsYearOf year day)
    (h' : IsYearOf year' day) : year = year' := by
  have hle {a b : Int} (ha : IsYearOf a day) (hb : IsYearOf b day) : a ≤ b := by
    by_contra hlt
    have hnext : b + 1 ≤ a := by omega
    have hbegins : daysBeforeYear (b + 1) ≤ daysBeforeYear a := by
      rcases Int.lt_or_eq_of_le hnext with hlater | heq
      · exact Int.le_of_lt (daysBeforeYear_lt hlater)
      · exact Int.le_of_eq (congrArg daysBeforeYear heq)
    exact Int.lt_irrefl day (Int.lt_of_lt_of_le hb.2 (Int.le_trans hbegins ha.1))
  exact Int.le_antisymm (hle h h') (hle h' h)

/-! ## Parts of a span of four hundred years -/

/-- **What the divisions come to**: a day of a span of four hundred years, counted from zero, lies
in one of its centuries, there in one of the spans of four years, and there in a year. Only the
last year of four can have a 366th day, and the last four years of a century only if the century
is the last. -/
structure IsCut (inSpan century four single rest : Nat) : Prop where
  /-- There are four centuries. -/
  century_le : century ≤ 3
  /-- A century has twenty-five spans of four years. -/
  four_le : four ≤ 24
  /-- There are four single years. -/
  single_le : single ≤ 3
  /-- The parts that have passed, and what is left over. -/
  sum : inSpan = 36524 * century + 1461 * four + 365 * single + rest
  /-- Where a 366th day can be. -/
  rest_lt : rest < 365 ∨ rest = 365 ∧ single = 3 ∧ (four < 24 ∨ century = 3)

theorem isCut_of_lt {inSpan : Nat} (h : inSpan < 146097) :
    let century := min (inSpan / 36524) 3
    let inCentury := inSpan - century * 36524
    let four := inCentury / 1461
    let inFour := inCentury - four * 1461
    let single := min (inFour / 365) 3
    IsCut inSpan century four single (inFour - single * 365) := by
  dsimp only
  constructor <;> omega

namespace IsCut

variable {inSpan century four single rest : Nat}

/-- **The days before a year are those of the parts that have passed.** -/
theorem daysBeforeYear_eq (h : IsCut inSpan century four single rest) (span : Int) :
    daysBeforeYear (400 * span + (100 * century + 4 * four + single : Nat) + 1) + rest
      = 146097 * span + inSpan := by
  have := h.century_le
  have := h.four_le
  have := h.single_le
  have := h.sum
  unfold daysBeforeYear
  dsimp only
  omega

/-- A 366th day is that of a leap year. -/
theorem rest_lt_yearLength (h : IsCut inSpan century four single rest) (span : Int) :
    rest < yearLength (400 * span + (100 * century + 4 * four + single : Nat) + 1) := by
  unfold yearLength
  rcases h.rest_lt with hlt | ⟨hrest, hsingle, hleap⟩
  · split <;> omega
  · have := h.century_le
    have := h.four_le
    rw [if_pos]
    · omega
    · rw [isLeap_iff]
      omega

end IsCut

/-! ## Dates -/

namespace Date

/-- **A date of the calendar**: there is such a month, and it has such a day. -/
structure IsValid (d : Date) : Prop where
  /-- Months are counted from 1 on. -/
  month_pos : 1 ≤ d.month
  /-- The year has the month, and the month has the day. -/
  day_le : ∃ length, (monthLengths d.year)[d.month - 1]? = some length ∧ d.day ≤ length
  /-- Days are counted from 1 on. -/
  day_pos : 1 ≤ d.day

theorem length_monthLengths (year : Int) : (monthLengths year).length = 12 := rfl

/-- There are twelve months. -/
theorem IsValid.month_le {d : Date} (h : d.IsValid) : d.month ≤ 12 := by
  obtain ⟨length, hlength, -⟩ := h.day_le
  have hlt := (List.getElem?_eq_some_iff.1 hlength).1
  rw [length_monthLengths] at hlt
  omega

/-- No month has more than thirty-one days. -/
theorem IsValid.day_le_last {d : Date} (h : d.IsValid) : d.day ≤ 31 := by
  obtain ⟨length, hlength, hle⟩ := h.day_le
  have hlast : ∀ n ∈ monthLengths d.year, n ≤ 31 := by
    unfold monthLengths
    cases isLeap d.year <;> decide
  exact Nat.le_trans hle (hlast length (List.mem_of_getElem? hlength))

/-- The month of a day is the first whose end has not passed. -/
theorem exists_monthAndDay {lengths : List Nat} (month : Nat) {past : Nat}
    (h : past < lengths.sum) :
    ∃ before length after, lengths = before ++ length :: after ∧ before.sum ≤ past
      ∧ past - before.sum < length
      ∧ monthAndDay lengths month past = (month + before.length, past - before.sum + 1) := by
  induction lengths generalizing month past with
  | nil => exact absurd h (Nat.not_lt_zero _)
  | cons length later ih =>
    unfold monthAndDay
    by_cases hhere : past < length
    · rw [if_pos hhere]
      exact ⟨[], length, later, rfl, Nat.zero_le _, hhere, rfl⟩
    · rw [if_neg hhere]
      rw [List.sum_cons] at h
      have hlater : past - length < later.sum := by omega
      obtain ⟨before, found, after, rfl, hle, hlt, heq⟩ := ih (month + 1) hlater
      refine ⟨length :: before, found, after, rfl, ?_, ?_, ?_⟩
      · rw [List.sum_cons]
        omega
      · rw [List.sum_cons]
        omega
      · rw [heq, List.sum_cons, List.length_cons]
        exact Prod.ext (by simp only; omega) (by simp only; omega)

/-- The division finds a year that has the day, and the place of the day in it. -/
theorem exists_ofDayCount (days : Int) :
    ∃ (year : Int) (past : Nat), daysBeforeYear year + past = days ∧ past < yearLength year
      ∧ ofDayCount days = ⟨year, (monthAndDay (monthLengths year) 1 past).1,
        (monthAndDay (monthLengths year) 1 past).2⟩ := by
  have hspan : ((days % 146097).toNat : Int) = days % 146097 :=
    Int.toNat_of_nonneg (Int.emod_nonneg _ (by decide))
  have hlt : (days % 146097).toNat < 146097 := by omega
  have hcut := isCut_of_lt hlt
  refine ⟨_, _, ?_, hcut.rest_lt_yearLength (days / 146097), rfl⟩
  rw [hcut.daysBeforeYear_eq, hspan]
  exact Int.mul_ediv_add_emod days 146097

/-- **The year that is found is that of the day.** -/
theorem isYearOf_ofDayCount (days : Int) : IsYearOf (ofDayCount days).year days := by
  obtain ⟨year, past, hdays, hpast, heq⟩ := exists_ofDayCount days
  rw [heq]
  unfold IsYearOf
  dsimp only
  rw [daysBeforeYear_succ]
  omega

/-- The day of a date that is found, as one of its year and one of its month. -/
theorem exists_split_ofDayCount (days : Int) :
    ∃ before length after, monthLengths (ofDayCount days).year = before ++ length :: after
      ∧ (ofDayCount days).month = before.length + 1
      ∧ 1 ≤ (ofDayCount days).day ∧ (ofDayCount days).day ≤ length
      ∧ daysBeforeYear (ofDayCount days).year + before.sum + ((ofDayCount days).day - 1)
        = days := by
  obtain ⟨year, past, hdays, hpast, heq⟩ := exists_ofDayCount days
  rw [← sum_monthLengths] at hpast
  obtain ⟨before, length, after, hsplit, hle, hlt, hmonth⟩ := exists_monthAndDay 1 hpast
  rw [heq, hmonth]
  refine ⟨before, length, after, hsplit, Nat.add_comm _ _, ?_, ?_, ?_⟩
  all_goals dsimp only
  all_goals omega

/-- **The division finds a date of the calendar.** -/
theorem ofDayCount_isValid (days : Int) : (ofDayCount days).IsValid := by
  obtain ⟨before, length, after, hsplit, hmonth, hpos, hle, -⟩ := exists_split_ofDayCount days
  refine ⟨hmonth ▸ Nat.le_add_left 1 _, ⟨length, ?_, hle⟩, hpos⟩
  rw [hsplit, hmonth, Nat.add_sub_cancel, List.getElem?_append_right (Nat.le_refl _), Nat.sub_self,
    List.getElem?_cons_zero]

/-- **The date that is found is the one the days are counted to.** -/
theorem dayCount_ofDayCount (days : Int) : (ofDayCount days).dayCount = days := by
  obtain ⟨before, length, after, hsplit, hmonth, -, -, hdays⟩ := exists_split_ofDayCount days
  unfold dayCount
  rw [hsplit, hmonth, Nat.add_sub_cancel, List.take_left, ← List.sum_eq_foldl]
  exact hdays

end Date

end InstructionStore.Time
