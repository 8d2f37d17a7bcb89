import InstructionStore.Proofs.Text.Numeral
import InstructionStore.Proofs.Time.Calendar
import InstructionStore.Time.Timestamp
import Mathlib.Data.List.Basic
import Mathlib.Data.List.TakeWhile
import Mathlib.Tactic.Ring

/-!
# Points in time are written faithfully

A written time can be read without the program that wrote it. `Stamp` is such a time, as the
digits between its separators; `Stamp.IsProper` says how many digits there are and what they
may come to, and `Stamp.milliseconds` counts the days of the date and the time that has passed of
the day. Since the digits stand at fixed places, a text denotes one time at most
(`Denotes.unique`).

What is written denotes the time it was written for (`denotes_text`), if its year has four
digits, and so no two such times look alike. Three things could go wrong on the way. The
nanoseconds that milliseconds are converted to might not fit their word (`toInt_nanoseconds`).
The date is found by dividing, and the time of day is what remains, also before 1970, where the
time is negative. And the zeros at the end of a fraction are taken away, however many there are
(`trimmed_fraction`): those of nine digits of nanoseconds, of which the milliseconds take three.

All other times are written alike (`text_of_not_writable`).
-/

namespace InstructionStore.Time

open Nat (ofDigitChars)
open Text

/-! ## Written times -/

/-- The number of some digits. -/
def number (digits : List Char) : Nat := ofDigitChars 10 digits 0

/-- **Digits of a width.** -/
structure IsNumeral (width : Nat) (digits : List Char) : Prop where
  /-- There are as many as the width. -/
  length : digits.length = width
  /-- They are digits. -/
  isDigit : ∀ c ∈ digits, c.isDigit = true

/-- **A written time**, as the digits between its separators. -/
structure Stamp where
  /-- The year. -/
  year : List Char
  /-- The month. -/
  month : List Char
  /-- The day of the month. -/
  day : List Char
  /-- The hours. -/
  hour : List Char
  /-- The minutes. -/
  minute : List Char
  /-- The seconds. -/
  second : List Char
  /-- What follows the point, if there is one. -/
  fraction : List Char

namespace Stamp

/-- The date that is written. -/
def date (s : Stamp) : Date := ⟨number s.year, number s.month, number s.day⟩

/-- The time of day that is written, in milliseconds. -/
def ofDay (s : Stamp) : Nat :=
  ((number s.hour * 60 + number s.minute) * 60 + number s.second) * 1000
    + number s.fraction * 10 ^ (3 - s.fraction.length)

/-- **The time that is written**, in milliseconds since the beginning of the year 1970. -/
def milliseconds (s : Stamp) : Int := (s.date.dayCount - epochDay) * 86400000 + s.ofDay

/-- A fraction behind its point, or nothing. -/
def pointed (fraction : List Char) : List Char :=
  if fraction = [] then [] else '.' :: fraction

/-- **The characters of a written time**: `YYYY-MM-DDTHH:MM:SS.fZ`, without the point if there is
no fraction. -/
def chars (s : Stamp) : List Char :=
  (s.year ++ '-' :: s.month ++ '-' :: s.day) ++
    'T' :: (s.hour ++ ':' :: s.minute ++ ':' :: s.second ++ pointed s.fraction) ++ ['Z']

/-- **A time that is properly written.** -/
structure IsProper (s : Stamp) : Prop where
  /-- The year has four digits. -/
  year : IsNumeral 4 s.year
  /-- The month has two digits. -/
  month : IsNumeral 2 s.month
  /-- The day has two digits. -/
  day : IsNumeral 2 s.day
  /-- The hours have two digits. -/
  hour : IsNumeral 2 s.hour
  /-- The minutes have two digits. -/
  minute : IsNumeral 2 s.minute
  /-- The seconds have two digits. -/
  second : IsNumeral 2 s.second
  /-- The fraction is made of digits. -/
  fraction : ∀ c ∈ s.fraction, c.isDigit = true
  /-- These are three at most. -/
  fraction_length : s.fraction.length ≤ 3
  /-- The last of them is no zero. -/
  fraction_last : s.fraction.getLast? ≠ some '0'
  /-- There is such a date. -/
  date : s.date.IsValid
  /-- A day has twenty-four hours. -/
  hour_lt : number s.hour < 24
  /-- An hour has sixty minutes. -/
  minute_lt : number s.minute < 60
  /-- A minute has sixty seconds. -/
  second_lt : number s.second < 60

end Stamp

/-- **What a text denotes**, read as a written time. -/
def Denotes (text : String) (ms : Int) : Prop :=
  ∃ s : Stamp, s.IsProper ∧ text = String.ofList s.chars ∧ s.milliseconds = ms

/-! ## Reading is unambiguous -/

theorem IsNumeral.append_inj {width : Nat} {a b x y : List Char} {c : Char}
    (ha : IsNumeral width a) (hb : IsNumeral width b) (h : a ++ c :: x = b ++ c :: y) :
    a = b ∧ x = y := by
  obtain ⟨rfl, hrest⟩ := List.append_inj h (ha.length.trans hb.length.symm)
  exact ⟨rfl, (List.cons.inj hrest).2⟩

theorem Stamp.pointed_inj {f f' : List Char} (h : pointed f = pointed f') : f = f' := by
  unfold pointed at h
  split at h <;> split at h
  case isTrue.isTrue hf hf' => rw [hf, hf']
  case isTrue.isFalse => exact nomatch h
  case isFalse.isTrue => exact nomatch h
  case isFalse.isFalse => exact (List.cons.inj h).2

/-- **The digits of a written time stand at fixed places.** -/
theorem Stamp.chars_inj {s s' : Stamp} (h : s.IsProper) (h' : s'.IsProper)
    (heq : s.chars = s'.chars) : s = s' := by
  unfold chars at heq
  simp only [List.append_assoc, List.cons_append] at heq
  obtain ⟨hyear, heq⟩ := h.year.append_inj h'.year heq
  obtain ⟨hmonth, heq⟩ := h.month.append_inj h'.month heq
  obtain ⟨hday, heq⟩ := h.day.append_inj h'.day heq
  obtain ⟨hhour, heq⟩ := h.hour.append_inj h'.hour heq
  obtain ⟨hminute, heq⟩ := h.minute.append_inj h'.minute heq
  obtain ⟨hsecond, heq⟩ := List.append_inj heq (h.second.length.trans h'.second.length.symm)
  have hfraction := pointed_inj (List.append_cancel_right heq)
  cases s
  cases s'
  simp only [Stamp.mk.injEq]
  exact ⟨hyear, hmonth, hday, hhour, hminute, hsecond, hfraction⟩

/-- **A text denotes one time at most.** -/
theorem Denotes.unique {text : String} {ms ms' : Int} (h : Denotes text ms)
    (h' : Denotes text ms') : ms = ms' := by
  obtain ⟨s, hs, rfl, rfl⟩ := h
  obtain ⟨s', hs', heq, rfl⟩ := h'
  rw [Stamp.chars_inj hs hs' (String.ofList_injective heq)]

/-! ## Fractions -/

theorem isNumeral_paddedDecimal {width n : Nat} (hwidth : 0 < width) (h : n < 10 ^ width) :
    IsNumeral width (paddedDecimal width n) :=
  ⟨length_paddedDecimal hwidth h, fun _ => isDigit_of_mem_paddedDecimal⟩

theorem number_paddedDecimal (width n : Nat) : number (paddedDecimal width n) = n :=
  ofDigitChars_paddedDecimal width n

theorem number_append_zeros (digits : List Char) (k : Nat) :
    number (digits ++ List.replicate k '0') = 10 ^ k * number digits := by
  unfold number
  rw [Nat.ofDigitChars_append, Nat.ofDigitChars_replicate_zero]

/-- What is taken away from the end of digits are zeros. -/
theorem exists_eq_append_zeros (digits : List Char) :
    ∃ k, digits = withoutFinalZeros digits ++ List.replicate k '0' := by
  refine ⟨(digits.reverse.takeWhile (· = '0')).length, ?_⟩
  have hzeros : digits.reverse.takeWhile (· = '0')
      = List.replicate (digits.reverse.takeWhile (· = '0')).length '0' :=
    List.eq_replicate_iff.2 ⟨rfl, fun c hc => by simpa using List.mem_takeWhile_imp hc⟩
  have hsplit := congrArg List.reverse
    (List.takeWhile_append_dropWhile (p := (· = '0')) (l := digits.reverse))
  rw [List.reverse_append, List.reverse_reverse, hzeros, List.reverse_replicate] at hsplit
  exact hsplit.symm

theorem getLast?_withoutFinalZeros (digits : List Char) :
    (withoutFinalZeros digits).getLast? ≠ some '0' := by
  unfold withoutFinalZeros
  rw [List.getLast?_reverse]
  intro h
  have hnot := List.head?_dropWhile_not (· = '0') digits.reverse
  rw [h] at hnot
  exact absurd hnot (by decide)

/-- Digits that end in something else than a zero denote no multiple of ten. -/
theorem not_ten_dvd_number {digits : List Char} (hne : digits ≠ [])
    (hdigits : ∀ c ∈ digits, c.isDigit = true) (hlast : digits.getLast? ≠ some '0') :
    ¬10 ∣ number digits := by
  obtain ⟨before, c, rfl⟩ := (List.eq_nil_or_concat' digits).resolve_left hne
  have hc : c.isDigit = true := hdigits c (List.mem_append_right _ List.mem_cons_self)
  have hvalue : number (before ++ [c]) = 10 * number before + (c.toNat - '0'.toNat) := by
    unfold number
    rw [Nat.ofDigitChars_append, Nat.ofDigitChars_cons]
    rfl
  have hlt := digitValue_lt hc
  rw [hvalue]
  intro hdvd
  have hzero : c.toNat = '0'.toNat := by
    have hle : '0'.toNat ≤ c.toNat := by
      simp only [Char.isDigit, Bool.and_eq_true, decide_eq_true_eq] at hc
      exact hc.1
    omega
  rw [List.getLast?_concat, Char.toNat_inj.1 hzero] at hlast
  exact hlast rfl

/-- Nine digits of milliseconds that are counted in nanoseconds leave three at most, if the
zeros at their end are taken away. -/
theorem six_le_of_trimmed {m k : Nat} {f : List Char} (hlength : f.length + k = 9)
    (hvalue : 10 ^ k * number f = m * 10 ^ 6) (hdigits : ∀ c ∈ f, c.isDigit = true)
    (hlast : f.getLast? ≠ some '0') : 6 ≤ k := by
  by_contra hfew
  have hne : f ≠ [] := by
    rintro rfl
    rw [List.length_nil] at hlength
    omega
  -- with fewer than six zeros taken away the last digit that is left would be a zero
  obtain ⟨j, hj⟩ : ∃ j, 6 = k + (j + 1) := ⟨5 - k, by omega⟩
  refine not_ten_dvd_number hne hdigits hlast ⟨m * 10 ^ j, ?_⟩
  refine Nat.eq_of_mul_eq_mul_left (Nat.pow_pos (by decide) : 0 < 10 ^ k) ?_
  rw [hvalue, hj]
  ring

/-- **Milliseconds as a fraction.** -/
theorem trimmed_fraction {m k : Nat} {f : List Char} (hlength : f.length + k = 9)
    (hvalue : 10 ^ k * number f = m * 10 ^ 6) (hdigits : ∀ c ∈ f, c.isDigit = true)
    (hlast : f.getLast? ≠ some '0') :
    f.length ≤ 3 ∧ number f * 10 ^ (3 - f.length) = m := by
  obtain ⟨j, rfl⟩ := Nat.exists_eq_add_of_le (six_le_of_trimmed hlength hvalue hdigits hlast)
  have hj : 3 - f.length = j := by omega
  refine ⟨by omega, ?_⟩
  rw [hj]
  refine Nat.eq_of_mul_eq_mul_right (Nat.pow_pos (by decide) : 0 < 10 ^ 6) ?_
  rw [← hvalue]
  ring

/-! ## What is written -/

/-- The fraction of some milliseconds below a second. -/
def fractionOf (ms : Nat) : List Char := withoutFinalZeros (paddedDecimal 9 (ms * 1000000))

/-- The zeros that are taken away are a power of ten by which the number is smaller. -/
theorem exists_zeros_of_fractionOf (ms : Nat) :
    ∃ k, paddedDecimal 9 (ms * 1000000) = fractionOf ms ++ List.replicate k '0'
      ∧ 10 ^ k * number (fractionOf ms) = ms * 1000000 := by
  obtain ⟨k, hk⟩ := exists_eq_append_zeros (paddedDecimal 9 (ms * 1000000))
  refine ⟨k, hk, ?_⟩
  have hvalue := congrArg number hk
  rw [number_paddedDecimal, number_append_zeros] at hvalue
  exact hvalue.symm

theorem isDigit_of_mem_fractionOf {ms : Nat} {c : Char} (h : c ∈ fractionOf ms) :
    c.isDigit = true := by
  obtain ⟨k, hk, -⟩ := exists_zeros_of_fractionOf ms
  exact isDigit_of_mem_paddedDecimal (hk ▸ List.mem_append_left _ h)

/-- The fraction has three digits at most, and they denote the milliseconds. -/
theorem fractionOf_denotes {ms : Nat} (h : ms < 1000) :
    (fractionOf ms).length ≤ 3 ∧
      number (fractionOf ms) * 10 ^ (3 - (fractionOf ms).length) = ms := by
  obtain ⟨k, hk, hvalue⟩ := exists_zeros_of_fractionOf ms
  have hlength := congrArg List.length hk
  rw [length_paddedDecimal (by decide) (by omega), List.length_append, List.length_replicate]
    at hlength
  exact trimmed_fraction hlength.symm hvalue (fun c => isDigit_of_mem_fractionOf)
    (getLast?_withoutFinalZeros _)

theorem fractionText_eq (ms : Nat) :
    fractionText (ms * 1000000) = Stamp.pointed (fractionOf ms) := by
  unfold fractionText Stamp.pointed
  split
  case isTrue hzero =>
    rw [if_pos]
    unfold fractionOf
    rw [hzero]
    rfl
  case isFalse hne =>
    rw [if_neg]
    · rfl
    · intro hnil
      obtain ⟨k, -, hvalue⟩ := exists_zeros_of_fractionOf ms
      rw [hnil] at hvalue
      exact hne hvalue.symm

namespace Stamp

/-- **How a date and the milliseconds passed of a day are written.** -/
def ofParts (d : Date) (ms : Nat) : Stamp where
  year := paddedDecimal 4 d.year.toNat
  month := paddedDecimal 2 d.month
  day := paddedDecimal 2 d.day
  hour := paddedDecimal 2 (ms / 3600000)
  minute := paddedDecimal 2 (ms / 60000 % 60)
  second := paddedDecimal 2 (ms / 1000 % 60)
  fraction := fractionOf (ms % 1000)

theorem chars_ofParts (d : Date) (ms : Nat) :
    (ofParts d ms).chars = dateText d ++ 'T' :: clockText (ms * 1000000) ++ ['Z'] := by
  have hhour : ms * 1000000 / 3600000000000 = ms / 3600000 := by omega
  have hminute : ms * 1000000 / 60000000000 = ms / 60000 := by omega
  have hsecond : ms * 1000000 / 1000000000 = ms / 1000 := by omega
  have hfraction : ms * 1000000 % 1000000000 = ms % 1000 * 1000000 := by omega
  unfold dateText clockText chars ofParts
  rw [hhour, hminute, hsecond, hfraction, fractionText_eq]

variable {d : Date} {ms : Nat}

theorem date_ofParts (hyear : 0 ≤ d.year) : (ofParts d ms).date = d := by
  unfold date ofParts
  simp only [number_paddedDecimal, Int.toNat_of_nonneg hyear]

theorem ofDay_ofParts (d : Date) (ms : Nat) : (ofParts d ms).ofDay = ms := by
  have hfraction := (fractionOf_denotes (Nat.mod_lt ms (by decide : 0 < 1000))).2
  unfold ofDay ofParts
  simp only [number_paddedDecimal]
  rw [hfraction]
  omega

/-- **A date and a time of day are properly written**, if the year has four digits. -/
theorem ofParts_isProper (hd : d.IsValid) (hyear : 0 ≤ d.year) (hyear' : d.year ≤ 9999)
    (hms : ms < 86400000) : (ofParts d ms).IsProper := by
  have hmonth := hd.month_le
  have hday := hd.day_le_last
  have htwo {n : Nat} (hn : n < 100) : IsNumeral 2 (paddedDecimal 2 n) :=
    isNumeral_paddedDecimal (by decide) hn
  have hfraction := (fractionOf_denotes (Nat.mod_lt ms (by decide : 0 < 1000))).1
  exact {
    year := isNumeral_paddedDecimal (by decide) (by omega)
    month := htwo (by omega)
    day := htwo (by omega)
    hour := htwo (by omega)
    minute := htwo (by omega)
    second := htwo (by omega)
    fraction := fun c => isDigit_of_mem_fractionOf
    fraction_length := hfraction
    fraction_last := getLast?_withoutFinalZeros _
    date := (date_ofParts hyear).symm ▸ hd
    hour_lt := (number_paddedDecimal 2 _).trans_lt (by omega)
    minute_lt := (number_paddedDecimal 2 _).trans_lt (Nat.mod_lt _ (by decide))
    second_lt := (number_paddedDecimal 2 _).trans_lt (Nat.mod_lt _ (by decide)) }

end Stamp

/-! ## Points in time -/

/-- **The conversion to nanoseconds does not overflow.** -/
theorem toInt_nanoseconds (ms : Int64) : (nanoseconds ms).toInt = ms.toInt * 1000000 := by
  have hlow := ms.le_toInt
  have hhigh := ms.toInt_lt
  unfold nanoseconds
  rw [BitVec.toInt_mul, BitVec.toInt_signExtend_of_le (by decide), Int64.toInt_toBitVec,
    show (1000000#128).toInt = 1000000 by decide, Int.bmod_eq_of_le]
  all_goals omega

/-- **The year a time lies in**, given in milliseconds since the beginning of the year 1970. -/
def IsInYear (year ms : Int) : Prop :=
  (daysBeforeYear year - epochDay) * 86400000 ≤ ms
    ∧ ms < (daysBeforeYear (year + 1) - epochDay) * 86400000

theorem isInYear_iff {year ms : Int} :
    IsInYear year ms ↔ IsYearOf year (ms / 86400000 + epochDay) := by
  unfold IsInYear IsYearOf
  omega

variable {ms : Int64}

theorem date_nanoseconds (ms : Int64) :
    date (nanoseconds ms).toInt = .ofDayCount (ms.toInt / 86400000 + epochDay) := by
  rw [toInt_nanoseconds]
  unfold date dayLength
  congr 2
  omega

theorem ofDay_nanoseconds (ms : Int64) :
    ofDay (nanoseconds ms).toInt = (ms.toInt % 86400000).toNat * 1000000 := by
  rw [toInt_nanoseconds]
  unfold ofDay dayLength
  omega

/-- The year of a time is that of its date. -/
theorem isInYear_iff_date {year : Int} :
    IsInYear year ms.toInt ↔ year = (date (nanoseconds ms).toInt).year := by
  rw [isInYear_iff, date_nanoseconds]
  have hyear := Date.isYearOf_ofDayCount (ms.toInt / 86400000 + epochDay)
  exact ⟨fun h => h.unique hyear, fun h => h ▸ hyear⟩

/-- **A time whose year has four digits is written as its date and time of day.** -/
theorem text_of_writable (hyear : 0 ≤ (date (nanoseconds ms).toInt).year)
    (hyear' : (date (nanoseconds ms).toInt).year ≤ 9999) :
    text ms = String.ofList (Stamp.ofParts (date (nanoseconds ms).toInt)
      (ms.toInt % 86400000).toNat).chars := by
  have hinstant : Instant.ofNanoseconds? (nanoseconds ms).toInt
      = some ⟨(nanoseconds ms).toInt, by omega, hyear'⟩ := dif_pos _
  unfold text
  rw [hinstant, Option.getD_some, Instant.text?, if_neg (Int.not_lt.2 hyear), Option.getD_some,
    Stamp.chars_ofParts, ofDay_nanoseconds]

/-- **All other times are written as the beginning of the year 1970.** -/
theorem text_of_not_writable (h : ¬(0 ≤ (date (nanoseconds ms).toInt).year
    ∧ (date (nanoseconds ms).toInt).year ≤ 9999)) : text ms = "1970-01-01T00:00:00Z" := by
  have hepoch : Instant.epoch.text? = some epochText := by decide +kernel
  unfold text
  by_cases hinstant : -9999 ≤ (date (nanoseconds ms).toInt).year
      ∧ (date (nanoseconds ms).toInt).year ≤ 9999
  · rw [show Instant.ofNanoseconds? (nanoseconds ms).toInt = some ⟨_, hinstant⟩ from dif_pos _,
      Option.getD_some, Instant.text?, if_pos (by dsimp only; omega)]
    rfl
  · rw [show Instant.ofNanoseconds? (nanoseconds ms).toInt = none from dif_neg hinstant,
      Option.getD_none, hepoch]
    rfl

/-- **What is written denotes the time.** -/
theorem denotes_text (hyear : 0 ≤ (date (nanoseconds ms).toInt).year)
    (hyear' : (date (nanoseconds ms).toInt).year ≤ 9999) : Denotes (text ms) ms.toInt := by
  have hvalid : (date (nanoseconds ms).toInt).IsValid :=
    date_nanoseconds ms ▸ Date.ofDayCount_isValid _
  refine ⟨_, Stamp.ofParts_isProper hvalid hyear hyear' ?_, text_of_writable hyear hyear', ?_⟩
  · omega
  · unfold Stamp.milliseconds
    rw [Stamp.date_ofParts hyear, Stamp.ofDay_ofParts, date_nanoseconds, Date.dayCount_ofDayCount]
    omega

/-- A time whose year has four digits. -/
def IsWritable (ms : Int) : Prop := ∃ year, IsInYear year ms ∧ 0 ≤ year ∧ year ≤ 9999

theorem isWritable_iff : IsWritable ms.toInt ↔
    0 ≤ (date (nanoseconds ms).toInt).year ∧ (date (nanoseconds ms).toInt).year ≤ 9999 := by
  unfold IsWritable
  simp only [isInYear_iff_date, exists_eq_left]

/-- **Points in time are written faithfully.** Converted to nanoseconds they are what they were.
Each lies in one year. If this year has four digits, the text is a properly written time that
denotes the point in time and nothing else, and no other such time has this text. Otherwise
the text is the beginning of the year 1970. -/
theorem text_isFaithful (ms : Int64) :
    (nanoseconds ms).toInt = ms.toInt * 1000000 ∧
    ∃ year, (∀ y, IsInYear y ms.toInt ↔ y = year) ∧
      if 0 ≤ year ∧ year ≤ 9999 then
        Denotes (text ms) ms.toInt ∧ (∀ other, Denotes (text ms) other → other = ms.toInt) ∧
          ∀ ms' : Int64, IsWritable ms'.toInt → text ms' = text ms → ms' = ms
      else text ms = "1970-01-01T00:00:00Z" := by
  refine ⟨toInt_nanoseconds ms, (date (nanoseconds ms).toInt).year, fun y => isInYear_iff_date, ?_⟩
  split
  case isTrue hyear =>
    have hdenotes := denotes_text hyear.1 hyear.2
    refine ⟨hdenotes, fun other h => h.unique hdenotes, fun ms' hwritable heq => ?_⟩
    have hother := isWritable_iff.1 hwritable
    have hdenotes' : Denotes (text ms) ms'.toInt := heq ▸ denotes_text hother.1 hother.2
    exact Int64.toInt_inj.1 (hdenotes'.unique hdenotes)
  case isFalse hyear => exact text_of_not_writable hyear

/-- The last millisecond of the year 0. -/
def endOfYearZero : Int64 := -62135596800001

/-- The first millisecond of the year 10000. -/
def beginOfYearTenThousand : Int64 := 253402300800000

theorem text_isFaithful_yearZero :
    IsInYear 0 endOfYearZero.toInt ∧ text endOfYearZero = "0000-12-31T23:59:59.999Z" ∧
    Denotes "0000-12-31T23:59:59.999Z" (-62135596800001) ∧
    IsWritable (0 : Int64).toInt ∧ text 0 ≠ "0000-12-31T23:59:59.999Z" ∧
    IsInYear 10000 beginOfYearTenThousand.toInt ∧
    text beginOfYearTenThousand = "1970-01-01T00:00:00Z" := by
  have hzero : IsInYear 0 endOfYearZero.toInt := by
    unfold IsInYear
    decide
  have hlater : IsInYear 10000 beginOfYearTenThousand.toInt := by
    unfold IsInYear
    decide
  have hepochYear : IsWritable (0 : Int64).toInt := by
    refine ⟨1970, ?_, by decide, by decide⟩
    unfold IsInYear
    decide
  have htext : text endOfYearZero = "0000-12-31T23:59:59.999Z" := by decide +kernel
  obtain ⟨-, year, hyear, hzeroText⟩ := text_isFaithful endOfYearZero
  obtain ⟨-, year', hyear', hepoch⟩ := text_isFaithful beginOfYearTenThousand
  obtain rfl := (hyear 0).1 hzero
  obtain rfl := (hyear' 10000).1 hlater
  rw [if_pos (by decide), htext] at hzeroText
  rw [if_neg (by decide)] at hepoch
  obtain ⟨hdenotes, -, honly⟩ := hzeroText
  have hne : text 0 ≠ "0000-12-31T23:59:59.999Z" := fun heq =>
    absurd (honly 0 hepochYear heq) (by decide)
  exact ⟨hzero, htext, hdenotes, hepochYear, hne, hlater, hepoch⟩

end InstructionStore.Time
