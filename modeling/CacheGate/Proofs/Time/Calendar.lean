import CacheGate.Time.Date
import CacheGate.Time.Instant
import Mathlib.Tactic.IntervalCases

/-!
# Day numbers and dates

`Date.ofDays` gives a day of the calendar for every day number, and
`Date.toDays` gives the number back (`Date.isValid_ofDays`,
`Date.toDays_ofDays`). For the days that instants lie on, the year has at most
four digits (`Instant.year_bounds`), and these days are all of such years
(`Instant.exists_nanos_iff`).

Both functions count years from March and split a day number into cycles of
400, 100, 4 and 1 years. `Date.Split` says what the parts of such a split are,
once for all statements.
-/

namespace CacheGate.Time

namespace Date

/-! ## Splitting a day number -/

/-- The parts of the day `inCycle` of a cycle of 400 years: centuries, groups
of four years and years that are over, and the day of the current year. -/
structure Split (inCycle century group single inYear : Nat) : Prop where
  sum : inCycle = century * 36524 + group * 1461 + single * 365 + inYear
  century_le : century ≤ 3
  group_le : group ≤ 24
  single_le : single ≤ 3
  inYear_le : inYear ≤ 365
  /-- Only the last year of a group has a leap day, and that of a century only
  at the end of the cycle. -/
  leapDay : inYear = 365 → single = 3 ∧ (group = 24 → century = 3)

theorem split_parts {inCycle : Nat} (inside : inCycle < 146097) :
    let century := min 3 (inCycle / 36524)
    let inCentury := inCycle - century * 36524
    let group := inCentury / 1461
    let inGroup := inCentury - group * 1461
    let single := min 3 (inGroup / 365)
    Split inCycle century group single (inGroup - single * 365) := by
  intro century inCentury group inGroup single
  have centuryEq : century = min 3 (inCycle / 36524) := rfl
  have inCenturyEq : inCentury = inCycle - century * 36524 := rfl
  have groupEq : group = inCentury / 1461 := rfl
  have inGroupEq : inGroup = inCentury - group * 1461 := rfl
  have singleEq : single = min 3 (inGroup / 365) := rfl
  clear_value century inCentury group inGroup single
  have century_le : century ≤ 3 := by omega
  have inCentury_le : inCentury ≤ 36524 := by omega
  have full : inCentury = 36524 → century = 3 := by omega
  have group_le : group ≤ 24 := by omega
  have inGroup_le : inGroup ≤ 1460 := by omega
  exact ⟨by omega, century_le, group_le, by omega, by omega, by omega⟩

variable {inCycle century group single inYear : Nat}

/-- The years of a cycle that are over. -/
theorem Split.years_le (split : Split inCycle century group single inYear) :
    century * 100 + group * 4 + single ≤ 399 := by
  have := split.century_le
  have := split.group_le
  have := split.single_le
  omega

/-! ## Days of a year that starts in March -/

/-- The date of a day of a year that starts in March. -/
def inMarchYear (year : Int) (inYear : Nat) : Date :=
  let marchMonth := (5 * inYear + 2) / 153
  let month := if marchMonth < 10 then marchMonth + 3 else marchMonth - 9
  ⟨if month ≤ 2 then year + 1 else year, month, inYear - daysBefore marchMonth + 1⟩

/-- The date of a day number, by the parts of its split. -/
theorem ofDays_eq_inMarchYear (days : Int) :
    ∃ (era : Int) (inCycle century group single inYear : Nat),
      Split inCycle century group single inYear ∧
      days + epochOffset = era * 146097 + inCycle ∧
      ofDays days = inMarchYear (era * 400 + (century * 100 + group * 4 + single : Nat)) inYear := by
  have inside : ((days + epochOffset) % 146097).toNat < 146097 := by omega
  exact ⟨(days + epochOffset) / 146097, _, _, _, _, _, split_parts inside, by omega, rfl⟩

/-- January is the day 306 of a year that starts in March. -/
theorem year_inMarchYear {year : Int} (inside : inYear ≤ 365) :
    (inMarchYear year inYear).year = if inYear < 306 then year else year + 1 := by
  unfold inMarchYear
  dsimp only
  by_cases early : inYear < 306
  · have late : ¬ (5 * inYear + 2) / 153 + 3 ≤ 2 := by omega
    have months : (5 * inYear + 2) / 153 < 10 := by omega
    rw [if_pos months, if_neg late, if_pos early]
  · have january : (5 * inYear + 2) / 153 - 9 ≤ 2 := by omega
    have months : ¬ (5 * inYear + 2) / 153 < 10 := by omega
    rw [if_neg months, if_pos january, if_neg early]

/-- A day is the same day when it is counted from the March before it. -/
theorem toDays_inMarchYear {year : Int} (inside : inYear ≤ 365) :
    (inMarchYear year inYear).toDays = year / 400 * 146097 +
      ((year % 400).toNat * 365 + (year % 400).toNat / 4 - (year % 400).toNat / 100 + inYear : Nat) -
        epochOffset := by
  have marchMonth_le : (5 * inYear + 2) / 153 ≤ 11 := by omega
  have before : daysBefore ((5 * inYear + 2) / 153) ≤ inYear := by
    unfold daysBefore
    omega
  unfold inMarchYear toDays
  generalize (5 * inYear + 2) / 153 = marchMonth at marchMonth_le before
  by_cases early : marchMonth < 10
  case pos =>
    have late : ¬ marchMonth + 3 ≤ 2 := by omega
    have month : (marchMonth + 3 + 9) % 12 = marchMonth := by omega
    simp only [if_pos early, if_neg late, month]
    omega
  case neg =>
    have january : marchMonth - 9 ≤ 2 := by omega
    have month : (marchMonth - 9 + 9) % 12 = marchMonth := by omega
    simp only [if_neg early, if_pos january, month, Int.add_sub_cancel]
    omega

/-- Every day number is that of its date. -/
theorem toDays_ofDays (days : Int) : (ofDays days).toDays = days := by
  obtain ⟨era, inCycle, century, group, single, inYear, split, sum, date⟩ :=
    ofDays_eq_inMarchYear days
  have years := split.years_le
  have singles := split.single_le
  have groups := split.group_le
  have parts := split.sum
  rw [date, toDays_inMarchYear split.inYear_le]
  have inEra : ((era * 400 + (century * 100 + group * 4 + single : Nat)) % 400).toNat =
      century * 100 + group * 4 + single := by omega
  have eras : (era * 400 + (century * 100 + group * 4 + single : Nat)) / 400 = era := by omega
  rw [inEra, eras]
  omega

/-- A day of a year that starts in March is a day of the calendar, if its last
day is one only where February has 29. -/
theorem isValid_inMarchYear {year : Int} (inside : inYear ≤ 365)
    (leap : inYear = 365 → isLeap (year + 1) = true) : (inMarchYear year inYear).isValid = true := by
  have bounds : ∃ marchMonth, (5 * inYear + 2) / 153 = marchMonth ∧ marchMonth ≤ 11 ∧
      153 * marchMonth ≤ 5 * inYear + 2 ∧ 5 * inYear + 2 < 153 * marchMonth + 153 :=
    ⟨_, rfl, by omega, by omega, by omega⟩
  obtain ⟨marchMonth, same, last, lower, upper⟩ := bounds
  unfold inMarchYear isValid
  rw [same]
  by_cases february : marchMonth = 11
  case pos =>
    subst february
    simp only [daysInMonth, daysBefore]
    by_cases leapDay : inYear = 365
    · simp [leap leapDay, leapDay]
    · have short : inYear - 337 + 1 ≤ 28 := by omega
      have least : 28 ≤ if isLeap (year + 1) = true then 29 else 28 := by split <;> omega
      simpa using Nat.le_trans short least
  case neg =>
    have earlier : marchMonth ≤ 10 := by omega
    interval_cases marchMonth <;> simp [daysInMonth, daysBefore] <;> omega

/-- Every date of a day number is a day of the calendar. -/
theorem isValid_ofDays (days : Int) : (ofDays days).isValid = true := by
  obtain ⟨era, inCycle, century, group, single, inYear, split, -, date⟩ :=
    ofDays_eq_inMarchYear days
  rw [date]
  refine isValid_inMarchYear split.inYear_le fun leapDay => ?_
  obtain ⟨lastYear, lastGroup⟩ := split.leapDay leapDay
  have groups := split.group_le
  have centuries := split.century_le
  unfold isLeap
  simp only [Bool.and_eq_true, Bool.or_eq_true, bne_iff_ne, beq_iff_eq]
  omega

/-- Months of dates are counted from 1 to 12. -/
theorem month_ofDays (days : Int) : 1 ≤ (ofDays days).month ∧ (ofDays days).month ≤ 12 := by
  obtain ⟨era, inCycle, century, group, single, inYear, split, -, date⟩ :=
    ofDays_eq_inMarchYear days
  have inside := split.inYear_le
  rw [date]
  unfold inMarchYear
  dsimp only
  split <;> omega

theorem daysInMonth_le (year : Int) (month : Nat) : daysInMonth year month ≤ 31 := by
  unfold daysInMonth
  repeat' split
  all_goals omega

theorem day_ofDays_le (days : Int) : (ofDays days).day ≤ 31 := by
  have valid := isValid_ofDays days
  unfold isValid at valid
  simp only [Bool.and_eq_true, decide_eq_true_eq] at valid
  exact Nat.le_trans valid.2 (daysInMonth_le _ _)

/-- The days of the years with at most four digits. -/
theorem bounds_of_year {days : Int} (short : (ofDays days).year.natAbs ≤ 9999) :
    -4371587 ≤ days ∧ days ≤ 2932896 := by
  obtain ⟨era, inCycle, century, group, single, inYear, split, sum, date⟩ :=
    ofDays_eq_inMarchYear days
  have inside := split.inYear_le
  have centuries := split.century_le
  have groups := split.group_le
  have singles := split.single_le
  have parts := split.sum
  rw [date, year_inMarchYear inside] at short
  unfold epochOffset at sum
  have first : -25 ≤ era := by
    split at short <;> omega
  have last : era ≤ 24 := by
    split at short <;> omega
  constructor
  · by_cases edge : era = -25 ∧ century * 100 + group * 4 + single = 0
    · split at short <;> omega
    · omega
  · by_cases edge : era = 24 ∧ century * 100 + group * 4 + single = 399
    · split at short <;> omega
    · omega

end Date

/-! ## The dates of instants -/

namespace Instant

/-- The day on which an instant lies. -/
def day (instant : Instant) : Int := instant.seconds / 86400

/-- Whole seconds are the start of a second, which the calendar has. -/
theorem ofSeconds?_seconds (instant : Instant) :
    ofSeconds? instant.seconds 0 = some instant.wholeSecond := by
  have whole : instant.seconds * nanosPerSecond + 0 = instant.wholeSecond.nanos := Int.add_zero _
  unfold ofSeconds? ofNanos?
  rw [whole, dif_pos ⟨instant.wholeSecond.first_le, instant.wholeSecond.le_last⟩]

/-- Years of instants have at most four digits. -/
theorem year_bounds (instant : Instant) : (Date.ofDays instant.day).year.natAbs ≤ 9999 := by
  obtain ⟨era, inCycle, century, group, single, inYear, split, sum, date⟩ :=
    Date.ofDays_eq_inMarchYear instant.day
  have first := instant.first_le
  have last := instant.le_last
  have parts := split.sum
  have groups := split.group_le
  have centuries := split.century_le
  have singles := split.single_le
  have inside := split.inYear_le
  unfold day seconds Date.epochOffset at sum
  unfold firstNano lastNano nanosPerSecond at *
  rw [date]
  unfold Date.inMarchYear
  dsimp only
  split <;> omega

/-- The instants are all the nanoseconds of the years with at most four digits. -/
theorem exists_nanos_iff {nanos : Int} : (∃ instant : Instant, instant.nanos = nanos) ↔
    (Date.ofDays (nanos / nanosPerSecond / 86400)).year.natAbs ≤ 9999 := by
  constructor
  · rintro ⟨instant, rfl⟩
    exact instant.year_bounds
  · intro short
    obtain ⟨first, last⟩ := Date.bounds_of_year short
    have bounds : firstNano ≤ nanos ∧ nanos ≤ lastNano := by
      unfold firstNano lastNano nanosPerSecond at *
      omega
    exact ⟨⟨nanos, bounds.1, bounds.2⟩, rfl⟩

end Instant

end CacheGate.Time
