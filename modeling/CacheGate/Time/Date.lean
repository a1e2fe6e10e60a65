/-!
# Calendar dates

Dates of the proleptic Gregorian calendar and their day numbers, counted from
1 January 1970. `Date.toDays` and `Date.ofDays` count years from March, so
that the leap day is the last day of its year, and split day numbers into
cycles of 400, 100, 4 and 1 years.
-/

namespace CacheGate.Time

/-- A day of the calendar. Year 0 precedes year 1. -/
structure Date where
  year : Int
  month : Nat
  day : Nat
  deriving DecidableEq, Repr

namespace Date

/-- Whether a year has a leap day. -/
def isLeap (year : Int) : Bool := year % 4 == 0 && (year % 100 != 0 || year % 400 == 0)

/-- The number of days of a month; months outside 1 to 12 have none. -/
def daysInMonth (year : Int) (month : Nat) : Nat :=
  if month = 2 then (if isLeap year then 29 else 28)
  else if month = 4 || month = 6 || month = 9 || month = 11 then 30
  else if 1 ≤ month && month ≤ 12 then 31
  else 0

/-- Whether the calendar has this day. -/
def isValid (date : Date) : Bool := 1 ≤ date.day && date.day ≤ daysInMonth date.year date.month

/-! ## Day numbers -/

/-- Days from 1 March of year 0 to 1 January 1970. -/
def epochOffset : Int := 719468

/-- The days before a month, counted from 1 March; March is month 0. -/
def daysBefore (marchMonth : Nat) : Nat := (153 * marchMonth + 2) / 5

/-- The number of days from 1 January 1970 to a date. -/
def toDays (date : Date) : Int :=
  let year := if date.month ≤ 2 then date.year - 1 else date.year
  let inEra := (year % 400).toNat
  let marchMonth := (date.month + 9) % 12
  let inYear := daysBefore marchMonth + date.day - 1
  let inCycle := inEra * 365 + inEra / 4 - inEra / 100 + inYear
  year / 400 * 146097 + inCycle - epochOffset

/-- The date a number of days after 1 January 1970. The last day of a cycle
of 400 or 4 years is its leap day, which belongs to the last part of it. -/
def ofDays (days : Int) : Date :=
  let shifted := days + epochOffset
  let inCycle := (shifted % 146097).toNat
  let century := min 3 (inCycle / 36524)
  let inCentury := inCycle - century * 36524
  let group := inCentury / 1461
  let inGroup := inCentury - group * 1461
  let single := min 3 (inGroup / 365)
  let inYear := inGroup - single * 365
  let marchMonth := (5 * inYear + 2) / 153
  let month := if marchMonth < 10 then marchMonth + 3 else marchMonth - 9
  let year := shifted / 146097 * 400 + (century * 100 + group * 4 + single : Nat)
  ⟨if month ≤ 2 then year + 1 else year, month, inYear - daysBefore marchMonth + 1⟩

/-- The day of the week, Monday being 0; 1 January 1970 was a Thursday. -/
def weekday (days : Int) : Nat := ((days + 3) % 7).toNat

end Date

end CacheGate.Time
