/-!
# Instants

Points in time to the nanosecond, within the years -9999 to 9999. Every
instant carries the proof that it lies in that range, so adding a duration
may fail (`Instant.add?`) and nothing that is derived from an instant leaves
the calendar unnoticed.
-/

namespace CacheGate.Time

/-- Nanoseconds in one second. -/
def nanosPerSecond : Int := 1000000000

/-- The first nanosecond of year -9999, counted from 1970. -/
def firstNano : Int := -377705116800 * nanosPerSecond

/-- The last nanosecond of year 9999, counted from 1970. -/
def lastNano : Int := 253402300800 * nanosPerSecond - 1

/-- A point in time, as nanoseconds since 1970-01-01T00:00:00Z. -/
structure Instant where
  nanos : Int
  first_le : firstNano ≤ nanos
  le_last : nanos ≤ lastNano
  deriving DecidableEq

namespace Instant

/-- The instant with the given count of nanoseconds, if the calendar has it. -/
def ofNanos? (nanos : Int) : Option Instant :=
  if h : firstNano ≤ nanos ∧ nanos ≤ lastNano then some ⟨nanos, h.1, h.2⟩ else none

/-- 1970-01-01T00:00:00Z. -/
def epoch : Instant := ⟨0, by decide, by decide⟩

instance : Inhabited Instant := ⟨epoch⟩

instance : LE Instant := ⟨fun left right => left.nanos ≤ right.nanos⟩

instance : LT Instant := ⟨fun left right => left.nanos < right.nanos⟩

instance (left right : Instant) : Decidable (left ≤ right) :=
  inferInstanceAs (Decidable (left.nanos ≤ right.nanos))

instance (left right : Instant) : Decidable (left < right) :=
  inferInstanceAs (Decidable (left.nanos < right.nanos))

/-- The earlier of two instants. -/
def earlier (left right : Instant) : Instant := if left ≤ right then left else right

/-- Moves an instant by a number of nanoseconds, unless that leaves the calendar. -/
def add? (instant : Instant) (nanos : Int) : Option Instant := ofNanos? (instant.nanos + nanos)

/-- Moves an instant by whole seconds, unless that leaves the calendar. -/
def addSeconds? (instant : Instant) (seconds : Nat) : Option Instant :=
  instant.add? (seconds * nanosPerSecond)

/-- Whole seconds since 1970, rounded down. -/
def seconds (instant : Instant) : Int := instant.nanos / nanosPerSecond

/-- The nanoseconds past the whole second. -/
def subsecond (instant : Instant) : Int := instant.nanos % nanosPerSecond

/-- The instant with whole seconds and nanoseconds within the second. -/
def ofSeconds? (seconds : Int) (subsecond : Int) : Option Instant :=
  ofNanos? (seconds * nanosPerSecond + subsecond)

/-- The start of the second that an instant lies in. -/
def wholeSecond (instant : Instant) : Instant where
  nanos := instant.nanos / nanosPerSecond * nanosPerSecond
  first_le := by
    have h := instant.first_le
    simp only [firstNano, nanosPerSecond] at h ⊢
    omega
  le_last := by
    have h := instant.le_last
    simp only [lastNano, nanosPerSecond] at h ⊢
    omega

/-- Whole seconds from `start` to `stop`, rounded toward zero. -/
def secondsUntil (start stop : Instant) : Int :=
  Int.tdiv (stop.nanos - start.nanos) nanosPerSecond

/-- Milliseconds since 1970, rounded toward zero. -/
def millis (instant : Instant) : Int := Int.tdiv instant.nanos 1000000

end Instant

end CacheGate.Time
