import CacheGate.Number.Rounding
import CacheGate.Proofs.Time.Calendar

/-!
# Times in machine words

A machine counts seconds in words of 64 bits, the nanoseconds of a second in
32 bits and all nanoseconds since 1970 in 128 bits. Here each step of such a
computation is checked (`Number.word?`), and a number that has more bits ends
it without a result. For the instants of the calendar none of these
computations ends that way, and each gives what is computed over all integers
(`Instant.span?_eq`, `Instant.unixNanos?_eq`, `Instant.unixMillis?_eq`).
-/

namespace CacheGate

/-! ## Words -/

namespace Number

/-- Whether a number fits into so many bits, one of which is its sign. -/
def Fits (bits : Nat) (value : Int) : Prop :=
  -(twoTo (bits - 1) : Int) ≤ value ∧ value < twoTo (bits - 1)

instance (bits : Nat) (value : Int) : Decidable (Fits bits value) :=
  inferInstanceAs (Decidable (_ ∧ _))

/-- The number, unless that has more bits. -/
def word? (bits : Nat) (value : Int) : Option Int := if Fits bits value then some value else none

variable {bits : Nat} {value : Int}

theorem word?_of_fits (fits : Fits bits value) : word? bits value = some value := if_pos fits

theorem fits_32_iff : Fits 32 value ↔ -2147483648 ≤ value ∧ value ≤ 2147483647 := by
  have bound : (twoTo 31 : Int) = 2147483648 := rfl
  unfold Fits
  rw [bound]
  omega

theorem fits_64_iff :
    Fits 64 value ↔ -9223372036854775808 ≤ value ∧ value ≤ 9223372036854775807 := by
  have bound : (twoTo 63 : Int) = 9223372036854775808 := rfl
  unfold Fits
  rw [bound]
  omega

theorem fits_128_iff :
    Fits 128 value ↔ -170141183460469231731687303715884105728 ≤ value ∧
      value ≤ 170141183460469231731687303715884105727 := by
  have bound : (twoTo 127 : Int) = 170141183460469231731687303715884105728 := rfl
  unfold Fits
  rw [bound]
  omega

end Number

namespace Time

open Number

/-! ## Spans -/

/-- A span of time: whole seconds, and the nanoseconds past them with the same sign. -/
structure Span where
  seconds : Int
  nanos : Int
  deriving DecidableEq

/-- The span of so many seconds and nanoseconds; where their signs differ, one
second is carried. -/
def Span.carry? (seconds nanos : Int) : Option Span :=
  if 0 < seconds ∧ nanos < 0 then do
    return ⟨← word? 64 (seconds - 1), ← word? 32 (nanos + nanosPerSecond)⟩
  else if seconds < 0 ∧ 0 < nanos then do
    return ⟨← word? 64 (seconds + 1), ← word? 32 (nanos - nanosPerSecond)⟩
  else some ⟨seconds, nanos⟩

namespace Instant

/-- The span from `start` to `stop`, from the seconds and nanoseconds of both. -/
def span? (start stop : Instant) : Option Span := do
  let seconds ← word? 64 (stop.seconds - start.seconds)
  let nanos ← word? 32 (stop.subsecond - start.subsecond)
  Span.carry? seconds nanos

/-- The nanoseconds since 1970. -/
def unixNanos? (instant : Instant) : Option Int := do
  let whole ← word? 128 (instant.seconds * nanosPerSecond)
  word? 128 (whole + instant.subsecond)

/-- The milliseconds since 1970. -/
def unixMillis? (instant : Instant) : Option Int := do
  word? 128 (Int.tdiv (← instant.unixNanos?) 1000000)

/-- The start of the second, from the seconds since 1970. -/
def secondStart? (instant : Instant) : Option Instant := do
  ofSeconds? (← word? 64 instant.seconds) 0

variable {instant : Instant}

/-! ## Every instant has room -/

theorem nanos_eq (instant : Instant) :
    instant.nanos = instant.seconds * nanosPerSecond + instant.subsecond :=
  (Int.ediv_mul_add_emod instant.nanos nanosPerSecond).symm

theorem subsecond_bounds (instant : Instant) :
    0 ≤ instant.subsecond ∧ instant.subsecond < nanosPerSecond :=
  ⟨Int.emod_nonneg _ (by decide), Int.emod_lt_of_pos _ (by decide)⟩

theorem seconds_bounds (instant : Instant) :
    -377705116800 ≤ instant.seconds ∧ instant.seconds ≤ 253402300799 := by
  have first := instant.first_le
  have last := instant.le_last
  unfold seconds
  simp only [firstNano, lastNano, nanosPerSecond] at first last ⊢
  omega

theorem nanos_bounds (instant : Instant) :
    -377705116800000000000 ≤ instant.nanos ∧ instant.nanos ≤ 253402300799999999999 :=
  ⟨instant.first_le, instant.le_last⟩

end Instant

/-! ## Exact results -/

/-- A sum of seconds and nanoseconds of one sign is the division that rounds toward zero. -/
theorem tdiv_tmod_of_signs (seconds nanos : Int) {total : Int}
    (sum : nanos + nanosPerSecond * seconds = total)
    (signs : (0 ≤ seconds ∧ 0 ≤ nanos ∧ nanos < nanosPerSecond) ∨
      (seconds ≤ 0 ∧ -nanosPerSecond < nanos ∧ nanos ≤ 0)) :
    total.tdiv nanosPerSecond = seconds ∧ total.tmod nanosPerSecond = nanos := by
  unfold nanosPerSecond at *
  rcases signs with ⟨ahead, lower, upper⟩ | ⟨behind, lower, upper⟩
  · exact (Int.tdiv_tmod_unique (by omega) (by decide)).2 ⟨sum, lower, upper⟩
  · exact (Int.tdiv_tmod_unique' (by omega) (by decide)).2 ⟨sum, lower, upper⟩

theorem Span.carry?_eq {seconds nanos total : Int}
    (sum : nanos + nanosPerSecond * seconds = total)
    (short : -nanosPerSecond < nanos ∧ nanos < nanosPerSecond) (fits : Fits 64 seconds) :
    Span.carry? seconds nanos =
      some ⟨total.tdiv nanosPerSecond, total.tmod nanosPerSecond⟩ := by
  have unit : nanosPerSecond = 1000000000 := rfl
  have total_eq {whole part : Int} (same : part + 1000000000 * whole = total) :
      part + nanosPerSecond * whole = total := same
  rw [fits_64_iff] at fits
  rw [unit] at sum
  unfold Span.carry?
  split
  case isTrue mixed =>
    obtain ⟨whole, part⟩ := tdiv_tmod_of_signs (seconds - 1) (nanos + nanosPerSecond)
      (total_eq (by omega)) (by omega)
    rw [word?_of_fits (fits_64_iff.2 (by omega)),
      word?_of_fits (fits_32_iff.2 (by omega)), whole, part]
    rfl
  case isFalse plain =>
    split
    case isTrue mixed =>
      obtain ⟨whole, part⟩ := tdiv_tmod_of_signs (seconds + 1) (nanos - nanosPerSecond)
        (total_eq (by omega)) (by omega)
      rw [word?_of_fits (fits_64_iff.2 (by omega)),
        word?_of_fits (fits_32_iff.2 (by omega)), whole, part]
      rfl
    case isFalse =>
      obtain ⟨whole, part⟩ := tdiv_tmod_of_signs seconds nanos (total_eq sum) (by omega)
      rw [whole, part]

namespace Instant

variable {start stop instant : Instant}

/-- The span between two instants, rounded toward zero to whole seconds. -/
theorem span?_eq : start.span? stop =
    some ⟨start.secondsUntil stop, (stop.nanos - start.nanos).tmod nanosPerSecond⟩ := by
  have unit : nanosPerSecond = 1000000000 := rfl
  have bounds := start.seconds_bounds
  have bounds' := stop.seconds_bounds
  have part := start.subsecond_bounds
  have part' := stop.subsecond_bounds
  have fits : Fits 64 (stop.seconds - start.seconds) := fits_64_iff.2 (by omega)
  have short : Fits 32 (stop.subsecond - start.subsecond) := fits_32_iff.2 (by omega)
  unfold span?
  rw [word?_of_fits fits, word?_of_fits short]
  refine Span.carry?_eq ?_ (by omega) fits
  rw [start.nanos_eq, stop.nanos_eq, unit]
  omega

theorem unixNanos?_eq : instant.unixNanos? = some instant.nanos := by
  have bounds := instant.seconds_bounds
  have all := instant.nanos_bounds
  have whole : Fits 128 (instant.seconds * nanosPerSecond) := by
    rw [fits_128_iff]
    unfold nanosPerSecond
    omega
  unfold unixNanos?
  rw [word?_of_fits whole]
  change word? 128 (instant.seconds * nanosPerSecond + instant.subsecond) = _
  rw [← nanos_eq, word?_of_fits (fits_128_iff.2 (by omega))]

theorem unixMillis?_eq : instant.unixMillis? = some instant.millis := by
  have nearer := Int.natAbs_tdiv_le_natAbs instant.nanos 1000000
  have bounds := instant.nanos_bounds
  have smaller : Fits 128 (Int.tdiv instant.nanos 1000000) := fits_128_iff.2 (by omega)
  unfold unixMillis?
  rw [unixNanos?_eq]
  exact word?_of_fits smaller

theorem secondStart?_eq : instant.secondStart? = some instant.wholeSecond := by
  have bounds := instant.seconds_bounds
  have fits : Fits 64 instant.seconds := fits_64_iff.2 (by omega)
  unfold secondStart?
  rw [word?_of_fits fits]
  exact ofSeconds?_seconds instant

end Instant

end Time

end CacheGate
