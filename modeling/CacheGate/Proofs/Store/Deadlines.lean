import CacheGate.Proofs.Store.Expiry
import CacheGate.Proofs.Time.Words
import CacheGate.Serve.Read

/-!
# Deadlines to the nanosecond

`Entry.deadlines` are the deadlines of an entry as sums over all integers. The
entry expires at the least of them, although lengths are capped and sums end
with the calendar, and nothing that is computed from stamps and deadlines needs
more bits than a machine has (`expiry_is_exact_and_fits_in_words`).
-/

namespace CacheGate

open Time Number

/-! ## Sums over all integers -/

namespace Entry

/-- The nanosecond at which a setting that is counted from a stamp runs out,
whether the calendar has it or not. -/
def sum? : Option Instant → Expiration → Option Int
  | some stamp, .seconds count => some (stamp.nanos + count * nanosPerSecond)
  | _, _ => none

/-- The sums that do not pass the last instant. -/
def deadlines (entry : Entry) : List Int :=
  ((sum? entry.created entry.metadata.lifespan).toList ++
    (sum? entry.lastUsed entry.metadata.maxIdle).toList).filter (· ≤ lastNano)

variable {entry : Entry} {stamp : Option Instant} {setting : Expiration} {now : Instant}

/-- A deadline is the sum, and is missing only where that passes the last instant. -/
theorem map_nanos_deadline? :
    ((deadline? stamp setting).map Instant.nanos).toList =
      (sum? stamp setting).toList.filter (· ≤ lastNano) := by
  cases stamp with
  | none => rfl
  | some start =>
    cases setting with
    | unlimited => rfl
    | seconds count =>
      have later : start.nanos ≤ start.nanos + count * nanosPerSecond := by
        unfold nanosPerSecond
        omega
      by_cases inside : start.nanos + count * nanosPerSecond ≤ lastNano
      · have found : deadline? (some start) (.seconds count) =
            some ⟨_, Int.le_trans start.first_le later, inside⟩ :=
          deadline?_eq_some_iff.2 ⟨count, rfl, rfl⟩
        simp [found, sum?, inside]
      · have missing : deadline? (some start) (.seconds count) = none := by
          refine Option.eq_none_iff_forall_ne_some.2 fun deadline found => inside ?_
          obtain ⟨_, same, sum⟩ := deadline?_eq_some_iff.1 found
          obtain rfl := Expiration.seconds.inj same
          exact sum ▸ deadline.le_last
        simp [missing, sum?, inside]

theorem nanos_earlier {left right : Instant} :
    (left.earlier right).nanos = min left.nanos right.nanos := by
  unfold Instant.earlier
  rw [apply_ite Instant.nanos, Int.min_def]
  rfl

/-- An entry expires at the least of its deadlines. -/
theorem map_nanos_expiresAt : entry.expiresAt.map Instant.nanos = entry.deadlines.min? := by
  unfold deadlines expiresAt
  rw [List.filter_append, ← map_nanos_deadline?, ← map_nanos_deadline?]
  cases deadline? entry.created entry.metadata.lifespan <;>
    cases deadline? entry.lastUsed entry.metadata.maxIdle <;>
    simp [List.min?, nanos_earlier]

theorem isExpired_iff_deadlines :
    entry.isExpired now = true ↔
      ∃ deadline, entry.deadlines.min? = some deadline ∧ deadline ≤ now.nanos := by
  rw [← map_nanos_expiresAt]
  unfold isExpired
  cases entry.expiresAt with
  | none => simp
  | some deadline =>
    simp only [decide_eq_true_eq, Option.map_some, Option.some.injEq, exists_eq_left']
    rfl

end Entry

/-! ## Computations in words -/

/-- `Entry.deadline?`, with the length as a word: one with more bits becomes the greatest. -/
def Entry.deadlineInWords? (stamp : Option Instant) (setting : Expiration) :
    Option (Option Instant) :=
  match stamp, setting with
  | some start, .seconds count => do
    let length ← word? 64 ((word? 64 count).getD Text.greatestInt64)
    return start.add? (length * nanosPerSecond)
  | _, _ => return none

/-- `Entry.expiresAt`, in words. -/
def Entry.expiresAtInWords? (entry : Entry) : Option (Option Instant) := do
  match ← deadlineInWords? entry.created entry.metadata.lifespan,
      ← deadlineInWords? entry.lastUsed entry.metadata.maxIdle with
  | some byLifespan, some byIdle => return some (byLifespan.earlier byIdle)
  | byLifespan, byIdle => return byLifespan <|> byIdle

/-- `Entry.lastModified`, in words. -/
def Entry.lastModifiedInWords? (entry : Entry) (now : Instant) : Option Instant :=
  ((entry.created <|> entry.lastUsed).getD now).secondStart?

/-- `cacheControl`, in words. -/
def cacheControlInWords? (expiresAt : Option Instant) (now : Instant) : Option (Option String) :=
  match expiresAt with
  | none => return none
  | some deadline => do
    let remaining ← now.span? deadline
    return some (if 0 < remaining.seconds then "max-age=" ++ Text.intText remaining.seconds
      else "no-cache")

/-- `failsMinFresh`, in words. -/
def failsMinFreshInWords? (expiresAt : Option Instant) (minFresh : Option Int) (now : Instant) :
    Option Bool :=
  match expiresAt, minFresh with
  | some deadline, some wanted => do return (← now.span? deadline).seconds < wanted
  | _, _ => return false

/-- `stampText`, in words. -/
def stampTextInWords? (stamp : Option Instant) : Option String :=
  match stamp with
  | none => return Text.intText (-1)
  | some stamp => do return Text.intText (← stamp.unixMillis?)

/-! ## Nothing overflows -/

/-- A length that has too many bits becomes the greatest that fits. -/
theorem word?_getD_greatest (count : Nat) :
    (word? 64 count).getD Text.greatestInt64 = (min count Text.greatestInt64 : Nat) := by
  have room : Fits 64 count ↔ count ≤ Text.greatestInt64 := by
    rw [fits_64_iff]
    unfold Text.greatestInt64
    omega
  unfold word?
  split
  case isTrue fits => rw [Option.getD_some, Nat.min_eq_left (room.1 fits)]
  case isFalse long =>
    rw [Option.getD_none, Nat.min_eq_right (Nat.le_of_not_le (mt room.2 long))]

theorem Entry.deadlineInWords?_eq {stamp : Option Instant} {setting : Expiration} :
    deadlineInWords? stamp setting = some (deadline? stamp setting) := by
  cases stamp with
  | none => cases setting <;> rfl
  | some start =>
    cases setting with
    | unlimited => rfl
    | seconds count =>
      have fits : Fits 64 (min count Text.greatestInt64 : Nat) := by
        rw [fits_64_iff]
        unfold Text.greatestInt64
        omega
      unfold deadlineInWords?
      dsimp only
      rw [word?_getD_greatest, word?_of_fits fits]
      rfl

theorem Entry.expiresAtInWords?_eq {entry : Entry} :
    entry.expiresAtInWords? = some entry.expiresAt := by
  unfold expiresAtInWords? expiresAt
  rw [deadlineInWords?_eq, deadlineInWords?_eq]
  cases deadline? entry.created entry.metadata.lifespan <;>
    cases deadline? entry.lastUsed entry.metadata.maxIdle <;> rfl

section Words

variable {expiresAt stamp : Option Instant} {minFresh : Option Int} {now : Instant}

theorem cacheControlInWords?_eq :
    cacheControlInWords? expiresAt now = some (cacheControl expiresAt now) := by
  cases expiresAt with
  | none => rfl
  | some deadline =>
    unfold cacheControlInWords?
    dsimp only
    rw [Instant.span?_eq]
    rfl

theorem failsMinFreshInWords?_eq :
    failsMinFreshInWords? expiresAt minFresh now = some (failsMinFresh expiresAt minFresh now) := by
  cases expiresAt with
  | none => rfl
  | some deadline =>
    cases minFresh with
    | none => rfl
    | some wanted =>
      unfold failsMinFreshInWords?
      dsimp only
      rw [Instant.span?_eq]
      rfl

theorem stampTextInWords?_eq : stampTextInWords? stamp = some (stampText stamp) := by
  cases stamp with
  | none => rfl
  | some stamp =>
    unfold stampTextInWords?
    dsimp only
    rw [Instant.unixMillis?_eq]
    rfl

end Words

/-- Expiry is exact for all stamps of the calendar and settings of any length:
an entry expires at the least of its deadlines, which are sums over all
integers, and it has expired from that nanosecond on. A setting without a
limit, a stamp that is not tracked and a sum past the last instant add no
deadline, and hide none. The deadline, the date of the last change, both
measures of the remaining lifetime and the stamps in milliseconds can be
computed in machine words without an overflow. -/
theorem expiry_is_exact_and_fits_in_words (entry : Entry) (now : Instant) :
    entry.expiresAt.map Instant.nanos = entry.deadlines.min? ∧
    (entry.isExpired now = true ↔
      ∃ deadline, entry.deadlines.min? = some deadline ∧ deadline ≤ now.nanos) ∧
    entry.expiresAtInWords? = some entry.expiresAt ∧
    entry.lastModifiedInWords? now = some (entry.lastModified now) ∧
    (∀ expiresAt, cacheControlInWords? expiresAt now = some (cacheControl expiresAt now)) ∧
    (∀ expiresAt minFresh, failsMinFreshInWords? expiresAt minFresh now =
      some (failsMinFresh expiresAt minFresh now)) ∧
    ∀ stamp, stampTextInWords? stamp = some (stampText stamp) :=
  ⟨Entry.map_nanos_expiresAt, Entry.isExpired_iff_deadlines, Entry.expiresAtInWords?_eq,
    Instant.secondStart?_eq, fun _ => cacheControlInWords?_eq,
    fun _ _ => failsMinFreshInWords?_eq, fun _ => stampTextInWords?_eq⟩

end CacheGate
