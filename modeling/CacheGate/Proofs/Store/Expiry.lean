import CacheGate.Store.Memory
import Mathlib.Order.Defs.LinearOrder

/-!
# How entries expire

An entry has expired once one of its two deadlines is not in the future.
Two facts about this carry all statements about runs of requests:
`StoredEntry.isExpired_mono` says that an expired entry stays expired while
the clock does not run backwards, and `StoredEntry.isExpired_of_touch` says
that a use never shortens the life of an entry whose last use is not in the
future.
-/

namespace CacheGate

open Time

/-! ## The order of instants -/

theorem Time.Instant.ext_nanos {left right : Instant} (same : left.nanos = right.nanos) :
    left = right := by
  cases left
  cases right
  cases same
  rfl

instance : LinearOrder Instant where
  le_refl instant := Int.le_refl instant.nanos
  le_trans _ _ _ first second := Int.le_trans first second
  lt_iff_le_not_ge _ _ := Int.lt_iff_le_and_not_ge
  le_antisymm _ _ first second := Instant.ext_nanos (Int.le_antisymm first second)
  le_total left right := Int.le_total left.nanos right.nanos
  toDecidableLE := inferInstance
  toDecidableLT := inferInstance
  toDecidableEq := inferInstance

theorem Time.Instant.earlier_le_iff {left right now : Instant} :
    left.earlier right ≤ now ↔ left ≤ now ∨ right ≤ now := by
  unfold Instant.earlier
  split
  case isTrue order => exact ⟨Or.inl, fun h => h.elim id (le_trans order)⟩
  case isFalse order =>
    exact ⟨Or.inr, fun h => h.elim (le_trans (le_of_not_ge order)) id⟩

/-- The sum of an instant and a number of seconds, where the calendar has it. -/
theorem Time.Instant.addSeconds?_eq_some_iff {start stop : Instant} {count : Nat} :
    start.addSeconds? count = some stop ↔ stop.nanos = start.nanos + count * nanosPerSecond := by
  unfold Instant.addSeconds? Instant.add? Instant.ofNanos?
  split
  case isTrue inside =>
    rw [Option.some.injEq]
    exact ⟨fun same => same ▸ rfl, fun same => Instant.ext_nanos same.symm⟩
  case isFalse outside =>
    constructor
    · intro absurd
      cases absurd
    · intro same
      rw [← same] at outside
      exact (outside ⟨stop.first_le, stop.le_last⟩).elim

/-- A sum that does not pass `now` exists for every earlier start as well. -/
theorem Time.Instant.addSeconds?_of_le {start later stop : Instant} {count : Nat}
    (order : start ≤ later) (sum : later.addSeconds? count = some stop) :
    ∃ earlier, start.addSeconds? count = some earlier ∧ earlier ≤ stop := by
  rw [Instant.addSeconds?_eq_some_iff] at sum
  have le : start.nanos + count * nanosPerSecond ≤ stop.nanos := by
    rw [sum]
    exact Int.add_le_add_right order _
  have nonneg : 0 ≤ (count : Int) * nanosPerSecond := by
    unfold nanosPerSecond
    omega
  have first := start.first_le
  have last := stop.le_last
  exact ⟨⟨start.nanos + count * nanosPerSecond, by omega, by omega⟩,
    Instant.addSeconds?_eq_some_iff.2 rfl, le⟩

@[simp]
theorem Time.Instant.wholeSecond_wholeSecond (instant : Instant) :
    instant.wholeSecond.wholeSecond = instant.wholeSecond := by
  refine Instant.ext_nanos ?_
  change instant.nanos / nanosPerSecond * nanosPerSecond / nanosPerSecond * nanosPerSecond = _
  rw [Int.mul_ediv_cancel _ (by decide)]
  rfl

theorem Time.Instant.wholeSecond_mono {earlier later : Instant} (order : earlier ≤ later) :
    earlier.wholeSecond ≤ later.wholeSecond := by
  have seconds : earlier.nanos / nanosPerSecond ≤ later.nanos / nanosPerSecond :=
    Int.ediv_le_ediv (by decide) order
  exact Int.mul_le_mul_of_nonneg_right seconds (by decide)

/-- Rounding toward zero hides no whole second: fewer of them are left than
wanted exactly if the time that is left is too short. -/
theorem Time.Instant.secondsUntil_lt_iff {now deadline : Instant} {wanted : Int}
    (positive : 1 ≤ wanted) :
    now.secondsUntil deadline < wanted ↔
      deadline.nanos - now.nanos < wanted * nanosPerSecond := by
  unfold secondsUntil
  rcases Int.le_total 0 (deadline.nanos - now.nanos) with ahead | behind
  · rw [Int.tdiv_eq_ediv_of_nonneg ahead]
    exact Int.ediv_lt_iff_lt_mul (by decide)
  · have opposite : 0 ≤ Int.tdiv (now.nanos - deadline.nanos) nanosPerSecond :=
      Int.tdiv_nonneg (by omega) (by decide)
    have nothing : Int.tdiv (deadline.nanos - now.nanos) nanosPerSecond ≤ 0 := by
      rw [← Int.neg_sub, Int.neg_tdiv]
      omega
    unfold nanosPerSecond at nothing ⊢
    omega

/-! ## Expired entries -/

/-- An entry has expired when one of its deadlines exists and has been reached. -/
theorem Entry.isExpired_iff {entry : Entry} {now : Instant} :
    entry.isExpired now = true ↔
      (∃ deadline, Entry.deadline? entry.created entry.metadata.lifespan = some deadline ∧
        deadline ≤ now) ∨
      ∃ deadline, Entry.deadline? entry.lastUsed entry.metadata.maxIdle = some deadline ∧
        deadline ≤ now := by
  unfold Entry.isExpired Entry.expiresAt
  cases byLifespan : Entry.deadline? entry.created entry.metadata.lifespan <;>
    cases byIdle : Entry.deadline? entry.lastUsed entry.metadata.maxIdle <;>
    simp [Instant.earlier_le_iff]

/-- A setting that is counted from `start` has not run out yet. A deadline
that the calendar does not have never comes. -/
def Expiration.Lasts (setting : Expiration) (start now : Instant) : Prop :=
  ∀ count, setting = .seconds count → ∀ deadline : Instant,
    deadline.nanos = start.nanos + count * nanosPerSecond → now < deadline

/-- Capping a setting at the greatest length makes no difference: no such
deadline is in the calendar. -/
theorem Entry.deadline?_eq_some_iff {start deadline : Instant} {setting : Expiration} :
    Entry.deadline? (some start) setting = some deadline ↔
      ∃ count, setting = .seconds count ∧
        deadline.nanos = start.nanos + count * nanosPerSecond := by
  cases setting with
  | unlimited => simp [Entry.deadline?, Expiration.duration?]
  | seconds count =>
    have sum : Entry.deadline? (some start) (.seconds count) = some deadline ↔
        deadline.nanos = start.nanos + (min count Text.greatestInt64 : Nat) * nanosPerSecond := by
      rw [← Instant.addSeconds?_eq_some_iff]
      rfl
    have uncapped : deadline.nanos = start.nanos + (min count Text.greatestInt64 : Nat) *
        nanosPerSecond ↔ deadline.nanos = start.nanos + count * nanosPerSecond := by
      by_cases small : count ≤ Text.greatestInt64
      · rw [Nat.min_eq_left small]
      · have first := start.first_le
        have last := deadline.le_last
        rw [Nat.min_eq_right (Nat.le_of_not_le small)]
        simp only [firstNano, lastNano, nanosPerSecond, Text.greatestInt64] at *
        omega
    rw [sum, uncapped]
    constructor
    · exact fun same => ⟨count, rfl, same⟩
    · rintro ⟨other, same, deadlineEq⟩
      obtain rfl := Expiration.seconds.inj same
      exact deadlineEq

namespace StoredEntry

variable {stored : StoredEntry} {now later : Instant}

/-- An entry is live while both of its settings last. -/
theorem isExpired_eq_false_iff :
    stored.isExpired now = false ↔
      stored.metadata.lifespan.Lasts stored.created now ∧
        stored.metadata.maxIdle.Lasts stored.lastUsed now := by
  have lasts (setting : Expiration) (start : Instant) : setting.Lasts start now ↔
      ¬ ∃ deadline, Entry.deadline? (some start) setting = some deadline ∧ deadline ≤ now := by
    unfold Expiration.Lasts
    simp only [Entry.deadline?_eq_some_iff]
    constructor
    · rintro lasting ⟨deadline, ⟨count, same, sum⟩, reached⟩
      exact absurd reached (not_le_of_gt (lasting count same deadline sum))
    · intro lasting count same deadline sum
      exact lt_of_not_ge fun reached => lasting ⟨deadline, ⟨count, same, sum⟩, reached⟩
  rw [lasts, lasts, ← not_or, ← Bool.not_eq_true]
  exact not_congr Entry.isExpired_iff

theorem isExpired_mono (order : now ≤ later) (expired : stored.isExpired now = true) :
    stored.isExpired later = true := by
  unfold isExpired at expired ⊢
  rw [Entry.isExpired_iff] at expired ⊢
  rcases expired with ⟨deadline, found, reached⟩ | ⟨deadline, found, reached⟩
  · exact Or.inl ⟨deadline, found, le_trans reached order⟩
  · exact Or.inr ⟨deadline, found, le_trans reached order⟩

/-- A use now does not bring a deadline forward, unless the entry was last
used in the future. -/
theorem isExpired_of_touch (order : stored.lastUsed ≤ now)
    (expired : (stored.touch now).isExpired later = true) : stored.isExpired later = true := by
  unfold isExpired at expired ⊢
  rw [Entry.isExpired_iff] at expired ⊢
  rcases expired with byLifespan | ⟨deadline, found, reached⟩
  · exact Or.inl byLifespan
  · change Entry.deadline? (some now) stored.metadata.maxIdle = some deadline at found
    change _ ∨ ∃ deadline, Entry.deadline? (some stored.lastUsed) stored.metadata.maxIdle =
      some deadline ∧ deadline ≤ later
    cases length : stored.metadata.maxIdle.duration? with
    | none => simp [Entry.deadline?, length] at found
    | some count =>
      have sum : now.addSeconds? count = some deadline := by
        simpa [Entry.deadline?, length] using found
      obtain ⟨earlier, earlierSum, le⟩ := Instant.addSeconds?_of_le order sum
      exact Or.inr ⟨earlier, by simpa [Entry.deadline?, length] using earlierSum,
        le_trans le reached⟩

end StoredEntry

end CacheGate
