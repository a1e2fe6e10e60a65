import CacheGate.Proofs.Store.Calls

/-!
# What calls leave alive

The live entries after each call that changes some, from the time of the call
on and at any later time, in terms of the live entries before it. Together
with `Memory.live?_perform_of_not_alters` this covers every call.
-/

namespace CacheGate

open Time

namespace Memory

variable {memory : Memory} {name other : String} {key : Key} {content value : Bytes}
  {now later : Instant} {subject : Subject} {format : MediaType} {stored : StoredEntry}
  {configuration : CacheConfiguration} {added : NewEntry}

/-- What is live later is the live part of what is live now, as long as nothing is done. -/
theorem unexpired_live? (order : now ≤ later) :
    unexpired later (memory.live? now name content) = memory.live? later name content :=
  unexpired_unexpired order

theorem live?_put (known : memory.configuration? name = some configuration) :
    (memory.perform now (.put subject name added)).memory.live? later other content =
      if other = name ∧ added.key.content = content then unexpired later (some (fresh added now))
      else memory.live? later other content := by
  unfold live?
  rw [held?_put known]
  split <;> rfl

theorem live?_remove :
    (memory.perform now (.remove subject name key)).memory.live? later other content =
      if other = name ∧ key.content = content then none else memory.live? later other content := by
  unfold live?
  rw [held?_remove]
  split <;> rfl

theorem live?_clear :
    (memory.perform now (.clear subject name)).memory.live? later other content =
      if other = name then none else memory.live? later other content := by
  unfold live?
  rw [held?_clear]
  split <;> rfl

theorem live?_get (live : memory.live? now name key.content = some stored)
    (answered : (memory.perform now (.get subject name key format)).answer = .ok (some value)) :
    (memory.perform now (.get subject name key format)).memory.live? later other content =
      if other = name ∧ key.content = content then unexpired later (some (stored.touch now))
      else memory.live? later other content := by
  have left : (memory.perform now (.get subject name key format)).memory.held? other content =
      if other = name ∧ key.content = content then
        (memory.live? now other content).map (·.touch now)
      else memory.held? other content := held?_get_of_found answered
  unfold live? at live ⊢
  rw [left]
  split
  case isTrue same =>
    obtain ⟨rfl, rfl⟩ := same
    unfold live?
    rw [live]
    rfl
  case isFalse => rfl

/-- A read that gives no value leaves every live entry. -/
theorem live?_get_of_missed (order : now ≤ later)
    (missed : ∀ value,
      (memory.perform now (.get subject name key format)).answer ≠ .ok (some value)) :
    (memory.perform now (.get subject name key format)).memory.live? later other content =
      memory.live? later other content := by
  apply live?_eq_of_held? order
  rw [held?_get_of_missed missed]
  split
  · exact Or.inr rfl
  · exact Or.inl rfl

/-- An entry that was just used is live, if it was not last used in the future. -/
theorem isExpired_touch_now (used : memory.UsedBy now)
    (live : memory.live? now name content = some stored) :
    (stored.touch now).isExpired now = false := by
  obtain ⟨held, fresh⟩ := live?_eq_some_iff.1 live
  by_contra expired
  have gone : stored.isExpired now = true :=
    StoredEntry.isExpired_of_touch (used name content stored held) (Bool.not_eq_false _ ▸ expired)
  rw [gone] at fresh
  cases fresh

end Memory

end CacheGate
