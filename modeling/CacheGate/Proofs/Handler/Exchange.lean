import CacheGate.Serve.Handler

/-!
# Exchanges of a handler with a store

`Handler.Yields` says how a handler can go when nothing is known about the
store behind it: every call may be answered in any way, every reading of the
clock may be any instant. It lists the calls in order with their answers, and
the value at the end, so a statement about all of them is a statement about
every store.

`Answering.yields_bind_iff` splits the exchanges of a sequence of steps, and
`Answering.yields_ask_bind_iff` and its siblings take one step off the front; a
handler is taken apart with these.
-/

namespace CacheGate

open Time

/-- Whether a call may change what a store holds, its bookkeeping apart. -/
def Call.mutates : Call → Bool
  | .put .. | .remove .. | .clear .. => true
  | _ => false

/-- A store call with the answer that it got. -/
structure Exchange where
  call : Call
  answer : Except StoreError call.Answer

/-- The store carried out the call. -/
def Exchange.Succeeded (exchange : Exchange) : Prop :=
  exchange.answer.isOk

instance (exchange : Exchange) : Decidable exchange.Succeeded :=
  inferInstanceAs (Decidable (_ = _))

namespace Handler

variable {α β : Type}

/-- A handler makes these exchanges and ends with this value, if it is given
these answers. -/
inductive Yields : Handler α → List Exchange → α → Prop
  | done {value : α} : Yields (.done value) [] value
  | ask {call : Call} {next : Except StoreError call.Answer → Handler α}
      {exchanges : List Exchange} {value : α} (answer : Except StoreError call.Answer) :
      Yields (next answer) exchanges value →
      Yields (.ask call next) (⟨call, answer⟩ :: exchanges) value
  | clock {next : Instant → Handler α} {exchanges : List Exchange} {value : α} (now : Instant) :
      Yields (next now) exchanges value → Yields (.clock next) exchanges value
  | log {event : Event} {rest : Handler α} {exchanges : List Exchange} {value : α} :
      Yields rest exchanges value → Yields (.log event rest) exchanges value
  | count {metric : Metric} {rest : Handler α} {exchanges : List Exchange} {value : α} :
      Yields rest exchanges value → Yields (.count metric rest) exchanges value

variable {exchanges before after : List Exchange} {value : α}

theorem yields_done_iff {found : α} :
    (Handler.done value).Yields exchanges found ↔ exchanges = [] ∧ found = value := by
  constructor
  · intro run
    cases run
    exact ⟨rfl, rfl⟩
  · rintro ⟨rfl, rfl⟩
    exact .done

theorem yields_log_iff {event : Event} {rest : Handler α} :
    (Handler.log event rest).Yields exchanges value ↔ rest.Yields exchanges value := by
  constructor
  · intro run
    cases run with
    | log rest => exact rest
  · exact .log

theorem yields_count_iff {metric : Metric} {rest : Handler α} :
    (Handler.count metric rest).Yields exchanges value ↔ rest.Yields exchanges value := by
  constructor
  · intro run
    cases run with
    | count rest => exact rest
  · exact .count

/-- The exchanges of two handlers in a row are those of the first, then those
of the second. -/
theorem yields_bind_iff {first : Handler α} {next : α → Handler β} {final : β} :
    (first.bind next).Yields exchanges final ↔
      ∃ value before after, first.Yields before value ∧ (next value).Yields after final ∧
        exchanges = before ++ after := by
  constructor
  · intro run
    induction first generalizing exchanges with
    | done value => exact ⟨value, [], exchanges, .done, run, rfl⟩
    | ask call rest ih =>
      cases run with
      | ask answer run =>
        obtain ⟨value, before, after, own, later, rfl⟩ := ih answer run
        exact ⟨value, _, after, .ask answer own, later, rfl⟩
    | clock rest ih =>
      cases run with
      | clock now run =>
        obtain ⟨value, before, after, own, later, rfl⟩ := ih now run
        exact ⟨value, before, after, .clock now own, later, rfl⟩
    | log event rest ih =>
      cases run with
      | log run =>
        obtain ⟨value, before, after, own, later, rfl⟩ := ih run
        exact ⟨value, before, after, .log own, later, rfl⟩
    | count metric rest ih =>
      cases run with
      | count run =>
        obtain ⟨value, before, after, own, later, rfl⟩ := ih run
        exact ⟨value, before, after, .count own, later, rfl⟩
  · rintro ⟨value, before, after, own, later, rfl⟩
    induction own with
    | done => exact later
    | ask answer _ ih => exact .ask answer (ih later)
    | clock now _ ih => exact .clock now (ih later)
    | log _ ih => exact .log (ih later)
    | count _ ih => exact .count (ih later)

end Handler

/-! ## Steps of a request -/

namespace Answering

open Handler

variable {α β : Type} {exchanges : List Exchange} {result : Except AccessError α}

theorem yields_pure_iff {value : α} :
    (pure value : Answering α).run.Yields exchanges result ↔
      exchanges = [] ∧ result = .ok value :=
  yields_done_iff

theorem yields_throw_iff {error : AccessError} :
    (throw error : Answering α).run.Yields exchanges result ↔
      exchanges = [] ∧ result = .error error :=
  yields_done_iff

theorem yields_ofExcept_iff {given : Except AccessError α} :
    (ofExcept given).run.Yields exchanges result ↔ exchanges = [] ∧ result = given :=
  yields_done_iff

/-- A store call that is answered is one exchange. -/
theorem yields_ask_ok_iff {call : Call} {answer : call.Answer} :
    (ask call).run.Yields exchanges (.ok answer) ↔ exchanges = [⟨call, .ok answer⟩] := by
  constructor
  · intro run
    cases run with
    | ask given rest =>
      cases given <;> (obtain ⟨rfl, same⟩ := yields_done_iff.1 rest; cases same)
      rfl
  · rintro rfl
    exact .ask _ .done

/-- A store call that fails is one exchange too, and fails the request. -/
theorem yields_ask_error_iff {call : Call} {error : AccessError} :
    (ask call).run.Yields exchanges (.error error) ↔
      ∃ failure, exchanges = [⟨call, .error failure⟩] ∧ error = .store failure := by
  constructor
  · intro run
    cases run with
    | ask given rest =>
      cases given <;> (obtain ⟨rfl, same⟩ := yields_done_iff.1 rest; cases same)
      exact ⟨_, rfl, rfl⟩
  · rintro ⟨failure, rfl, rfl⟩
    exact .ask _ .done

/-- Two steps in a row: the first one fails, or the second follows it. -/
theorem yields_bind_iff {first : Answering α} {next : α → Answering β}
    {result : Except AccessError β} :
    (first >>= next).run.Yields exchanges result ↔
      (∃ error, first.run.Yields exchanges (.error error) ∧ result = .error error) ∨
      ∃ value before after, first.run.Yields before (.ok value) ∧
        (next value).run.Yields after result ∧ exchanges = before ++ after := by
  have split : (first >>= next).run.Yields exchanges result ↔
      ∃ found before after, first.run.Yields before found ∧
        (ExceptT.bindCont next found).Yields after result ∧ exchanges = before ++ after :=
    Handler.yields_bind_iff
  rw [split]
  constructor
  · rintro ⟨found, before, after, own, later, rfl⟩
    cases found with
    | ok value => exact Or.inr ⟨value, before, after, own, later, rfl⟩
    | error error =>
      obtain ⟨rfl, rfl⟩ := yields_done_iff.1 later
      exact Or.inl ⟨error, by rwa [List.append_nil], rfl⟩
  · rintro (⟨error, own, rfl⟩ | ⟨value, before, after, own, later, rfl⟩)
    · exact ⟨.error error, exchanges, [], own, .done, (List.append_nil _).symm⟩
    · exact ⟨.ok value, before, after, own, later, rfl⟩

/-! ### One step and the rest -/

section Steps

variable {next : α → Answering β} {result : Except AccessError β}

theorem yields_ofExcept_bind_iff {given : Except AccessError α} :
    (ofExcept given >>= next).run.Yields exchanges result ↔
      (∃ error, given = .error error ∧ exchanges = [] ∧ result = .error error) ∨
      ∃ value, given = .ok value ∧ (next value).run.Yields exchanges result := by
  rw [yields_bind_iff]
  constructor
  · rintro (⟨error, own, rfl⟩ | ⟨value, before, after, own, later, rfl⟩)
    · obtain ⟨rfl, rfl⟩ := yields_ofExcept_iff.1 own
      exact Or.inl ⟨error, rfl, rfl, rfl⟩
    · obtain ⟨rfl, rfl⟩ := yields_ofExcept_iff.1 own
      exact Or.inr ⟨value, rfl, later⟩
  · rintro (⟨error, rfl, rfl, rfl⟩ | ⟨value, rfl, later⟩)
    · exact Or.inl ⟨error, yields_ofExcept_iff.2 ⟨rfl, rfl⟩, rfl⟩
    · exact Or.inr ⟨value, [], exchanges, yields_ofExcept_iff.2 ⟨rfl, rfl⟩, later, rfl⟩

theorem yields_log_bind_iff {event : Event} {next : Unit → Answering β} :
    (log event >>= next).run.Yields exchanges result ↔ (next ()).run.Yields exchanges result :=
  Handler.yields_log_iff

theorem yields_count_bind_iff {metric : Metric} {next : Unit → Answering β} :
    (count metric >>= next).run.Yields exchanges result ↔
      (next ()).run.Yields exchanges result :=
  Handler.yields_count_iff

theorem yields_clock_bind_iff {next : Instant → Answering β} :
    (clock >>= next).run.Yields exchanges result ↔
      ∃ now, (next now).run.Yields exchanges result := by
  constructor
  · intro run
    cases run with
    | clock now rest => exact ⟨now, rest⟩
  · rintro ⟨now, rest⟩
    exact .clock now rest

/-- A store call either fails and ends the request, or is answered. -/
theorem yields_ask_bind_iff {call : Call} {next : call.Answer → Answering β} :
    (ask call >>= next).run.Yields exchanges result ↔
      (∃ failure, exchanges = [⟨call, .error failure⟩] ∧ result = .error (.store failure)) ∨
      ∃ answer rest, exchanges = ⟨call, .ok answer⟩ :: rest ∧
        (next answer).run.Yields rest result := by
  rw [yields_bind_iff]
  constructor
  · rintro (⟨error, own, rfl⟩ | ⟨value, before, after, own, later, rfl⟩)
    · obtain ⟨failure, rfl, rfl⟩ := yields_ask_error_iff.1 own
      exact Or.inl ⟨failure, rfl, rfl⟩
    · cases yields_ask_ok_iff.1 own
      exact Or.inr ⟨value, after, rfl, later⟩
  · rintro (⟨failure, rfl, rfl⟩ | ⟨answer, rest, rfl, later⟩)
    · exact Or.inl ⟨_, yields_ask_error_iff.2 ⟨failure, rfl, rfl⟩, rfl⟩
    · exact Or.inr ⟨answer, _, rest, yields_ask_ok_iff.2 rfl, later, rfl⟩

end Steps

end Answering

end CacheGate
