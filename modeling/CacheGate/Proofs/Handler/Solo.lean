import CacheGate.Proofs.Handler.Interleaving

/-!
# Handlers that run alone

`Handler.solo` runs a handler on the in-memory store when nobody else acts and
the clock stands still. It is the run among other clients who do nothing
(`Handler.among_nil`), without the record, so a handler is evaluated forwards
with it, step by step: `Answering.solo_ask_bind` and its siblings take one
step off the front.
-/

namespace CacheGate

open Time

namespace Handler

variable {α β : Type}

/-- The world that a handler leaves, and its value. -/
def solo : Handler α → World → World × α
  | .done value, world => (world, value)
  | .ask call next, world => (next (world.answer call)).solo (world.perform call)
  | .clock next, world => (next world.now).solo world
  | .log _ rest, world => rest.solo world
  | .count _ rest, world => rest.solo world

theorem solo_ask (call : Call) (next : Except StoreError call.Answer → Handler α) (world : World) :
    (ask call next).solo world = (next (world.answer call)).solo (world.perform call) := rfl

theorem solo_clock (next : Instant → Handler α) (world : World) :
    (clock next).solo world = (next world.now).solo world := rfl

theorem solo_bind (first : Handler α) (next : α → Handler β) (world : World) :
    (first.bind next).solo world = (next (first.solo world).2).solo (first.solo world).1 := by
  induction first generalizing world with
  | done value => rfl
  | ask call rest ih => exact ih (world.answer call) (world.perform call)
  | clock rest ih => exact ih world.now world
  | log event rest ih => exact ih world
  | count metric rest ih => exact ih world

/-- The clock is where it was. -/
theorem now_solo (handler : Handler α) (world : World) : (handler.solo world).1.now = world.now := by
  induction handler generalizing world with
  | done value => rfl
  | ask call rest ih => exact ih (world.answer call) (world.perform call)
  | clock rest ih => exact ih world.now world
  | log event rest ih => exact ih world
  | count metric rest ih => exact ih world

/-- A run in which nothing is scheduled around the calls. -/
theorem run_interleaved_nil (handler : Handler α) (world : World) (history : List Happening) :
    (handler.run Interleaved.backend ⟨world, [], history⟩).state.world = (handler.solo world).1 ∧
      (handler.run Interleaved.backend ⟨world, [], history⟩).value = (handler.solo world).2 := by
  induction handler generalizing world history with
  | done value => exact ⟨rfl, rfl⟩
  | ask call rest ih => exact ih (world.answer call) (world.perform call) (history ++ [.own call])
  | clock rest ih => exact ih world.now world history
  | log event rest ih => exact ih world history
  | count metric rest ih => exact ih world history

/-- To run alone is to run among clients who do nothing. -/
theorem among_nil (handler : Handler α) (world : World) :
    (handler.among world []).state.world = (handler.solo world).1 ∧
      (handler.among world []).value = (handler.solo world).2 :=
  handler.run_interleaved_nil world []

theorem yields_solo (handler : Handler α) (world : World) :
    ∃ exchanges, handler.Yields exchanges (handler.solo world).2 := by
  rw [← (handler.among_nil world).2]
  exact ⟨_, handler.among_yields world []⟩

end Handler

/-! ## Steps of a request -/

namespace Answering

variable {α β : Type} {world : World} {next : α → Answering β}

theorem solo_ofExcept_bind {given : Except AccessError α} {value : α} (same : given = .ok value) :
    (ofExcept given >>= next).run.solo world = (next value).run.solo world := by
  rw [same]
  rfl

theorem solo_clock_bind {next : Instant → Answering β} :
    (clock >>= next).run.solo world = (next world.now).run.solo world := rfl

theorem solo_log_bind {event : Event} {next : Unit → Answering β} :
    (log event >>= next).run.solo world = (next ()).run.solo world := rfl

/-- A call that is answered leads on to the next world. -/
theorem solo_ask_bind {call : Call} {next : call.Answer → Answering β} {answer : call.Answer}
    (answered : world.answer call = .ok answer) :
    (ask call >>= next).run.solo world = (next answer).run.solo (world.perform call) := by
  have asked : (ask call).run.solo world = (world.perform call, .ok answer) := by
    unfold ask
    rw [ExceptT.run, ExceptT.mk, Handler.solo_ask, answered]
    rfl
  change ((ask call).run.bind (ExceptT.bindCont next)).solo world = _
  rw [Handler.solo_bind, asked]
  rfl

end Answering

end CacheGate
