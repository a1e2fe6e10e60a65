import CacheGate.Proofs.Handler.Solo
import CacheGate.Proofs.Store.Apart

/-!
# Two handlers on one store

`Handler.race` runs two handlers on one in-memory store, while the clock
stands still. A schedule says whose turn it is; a turn goes on until the
handler has made its next store call. So every interleaving of the calls of
the two handlers comes from a schedule.

`Handler.race_of_apart`: handlers that only make calls on different entries do
not interfere. Each ends as it does alone, and callers cannot tell the store
that is left from those left by the two handlers one after the other.
-/

namespace CacheGate

open Time

/-! ## What a handler may ask -/

namespace Handler

variable {α β : Type} {p : Call → Prop}

/-- Whatever a handler is answered, it only makes calls of a kind. -/
def Asks (handler : Handler α) (p : Call → Prop) : Prop :=
  ∀ exchanges value, handler.Yields exchanges value → ∀ exchange ∈ exchanges, p exchange.call

/-- Every handler comes to an end under some answers. -/
theorem exists_yields (handler : Handler α) : ∃ exchanges value, handler.Yields exchanges value := by
  induction handler with
  | done value => exact ⟨[], value, .done⟩
  | ask call next ih =>
    obtain ⟨exchanges, value, run⟩ := ih (.error (.backend ""))
    exact ⟨_, value, .ask _ run⟩
  | clock next ih =>
    obtain ⟨exchanges, value, run⟩ := ih .epoch
    exact ⟨exchanges, value, .clock _ run⟩
  | log event rest ih =>
    obtain ⟨exchanges, value, run⟩ := ih
    exact ⟨exchanges, value, .log run⟩
  | count metric rest ih =>
    obtain ⟨exchanges, value, run⟩ := ih
    exact ⟨exchanges, value, .count run⟩

namespace Asks

variable {call : Call} {next : Except StoreError call.Answer → Handler α}

/-- The first call of a handler, and those that follow an answer. -/
theorem of_ask (asks : (ask call next).Asks p) : p call ∧ ∀ answer, (next answer).Asks p := by
  constructor
  · obtain ⟨exchanges, value, run⟩ := (next (.error (.backend ""))).exists_yields
    exact asks _ _ (.ask _ run) ⟨call, .error (.backend "")⟩ List.mem_cons_self
  · intro answer exchanges value run exchange member
    exact asks _ _ (.ask answer run) exchange (List.mem_cons_of_mem _ member)

theorem of_clock {next : Instant → Handler α} (asks : (clock next).Asks p) (now : Instant) :
    (next now).Asks p :=
  fun exchanges value run => asks exchanges value (.clock now run)

theorem of_log {event : Event} {rest : Handler α} (asks : (log event rest).Asks p) : rest.Asks p :=
  fun exchanges value run => asks exchanges value (.log run)

theorem of_count {metric : Metric} {rest : Handler α} (asks : (count metric rest).Asks p) :
    rest.Asks p :=
  fun exchanges value run => asks exchanges value (.count run)

end Asks

/-! ## Taking turns -/

/-- Goes on until the next store call has been answered, or the handler is done. -/
def advance : Handler α → World → World × Handler α
  | .done value, world => (world, .done value)
  | .ask call next, world => (world.perform call, next (world.answer call))
  | .clock next, world => (next world.now).advance world
  | .log _ rest, world => rest.advance world
  | .count _ rest, world => rest.advance world

/-- Whose turn it is. -/
inductive Side where
  | first
  | second
  deriving DecidableEq

/-- Runs two handlers in turns. When the schedule is over, the first one goes
on to its end, and then the second one. -/
def race : List Side → Handler α → Handler β → World → World × α × β
  | [], first, second, world =>
    let (world, value) := first.solo world
    let (world, other) := second.solo world
    (world, value, other)
  | .first :: schedule, first, second, world =>
    let (world, first) := first.advance world
    race schedule first second world
  | .second :: schedule, first, second, world =>
    let (world, second) := second.advance world
    race schedule first second world

/-- A turn is a part of the run. -/
theorem solo_advance (handler : Handler α) (world : World) :
    (handler.advance world).2.solo (handler.advance world).1 = handler.solo world := by
  induction handler generalizing world with
  | done value => rfl
  | ask call next ih => rfl
  | clock next ih => exact ih world.now world
  | log event rest ih => exact ih world
  | count metric rest ih => exact ih world

theorem asks_advance {handler : Handler α} (asks : handler.Asks p) (world : World) :
    (handler.advance world).2.Asks p := by
  induction handler with
  | done value => exact asks
  | ask call next ih => exact asks.of_ask.2 (world.answer call)
  | clock next ih => exact ih world.now (asks.of_clock world.now)
  | log event rest ih => exact ih asks.of_log
  | count metric rest ih => exact ih asks.of_count

/-- In its turn a handler makes at most one call. -/
theorem advance_world {handler : Handler α} (asks : handler.Asks p) (world : World) :
    (handler.advance world).1 = world ∨
      ∃ call, p call ∧ (handler.advance world).1 = world.perform call := by
  induction handler with
  | done value => exact Or.inl rfl
  | ask call next ih => exact Or.inr ⟨call, asks.of_ask.1, rfl⟩
  | clock next ih => exact ih world.now (asks.of_clock world.now)
  | log event rest ih => exact ih asks.of_log
  | count metric rest ih => exact ih asks.of_count

end Handler

/-! ## Worlds that cannot be told apart -/

/-- Two worlds show callers the same store at the same time. -/
structure World.Indistinct (left right : World) : Prop where
  now_eq : left.now = right.now
  shown_eq : left.memory.shown left.now = right.memory.shown left.now

namespace World

variable {left right third world : World} {place other : Place} {call next : Call}

theorem Indistinct.refl (world : World) : world.Indistinct world := ⟨rfl, rfl⟩

theorem Indistinct.symm (same : left.Indistinct right) : right.Indistinct left := by
  obtain ⟨now, shown⟩ := same
  rw [now] at shown
  exact ⟨now.symm, shown.symm⟩

theorem Indistinct.trans (same : left.Indistinct right) (also : right.Indistinct third) :
    left.Indistinct third := by
  obtain ⟨now, shown⟩ := same
  obtain ⟨nowAlso, shownAlso⟩ := also
  rw [← now] at nowAlso shownAlso
  exact ⟨nowAlso, shown.trans shownAlso⟩

theorem Indistinct.perform (same : left.Indistinct right) (call : Call) :
    (left.perform call).Indistinct (right.perform call) := by
  obtain ⟨memory, now⟩ := left
  obtain ⟨reached, later⟩ := right
  obtain ⟨rfl, shown⟩ := same
  refine ⟨rfl, ?_⟩
  change (memory.perform now call).memory.shown now = (reached.perform now call).memory.shown now
  rw [Memory.shown_perform, Memory.shown_perform, shown]

theorem Indistinct.answer_eq (same : left.Indistinct right) (on : call.On place) :
    left.answer call = right.answer call := by
  obtain ⟨memory, now⟩ := left
  obtain ⟨reached, later⟩ := right
  obtain ⟨rfl, shown⟩ := same
  exact Memory.answer_of_shown on (congrArg (·.answer call) shown)

theorem Indistinct.live?_eq (same : left.Indistinct right) {later : Instant}
    (order : left.now ≤ later) (name : String) (content : Bytes) :
    left.memory.live? later name content = right.memory.live? later name content :=
  Memory.live?_of_shown same.shown_eq order name content

theorem answer_perform_of_apart (world : World) (on : call.On place) (onOther : next.On other)
    (differs : place ≠ other) : (world.perform next).answer call = world.answer call :=
  Memory.answer_perform_of_apart on onOther differs

theorem perform_comm (world : World) (on : call.On place) (onOther : next.On other)
    (differs : place ≠ other) :
    ((world.perform call).perform next).Indistinct ((world.perform next).perform call) :=
  ⟨rfl, Memory.shown_perform_comm on onOther differs⟩

end World

/-! ## Handlers on different entries -/

namespace Handler

variable {α β : Type} {place other : Place} {handler : Handler α} {first : Handler α}
  {second : Handler β} {world left right : World} {call : Call}

/-- In worlds that cannot be told apart, a handler does the same. -/
theorem solo_of_indistinct (asks : handler.Asks (Call.On place)) (same : left.Indistinct right) :
    (handler.solo left).1.Indistinct (handler.solo right).1 ∧
      (handler.solo left).2 = (handler.solo right).2 := by
  induction handler generalizing left right with
  | done value => exact ⟨same, rfl⟩
  | ask call next ih =>
    obtain ⟨on, rest⟩ := asks.of_ask
    rw [solo_ask, solo_ask, same.answer_eq on]
    exact ih (right.answer call) (rest _) (same.perform call)
  | clock next ih =>
    rw [solo_clock, solo_clock, same.now_eq]
    exact ih right.now (asks.of_clock _) same
  | log event rest ih => exact ih asks.of_log same
  | count metric rest ih => exact ih asks.of_count same

/-- A handler does the same after a call on another entry, and the call can
as well be made after it. -/
theorem solo_perform (asks : handler.Asks (Call.On place)) (on : call.On other)
    (differs : place ≠ other) (world : World) :
    (handler.solo (world.perform call)).1.Indistinct ((handler.solo world).1.perform call) ∧
      (handler.solo (world.perform call)).2 = (handler.solo world).2 := by
  induction handler generalizing world with
  | done value => exact ⟨.refl _, rfl⟩
  | ask next rest ih =>
    obtain ⟨onNext, asksRest⟩ := asks.of_ask
    rw [solo_ask, solo_ask, world.answer_perform_of_apart onNext on differs]
    obtain ⟨swapped, same⟩ := solo_of_indistinct (asksRest (world.answer next))
      (world.perform_comm on onNext differs.symm)
    obtain ⟨later, sameLater⟩ := ih (world.answer next) (asksRest _) (world.perform next)
    exact ⟨swapped.trans later, same.trans sameLater⟩
  | clock rest ih => exact ih world.now (asks.of_clock _) world
  | log event rest ih => exact ih asks.of_log world
  | count metric rest ih => exact ih asks.of_count world

/-- A call is answered after a handler on another entry as before it. -/
theorem answer_solo (asks : handler.Asks (Call.On place)) (on : call.On other)
    (differs : place ≠ other) (world : World) :
    (handler.solo world).1.answer call = world.answer call := by
  induction handler generalizing world with
  | done value => rfl
  | ask next rest ih =>
    obtain ⟨onNext, asksRest⟩ := asks.of_ask
    exact (ih (world.answer next) (asksRest _) (world.perform next)).trans
      (world.answer_perform_of_apart on onNext differs.symm)
  | clock rest ih => exact ih world.now (asks.of_clock _) world
  | log event rest ih => exact ih asks.of_log world
  | count metric rest ih => exact ih asks.of_count world

/-- Two handlers on different entries can be run in either order, and the
second one does not notice the first. -/
theorem solo_comm (asks : first.Asks (Call.On place)) (asksOther : second.Asks (Call.On other))
    (differs : place ≠ other) (world : World) :
    (second.solo (first.solo world).1).1.Indistinct (first.solo (second.solo world).1).1 ∧
      (second.solo (first.solo world).1).2 = (second.solo world).2 := by
  induction first generalizing world with
  | done value => exact ⟨.refl _, rfl⟩
  | ask call rest ih =>
    obtain ⟨on, asksRest⟩ := asks.of_ask
    obtain ⟨after, same⟩ := solo_perform asksOther on differs.symm world
    obtain ⟨later, sameLater⟩ := ih (world.answer call) (asksRest _) (world.perform call)
    rw [solo_ask, solo_ask, answer_solo asksOther on differs.symm]
    exact ⟨later.trans (solo_of_indistinct (asksRest _) after).1, sameLater.trans same⟩
  | clock rest ih =>
    rw [solo_clock, solo_clock, second.now_solo]
    exact ih world.now (asks.of_clock _) world
  | log event rest ih => exact ih asks.of_log world
  | count metric rest ih => exact ih asks.of_count world

/-- A turn of the one handler is not noticed by the other. -/
theorem solo_after_turn (asks : first.Asks (Call.On place))
    (asksOther : second.Asks (Call.On other)) (differs : place ≠ other) (world : World) :
    (second.solo (first.advance world).1).2 = (second.solo world).2 := by
  rcases advance_world asks world with same | ⟨call, on, same⟩
  · rw [same]
  · rw [same]
    exact (solo_perform asksOther on differs.symm world).2

/-- Handlers on different entries do not interfere, whatever the schedule. -/
theorem race_of_apart (asks : first.Asks (Call.On place))
    (asksOther : second.Asks (Call.On other)) (differs : place ≠ other) (schedule : List Side)
    (world : World) :
    (race schedule first second world).1.Indistinct (second.solo (first.solo world).1).1 ∧
      (race schedule first second world).2 = ((first.solo world).2, (second.solo world).2) := by
  induction schedule generalizing first second world with
  | nil => exact ⟨.refl _, congrArg _ (solo_comm asks asksOther differs world).2⟩
  | cons side schedule ih =>
    cases side with
    | first =>
      obtain ⟨left, values⟩ := ih (asks_advance asks world) asksOther (first.advance world).1
      rw [first.solo_advance] at left values
      rw [solo_after_turn asks asksOther differs] at values
      exact ⟨left, values⟩
    | second =>
      obtain ⟨left, values⟩ := ih asks (asks_advance asksOther world) (second.advance world).1
      obtain ⟨swapped, -⟩ :=
        solo_comm asks (asks_advance asksOther world) differs (second.advance world).1
      have left := left.trans swapped
      rw [second.solo_advance] at left values
      rw [solo_after_turn asksOther asks differs.symm] at values
      exact ⟨left.trans (solo_comm asks asksOther differs world).1.symm, values⟩

end Handler

end CacheGate
