import CacheGate.Proofs.Handler.Exchange
import CacheGate.Proofs.Store.Calls

/-!
# Handlers among other clients

`Handler.among` runs a handler on the in-memory store while other clients use
the same store and time passes. A schedule says what they do before and after
each call of the handler, so every interleaving is a schedule; the run records
all that happened as a list of `Happening`s.

* `Handler.among_yields`: the exchanges of the handler are those that the
  record implies. Statements about `Handler.Yields` therefore speak about
  every interleaving.
* `World.exchanges_eq_cons`, `World.exchanges_eq_append` and
  `World.exchanges_eq_pair`: where exchanges stand in the record, and the
  store and clock that they met.
-/

namespace CacheGate

open Time

/-! ## The store and its clock -/

/-- A store with the clock it reads. -/
structure World where
  memory : Memory
  now : Instant

/-- What may happen between the calls of a handler: another client makes a
call, or the clock changes. -/
inductive Move where
  | call (call : Call)
  | clock (now : Instant)
  deriving DecidableEq

/-- One thing that happens while a handler runs. -/
inductive Happening where
  | own (call : Call)
  | move (move : Move)
  deriving DecidableEq

namespace World

/-- The live entry under a key. -/
def live? (world : World) (name : String) (content : Bytes) : Option StoredEntry :=
  world.memory.live? world.now name content

def answer (world : World) (call : Call) : Except StoreError call.Answer :=
  (world.memory.perform world.now call).answer

def perform (world : World) (call : Call) : World :=
  { world with memory := (world.memory.perform world.now call).memory }

def happen (world : World) : Happening → World
  | .own call => world.perform call
  | .move (.call call) => world.perform call
  | .move (.clock now) => { world with now }

/-- The world after all that happened. -/
def after (world : World) (history : List Happening) : World := history.foldl happen world

/-- The calls of the handler with their answers, as they happened. -/
def exchanges : World → List Happening → List Exchange
  | _, [] => []
  | world, .own call :: rest => ⟨call, world.answer call⟩ :: (world.perform call).exchanges rest
  | world, .move move :: rest => (world.happen (.move move)).exchanges rest

end World

/-! ## Runs -/

/-- A run among other clients: what they do before and after each of the
coming calls, and what has happened so far. -/
structure Interleaved where
  world : World
  schedule : List (List Move × List Move)
  history : List Happening

namespace Interleaved

/-- What happens at the next call. -/
def coming (state : Interleaved) (call : Call) : List Happening :=
  let (before, after) := state.schedule.headD ([], [])
  before.map .move ++ .own call :: after.map .move

/-- Answers a call with what is scheduled around it. -/
def answer (call : Call) (state : Interleaved) :
    Except StoreError call.Answer × Interleaved × List Event :=
  let reached := state.world.after ((state.schedule.headD ([], [])).1.map .move)
  (reached.answer call,
    ⟨state.world.after (state.coming call), state.schedule.tail,
      state.history ++ state.coming call⟩,
    (reached.memory.perform reached.now call).events)

def backend : Handler.Backend Interleaved := ⟨fun state => state.world.now, answer⟩

end Interleaved

/-- Runs a handler while other clients do what is scheduled. -/
def Handler.among {α : Type} (handler : Handler α) (world : World)
    (schedule : List (List Move × List Move)) : Handler.Ran Interleaved α :=
  handler.run Interleaved.backend ⟨world, schedule, []⟩

/-! ## Exchanges in the record -/

namespace World

variable {world : World} {history : List Happening} {call : Call} {moves : List Move}
  {before rest : List Exchange}

theorem after_append (world : World) (first second : List Happening) :
    world.after (first ++ second) = (world.after first).after second :=
  List.foldl_append

theorem exchanges_own (world : World) (call : Call) (rest : List Happening) :
    world.exchanges (.own call :: rest) =
      ⟨call, world.answer call⟩ :: (world.perform call).exchanges rest := rfl

theorem exchanges_append (world : World) (first second : List Happening) :
    world.exchanges (first ++ second) =
      world.exchanges first ++ (world.after first).exchanges second := by
  induction first generalizing world with
  | nil => rfl
  | cons happening first ih =>
    cases happening with
    | own call => exact congrArg (⟨call, world.answer call⟩ :: ·) (ih (world.perform call))
    | move move => exact ih (world.happen (.move move))

theorem exchanges_moves (world : World) (moves : List Move) :
    world.exchanges (moves.map .move) = [] := by
  induction moves generalizing world with
  | nil => rfl
  | cons move moves ih => exact ih (world.happen (.move move))

/-- The first exchange, with all that happened before it. -/
theorem exchanges_eq_cons {answer : Except StoreError call.Answer}
    (first : world.exchanges history = ⟨call, answer⟩ :: rest) :
    ∃ (moves : List Move) (later : List Happening),
      history = moves.map .move ++ .own call :: later ∧
      (world.after (moves.map .move)).answer call = answer ∧
      ((world.after (moves.map .move)).perform call).exchanges later = rest := by
  induction history generalizing world with
  | nil => cases first
  | cons happening history ih =>
    cases happening with
    | own made =>
      obtain ⟨same, restEq⟩ := List.cons.inj first
      obtain ⟨rfl, answerEq⟩ := Exchange.mk.inj same
      exact ⟨[], history, rfl, eq_of_heq answerEq, restEq⟩
    | move move =>
      obtain ⟨moves, later, rfl, answered, restEq⟩ := ih first
      exact ⟨move :: moves, later, rfl, answered, restEq⟩

/-- A record is cut where its exchanges are. -/
theorem exchanges_eq_append (cut : world.exchanges history = before ++ rest) :
    ∃ earlier later, history = earlier ++ later ∧ world.exchanges earlier = before ∧
      (world.after earlier).exchanges later = rest := by
  induction before generalizing world history with
  | nil => exact ⟨[], history, rfl, rfl, cut⟩
  | cons exchange before ih =>
    obtain ⟨call, answer⟩ := exchange
    obtain ⟨moves, later, rfl, answered, restEq⟩ := exchanges_eq_cons cut
    obtain ⟨inner, last, rfl, innerEq, lastEq⟩ := ih restEq
    refine ⟨moves.map .move ++ .own call :: inner, last, by simp, ?_, ?_⟩
    · rw [exchanges_append, exchanges_moves, List.nil_append, exchanges_own, answered, innerEq]
    · rw [after_append]
      exact lastEq

end World

/-- Two calls of a handler in a row: what happened before, between and after
them. Between them only other clients acted. -/
structure Consecutive (history : List Happening) (first second : Call) where
  earlier : List Happening
  between : List Move
  later : List Happening
  history_eq : history = earlier ++ .own first :: (between.map .move ++ .own second :: later)

namespace Consecutive

variable {history : List Happening} {first second : Call}

/-- What happened from the first call until just before the second. -/
def since (calls : Consecutive history first second) : List Happening :=
  .own first :: calls.between.map .move

/-- The world that the first call met. -/
def atFirst (calls : Consecutive history first second) (world : World) : World :=
  world.after calls.earlier

/-- The world that the second call met. -/
def atSecond (calls : Consecutive history first second) (world : World) : World :=
  (calls.atFirst world).after calls.since

theorem after_eq (calls : Consecutive history first second) (world : World) :
    world.after history = ((calls.atSecond world).perform second).after calls.later := by
  obtain ⟨earlier, between, later, rfl⟩ := calls
  rw [World.after_append]
  exact World.after_append ((world.after earlier).perform first) (between.map .move)
    (.own second :: later)

end Consecutive

/-- Two exchanges in a row, and the worlds that they met. -/
theorem World.exchanges_eq_pair {world : World} {history : List Happening} {first second : Call}
    {answer : Except StoreError first.Answer} {next : Except StoreError second.Answer}
    {before rest : List Exchange}
    (pair : world.exchanges history = before ++ ⟨first, answer⟩ :: ⟨second, next⟩ :: rest) :
    ∃ calls : Consecutive history first second,
      world.exchanges calls.earlier = before ∧
      (calls.atFirst world).answer first = answer ∧
      (calls.atSecond world).answer second = next ∧
      ((calls.atSecond world).perform second).exchanges calls.later = rest := by
  obtain ⟨opening, tail, rfl, openingEq, tailEq⟩ := exchanges_eq_append pair
  obtain ⟨moves, later, rfl, answered, laterEq⟩ := exchanges_eq_cons tailEq
  obtain ⟨between, last, rfl, nextEq, lastEq⟩ := exchanges_eq_cons laterEq
  have met : world.after (opening ++ moves.map .move) =
      (world.after opening).after (moves.map .move) := after_append ..
  refine ⟨⟨opening ++ moves.map .move, between, last, (List.append_assoc ..).symm⟩,
    ?_, ?_, ?_, ?_⟩
  · rw [exchanges_append, openingEq, exchanges_moves, List.append_nil]
  · exact (congrArg (World.answer · first) met).trans answered
  · exact (congrArg (fun reached => ((World.perform reached first).after
      (between.map .move)).answer second) met).trans nextEq
  · exact (congrArg (fun reached => (((World.perform reached first).after
      (between.map .move)).perform second).exchanges last) met).trans lastEq

/-! ## Runs and their records -/

namespace Handler

variable {α : Type}

/-- A run adds to the record, and the record tells all about the run. -/
theorem run_interleaved (handler : Handler α) (state : Interleaved) :
    ∃ history, (handler.run Interleaved.backend state).state.history = state.history ++ history ∧
      (handler.run Interleaved.backend state).state.world = state.world.after history ∧
      handler.Yields (state.world.exchanges history)
        (handler.run Interleaved.backend state).value := by
  induction handler generalizing state with
  | done value => exact ⟨[], (List.append_nil _).symm, rfl, .done⟩
  | ask call next ih =>
    let reached := state.world.after ((state.schedule.headD ([], [])).1.map .move)
    let moved : Interleaved := ⟨state.world.after (state.coming call), state.schedule.tail,
      state.history ++ state.coming call⟩
    obtain ⟨later, recorded, ended, run⟩ := ih (reached.answer call) moved
    refine ⟨state.coming call ++ later, ?_, ?_, ?_⟩
    · rw [← List.append_assoc]
      exact recorded
    · rw [World.after_append]
      exact ended
    · have exchange : state.world.exchanges (state.coming call) =
          [⟨call, reached.answer call⟩] := by
        unfold Interleaved.coming
        rw [World.exchanges_append, World.exchanges_moves, World.exchanges_own,
          World.exchanges_moves]
        rfl
      rw [World.exchanges_append, exchange]
      exact .ask _ run
  | clock next ih =>
    obtain ⟨history, recorded, ended, run⟩ := ih state.world.now state
    exact ⟨history, recorded, ended, .clock _ run⟩
  | log event rest ih =>
    obtain ⟨history, recorded, ended, run⟩ := ih state
    exact ⟨history, recorded, ended, .log run⟩
  | count metric rest ih =>
    obtain ⟨history, recorded, ended, run⟩ := ih state
    exact ⟨history, recorded, ended, .count run⟩

variable (handler : Handler α) (world : World) (schedule : List (List Move × List Move))

theorem among_yields :
    handler.Yields (world.exchanges (handler.among world schedule).state.history)
      (handler.among world schedule).value := by
  obtain ⟨history, recorded, -, run⟩ := handler.run_interleaved ⟨world, schedule, []⟩
  unfold among
  rw [recorded]
  exact run

theorem among_world :
    (handler.among world schedule).state.world =
      world.after (handler.among world schedule).state.history := by
  obtain ⟨history, recorded, ended, -⟩ := handler.run_interleaved ⟨world, schedule, []⟩
  unfold among
  rw [recorded]
  exact ended

/-- Nobody acts but the handler when nothing is scheduled. -/
theorem among_nil_history :
    ∃ calls : List Call, (handler.among world []).state.history = calls.map .own := by
  have alone (state : Interleaved) (free : state.schedule = []) :
      ∃ calls : List Call, (handler.run Interleaved.backend state).state.history =
        state.history ++ calls.map .own := by
    induction handler generalizing state with
    | done value => exact ⟨[], (List.append_nil _).symm⟩
    | ask call next ih =>
      let reached := state.world.after ((state.schedule.headD ([], [])).1.map .move)
      obtain ⟨calls, recorded⟩ := ih (reached.answer call)
        ⟨state.world.after (state.coming call), state.schedule.tail,
          state.history ++ state.coming call⟩ (by rw [free]; rfl)
      refine ⟨call :: calls, recorded.trans ?_⟩
      unfold Interleaved.coming
      rw [free]
      simp
    | clock next ih => exact ih state.world.now state free
    | log event rest ih => exact ih state free
    | count metric rest ih => exact ih state free
  obtain ⟨calls, recorded⟩ := alone ⟨world, [], []⟩ rfl
  exact ⟨calls, recorded⟩

end Handler

end CacheGate
