import CacheGate.Proofs.Handler.Interleaving
import CacheGate.Proofs.Serve.Metrics
import CacheGate.Scenario

/-!
# Scenarios are interleavings

What happens before a call of a scenario is what other clients may do before
any call (`Scenario.intrudeAll_eq`), as long as it does not end the call. So
call by call, a handler goes on a scenario as it goes among other clients
(`Scenario.answer_eq`), and what is known of all interleavings is known of
all such scenarios (`Scenario.exists_among`). Searches on the bench are counted
truthfully.
-/

namespace CacheGate

open Time Http

/-! ## Intrusions that do not end a call -/

/-- Whether the call is made after all: another client acts, or time passes. -/
def Intrusion.leavesCall : Intrusion → Bool
  | .put .. | .remove | .advance _ => true
  | .fail _ | .unknownCache | .encoding _ | .absent => false

/-- No intrusion of the schedule ends a call. -/
def Schedule.LeavesCalls (schedule : Schedule) : Prop :=
  ∀ item ∈ schedule, ∀ intrusions ∈ item.2, ∀ intrusion ∈ intrusions,
    intrusion.leavesCall = true

namespace Schedule

variable {schedule : Schedule} {kind : CallKind}

theorem leavesCall_of_mem_next (leaves : schedule.LeavesCalls) :
    ∀ intrusion ∈ (schedule.next kind).1, intrusion.leavesCall = true := by
  unfold next
  split
  case h_1 first rest found =>
    obtain ⟨before, after, cut, -⟩ := List.lookup_eq_some_iff.1 found
    have member : (kind, first :: rest) ∈ schedule :=
      cut ▸ List.mem_append_right before List.mem_cons_self
    exact leaves _ member first List.mem_cons_self
  case h_2 => exact nofun

theorem leavesCalls_next (leaves : schedule.LeavesCalls) : (schedule.next kind).2.LeavesCalls := by
  unfold next
  split
  case h_1 first rest found =>
    obtain ⟨before, after, cut, -⟩ := List.lookup_eq_some_iff.1 found
    have held : (kind, first :: rest) ∈ schedule :=
      cut ▸ List.mem_append_right before List.mem_cons_self
    intro item member
    obtain ⟨old, inside, rfl⟩ := List.mem_map.1 member
    split
    · exact fun intrusions later => leaves _ held intrusions (List.mem_cons_of_mem first later)
    · exact leaves old inside
  case h_2 => exact leaves

end Schedule

namespace Scenario

variable {scenario : Scenario} {call : Call} {intrusion : Intrusion} {intrusions : List Intrusion}

/-- The store and the clock of a scenario. -/
def world (scenario : Scenario) : World := ⟨scenario.memory, scenario.now⟩

/-- The scenario with another store and another clock. -/
def moved (scenario : Scenario) (world : World) : Scenario :=
  { scenario with memory := world.memory, now := world.now }

/-- The calls are made and answered in full. -/
structure Peaceful (scenario : Scenario) : Prop where
  leaves : scenario.schedule.LeavesCalls
  created : scenario.hidesCreated = false
  lastUsed : scenario.hidesLastUsed = false

theorem forced?_of_leavesCall (leaves : intrusion.leavesCall = true) :
    forced? call intrusion = none := by
  cases intrusion with
  | put | remove | advance => rfl
  | fail | unknownCache | encoding | absent => cases leaves

/-- One intrusion is at most one move of another client or of the clock. -/
theorem intrude_eq (leaves : intrusion.leavesCall = true) :
    ∃ (moves : List Move) (events : List Event),
      scenario.intrude call intrusion =
        (scenario.moved (scenario.world.after (moves.map .move)), events) := by
  cases intrusion with
  | put | remove =>
    unfold intrude
    split
    case h_1 => contradiction
    case h_2 =>
      split
      case h_1 rivalCall _ => exact ⟨[.call rivalCall], _, rfl⟩
      case h_2 => exact ⟨[], [], rfl⟩
  | advance nanos => exact ⟨[.clock ((scenario.now.add? nanos).getD scenario.now)], [], rfl⟩
  | fail | unknownCache | encoding | absent => cases leaves

/-- What happens before a call is what other clients may do before it. -/
theorem intrudeAll_eq (leaves : ∀ intrusion ∈ intrusions, intrusion.leavesCall = true) :
    ∃ (moves : List Move) (events : List Event),
      intrudeAll call intrusions scenario =
        (none, scenario.moved (scenario.world.after (moves.map .move)), events) := by
  induction intrusions generalizing scenario with
  | nil => exact ⟨[], [], rfl⟩
  | cons intrusion intrusions ih =>
    obtain ⟨first, others⟩ := List.forall_mem_cons.1 leaves
    obtain ⟨moves, events, here⟩ := @intrude_eq scenario call intrusion first
    obtain ⟨more, later, rest⟩ :=
      @ih (scenario.moved (scenario.world.after (moves.map .move))) others
    refine ⟨moves ++ more, events ++ later, ?_⟩
    unfold intrudeAll
    rw [forced?_of_leavesCall first]
    dsimp only
    rw [here]
    dsimp only
    rw [rest, List.map_append, World.after_append]
    rfl

/-! ## Calls -/

theorem shown_eq (peaceful : scenario.Peaceful) (answer : call.Answer) :
    scenario.shown call answer = answer := by
  cases call with
  | entry context cache key =>
    have kept : scenario.hideStamps = id := by
      funext entry
      unfold hideStamps
      rw [peaceful.created, peaceful.lastUsed]
      rfl
    change Option.map scenario.hideStamps answer = answer
    rw [kept, Option.map_id_fun]
    rfl
  | _ => rfl

/-- A call meets the store that the moves before it have left, and is answered by it. -/
theorem answer_eq (peaceful : scenario.Peaceful) (call : Call) :
    ∃ (moves : List Move) (after : Scenario) (events : List Event),
      scenario.answer call =
        ((scenario.world.after (moves.map .move)).answer call, after, events) ∧
      after.world = (scenario.world.after (moves.map .move)).perform call ∧ after.Peaceful := by
  let coming : Scenario := { scenario with schedule := (scenario.schedule.next call.kind).2 }
  obtain ⟨moves, events, intruded⟩ := @intrudeAll_eq coming call _
    (Schedule.leavesCall_of_mem_next peaceful.leaves)
  let reached : World := scenario.world.after (moves.map .move)
  let after : Scenario := coming.moved (reached.perform call)
  have peacefulAfter : after.Peaceful :=
    ⟨Schedule.leavesCalls_next peaceful.leaves, peaceful.created, peaceful.lastUsed⟩
  have unchanged : after.shown call = id := funext fun answer => shown_eq peacefulAfter answer
  refine ⟨moves, after, events ++ (reached.memory.perform reached.now call).events, ?_, rfl,
    peacefulAfter⟩
  unfold answer
  dsimp only
  rw [intruded]
  change ((reached.answer call).map (after.shown call), after, _) = _
  rw [unchanged]
  exact congrArg (·, after, _) (congrFun Except.map_id _)

/-! ## Runs -/

/-- A run on a scenario and one among other clients that nobody tells apart:
both end with the same value and metrics, and leave the same store and clock. -/
structure Matches {α : Type} (bench : Handler.Ran Scenario α)
    (among : Handler.Ran Interleaved α) : Prop where
  value : bench.value = among.value
  world : bench.state.world = among.state.world
  metrics : bench.metrics = among.metrics

/-- Whatever was logged before, and the same metrics, may be put in front. -/
theorem Matches.after {α : Type} {bench : Handler.Ran Scenario α}
    {among : Handler.Ran Interleaved α} (same : Matches bench among) (events logged : List Event)
    (counted : List Metric) : Matches (bench.after events counted) (among.after logged counted) :=
  ⟨same.value, same.world, congrArg (counted ++ ·) same.metrics⟩

/-- Step by step, what a handler does on a scenario it does in some interleaving. -/
theorem exists_run {α : Type} (handler : Handler α) (peaceful : scenario.Peaceful) :
    ∃ schedule : List (List Move × List Move), ∀ history : List Happening,
      Matches (scenario.run handler)
        (handler.run Interleaved.backend ⟨scenario.world, schedule, history⟩) := by
  induction handler generalizing scenario with
  | done value => exact ⟨[], fun _ => ⟨rfl, rfl, rfl⟩⟩
  | ask call next ih =>
    obtain ⟨moves, after, events, answered, left, peacefulAfter⟩ := answer_eq peaceful call
    let reply := (scenario.world.after (moves.map .move)).answer call
    obtain ⟨schedule, same⟩ := ih reply peacefulAfter
    refine ⟨(moves, []) :: schedule, fun history => ?_⟩
    have reached : scenario.world.after (moves.map .move ++ [.own call]) = after.world :=
      (World.after_append _ (moves.map .move) [.own call]).trans left.symm
    have here : scenario.run (.ask call next) = (after.run (next reply)).after events [] := by
      rw [run, Handler.run]
      change (let met := scenario.answer call
        ((next met.1).run backend met.2.1).after met.2.2 []) = _
      rw [answered]
      rfl
    rw [here]
    change Matches _ (((next reply).run Interleaved.backend
      ⟨scenario.world.after (moves.map .move ++ [.own call]), schedule, _⟩).after _ [])
    rw [reached]
    exact (same _).after events _ []
  | clock next ih => exact ih scenario.now peaceful
  | log event rest ih =>
    obtain ⟨schedule, same⟩ := ih peaceful
    exact ⟨schedule, fun history => (same history).after [event] [event] []⟩
  | count metric rest ih =>
    obtain ⟨schedule, same⟩ := ih peaceful
    exact ⟨schedule, fun history => (same history).after [] [] [metric]⟩

/-- Unless an intrusion ends a call, a run on a scenario is a run among other clients. -/
theorem exists_among {α : Type} (handler : Handler α) (peaceful : scenario.Peaceful) :
    ∃ schedule : List (List Move × List Move),
      Matches (scenario.run handler) (handler.among scenario.world schedule) := by
  obtain ⟨schedule, same⟩ := exists_run handler peaceful
  exact ⟨schedule, same []⟩

end Scenario

/-! ## Searches -/

theorem QueryHandler.answersLabelled_echo : echo.AnswersLabelled := by
  intro cache request response answered
  obtain rfl := Except.ok.inj answered
  exact .of_status Response.diagnostic_status (by decide)

theorem QueryHandler.answersLabelled_failing (detail : String) :
    (failing detail).AnswersLabelled := by
  intro cache request response answered
  cases answered

end CacheGate
