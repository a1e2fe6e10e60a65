import CacheGate.Serve.Web
import CacheGate.Store.Memory

/-!
# Scenarios

A scenario is a bench on which handlers are tried out; no node serves requests
through it. It runs handlers on the in-memory store under a clock that stands
still unless it is moved, with the actions of other clients placed between
the store calls of a request. `Schedule` says what happens before the first,
second, ... call of each kind; `Scenario.backend` is the store that a handler
then sees. The bench has search handlers of its own, since query languages live
outside this library.

As long as no intrusion ends a call, a run on the bench is one of the runs
among other clients that the theory is about (`Scenario.exists_among`).
-/

namespace CacheGate

open Time Http

/-! ## Searches -/

namespace QueryHandler

/-- Answers every search with the cache and the query text. -/
def echo : QueryHandler := fun cache request =>
  .ok ((Response.ofStatus .ok).diagnostic (cache ++ ":" ++ (request.param? "query").getD ""))

/-- Fails every search. -/
def failing (detail : String) : QueryHandler := fun _ _ => .error (.workerPool detail)

end QueryHandler

/-! ## Interference -/

/-- What happens just before a store call. The last four end the call. -/
inductive Intrusion where
  /-- Another client writes the key of the call. -/
  | put (value : Bytes) (lifespan : Expiration)
  /-- Another client removes the key of the call. -/
  | remove
  /-- Time passes. -/
  | advance (nanos : Int)
  /-- The call fails. -/
  | fail (detail : String)
  /-- The call fails because its cache is gone. -/
  | unknownCache
  /-- The call fails because the value has no conversion. -/
  | encoding (source : MediaType)
  /-- The call finds nothing. -/
  | absent
  deriving DecidableEq, Repr

/-- The kinds of store calls. -/
inductive CallKind where
  | get
  | put
  | remove
  | clear
  | keys
  | entry
  | configuration
  | distribution
  deriving DecidableEq, Repr

/-- The kind of a call. -/
def Call.kind : Call → CallKind
  | .get .. => .get
  | .put .. => .put
  | .remove .. => .remove
  | .clear .. => .clear
  | .keys .. => .keys
  | .entry .. => .entry
  | .configuration .. => .configuration
  | .distribution .. => .distribution

/-- What happens before the coming calls of each kind, in order. -/
abbrev Schedule := List (CallKind × List (List Intrusion))

namespace Schedule

/-- The intrusions before the next call of a kind, and the schedule after it. -/
def next (schedule : Schedule) (kind : CallKind) : List Intrusion × Schedule :=
  match schedule.lookup kind with
  | some (first :: rest) =>
    (first, schedule.map fun item => if item.1 = kind then (kind, rest) else item)
  | _ => ([], schedule)

end Schedule

/-! ## The state of a scenario -/

/-- The store, the clock, the coming intrusions, and which stamps internal
reads leave out. -/
structure Scenario where
  memory : Memory
  now : Instant
  schedule : Schedule
  hidesCreated : Bool
  hidesLastUsed : Bool

namespace Scenario

/-- The identity under which other clients act. -/
def rival : Subject := .named "rival"

/-- Moves the clock, which stops at the ends of the calendar. -/
def advance (scenario : Scenario) (nanos : Int) : Scenario :=
  { scenario with now := (scenario.now.add? nanos).getD scenario.now }

/-- Performs a call on the store as it is. -/
def perform (scenario : Scenario) (call : Call) :
    Except StoreError call.Answer × Scenario × List Event :=
  let performed := scenario.memory.perform scenario.now call
  (performed.answer, { scenario with memory := performed.memory }, performed.events)

/-- The call that another client makes on the key of a call. -/
def rivalCall? (cache : String) (key? : Option Key) : Intrusion → Option Call
  | .put value lifespan =>
    key?.map fun key => .put rival cache ⟨key, value, .textPlain, lifespan, .unlimited⟩
  | .remove => key?.map fun key => .remove rival cache key
  | _ => none

/-- The answer that an intrusion forces on a call. -/
def forced? (call : Call) : Intrusion → Option (Except StoreError call.Answer)
  | .fail detail => some (.error (.backend detail))
  | .unknownCache => some (.error (.unknownCache call.cache))
  | .encoding source => some (.error (.encoding source .any))
  | .absent =>
    match call with
    | .get .. => some (.ok none)
    | .entry .. => some (.ok none)
    | _ => none
  | _ => none

/-- Carries out an intrusion that does not end the call. -/
def intrude (scenario : Scenario) (call : Call) (intrusion : Intrusion) : Scenario × List Event :=
  match intrusion with
  | .advance nanos => (scenario.advance nanos, [])
  | _ =>
    match rivalCall? call.cache call.key? intrusion with
    | some rivalCall => (scenario.perform rivalCall).2
    | none => (scenario, [])

/-- Carries out intrusions until one ends the call. -/
def intrudeAll (call : Call) :
    List Intrusion → Scenario → Option (Except StoreError call.Answer) × Scenario × List Event
  | [], scenario => (none, scenario, [])
  | intrusion :: rest, scenario =>
    match forced? call intrusion with
    | some answer => (some answer, scenario, [])
    | none =>
      let (scenario, events) := scenario.intrude call intrusion
      let (answer, scenario, later) := intrudeAll call rest scenario
      (answer, scenario, events ++ later)

/-- Leaves out the stamps that are not tracked. -/
def hideStamps (scenario : Scenario) (entry : Entry) : Entry :=
  { entry with
    created := if scenario.hidesCreated then none else entry.created
    lastUsed := if scenario.hidesLastUsed then none else entry.lastUsed }

/-- The answer of a call as handlers see it. -/
def shown (scenario : Scenario) : (call : Call) → call.Answer → call.Answer
  | .entry .., found => found.map scenario.hideStamps
  | .get .., answer | .put .., answer | .remove .., answer | .clear .., answer
  | .keys .., answer | .configuration .., answer | .distribution .., answer => answer

/-- Answers a call after what is scheduled before it. -/
def answer (call : Call) (scenario : Scenario) :
    Except StoreError call.Answer × Scenario × List Event :=
  let (intrusions, schedule) := scenario.schedule.next call.kind
  let (forced, scenario, events) := intrudeAll call intrusions { scenario with schedule }
  match forced with
  | some answer => (answer, scenario, events)
  | none =>
    let (answer, scenario, later) := scenario.perform call
    (answer.map (scenario.shown call), scenario, events ++ later)

/-- The store and clock of a scenario. -/
def backend : Handler.Backend Scenario := ⟨Scenario.now, answer⟩

/-- Runs a handler in a scenario. -/
def run {α : Type} (scenario : Scenario) (handler : Handler α) : Handler.Ran Scenario α :=
  handler.run backend scenario

end Scenario

end CacheGate
