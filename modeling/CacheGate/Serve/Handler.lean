import CacheGate.AccessError
import CacheGate.Log.Event
import CacheGate.Store.Call
import CacheGate.Time.Instant

/-!
# Handlers

A handler is a tree: it asks the store, reads the clock, logs, counts, and
goes on with each answer, so it makes no assumption about the store behind it
or about what happens between two calls. `Handler.run` runs a handler on a
`Backend`, which is any state that answers calls and tells the time.
-/

namespace CacheGate

open Time

/-- A computation that asks a store and reports on its work. -/
inductive Handler (α : Type) : Type where
  | done (value : α)
  /-- Asks the store and goes on with its answer. -/
  | ask (call : Call) (next : Except StoreError call.Answer → Handler α)
  /-- Reads the clock. -/
  | clock (next : Instant → Handler α)
  | log (event : Event) (rest : Handler α)
  | count (metric : Metric) (rest : Handler α)

namespace Handler

variable {α β σ : Type}

/-- Goes on with a second handler where the first one is done. -/
def bind : Handler α → (α → Handler β) → Handler β
  | .done value, f => f value
  | .ask call next, f => .ask call fun answer => (next answer).bind f
  | .clock next, f => .clock fun now => (next now).bind f
  | .log event rest, f => .log event (rest.bind f)
  | .count metric rest, f => .count metric (rest.bind f)

instance : Monad Handler where
  pure := .done
  bind := .bind

/-! ## Running -/

/-- A store with a clock, as handlers see it: a state that answers calls.
Calls may log, and may move the clock. -/
structure Backend (σ : Type) where
  now : σ → Instant
  answer : (call : Call) → σ → Except StoreError call.Answer × σ × List Event

/-- The result of a run: the value, the state after it, and what was reported. -/
structure Ran (σ α : Type) where
  value : α
  state : σ
  events : List Event
  metrics : List Metric

/-- Puts earlier reports in front of a result. -/
def Ran.after (events : List Event) (metrics : List Metric) (ran : Ran σ α) : Ran σ α :=
  { ran with events := events ++ ran.events, metrics := metrics ++ ran.metrics }

/-- Runs a handler on a backend. -/
def run (backend : Backend σ) : Handler α → σ → Ran σ α
  | .done value, state => ⟨value, state, [], []⟩
  | .ask call next, state =>
    match backend.answer call state with
    | (answer, state, events) => ((next answer).run backend state).after events []
  | .clock next, state => (next (backend.now state)).run backend state
  | .log event rest, state => (rest.run backend state).after [event] []
  | .count metric rest, state => (rest.run backend state).after [] [metric]

end Handler

/-! ## Steps of a request -/

/-- A handler that may fail with a request failure. -/
abbrev Answering := ExceptT AccessError Handler

namespace Answering

/-- Asks the store; a store failure fails the request. -/
def ask (call : Call) : Answering call.Answer :=
  ExceptT.mk <| .ask call fun
    | .ok answer => .done (.ok answer)
    | .error error => .done (.error (.store error))

/-- Reads the clock. -/
def clock : Answering Instant := ExceptT.mk (.clock fun now => .done (.ok now))

/-- Logs an event. -/
def log (event : Event) : Answering Unit := ExceptT.mk (.log event (.done (.ok ())))

/-- Records a metric. -/
def count (metric : Metric) : Answering Unit := ExceptT.mk (.count metric (.done (.ok ())))

/-- Goes on with a value or fails. -/
def ofExcept {α : Type} (result : Except AccessError α) : Answering α :=
  ExceptT.mk (.done result)

end Answering

end CacheGate
