import CacheGate.Proofs.Disclosure
import CacheGate.Serve.Handler
import Mathlib.Data.List.Forall2

/-!
# Two handlers in lockstep

A statement about two runs says how two handlers go side by side.
`Handler.Lockstep` relates such a pair: whatever they are answered, both make
the same store calls up to a relation of keys, read the clock at the same
points, count the same metrics, and end with related values. The wording of a
failure makes no difference to them, and they may log different things.

`Handler.Lockstep.run` carries this over to runs, on two backends that answer
calls in step (`Handler.Simulation`). Two handlers are put together from
steps in lockstep, of which `Answering.Lockstep.bind` makes sequences.
-/

namespace CacheGate

open Time

/-! ## Answers in step -/

/-- Two results of the same kind with related contents. -/
inductive Corresponds {ε δ α β : Type} (failures : ε → δ → Prop) (values : α → β → Prop) :
    Except ε α → Except δ β → Prop
  | ok {left : α} {right : β} : values left right →
    Corresponds failures values (.ok left) (.ok right)
  | error {left : ε} {right : δ} : failures left right →
    Corresponds failures values (.error left) (.error right)

namespace Corresponds

variable {ε δ α β : Type} {failures : ε → δ → Prop} {values others : α → β → Prop}
  {left : Except ε α} {right : Except δ β}

theorem mono (corresponds : Corresponds failures values left right)
    (weaker : ∀ value other, values value other → others value other) :
    Corresponds failures others left right := by
  cases corresponds with
  | ok related => exact .ok (weaker _ _ related)
  | error related => exact .error related

theorem of_eq {failures : ε → ε → Prop} {values : α → α → Prop} {result outcome : Except ε α}
    (alike : ∀ error, failures error error) (same : ∀ value, values value value)
    (equal : result = outcome) : Corresponds failures values result outcome := by
  subst equal
  cases result with
  | ok value => exact .ok (same value)
  | error error => exact .error (alike error)

theorem refl {failures : ε → ε → Prop} (alike : ∀ error, failures error error)
    (result : Except ε α) : Corresponds failures Eq result result :=
  of_eq alike (fun _ => rfl) rfl

end Corresponds

section Calls

variable (keys : Key → Key → Prop)

/-- Two calls that differ at most in their keys, which are related. -/
inductive Call.Alike : Call → Call → Prop
  | get {subject : Subject} {cache : String} {key other : Key} {format : MediaType} :
    keys key other → Call.Alike (.get subject cache key format) (.get subject cache other format)
  | put {subject : Subject} {cache : String} {key other : Key} {value : Bytes}
    {mediaType : MediaType} {metadata : EntryMetadata} : keys key other →
    Call.Alike (.put subject cache ⟨key, value, mediaType, metadata⟩)
      (.put subject cache ⟨other, value, mediaType, metadata⟩)
  | remove {subject : Subject} {cache : String} {key other : Key} :
    keys key other → Call.Alike (.remove subject cache key) (.remove subject cache other)
  | clear {subject : Subject} {cache : String} :
    Call.Alike (.clear subject cache) (.clear subject cache)
  | keys {subject : Subject} {cache : String} :
    Call.Alike (.keys subject cache) (.keys subject cache)
  | entry {context : ExecutionContext} {cache : String} {key other : Key} :
    keys key other → Call.Alike (.entry context cache key) (.entry context cache other)
  | configuration {context : ExecutionContext} {cache : String} :
    Call.Alike (.configuration context cache) (.configuration context cache)
  | distribution {context : ExecutionContext} {cache : String} {key other : Key} :
    keys key other →
    Call.Alike (.distribution context cache key) (.distribution context cache other)

/-- What two such calls answer: listed keys are related, all else is equal. -/
def Call.AnswersAlike : (left right : Call) → left.Answer → right.Answer → Prop
  | .get .., .get .., found, other => found = other
  | .put .., .put .., _, _ => True
  | .remove .., .remove .., removed, other => removed = other
  | .clear .., .clear .., _, _ => True
  | .keys .., .keys .., listed, others => List.Forall₂ keys listed others
  | .entry .., .entry .., found, other => found = other
  | .configuration .., .configuration .., settings, other => settings = other
  | .distribution .., .distribution .., placement, other => placement = other
  | _, _, _, _ => False

/-- Two results of calls that are in step. -/
abbrev Call.InStep (left right : Call) :
    Except StoreError left.Answer → Except StoreError right.Answer → Prop :=
  Corresponds StoreError.Alike (Call.AnswersAlike keys left right)

end Calls

/-- Calls that are alike in all but their keys, and have the same keys, are the same. -/
theorem Call.Alike.eq {call other : Call} (alike : call.Alike Eq other) : call = other := by
  cases alike with
  | get same | remove same | entry same | distribution same | put same => rw [same]
  | clear | keys | configuration => rfl

theorem Call.AnswersAlike.refl (call : Call) (answer : call.Answer) :
    call.AnswersAlike Eq call answer answer := by
  cases call with
  | keys => exact List.forall₂_same.2 fun _ _ => rfl
  | put | clear => trivial
  | _ => rfl

/-- Two values that are one known value. -/
def Both {α : Type} (value left right : α) : Prop := left = value ∧ right = value

/-! ## Handlers in step -/

namespace Handler

variable {keys : Key → Key → Prop} {α β γ δ σ τ : Type} {values others : α → β → Prop}

/-- Two handlers that do the same, up to related keys and values. Either one
may log what the other does not. -/
inductive Lockstep (keys : Key → Key → Prop) (values : α → β → Prop) :
    Handler α → Handler β → Prop
  | done {left : α} {right : β} : values left right →
    Lockstep keys values (.done left) (.done right)
  | ask {call other : Call} {left : Except StoreError call.Answer → Handler α}
    {right : Except StoreError other.Answer → Handler β} : call.Alike keys other →
    (∀ answer reply, call.InStep keys other answer reply →
      Lockstep keys values (left answer) (right reply)) →
    Lockstep keys values (.ask call left) (.ask other right)
  | clock {left : Instant → Handler α} {right : Instant → Handler β} :
    (∀ now, Lockstep keys values (left now) (right now)) →
    Lockstep keys values (.clock left) (.clock right)
  | logLeft {event : Event} {left : Handler α} {right : Handler β} :
    Lockstep keys values left right → Lockstep keys values (.log event left) right
  | logRight {event : Event} {left : Handler α} {right : Handler β} :
    Lockstep keys values left right → Lockstep keys values left (.log event right)
  | count {metric : Metric} {left : Handler α} {right : Handler β} :
    Lockstep keys values left right →
    Lockstep keys values (.count metric left) (.count metric right)

namespace Lockstep

variable {left : Handler α} {right : Handler β}

theorem log {event other : Event} (lockstep : Lockstep keys values left right) :
    Lockstep keys values (.log event left) (.log other right) :=
  .logLeft (.logRight lockstep)

theorem bind {results : γ → δ → Prop} {next : α → Handler γ} {follow : β → Handler δ}
    (first : Lockstep keys values left right)
    (rest : ∀ value other, values value other →
      Lockstep keys results (next value) (follow other)) :
    Lockstep keys results (left.bind next) (right.bind follow) := by
  induction first with
  | done related => exact rest _ _ related
  | ask alike _ ih => exact .ask alike fun answer reply inStep => ih answer reply inStep
  | clock _ ih => exact .clock fun now => ih now
  | logLeft _ ih => exact .logLeft ih
  | logRight _ ih => exact .logRight ih
  | count _ ih => exact .count ih

theorem mono (lockstep : Lockstep keys values left right)
    (weaker : ∀ value other, values value other → others value other) :
    Lockstep keys others left right := by
  induction lockstep with
  | done related => exact .done (weaker _ _ related)
  | ask alike _ ih => exact .ask alike ih
  | clock _ ih => exact .clock ih
  | logLeft _ ih => exact .logLeft ih
  | logRight _ ih => exact .logRight ih
  | count _ ih => exact .count ih

end Lockstep

/-! ## Runs in step -/

/-- Two backends that answer calls in step, as long as their states are related. -/
structure Simulation (keys : Key → Key → Prop) (backend : Backend σ) (other : Backend τ)
    (states : σ → τ → Prop) : Prop where
  now {state : σ} {related : τ} : states state related → backend.now state = other.now related
  answer {state : σ} {related : τ} {call reply : Call} : states state related →
    call.Alike keys reply →
    call.InStep keys reply (backend.answer call state).1 (other.answer reply related).1
  after {state : σ} {related : τ} {call reply : Call} : states state related →
    call.Alike keys reply →
    states (backend.answer call state).2.1 (other.answer reply related).2.1

/-- A backend answers in step with itself. -/
theorem Simulation.refl (backend : Backend σ) : Simulation Eq backend backend Eq where
  now same := congrArg backend.now same
  answer := by
    rintro state _ call _ rfl alike
    obtain rfl := alike.eq
    exact .of_eq (fun _ => rfl) (Call.AnswersAlike.refl call) rfl
  after := by
    rintro state _ call _ rfl alike
    obtain rfl := alike.eq
    rfl

/-- Two runs with related values and states, and the same metrics. -/
structure Ran.InStep (values : α → β → Prop) (states : σ → τ → Prop) (left : Ran σ α)
    (right : Ran τ β) : Prop where
  value : values left.value right.value
  state : states left.state right.state
  metrics : left.metrics = right.metrics

/-- Handlers in lockstep run in step, on backends that answer in step. -/
theorem Lockstep.run {left : Handler α} {right : Handler β} {backend : Backend σ}
    {other : Backend τ} {states : σ → τ → Prop} {state : σ} {related : τ}
    (lockstep : Lockstep keys values left right)
    (simulation : Simulation keys backend other states) (start : states state related) :
    (left.run backend state).InStep values states (right.run other related) := by
  induction lockstep generalizing state related with
  | done same => exact ⟨same, start, rfl⟩
  | ask alike _ ih =>
    have ran := ih _ _ (simulation.answer start alike) (simulation.after start alike)
    exact ⟨ran.value, ran.state, ran.metrics⟩
  | clock _ ih =>
    unfold Handler.run
    rw [← simulation.now start]
    exact ih (backend.now state) start
  | logLeft _ ih => exact ⟨(ih start).value, (ih start).state, (ih start).metrics⟩
  | logRight _ ih => exact ⟨(ih start).value, (ih start).state, (ih start).metrics⟩
  | count _ ih =>
    exact ⟨(ih start).value, (ih start).state, congrArg (_ :: ·) (ih start).metrics⟩

end Handler

/-! ## Steps of a request -/

namespace Answering

variable {keys : Key → Key → Prop} {α β γ δ : Type} {values : α → β → Prop}

/-- Two parts of a request in lockstep: both fail alike, or both go on with
related values. -/
abbrev Lockstep (keys : Key → Key → Prop) (values : α → β → Prop) (left : Answering α)
    (right : Answering β) : Prop :=
  Handler.Lockstep keys (Corresponds AccessError.Alike values) left.run right.run

namespace Lockstep

theorem pure {value : α} {other : β} (related : values value other) :
    Lockstep keys values (pure value) (pure other) :=
  .done (.ok related)

theorem throw {error failure : AccessError} (alike : error.Alike failure) :
    Lockstep keys values (throw error) (throw failure) :=
  .done (.error alike)

theorem ofExcept {result : Except AccessError α} {outcome : Except AccessError β}
    (corresponds : Corresponds AccessError.Alike values result outcome) :
    Lockstep keys values (ofExcept result) (ofExcept outcome) :=
  .done corresponds

/-- What is computed from equal data may be done on both sides. -/
theorem ofExcept_refl (result : Except AccessError α) :
    Lockstep keys Eq (Answering.ofExcept result) (Answering.ofExcept result) :=
  ofExcept (.refl .refl result)

theorem ask {call other : Call} (alike : call.Alike keys other) :
    Lockstep keys (call.AnswersAlike keys other) (ask call) (ask other) := by
  refine Handler.Lockstep.ask alike fun answer reply inStep => ?_
  cases inStep with
  | ok related => exact .done (.ok related)
  | error related => exact .done (.error (.store related))

theorem clock : Lockstep keys Eq clock clock :=
  Handler.Lockstep.clock fun _ => .done (.ok rfl)

theorem log (event other : Event) : Lockstep keys Eq (log event) (log other) :=
  Handler.Lockstep.log (.done (.ok rfl))

theorem count (metric : Metric) : Lockstep keys Eq (count metric) (count metric) :=
  Handler.Lockstep.count (.done (.ok rfl))

theorem bind {results : γ → δ → Prop} {left : Answering α} {right : Answering β}
    {next : α → Answering γ} {follow : β → Answering δ} (first : Lockstep keys values left right)
    (rest : ∀ value other, values value other →
      Lockstep keys results (next value) (follow other)) :
    Lockstep keys results (left >>= next) (right >>= follow) := by
  change Handler.Lockstep keys _ (left.run.bind (ExceptT.bindCont next))
    (right.run.bind (ExceptT.bindCont follow))
  refine Handler.Lockstep.bind first fun result outcome corresponds => ?_
  cases corresponds with
  | ok related => exact rest _ _ related
  | error alike => exact .done (.error alike)

/-- Two steps in lockstep whose value is known. -/
theorem bind_both {results : γ → δ → Prop} {left right : Answering α} {next : α → Answering γ}
    {follow : α → Answering δ} {value : α} (first : Lockstep keys (Both value) left right)
    (rest : Lockstep keys results (next value) (follow value)) :
    Lockstep keys results (left >>= next) (right >>= follow) := by
  refine bind first fun found other same => ?_
  obtain ⟨rfl, rfl⟩ := same
  exact rest

/-- Two steps in lockstep whose values are equal. -/
theorem bind_eq {results : γ → δ → Prop} {left right : Answering α} {next : α → Answering γ}
    {follow : α → Answering δ} (first : Lockstep keys Eq left right)
    (rest : ∀ value, Lockstep keys results (next value) (follow value)) :
    Lockstep keys results (left >>= next) (right >>= follow) := by
  refine bind first fun value other same => ?_
  cases same
  exact rest value

end Lockstep

end Answering

end CacheGate
