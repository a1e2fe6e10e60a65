import CacheGate.Serve.Handler

/-!
# What a handler counts

`Handler.Counts` says of a handler which metrics it records and which value it
ends with, whatever the store answers and whenever it is asked. It holds of
every run (`Handler.Counts.run`), and goes through a handler step by step: what
is recorded before a step is in front of what is recorded from there on
(`Handler.Counts.bind`). Most steps of a request record nothing, and are looked
at for what they give alone (`Answering.Gives`).
-/

namespace CacheGate

open Time

namespace Handler

variable {α β σ : Type}

/-- However the handler goes, its metrics and its value are as specified. -/
def Counts : Handler α → (List Metric → α → Prop) → Prop
  | .done value, spec => spec [] value
  | .ask _ next, spec => ∀ answer, (next answer).Counts spec
  | .clock next, spec => ∀ now, (next now).Counts spec
  | .log _ rest, spec => rest.Counts spec
  | .count metric rest, spec => rest.Counts fun later value => spec (metric :: later) value

theorem Counts.run {handler : Handler α} {spec : List Metric → α → Prop}
    (counts : handler.Counts spec) (backend : Backend σ) (state : σ) :
    spec (handler.run backend state).metrics (handler.run backend state).value := by
  induction handler generalizing spec state with
  | done value => exact counts
  | ask call next ih => exact ih _ (counts _) _
  | clock next ih => exact ih _ (counts _) _
  | log event rest ih => exact ih counts state
  | count metric rest ih => exact ih counts state

theorem Counts.mono {handler : Handler α} {spec weaker : List Metric → α → Prop}
    (counts : handler.Counts spec) (weaken : ∀ metrics value, spec metrics value →
      weaker metrics value) : handler.Counts weaker := by
  induction handler generalizing spec weaker with
  | done value => exact weaken [] value counts
  | ask call next ih => exact fun answer => ih answer (counts answer) weaken
  | clock next ih => exact fun now => ih now (counts now) weaken
  | log event rest ih => exact ih counts weaken
  | count metric rest ih => exact ih counts fun later => weaken (metric :: later)

/-- What the second handler records comes behind what the first one has. -/
theorem Counts.bind {first : Handler α} {next : α → Handler β} {spec : List Metric → α → Prop}
    {whole : List Metric → β → Prop} (counts : first.Counts spec)
    (rest : ∀ before value, spec before value →
      (next value).Counts fun later final => whole (before ++ later) final) :
    (first.bind next).Counts whole := by
  induction first generalizing spec whole with
  | done value => exact rest [] value counts
  | ask call step ih => exact fun answer => ih answer (counts answer) rest
  | clock step ih => exact fun now => ih now (counts now) rest
  | log event step ih => exact ih counts rest
  | count metric step ih => exact ih counts fun before => rest (metric :: before)

end Handler

/-! ## Steps of a request -/

namespace Answering

variable {α β : Type} {step : Answering α} {next : α → Answering β} {good : α → Prop}

/-- A part of a request that records no metric, and whose value, if it has one,
is as specified. -/
def Gives (step : Answering α) (good : α → Prop) : Prop :=
  step.run.Counts fun metrics result => metrics = [] ∧ ∀ value, result = .ok value → good value

/-- Behind such a step there is only what the rest of the request records,
and nothing where the step fails. -/
theorem Gives.counts_bind {spec : List Metric → Except AccessError β → Prop}
    (gives : Gives step good) (failed : ∀ error, spec [] (.error error))
    (rest : ∀ value, good value → (next value).run.Counts spec) :
    (step >>= next).run.Counts spec := by
  change (step.run.bind (ExceptT.bindCont next)).Counts spec
  refine Handler.Counts.bind gives fun before result given => ?_
  obtain ⟨silent, fits⟩ := given
  subst silent
  cases result with
  | ok value => exact rest value (fits value rfl)
  | error error => exact failed error

namespace Gives

theorem ofExcept {result : Except AccessError α} (fits : ∀ value, result = .ok value → good value) :
    Gives (ofExcept result) good := ⟨rfl, fits⟩

theorem pure {value : α} (fits : good value) : Gives (pure value) good := by
  refine ofExcept fun given same => ?_
  cases same
  exact fits

theorem throw (error : AccessError) : Gives (throw error) good :=
  ofExcept fun _ different => nomatch different

/-- Nothing is said of what the store answers. -/
theorem ask (call : Call) : Gives (ask call) fun _ => True := by
  intro answer
  cases answer with
  | ok value => exact ⟨rfl, fun _ _ => trivial⟩
  | error error => exact ⟨rfl, fun _ _ => trivial⟩

/-- Nor of what was computed beforehand. -/
theorem given (result : Except AccessError α) : Gives (Answering.ofExcept result) fun _ => True :=
  ofExcept fun _ _ => trivial

theorem clock : Gives clock fun _ => True := fun _ => ⟨rfl, fun _ _ => trivial⟩

theorem log (event : Event) : Gives (log event) fun _ => True := ⟨rfl, fun _ _ => trivial⟩

theorem mono {weaker : α → Prop} (gives : Gives step good)
    (weaken : ∀ value, good value → weaker value) : Gives step weaker :=
  Handler.Counts.mono gives fun _ _ fits =>
    ⟨fits.1, fun value same => weaken value (fits.2 value same)⟩

theorem bind {final : β → Prop} (gives : Gives step good)
    (rest : ∀ value, good value → Gives (next value) final) : Gives (step >>= next) final :=
  gives.counts_bind (fun _ => ⟨rfl, fun _ different => nomatch different⟩) rest

end Gives

end Answering

end CacheGate
