import CacheGate.Proofs.Handler.Solo
import CacheGate.Proofs.Serve.KeyTypes

/-!
# What requests ask in a schedule

A request that takes turns with others asks what it would ask under some other
store: its exchanges up to a turn are the start of a run of its handler
(`Traffic.yields_exchanges`), so the courses of handlers say what it may ask
next. Each exchange was made in one turn, with the store as it stood there
(`Traffic.mem_exchanges`), and the settings of a cache stand still
(`Traffic.configuration?_after`).
-/

namespace CacheGate

open Time Http

/-! ## One step -/

namespace Handler

variable {α : Type} {handler : Handler α} {world : World} {rest : List Exchange} {value : α}

/-- The store call of the next step, if it makes one. -/
def call? : Handler α → Option Call
  | .done _ => none
  | .ask call _ => some call
  | .clock _ => none
  | .log _ rest => rest.call?
  | .count _ rest => rest.call?

/-- The exchange of the next step, if it makes one. -/
def exchange? (handler : Handler α) (world : World) : Option Exchange :=
  handler.call?.map fun call => ⟨call, world.answer call⟩

theorem exchange?_eq_some_iff {exchange : Exchange} :
    handler.exchange? world = some exchange ↔
      handler.call? = some exchange.call ∧ world.answer exchange.call = exchange.answer := by
  obtain ⟨call, answer⟩ := exchange
  unfold exchange?
  rw [Option.map_eq_some_iff]
  constructor
  · rintro ⟨_, asks, same⟩
    cases same
    exact ⟨asks, rfl⟩
  · rintro ⟨asks, answered⟩
    exact ⟨call, asks, congrArg (Exchange.mk call) answered⟩

/-- A step changes the store by its call. -/
theorem step_fst (handler : Handler α) (world : World) :
    (handler.step world).1 = (handler.call?.map world.perform).getD world := by
  induction handler with
  | done | ask | clock => rfl
  | log _ _ ih => exact ih
  | count _ _ ih => exact ih

/-- What a handler asks is what it asks in its next step and what it asks after that. -/
theorem yields_of_step (run : (handler.step world).2.Yields rest value) :
    handler.Yields ((handler.exchange? world).toList ++ rest) value := by
  induction handler with
  | done => exact run
  | ask call next => exact .ask _ run
  | clock next => exact .clock _ run
  | log _ _ ih => exact .log (ih run)
  | count _ _ ih => exact .count (ih run)

theorem yields_of_value? (ended : handler.value? = some value) : handler.Yields [] value := by
  induction handler with
  | done found =>
    obtain rfl := Option.some.inj ended
    exact .done
  | ask | clock => cases ended
  | log _ _ ih => exact .log (ih ended)
  | count _ _ ih => exact .count (ih ended)

end Handler

/-! ## Schedules -/

namespace Traffic

variable {ι : Type} [DecidableEq ι] {traffic : Traffic ι} {who : ι} {turn : Turn ι}
  {before later schedule : List (Turn ι)} {exchange : Exchange} {rest : List Exchange}
  {response : Response}

/-- What a request asks in a turn. -/
def asked (traffic : Traffic ι) (who : ι) : Turn ι → List Exchange
  | .request other =>
    if other = who then ((traffic.handlers who).exchange? traffic.world).toList else []
  | .clock _ => []

/-- What a request asks in a schedule. -/
def exchanges (traffic : Traffic ι) (who : ι) : List (Turn ι) → List Exchange
  | [] => []
  | turn :: later => traffic.asked who turn ++ (traffic.next turn).exchanges who later

theorem after_concat : traffic.after (schedule ++ [turn]) = (traffic.after schedule).next turn :=
  List.foldl_concat ..

theorem exchanges_concat : traffic.exchanges who (schedule ++ [turn]) =
    traffic.exchanges who schedule ++ (traffic.after schedule).asked who turn := by
  induction schedule generalizing traffic with
  | nil => exact (List.append_nil _).trans (List.nil_append _).symm
  | cons first schedule ih =>
    rw [List.cons_append, exchanges, exchanges, ih, List.append_assoc]
    rfl

theorem yields_asked (run : ((traffic.next turn).handlers who).Yields rest response) :
    (traffic.handlers who).Yields (traffic.asked who turn ++ rest) response := by
  cases turn with
  | clock now => exact run
  | request other =>
    dsimp only [next] at run
    dsimp only [asked]
    split
    case isTrue same =>
      subst same
      rw [Function.update_self] at run
      exact Handler.yields_of_step run
    case isFalse differs =>
      rw [Function.update_of_ne (Ne.symm differs)] at run
      exact run

/-- What a request asked before goes with whatever it still asks. -/
theorem yields_exchanges (run : ((traffic.after schedule).handlers who).Yields rest response) :
    (traffic.handlers who).Yields (traffic.exchanges who schedule ++ rest) response := by
  induction schedule generalizing traffic with
  | nil => exact run
  | cons turn schedule ih =>
    rw [exchanges, List.append_assoc]
    exact yields_asked (ih run)

/-- A request that was answered made a whole run. -/
theorem yields_of_answer? (answered : (traffic.after schedule).answer? who = some response) :
    ∃ reply : Response, reply.sent = response ∧
      (traffic.handlers who).Yields (traffic.exchanges who schedule) reply := by
  obtain ⟨reply, ended, sent⟩ := Option.map_eq_some_iff.1 answered
  have run := yields_exchanges (Handler.yields_of_value? ended)
  rw [List.append_nil] at run
  exact ⟨reply, sent, run⟩

/-- The next step of a request is this exchange. -/
structure Makes (traffic : Traffic ι) (who : ι) (exchange : Exchange) : Prop where
  call : (traffic.handlers who).call? = some exchange.call
  answer : traffic.world.answer exchange.call = exchange.answer

theorem Makes.world (makes : traffic.Makes who exchange) :
    (traffic.next (.request who)).world = traffic.world.perform exchange.call := by
  change ((traffic.handlers who).step traffic.world).1 = _
  rw [Handler.step_fst, makes.call]
  rfl

theorem Makes.asked (makes : traffic.Makes who exchange) :
    traffic.asked who (.request who) = [exchange] := by
  have made := Handler.exchange?_eq_some_iff.2 ⟨makes.call, makes.answer⟩
  exact (if_pos rfl).trans (congrArg Option.toList made)

/-- What a request asked before, and what it asks next, are the start of a run. -/
theorem Makes.yields (makes : (traffic.after schedule).Makes who exchange) :
    ∃ rest response, (traffic.handlers who).Yields
      (traffic.exchanges who schedule ++ exchange :: rest) response := by
  obtain ⟨rest, run⟩ := Handler.yields_solo
    ((traffic.after (schedule ++ [.request who])).handlers who) traffic.world
  have whole := yields_exchanges run
  rw [exchanges_concat, makes.asked, List.append_assoc] at whole
  exact ⟨rest, _, whole⟩

/-- Each exchange was made in a turn of its request. -/
theorem mem_exchanges (member : exchange ∈ traffic.exchanges who schedule) :
    ∃ before later, schedule = before ++ .request who :: later ∧
      (traffic.after before).Makes who exchange := by
  induction schedule generalizing traffic with
  | nil => cases member
  | cons turn schedule ih =>
    rcases List.mem_append.1 member with now | later
    · cases turn with
      | clock => cases now
      | request other =>
        dsimp only [asked] at now
        split at now
        case isTrue same =>
          subst same
          obtain ⟨call, answer⟩ := Handler.exchange?_eq_some_iff.1 (Option.mem_toList.1 now)
          exact ⟨[], schedule, rfl, call, answer⟩
        case isFalse => cases now
    · obtain ⟨before, rest, rfl, makes⟩ := ih later
      exact ⟨turn :: before, rest, rfl, makes⟩

/-! ## The store under a schedule -/

/-- A turn leaves the entries and settings of the store, or makes one call. -/
theorem next_cases (traffic : Traffic ι) (turn : Turn ι) :
    (traffic.next turn).world.memory = traffic.world.memory ∨
      ∃ who call, (traffic.handlers who).call? = some call ∧
        (traffic.next turn).world = traffic.world.perform call := by
  cases turn with
  | clock now => exact Or.inl rfl
  | request who =>
    cases asks : (traffic.handlers who).call? with
    | none =>
      refine Or.inl (congrArg World.memory ?_)
      exact (Handler.step_fst ..).trans (by rw [asks]; rfl)
    | some call =>
      have makes : traffic.Makes who ⟨call, traffic.world.answer call⟩ := ⟨asks, rfl⟩
      exact Or.inr ⟨who, call, asks, makes.world⟩

theorem configuration?_after (traffic : Traffic ι) (schedule : List (Turn ι)) (name : String) :
    (traffic.after schedule).world.memory.configuration? name =
      traffic.world.memory.configuration? name := by
  induction schedule generalizing traffic with
  | nil => rfl
  | cons turn schedule ih =>
    refine (ih (traffic.next turn)).trans ?_
    rcases traffic.next_cases turn with same | ⟨_, call, -, performed⟩
    · rw [same]
    · rw [performed]
      exact Memory.configuration?_perform ..

end Traffic

end CacheGate
