import CacheGate.Proofs.Serve.ReadYourWrites

/-!
# Where requests lead

`Service.Reaches` are the stores and times that requests can lead to from a
start, however their calls are interleaved. What each call that some request
makes preserves holds wherever they lead, by induction.

A request that runs among others is such a run (`Service.Reaches.among`), and
so are requests that are handled one after another
(`Service.reaches_handleAll`).
-/

namespace CacheGate

open Time Http

/-- The calls of a handler are among its exchanges. -/
theorem World.exists_exchange_of_own {history : List Happening} {call : Call} (world : World)
    (member : .own call ∈ history) : ∃ exchange ∈ world.exchanges history, exchange.call = call := by
  obtain ⟨before, after, rfl⟩ := List.append_of_mem member
  rw [exchanges_append, exchanges_own]
  exact ⟨_, List.mem_append_right _ List.mem_cons_self, rfl⟩

namespace Service

variable {service : Service} {start : Memory} {world : World}

/-- The calls that some request may make, whatever it is answered. -/
def Makes (service : Service) (call : Call) : Prop :=
  ∃ request exchanges response, (service.dispatch request).Yields exchanges response ∧
    ∃ exchange ∈ exchanges, exchange.call = call

/-- Where requests lead from a store. Any number of them may be under way: the
calls that they make are answered one by one in any order, and the clock may
change in between. -/
inductive Reaches (service : Service) (start : Memory) : World → Prop
  | start (now : Instant) : service.Reaches start ⟨start, now⟩
  | call {world : World} {call : Call} :
    service.Reaches start world → service.Makes call → service.Reaches start (world.perform call)
  | clock {world : World} (now : Instant) :
    service.Reaches start world → service.Reaches start { world with now }

theorem Reaches.after {history : List Happening} (reached : service.Reaches start world)
    (makes : ∀ happening ∈ history, ∀ call, happening.call? = some call → service.Makes call) :
    service.Reaches start (world.after history) := by
  induction history generalizing world with
  | nil => exact reached
  | cons happening history ih =>
    obtain ⟨first, later⟩ := List.forall_mem_cons.1 makes
    refine ih ?_ later
    cases happening with
    | own call => exact reached.call (first call rfl)
    | move move =>
      cases move with
      | call call => exact reached.call (first call rfl)
      | clock now => exact reached.clock now

/-- A request that runs among others, of which each call is one that some request may make. -/
theorem Reaches.among {schedule : List (List Move × List Move)} (request : Request)
    (reached : service.Reaches start world)
    (others : ∀ call, .move (.call call) ∈
      ((service.dispatch request).among world schedule).state.history → service.Makes call) :
    service.Reaches start ((service.dispatch request).among world schedule).state.world := by
  have run := (service.dispatch request).among_yields world schedule
  rw [Handler.among_world]
  generalize ((service.dispatch request).among world schedule).state.history = history at run others
  refine reached.after fun happening member call made => ?_
  cases happening with
  | own own =>
    obtain rfl := Option.some.inj made
    obtain ⟨exchange, exchanged, same⟩ := world.exists_exchange_of_own member
    exact ⟨request, _, _, run, exchange, exchanged, same⟩
  | move move =>
    cases move with
    | call call =>
      obtain rfl := Option.some.inj made
      exact others _ member
    | clock => cases made

theorem Reaches.handle {memory : Memory} {visit : Visit}
    (reached : service.Reaches start ⟨memory, visit.now⟩) :
    service.Reaches start ⟨(service.handle memory visit).1, visit.now⟩ := by
  obtain ⟨calls, alone⟩ :=
    (service.dispatch visit.request).among_nil_history ⟨memory, visit.now⟩
  have left : service.Reaches start
      ((service.dispatch visit.request).among ⟨memory, visit.now⟩ []).state.world := by
    refine reached.among visit.request fun call member => ?_
    rw [alone, List.mem_map] at member
    obtain ⟨own, -, absurd⟩ := member
    cases absurd
  have clock : ((service.dispatch visit.request).among ⟨memory, visit.now⟩ []).state.world.now =
      visit.now := by
    rw [((service.dispatch visit.request).among_nil ⟨memory, visit.now⟩).1, Handler.now_solo]
  unfold Service.handle
  generalize (service.dispatch visit.request).among ⟨memory, visit.now⟩ [] = ran at left clock ⊢
  obtain ⟨_, ⟨⟨left, now⟩, _, _⟩, _, _⟩ := ran
  obtain rfl : now = visit.now := clock
  assumption

/-- Requests that are handled one after another are such a run. -/
theorem reaches_handleAll (service : Service) (start : Memory) (visits : List Visit) (now : Instant) :
    service.Reaches start ⟨(service.handleAll start visits).1, now⟩ := by
  induction visits generalizing now with
  | nil => exact .start now
  | cons visit visits ih =>
    have handled := (ih visit.now).handle
    rw [handleAll_cons]
    exact handled.clock now

end Service

end CacheGate
