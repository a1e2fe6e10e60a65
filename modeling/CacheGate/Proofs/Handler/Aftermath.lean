import CacheGate.Proofs.Handler.Interleaving

/-!
# What a history leaves

The laws of single store calls, carried through a whole record of happenings.

* `World.held?_after_of_not_puts`: an entry that is there at the end was there
  at the start, unless it was put in between.
* `World.live?_after_of_lasting`: a live entry stays live while nothing
  changes it and it does not expire.
* `World.live?_after_of_idle`: while no other client acts and the clock does
  not run backwards, calls that alter nothing leave every live entry as it is.
-/

namespace CacheGate

open Time

/-! ## Entries that last -/

namespace Happening

/-- The store call that was made, by whomever. -/
def call? : Happening → Option Call
  | .own call => some call
  | .move (.call call) => some call
  | .move (.clock _) => none

/-- Whether the entry under a key was written. -/
def puts (happening : Happening) (name : String) (content : Bytes) : Bool :=
  happening.call?.any fun call => call.puts name content

/-- Whether the entry under a key was written or removed. -/
def changes (happening : Happening) (name : String) (content : Bytes) : Bool :=
  happening.call?.any fun call => call.changes name content

end Happening

namespace World

variable {world : World} {history : List Happening} {name : String} {content : Bytes}
  {stored current : StoredEntry}

/-- A happening is a store call by whomever, or leaves the store alone. -/
theorem happen_cases (world : World) (happening : Happening) :
    (∃ call, happening.call? = some call ∧ world.happen happening = world.perform call) ∨
      (world.happen happening).memory = world.memory := by
  cases happening with
  | own call => exact Or.inl ⟨call, rfl, rfl⟩
  | move move =>
    cases move with
    | call call => exact Or.inl ⟨call, rfl, rfl⟩
    | clock now => exact Or.inr rfl

/-- The entry was there before the history, and only its last use may have changed. -/
theorem held?_after_of_not_puts
    (left : (world.after history).memory.held? name content = some stored)
    (others : ∀ happening ∈ history, happening.puts name content = false) :
    ∃ earlier, world.memory.held? name content = some earlier ∧
      earlier.written = stored.written := by
  induction history generalizing world with
  | nil => exact ⟨stored, left, rfl⟩
  | cons happening history ih =>
    rw [List.forall_mem_cons] at others
    obtain ⟨met, held, written⟩ := ih left others.2
    rcases world.happen_cases happening with ⟨call, made, moved⟩ | same
    · have reads : call.puts name content = false := by
        have other := others.1
        rwa [Happening.puts, made] at other
      rw [moved] at held
      obtain ⟨earlier, before, same⟩ := Memory.held?_perform_of_not_puts held reads
      exact ⟨earlier, before, same.trans written⟩
    · rw [same] at held
      exact ⟨met, held, written⟩

/-- An entry that was not put in between is the one that was there. -/
theorem written_eq_of_not_puts (live : world.live? name content = some stored)
    (left : (world.after history).live? name content = some current)
    (others : ∀ happening ∈ history, happening.puts name content = false) :
    current.written = stored.written := by
  obtain ⟨earlier, held, written⟩ :=
    held?_after_of_not_puts (Memory.live?_eq_some_iff.1 left).1 others
  rw [(Memory.live?_eq_some_iff.1 live).1] at held
  obtain rfl := Option.some.inj held
  exact written.symm

/-- At no point of a history is the entry under a key an expired one. -/
def NeverExpires (world : World) (history : List Happening) (name : String)
    (content : Bytes) : Prop :=
  ∀ earlier rest, history = earlier ++ rest →
    ∀ held, (world.after earlier).memory.held? name content = some held →
      held.isExpired (world.after earlier).now = false

theorem live?_after_of_lasting (live : world.live? name content = some stored)
    (others : ∀ happening ∈ history, happening.changes name content = false)
    (lasting : world.NeverExpires history name content) :
    ∃ left, (world.after history).live? name content = some left ∧
      left.written = stored.written := by
  induction history generalizing world stored with
  | nil => exact ⟨stored, live, rfl⟩
  | cons happening history ih =>
    rw [List.forall_mem_cons] at others
    have step : ∃ met, (world.happen happening).memory.held? name content = some met ∧
        met.written = stored.written := by
      rcases world.happen_cases happening with ⟨call, made, moved⟩ | same
      · have reads : call.changes name content = false := by
          have other := others.1
          rwa [Happening.changes, made] at other
        rw [moved]
        exact Memory.held?_perform_of_not_changes live reads
      · rw [same]
        exact ⟨stored, (Memory.live?_eq_some_iff.1 live).1, rfl⟩
    obtain ⟨met, held, written⟩ := step
    have fresh := lasting [happening] history rfl met held
    obtain ⟨left, stays, same⟩ := ih (Memory.live?_eq_some_iff.2 ⟨held, fresh⟩) others.2
      fun earlier rest cut => lasting (happening :: earlier) rest (congrArg _ cut)
    exact ⟨left, stays, same.trans written⟩

end World

namespace Consecutive

variable {history : List Happening} {first second : Call} {name : String} {content : Bytes}
  {stored current : StoredEntry} {world : World}

/-- No other client writes the entry between the two calls. -/
def NobodyPuts (calls : Consecutive history first second) (name : String)
    (content : Bytes) : Prop :=
  ∀ move ∈ calls.between, (Happening.move move).puts name content = false

/-- No other client writes or removes the entry between the two calls. -/
def NobodyChanges (calls : Consecutive history first second) (name : String)
    (content : Bytes) : Prop :=
  ∀ move ∈ calls.between, (Happening.move move).changes name content = false

/-- After a call that does not write, the second one meets what the first one
met, if nobody else writes it. -/
theorem written_eq_of_nobodyPuts (calls : Consecutive history first second)
    (reads : first.puts name content = false)
    (live : (calls.atFirst world).live? name content = some stored)
    (left : (calls.atSecond world).live? name content = some current)
    (others : calls.NobodyPuts name content) : current.written = stored.written :=
  World.written_eq_of_not_puts live left
    (List.forall_mem_cons.2 ⟨reads, List.forall_mem_map.2 others⟩)

/-- After an internal read that finds nothing there is nothing to be met until
another client puts it. -/
theorem live?_eq_none_of_nobodyPuts {context : ExecutionContext} {key : Key}
    (calls : Consecutive history (.entry context name key) second)
    (absent : (calls.atFirst world).live? name key.content = none)
    (others : calls.NobodyPuts name key.content) :
    (calls.atSecond world).live? name key.content = none := by
  rw [Option.eq_none_iff_forall_ne_some]
  intro current met
  have left : (((calls.atFirst world).perform (.entry context name key)).after
      (calls.between.map .move)).memory.held? name key.content = some current :=
    (Memory.live?_eq_some_iff.1 met).1
  obtain ⟨earlier, held, -⟩ := World.held?_after_of_not_puts left (List.forall_mem_map.2 others)
  change ((calls.atFirst world).memory.perform (calls.atFirst world).now
    (.entry context name key)).memory.held? name key.content = some earlier at held
  rw [Memory.held?_entry, if_pos ⟨rfl, rfl⟩] at held
  exact absurd (held.symm.trans absent) (Option.some_ne_none earlier)

/-- After a call that changes nothing, an entry is still live if nobody else
changes it and it does not expire. -/
theorem live?_of_nobodyChanges (calls : Consecutive history first second)
    (reads : first.changes name content = false)
    (live : (calls.atFirst world).live? name content = some stored)
    (others : calls.NobodyChanges name content)
    (lasting : (calls.atFirst world).NeverExpires calls.since name content) :
    ∃ left, (calls.atSecond world).live? name content = some left ∧
      left.written = stored.written :=
  World.live?_after_of_lasting live
    (List.forall_mem_cons.2 ⟨reads, List.forall_mem_map.2 others⟩) lasting

end Consecutive

/-- The settings of a cache last for ever. -/
theorem World.configuration?_after (world : World) (history : List Happening) (name : String) :
    (world.after history).memory.configuration? name = world.memory.configuration? name := by
  induction history generalizing world with
  | nil => rfl
  | cons happening history ih =>
    refine (ih (world.happen happening)).trans ?_
    rcases world.happen_cases happening with ⟨call, -, moved⟩ | same
    · rw [moved]
      exact Memory.configuration?_perform ..
    · rw [same]

/-! ## Undisturbed handlers -/

/-- No other client acts, and the clock does not run backwards from `now` on. -/
def Undisturbed : Instant → List Happening → Prop
  | _, [] => True
  | now, .own _ :: rest => Undisturbed now rest
  | now, .move (.clock later) :: rest => now ≤ later ∧ Undisturbed later rest
  | _, .move (.call _) :: _ => False

theorem undisturbed_own (now : Instant) (calls : List Call) :
    Undisturbed now (calls.map .own) := by
  induction calls with
  | nil => trivial
  | cons call calls ih => exact ih

namespace World

variable {world : World} {history : List Happening} {name : String} {content : Bytes}
  {later : Instant}

theorem undisturbed_append (world : World) (first second : List Happening) :
    Undisturbed world.now (first ++ second) ↔
      Undisturbed world.now first ∧ Undisturbed (world.after first).now second := by
  induction first generalizing world with
  | nil => exact ⟨fun calm => ⟨trivial, calm⟩, fun calm => calm.2⟩
  | cons happening first ih =>
    cases happening with
    | own call => exact ih (world.perform call)
    | move move =>
      cases move with
      | call call => exact ⟨False.elim, fun calm => calm.1⟩
      | clock now =>
        have rest := ih { world with now }
        exact ⟨fun calm => ⟨⟨calm.1, (rest.1 calm.2).1⟩, (rest.1 calm.2).2⟩,
          fun calm => ⟨calm.1.1, rest.2 ⟨calm.1.2, calm.2⟩⟩⟩

theorem now_after_own (world : World) (calls : List Call) :
    (world.after (calls.map .own)).now = world.now := by
  induction calls generalizing world with
  | nil => rfl
  | cons call calls ih => exact ih (world.perform call)

theorem now_le_after (world : World) (calm : Undisturbed world.now history) :
    world.now ≤ (world.after history).now := by
  induction history generalizing world with
  | nil => exact le_refl _
  | cons happening history ih =>
    cases happening with
    | own call => exact ih (world.perform call) calm
    | move move =>
      cases move with
      | call call => exact calm.elim
      | clock now => exact le_trans calm.1 (ih { world with now } calm.2)

theorem usedBy_after (world : World) (calm : Undisturbed world.now history)
    (used : world.memory.UsedBy world.now) :
    (world.after history).memory.UsedBy (world.after history).now := by
  induction history generalizing world with
  | nil => exact used
  | cons happening history ih =>
    cases happening with
    | own call => exact ih (world.perform call) calm (used.perform (le_refl _))
    | move move =>
      cases move with
      | call call => exact calm.elim
      | clock now => exact ih { world with now } calm.2 (used.mono calm.1)

/-- Calls that alter nothing leave what is live from the end of the history on. -/
theorem live?_after_of_idle (world : World) (calm : Undisturbed world.now history)
    (idle : ∀ exchange ∈ world.exchanges history,
      exchange.call.alters exchange.answer = false)
    (order : (world.after history).now ≤ later) :
    (world.after history).memory.live? later name content =
      world.memory.live? later name content := by
  induction history generalizing world with
  | nil => rfl
  | cons happening history ih =>
    cases happening with
    | own call =>
      rw [exchanges_own, List.forall_mem_cons] at idle
      have reached : world.now ≤ ((world.perform call).after history).now :=
        now_le_after (world.perform call) calm
      refine (ih (world.perform call) calm idle.2 order).trans ?_
      exact Memory.live?_perform_of_not_alters (le_trans reached order) idle.1
    | move move =>
      cases move with
      | call call => exact calm.elim
      | clock now => exact ih { world with now } calm.2 idle order

/-- Without calls the store stays as it is. -/
theorem memory_after_of_quiet (world : World) (calm : Undisturbed world.now history)
    (quiet : world.exchanges history = []) : (world.after history).memory = world.memory := by
  induction history generalizing world with
  | nil => rfl
  | cons happening history ih =>
    cases happening with
    | own call => cases quiet
    | move move =>
      cases move with
      | call call => exact calm.elim
      | clock now => exact ih { world with now } calm.2 quiet

/-- A call on a cache that was answered shows that the cache exists. -/
theorem known_of_answered {call : Call} {answer : call.Answer}
    (answered : world.answer call = .ok answer) :
    ∃ configuration, world.memory.configuration? call.cache = some configuration := by
  cases known : world.memory.configuration? call.cache with
  | none =>
    unfold World.answer at answered
    rw [Memory.perform_of_unknown known] at answered
    cases answered
  | some configuration => exact ⟨configuration, rfl⟩

/-- The settings that a store answers are those of the cache. -/
theorem configuration?_of_answered {context : ExecutionContext} {cache : String}
    {configuration : CacheConfiguration}
    (answered : world.answer (.configuration context cache) = .ok configuration) :
    world.memory.configuration? cache = some configuration := by
  obtain ⟨settings, known⟩ := known_of_answered answered
  have same := answered.symm.trans (Memory.answer_configuration known)
  obtain rfl := Except.ok.inj same
  exact known

end World

namespace Consecutive

variable {history : List Happening} {first second : Call}

/-- The second call meets a cache that the first one met. -/
theorem known_of_answered {world : World} {answer : first.Answer}
    (calls : Consecutive history first second)
    (answered : (calls.atFirst world).answer first = .ok answer)
    (same : second.cache = first.cache) :
    ∃ configuration,
      (calls.atSecond world).memory.configuration? second.cache = some configuration := by
  obtain ⟨configuration, known⟩ := World.known_of_answered answered
  refine ⟨configuration, ?_⟩
  rw [same]
  exact (World.configuration?_after (calls.atFirst world) calls.since first.cache).trans known

/-- Calm passes to all parts of a history. -/
theorem undisturbed (calls : Consecutive history first second) (world : World)
    (calm : Undisturbed world.now history) :
    Undisturbed world.now calls.earlier ∧ Undisturbed (calls.atFirst world).now calls.since ∧
      Undisturbed (calls.atSecond world).now calls.later := by
  obtain ⟨earlier, between, later, rfl⟩ := calls
  obtain ⟨opening, rest⟩ := (World.undisturbed_append world _ _).1 calm
  obtain ⟨middle, ending⟩ := (World.undisturbed_append (world.after earlier)
    (.own first :: between.map .move) (.own second :: later)).1 rest
  exact ⟨opening, middle, ending⟩

/-- Undisturbed, the second call meets the store that the first one left. -/
theorem memory_atSecond (calls : Consecutive history first second) (world : World)
    (calm : Undisturbed world.now history) :
    (calls.atSecond world).memory = ((calls.atFirst world).perform first).memory := by
  have middle : Undisturbed ((calls.atFirst world).perform first).now
      (calls.between.map .move) := (calls.undisturbed world calm).2.1
  exact World.memory_after_of_quiet _ middle (World.exchanges_moves ..)

end Consecutive

/-- The first call of a handler that nobody disturbs. -/
theorem World.exchanges_own_eq_cons {world : World} {calls : List Call} {call : Call}
    {answer : Except StoreError call.Answer} {rest : List Exchange}
    (first : world.exchanges (calls.map .own) = ⟨call, answer⟩ :: rest) :
    ∃ later : List Call, calls = call :: later ∧ world.answer call = answer ∧
      (world.perform call).exchanges (later.map .own) = rest := by
  cases calls with
  | nil => cases first
  | cons made later =>
    obtain ⟨same, restEq⟩ := List.cons.inj first
    obtain ⟨rfl, answerEq⟩ := Exchange.mk.inj same
    exact ⟨later, rfl, eq_of_heq answerEq, restEq⟩

/-- Nobody disturbs a handler when nothing is scheduled. -/
theorem Handler.undisturbed_among_nil {α : Type} (handler : Handler α) (world : World)
    (now : Instant) : Undisturbed now (handler.among world []).state.history := by
  obtain ⟨calls, alone⟩ := handler.among_nil_history world
  rw [alone]
  exact undisturbed_own now calls

end CacheGate
