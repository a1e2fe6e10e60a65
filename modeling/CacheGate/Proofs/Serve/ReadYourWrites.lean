import CacheGate.Proofs.Serve.History

/-!
# Reads return the latest write

What a run of requests leaves in the in-memory store is what its history says:
under each key there is the value of the write that stands, created at its
time and last used as the history says, until one of its settings runs out.
`Recalls` states this for a store and a history, `Recalls.handle` carries it
over one more request of any kind, and `Service.recalls_handleAll` over a
whole run.

`Service.plain_read_returns_latest_write` is what clients see of it.
-/

namespace CacheGate

open Time Http

/-! ## Stores and histories -/

/-- An entry is the one that a write left, last used as its standing says. -/
structure Standing.Leaves (standing : Standing) (start : Memory) (cache : String)
    (stored : StoredEntry) : Prop where
  body : standing.write.request.body = some stored.value
  metadata : ∃ configuration, start.configuration? cache = some configuration ∧
    resolveMetadata standing.write.request configuration = .ok stored.metadata
  created : stored.created = standing.write.now
  lastUsed : stored.lastUsed = standing.lastUse

/-- The live entry under a key is, from now on, the one that the history says. -/
def RecallsEntry (start memory : Memory) (now : Instant) (history : List Handled)
    (cache key : String) : Prop :=
  ∃ kept, Option.Rel (fun standing stored => standing.Leaves start cache stored)
      (standing? cache key history) kept ∧
    ∀ later, now ≤ later → memory.live? later cache (Utf8.encode key) = unexpired later kept

/-- A store with the caches that there were at the start, which holds what the history says. -/
structure Recalls (start memory : Memory) (now : Instant) (history : List Handled) : Prop where
  configuration?_eq (cache : String) : memory.configuration? cache = start.configuration? cache
  used : memory.UsedBy now
  entries (cache key : String) : RecallsEntry start memory now history cache key

theorem writtenBody_eq_ok {request : Request} {body : Bytes}
    (filled : writtenBody request = .ok body) : request.body = some body := by
  unfold writtenBody at filled
  split at filled
  case h_1 found =>
    obtain rfl := Except.ok.inj filled
    exact (Option.filter_eq_some_iff.1 found).1
  case h_2 => cases filled

section Steps

variable {start memory after : Memory} {now later : Instant} {history : List Handled}
  {cache key : String} {handled : Handled} {stored : StoredEntry}

theorem RecallsEntry.mono (recalls : RecallsEntry start memory now history cache key)
    (order : now ≤ later) : RecallsEntry start memory later history cache key := by
  obtain ⟨kept, explained, live⟩ := recalls
  exact ⟨kept, explained, fun last reached => live last (le_trans order reached)⟩

theorem Recalls.mono (recalls : Recalls start memory now history) (order : now ≤ later) :
    Recalls start memory later history where
  configuration?_eq := recalls.configuration?_eq
  used := recalls.used.mono order
  entries cache key := (recalls.entries cache key).mono order

/-! ## The four ways of a request -/

theorem RecallsEntry.of_passes (recalls : RecallsEntry start memory now history cache key)
    (passes : handled.Passes cache key)
    (same : ∀ later, now ≤ later → after.live? later cache (Utf8.encode key) =
      memory.live? later cache (Utf8.encode key)) :
    RecallsEntry start after now (handled :: history) cache key := by
  obtain ⟨kept, explained, live⟩ := recalls
  refine ⟨kept, ?_, fun later order => (same later order).trans (live later order)⟩
  rwa [standing?_of_passes passes]

/-- Whatever a request on one entry leaves there, the other entries are as they were. -/
theorem RecallsEntry.of_elsewhere {operation : Operation} {other raw : String}
    {kept : Instant → Option StoredEntry}
    (recalls : RecallsEntry start memory now history cache key)
    (routed : handled.route? = some ⟨operation, other, some raw⟩)
    (differs : ¬ (cache = other ∧ key = raw))
    (left : ∀ later name content, now ≤ later → after.live? later name content =
      if name = other ∧ Utf8.encode raw = content then kept later
      else memory.live? later name content) :
    RecallsEntry start after now (handled :: history) cache key := by
  refine recalls.of_passes (Handled.passes_of_entry routed differs) fun later order => ?_
  rw [left later cache (Utf8.encode key) order, if_neg]
  intro equal
  exact differs ⟨equal.1, (Utf8.encode_inj.1 equal.2).symm⟩

theorem RecallsEntry.of_removes (removes : handled.Removes cache key)
    (gone : ∀ later, now ≤ later → after.live? later cache (Utf8.encode key) = none) :
    RecallsEntry start after now (handled :: history) cache key := by
  refine ⟨none, ?_, gone⟩
  rw [standing?_of_removes removes]
  exact .none

theorem RecallsEntry.of_writes (writes : handled.Writes cache key)
    (leaves : (Standing.mk handled handled.now).Leaves start cache stored)
    (left : ∀ later, now ≤ later →
      after.live? later cache (Utf8.encode key) = unexpired later (some stored)) :
    RecallsEntry start after now (handled :: history) cache key := by
  refine ⟨some stored, ?_, left⟩
  rw [standing?_of_writes writes]
  exact .some leaves

theorem RecallsEntry.of_uses (recalls : RecallsEntry start memory handled.now history cache key)
    (uses : handled.Uses cache key)
    (met : memory.live? handled.now cache (Utf8.encode key) = some stored)
    (left : ∀ later, handled.now ≤ later → after.live? later cache (Utf8.encode key) =
      unexpired later (some (stored.touch handled.now))) :
    RecallsEntry start after handled.now (handled :: history) cache key := by
  obtain ⟨kept, explained, live⟩ := recalls
  have found : unexpired handled.now kept = some stored := (live _ (le_refl _)).symm.trans met
  obtain ⟨rfl, -⟩ := Option.filter_eq_some_iff.1 found
  refine ⟨some (stored.touch handled.now), ?_, left⟩
  rw [standing?_of_uses uses]
  generalize standing? cache key history = before at explained
  cases explained with
  | some leaves => exact .some ⟨leaves.body, leaves.metadata, leaves.created, rfl⟩

end Steps

/-! ## One request -/

section Handling

variable {service : Service} {start memory : Memory} {history : List Handled} {visit : Visit}

/-- The store after a request, by the calls that were made. -/
theorem Service.handle_calls (service : Service) (memory : Memory) (visit : Visit) :
    ∃ calls : List Call,
      (service.handle memory visit).1 =
        (World.after ⟨memory, visit.now⟩ (calls.map .own)).memory ∧
      (service.dispatch visit.request).Yields
        (World.exchanges ⟨memory, visit.now⟩ (calls.map .own))
        (service.handle memory visit).2 := by
  obtain ⟨calls, alone⟩ :=
    (service.dispatch visit.request).among_nil_history ⟨memory, visit.now⟩
  have reached := (service.dispatch visit.request).among_world ⟨memory, visit.now⟩ []
  have yields := (service.dispatch visit.request).among_yields ⟨memory, visit.now⟩ []
  rw [alone] at reached yields
  exact ⟨calls, congrArg World.memory reached, yields⟩

/-- A routed request runs the handler of its operation. -/
theorem Service.handle_routed {route : Route} (service : Service) (memory : Memory)
    (routed : visit.route? = some route) :
    ∃ (calls : List Call) (result : Except AccessError Response),
      (service.handle memory visit).1 =
        (World.after ⟨memory, visit.now⟩ (calls.map .own)).memory ∧
      (service.perform visit.request route.operation route.cache (route.key.getD "")).run.Yields
        (World.exchanges ⟨memory, visit.now⟩ (calls.map .own)) result ∧
      (service.handle memory visit).2 = answerOf result := by
  obtain ⟨calls, reached, yields⟩ := service.handle_calls memory visit
  rcases dispatch_course yields with ⟨error, unrouted, -, -⟩ | ⟨taken, result, resolved, run, answer⟩
  · cases routed.symm.trans (congrArg Except.toOption unrouted)
  obtain rfl : route = taken :=
    Option.some.inj (routed.symm.trans (congrArg Except.toOption resolved))
  exact ⟨calls, result, reached, run, answer⟩

/-- No request changes the settings of a cache. -/
theorem Service.configuration?_handle (service : Service) (memory : Memory) (visit : Visit)
    (cache : String) :
    (service.handle memory visit).1.configuration? cache = memory.configuration? cache := by
  obtain ⟨calls, reached, -⟩ := service.handle_calls memory visit
  rw [reached]
  exact World.configuration?_after _ _ cache

theorem Service.configuration?_handleAll (service : Service) (start : Memory)
    (visits : List Visit) (cache : String) :
    (service.handleAll start visits).1.configuration? cache = start.configuration? cache := by
  induction visits with
  | nil => rfl
  | cons visit visits ih =>
    rw [handleAll_cons, configuration?_handle]
    exact ih

/-- A request that is answered neither 200 nor 201 leaves every live entry. -/
theorem Service.handle_keeps_live {later : Instant} (used : memory.UsedBy visit.now)
    (refused : ¬ (service.handle memory visit).2.status.Succeeds) (order : visit.now ≤ later)
    (name : String) (content : Bytes) :
    (service.handle memory visit).1.live? later name content =
      memory.live? later name content := by
  obtain ⟨calls, reached, yields⟩ := service.handle_calls memory visit
  have order : (World.after ⟨memory, visit.now⟩ (calls.map .own)).now ≤ later := by
    rwa [World.now_after_own]
  rw [reached]
  rcases dispatch_course yields with ⟨error, -, quiet, -⟩ | ⟨route, result, -, run, answer⟩
  · refine World.live?_after_of_idle _ (undisturbed_own _ calls) ?_ order
    rw [quiet]
    exact fun _ member => (List.not_mem_nil member).elim
  · rw [answer] at refused
    exact perform_keeps_live run (undisturbed_own _ calls) used refused order

variable {calls : List Call} {result : Except AccessError Response} {other raw : String}

theorem Recalls.of_read (recalls : Recalls start memory visit.now history)
    (routed : visit.route? = some ⟨.read, other, some raw⟩)
    (course : service.ReadCourse visit.request other raw
      (World.exchanges ⟨memory, visit.now⟩ (calls.map .own)) result)
    (found : (answerOf result).status.Succeeds) (cache key : String) :
    RecallsEntry start (World.after ⟨memory, visit.now⟩ (calls.map .own)).memory visit.now
      (⟨visit, answerOf result⟩ :: history) cache key := by
  obtain ⟨status, stored, live, -, left⟩ := course.uses rfl found
  by_cases same : cache = other ∧ key = raw
  · obtain ⟨rfl, rfl⟩ := same
    refine (recalls.entries cache key).of_uses ⟨routed, status⟩ live fun later order => ?_
    rw [left later cache (Utf8.encode key) order, if_pos ⟨rfl, rfl⟩]
  · exact (recalls.entries cache key).of_elsewhere routed same left

theorem Recalls.of_write (recalls : Recalls start memory visit.now history)
    (routed : visit.route? = some ⟨.write, other, some raw⟩)
    (course : service.WriteCourse visit.request other raw
      (World.exchanges ⟨memory, visit.now⟩ (calls.map .own)) result)
    (found : (answerOf result).status.Succeeds) (cache key : String) :
    RecallsEntry start (World.after ⟨memory, visit.now⟩ (calls.map .own)).memory visit.now
      (⟨visit, answerOf result⟩ :: history) cache key := by
  obtain ⟨configuration, added, known, filled, -, timed, left⟩ :=
    course.writes rfl found
  by_cases same : cache = other ∧ key = raw
  · obtain ⟨rfl, rfl⟩ := same
    have settings : start.configuration? cache = some configuration :=
      (recalls.configuration?_eq cache).symm.trans known
    have leaves : (Standing.mk ⟨visit, answerOf result⟩ visit.now).Leaves start cache
        (Memory.fresh added visit.now) :=
      ⟨writtenBody_eq_ok filled, ⟨configuration, settings, timed⟩, rfl, rfl⟩
    refine RecallsEntry.of_writes ⟨routed, found⟩ leaves fun later order => ?_
    rw [left later cache (Utf8.encode key) order, if_pos ⟨rfl, rfl⟩]
  · exact (recalls.entries cache key).of_elsewhere routed same left

theorem Recalls.of_delete (recalls : Recalls start memory visit.now history)
    (routed : visit.route? = some ⟨.delete, other, some raw⟩)
    (course : service.DeleteCourse visit.request other raw
      (World.exchanges ⟨memory, visit.now⟩ (calls.map .own)) result)
    (found : (answerOf result).status.Succeeds) (cache key : String) :
    RecallsEntry start (World.after ⟨memory, visit.now⟩ (calls.map .own)).memory visit.now
      (⟨visit, answerOf result⟩ :: history) cache key := by
  obtain ⟨status, left⟩ := course.removes rfl found
  by_cases same : cache = other ∧ key = raw
  · obtain ⟨rfl, rfl⟩ := same
    refine RecallsEntry.of_removes ⟨Or.inl routed, status⟩ fun later order => ?_
    rw [left later cache (Utf8.encode key) order, if_pos ⟨rfl, rfl⟩]
  · exact (recalls.entries cache key).of_elsewhere routed same left

theorem Recalls.of_clear (recalls : Recalls start memory visit.now history)
    (routed : visit.route? = some ⟨.clear, other, none⟩)
    (course : Service.ClearCourse visit.request other
      (World.exchanges ⟨memory, visit.now⟩ (calls.map .own)) result)
    (found : (answerOf result).status.Succeeds) (cache key : String) :
    RecallsEntry start (World.after ⟨memory, visit.now⟩ (calls.map .own)).memory visit.now
      (⟨visit, answerOf result⟩ :: history) cache key := by
  obtain ⟨status, left⟩ := course.clears rfl found
  by_cases same : cache = other
  · obtain rfl := same
    refine RecallsEntry.of_removes ⟨Or.inr routed, status⟩ fun later order => ?_
    rw [left later cache (Utf8.encode key), if_pos rfl]
  · refine (recalls.entries cache key).of_passes
      (Handled.passes_of_cache routed fun clears => same clears.1) ?_
    intro later order
    rw [left later cache (Utf8.encode key), if_neg same]

/-- A request that passes an entry and alters nothing leaves it. -/
theorem Recalls.of_idle (recalls : Recalls start memory visit.now history) {cache key : String}
    {handled : Handled} (passes : handled.Passes cache key)
    (idle : ∀ exchange ∈ World.exchanges ⟨memory, visit.now⟩ (calls.map .own),
      exchange.call.alters exchange.answer = false) :
    RecallsEntry start (World.after ⟨memory, visit.now⟩ (calls.map .own)).memory visit.now
      (handled :: history) cache key :=
  (recalls.entries cache key).of_passes passes fun later order =>
    (World.alike_after idle).live?_eq later cache (Utf8.encode key) order

/-- A handled request leaves what the history with it in front says. -/
theorem Recalls.handle_entry (recalls : Recalls start memory visit.now history)
    (cache key : String) :
    RecallsEntry start (service.handle memory visit).1 visit.now
      (⟨visit, (service.handle memory visit).2⟩ :: history) cache key := by
  by_cases found : (service.handle memory visit).2.status.Succeeds
  case neg =>
    exact (recalls.entries cache key).of_passes (Handled.passes_of_refused found)
      fun later order => Service.handle_keeps_live recalls.used found order _ _
  obtain ⟨calls, reached, yields⟩ := service.handle_calls memory visit
  generalize (service.handle memory visit).2 = response at yields found ⊢
  rw [reached]
  rcases Service.dispatch_course yields with
    ⟨error, unrouted, quiet, -⟩ | ⟨⟨operation, other, key?⟩, result, resolved, run, rfl⟩
  · have unrouted : visit.route? = none := congrArg Except.toOption unrouted
    refine recalls.of_idle (Handled.passes_of_unrouted unrouted) ?_
    rw [quiet]
    exact fun _ member => (List.not_mem_nil member).elim
  have routed : visit.route? = some ⟨operation, other, key?⟩ := congrArg Except.toOption resolved
  rcases Route.resolve_shape resolved with ⟨raw, rfl, -, shape⟩ | ⟨rfl, shape⟩
  · rcases shape with rfl | rfl | rfl
    · exact recalls.of_read routed (Service.read_course run) found cache key
    · exact recalls.of_write routed (Service.write_course run) found cache key
    · exact recalls.of_delete routed (Service.delete_course run) found cache key
  · rcases shape with rfl | rfl | rfl
    · exact recalls.of_clear routed (Service.clear_course run) found cache key
    · exact recalls.of_idle (Handled.passes_of_cache routed (by simp))
        (Service.keys_course run).idle
    · refine recalls.of_idle (Handled.passes_of_cache routed (by simp)) ?_
      rw [(Answering.yields_ofExcept_iff.1 run).1]
      exact fun _ member => (List.not_mem_nil member).elim

/-- One more request of any kind. -/
theorem Recalls.handle (recalls : Recalls start memory visit.now history) :
    Recalls start (service.handle memory visit).1 visit.now
      (⟨visit, (service.handle memory visit).2⟩ :: history) where
  configuration?_eq cache :=
    (service.configuration?_handle memory visit cache).trans (recalls.configuration?_eq cache)
  used := by
    obtain ⟨calls, reached, -⟩ := service.handle_calls memory visit
    have used := World.usedBy_after ⟨memory, visit.now⟩ (undisturbed_own visit.now calls)
      recalls.used
    rw [World.now_after_own] at used
    rwa [reached]
  entries := recalls.handle_entry

end Handling

/-! ## Whole runs -/

/-- The clock does not run backwards from request to request; the newest one is in front. -/
def Chronological (visits : List Visit) : Prop :=
  visits.Pairwise fun later earlier => earlier.now ≤ later.now

section Runs

variable {service : Service} {cluster : ClusterView} {definitions : List CacheDefinition}
  {visits : List Visit}

theorem recalls_create {now : Instant} :
    Recalls (.create cluster definitions) (.create cluster definitions) now [] where
  configuration?_eq _ := rfl
  used := Memory.usedBy_create
  entries cache key := by
    refine ⟨none, .none, fun later _ => ?_⟩
    unfold Memory.live?
    rw [Memory.held?_create]
    rfl

/-- After a whole run, the store recalls its history. -/
theorem Service.recalls_handleAll {now : Instant} (ordered : Chronological visits)
    (last : ∀ visit ∈ visits, visit.now ≤ now) :
    Recalls (.create cluster definitions) (service.handleAll (.create cluster definitions) visits).1
      now (service.handleAll (.create cluster definitions) visits).2 := by
  induction visits generalizing now with
  | nil => exact recalls_create
  | cons visit earlier ih =>
    obtain ⟨before, ordered⟩ := List.pairwise_cons.1 ordered
    have past := ih ordered before
    exact past.handle.mono (last visit List.mem_cons_self)

end Runs

/-! ## What clients see -/

/-- The latest write is still in force: both of the settings that it resolved
to last, the lifespan from the write and the idle time from the last use. -/
def LatestWrite.InForce {history : List Handled} {cache key : String}
    (latest : LatestWrite history cache key) (start : Memory) (now : Instant) : Prop :=
  ∃ configuration metadata, start.configuration? cache = some configuration ∧
    resolveMetadata latest.write.request configuration = .ok metadata ∧
    metadata.lifespan.Lasts latest.write.now now ∧ metadata.maxIdle.Lasts latest.lastUse now

section InForce

variable {start memory : Memory} {now : Instant} {history : List Handled} {cache key : String}
  {stored : StoredEntry}

theorem LatestWrite.standing?_eq (latest : LatestWrite history cache key) :
    standing? cache key history = some ⟨latest.write, latest.lastUse⟩ :=
  standing?_eq_some_iff.2 ⟨latest, rfl, rfl⟩

/-- A write that is in force is what the store shows. -/
theorem RecallsEntry.live?_of_inForce (recalls : RecallsEntry start memory now history cache key)
    {latest : LatestWrite history cache key} (force : latest.InForce start now) :
    ∃ stored, memory.live? now cache (Utf8.encode key) = some stored ∧
      latest.write.request.body = some stored.value := by
  obtain ⟨kept, explained, live⟩ := recalls
  rw [latest.standing?_eq] at explained
  cases explained with
  | @some _ stored leaves =>
    obtain ⟨configuration, metadata, known, resolved, lifespan, idle⟩ := force
    obtain ⟨settings, sameCache, sameMetadata⟩ := leaves.metadata
    obtain rfl : configuration = settings := Option.some.inj (known.symm.trans sameCache)
    have metadataEq : metadata = stored.metadata :=
      Except.ok.inj (resolved.symm.trans sameMetadata)
    have fresh : stored.isExpired now = false := by
      rw [StoredEntry.isExpired_eq_false_iff, ← metadataEq, leaves.created, leaves.lastUsed]
      exact ⟨lifespan, idle⟩
    refine ⟨stored, ?_, leaves.body⟩
    rw [live now (le_refl now), unexpired, Option.filter_some, fresh]
    rfl

/-- What the store shows was left by the write that stands. -/
theorem RecallsEntry.leaves_of_live? (recalls : RecallsEntry start memory now history cache key)
    (shown : memory.live? now cache (Utf8.encode key) = some stored) :
    ∃ standing, standing? cache key history = some standing ∧
      standing.Leaves start cache stored ∧ stored.isExpired now = false := by
  obtain ⟨kept, explained, live⟩ := recalls
  rw [live now (le_refl now)] at shown
  obtain ⟨rfl, fresh⟩ := Option.filter_eq_some_iff.1 shown
  generalize standing? cache key history = found at explained
  cases explained with
  | some leaves => exact ⟨_, rfl, leaves, Bool.not_eq_true' _ ▸ fresh⟩

/-- What the store shows is a write that is in force. -/
theorem RecallsEntry.inForce_of_live? (recalls : RecallsEntry start memory now history cache key)
    (shown : memory.live? now cache (Utf8.encode key) = some stored) :
    ∃ latest : LatestWrite history cache key, latest.InForce start now := by
  obtain ⟨standing, found, leaves, fresh⟩ := recalls.leaves_of_live? shown
  obtain ⟨latest, writeEq, useEq⟩ := standing?_eq_some_iff.1 found
  obtain ⟨configuration, known, resolved⟩ := leaves.metadata
  have lasting := StoredEntry.isExpired_eq_false_iff.1 fresh
  rw [leaves.created, leaves.lastUsed, ← writeEq, ← useEq] at lasting
  exact ⟨latest, configuration, stored.metadata, known, writeEq ▸ resolved, lasting⟩

/-- A request that passes an entry leaves its latest write in force. -/
theorem LatestWrite.inForce_push {handled : Handled} (latest : LatestWrite history cache key)
    (passes : handled.Passes cache key) :
    (latest.push ⟨passes.1, passes.2.1⟩).InForce start now ↔ latest.InForce start now := by
  unfold InForce
  rw [latest.lastUse_push, if_neg passes.2.2]
  rfl

end InForce

namespace Service

/-- How requests that were handled one after another were answered. -/
def history (service : Service) (start : Memory) (visits : List Visit) : List Handled :=
  (service.handleAll start visits).2

/-- The answer to one more request. -/
def answerAfter (service : Service) (start : Memory) (visits : List Visit) (visit : Visit) :
    Response :=
  (service.handle (service.handleAll start visits).1 visit).2

variable {service : Service} {start memory : Memory} {definitions : List CacheDefinition}
  {cluster : ClusterView} {visits : List Visit} {get other : Visit} {cache key : String}

/-- After a run on a new store, the store recalls its history. -/
theorem recalls_run {now : Instant} (service : Service)
    (created : start = .create cluster definitions) (ordered : Chronological visits)
    (last : ∀ visit ∈ visits, visit.now ≤ now) :
    Recalls start (service.handleAll start visits).1 now (service.history start visits) := by
  rw [created]
  exact recalls_handleAll ordered last

/-- A GET without headers answers 200 with the live entry, or 404. -/
theorem handle_plain_read (service : Service) (used : memory.UsedBy get.now)
    (concrete : ∀ configuration, memory.configuration? cache = some configuration →
      ∃ storage, configuration.conversion = .ofStorage storage ∧
        ∀ format, storage = some format → format.isConcrete = true)
    (method : get.request.method = .get) (bare : get.request.headers = .empty)
    (routed : get.route? = some ⟨.read, cache, some key⟩) :
    (memory.live? get.now cache (Utf8.encode key) = none ∧
      (service.handle memory get).2.status = .notFound) ∨
    ∃ stored, memory.live? get.now cache (Utf8.encode key) = some stored ∧
      (service.handle memory get).2.status = .ok ∧
      (service.handle memory get).2.body = stored.value := by
  obtain ⟨calls, result, -, run, answer⟩ := service.handle_routed memory routed
  rw [answer]
  have keyed : key.isEmpty = false := Visit.key_filled routed
  have course : service.ReadCourse get.request cache key
      (World.exchanges ⟨memory, get.now⟩ (calls.map .own)) result := read_course run
  have status := course.plain rfl used bare keyed concrete
  cases live : memory.live? get.now cache (Utf8.encode key) with
  | none =>
    refine Or.inl ⟨rfl, status.trans ?_⟩
    unfold World.live?
    rw [live]
    rfl
  | some stored =>
    have found : (answerOf result).status = .ok := by
      refine status.trans ?_
      unfold World.live?
      rw [live]
      rfl
    obtain ⟨-, met, shown, body, -⟩ := course.uses rfl (Or.inl found)
    obtain rfl : met = stored := Option.some.inj (shown.symm.trans live)
    rw [if_neg (by rw [method]; decide)] at body
    exact Or.inr ⟨met, rfl, found, body⟩

/-- What a GET without headers answers after a run. -/
theorem answerAfter_plain_read (service : Service) (created : start = .create cluster definitions)
    (concrete : ∀ definition ∈ definitions, ∀ format, definition.storage = some format →
      format.isConcrete = true)
    (ordered : Chronological (get :: visits))
    (method : get.request.method = .get) (bare : get.request.headers = .empty)
    (routed : get.route? = some ⟨.read, cache, some key⟩) :
    (∀ latest : LatestWrite (service.history start visits) cache key,
      latest.InForce start get.now → (service.answerAfter start visits get).status = .ok ∧
        latest.write.request.body = some (service.answerAfter start visits get).body) ∧
    ((∀ latest : LatestWrite (service.history start visits) cache key,
      ¬ latest.InForce start get.now) →
        (service.answerAfter start visits get).status = .notFound) := by
  obtain ⟨last, earlier⟩ := List.pairwise_cons.1 ordered
  have recalls : Recalls start (service.handleAll start visits).1 get.now
      (service.history start visits) := service.recalls_run created earlier last
  have formats (configuration : CacheConfiguration)
      (known : (service.handleAll start visits).1.configuration? cache = some configuration) :
      ∃ storage, configuration.conversion = .ofStorage storage ∧
        ∀ format, storage = some format → format.isConcrete = true := by
    rw [recalls.configuration?_eq, created] at known
    obtain ⟨definition, member, conversion⟩ := Memory.configuration?_create known
    exact ⟨definition.storage, conversion, concrete definition member⟩
  rcases service.handle_plain_read recalls.used formats method bare routed with
    ⟨absent, refused⟩ | ⟨stored, live, found, body⟩
  · refine ⟨fun latest force => ?_, fun _ => refused⟩
    obtain ⟨stored, live, -⟩ := (recalls.entries cache key).live?_of_inForce force
    cases absent.symm.trans live
  · refine ⟨fun latest force => ⟨found, ?_⟩, fun never => ?_⟩
    · obtain ⟨shown, met, written⟩ := (recalls.entries cache key).live?_of_inForce force
      obtain rfl : stored = shown := Option.some.inj (live.symm.trans met)
      exact written.trans (congrArg some body.symm)
    · obtain ⟨latest, force⟩ := (recalls.entries cache key).inForce_of_live? live
      exact (never latest force).elim

/-- Read-your-writes over whole runs. Over a store whose caches declare no
storage format or a concrete one, a GET without headers after any run of
requests answers 200 with the body of the latest write while that is in force,
and 404 in every other case; one more request that passes the entry does not
change this. -/
theorem plain_read_returns_latest_write (service : Service) (cluster : ClusterView)
    (definitions : List CacheDefinition) (start : Memory)
    (created : start = .create cluster definitions)
    (concrete : ∀ definition ∈ definitions, ∀ format, definition.storage = some format →
      format.isConcrete = true)
    (visits : List Visit) (get : Visit) (ordered : Chronological (get :: visits))
    (cache key : String) (method : get.request.method = .get)
    (bare : get.request.headers = .empty)
    (routed : get.route? = some ⟨.read, cache, some key⟩) :
    (∀ latest : LatestWrite (service.history start visits) cache key,
      latest.InForce start get.now → (service.answerAfter start visits get).status = .ok ∧
        latest.write.request.body = some (service.answerAfter start visits get).body) ∧
    ((∀ latest : LatestWrite (service.history start visits) cache key,
      ¬ latest.InForce start get.now) →
        (service.answerAfter start visits get).status = .notFound) ∧
    ∀ other, Chronological (get :: other :: visits) →
      (Handled.mk other (service.answerAfter start visits other)).Passes cache key →
      (service.answerAfter start (other :: visits) get).status =
        (service.answerAfter start visits get).status ∧
      ((service.answerAfter start visits get).status = .ok →
        (service.answerAfter start (other :: visits) get).body =
          (service.answerAfter start visits get).body) := by
  obtain ⟨served, refused⟩ := service.answerAfter_plain_read created concrete ordered method bare
    routed
  refine ⟨served, refused, fun other between passes => ?_⟩
  obtain ⟨servedAfter, refusedAfter⟩ := service.answerAfter_plain_read created concrete between
    method bare routed
  by_cases standing : ∃ latest : LatestWrite (service.history start visits) cache key,
      latest.InForce start get.now
  case pos =>
    obtain ⟨latest, force⟩ := standing
    obtain ⟨found, body⟩ := served latest force
    obtain ⟨foundAfter, bodyAfter⟩ :=
      servedAfter (latest.push ⟨passes.1, passes.2.1⟩) ((latest.inForce_push passes).2 force)
    exact ⟨foundAfter.trans found.symm, fun _ => Option.some.inj (bodyAfter.symm.trans body)⟩
  case neg =>
    have gone := refused (not_exists.1 standing)
    have goneAfter := refusedAfter fun latest force => by
      obtain ⟨before, keeps, rfl⟩ := latest.eq_push passes.1
      exact standing ⟨before, (before.inForce_push passes).1 force⟩
    rw [gone, goneAfter]
    refine ⟨rfl, fun absurd => ?_⟩
    cases absurd

end Service

/-! ## A run -/

/-- A PUT of `v1` that states a lifespan of ten seconds. -/
def timedPut : Visit :=
  ⟨.epoch, { (Request.of .put "c/k").withHeader Field.timeToLive "10" with
    body := some (Utf8.encode "v1") }⟩

def plainGet : Visit := ⟨.epoch, .of .get "c/k"⟩

/-- A GET right after the PUT answers its value. -/
theorem plain_get_returns_timed_put :
    (plainService.answerAfter emptyWorld.memory [timedPut] plainGet).status = .ok ∧
      (plainService.answerAfter emptyWorld.memory [timedPut] plainGet).body =
        Utf8.encode "v1" := by
  have ordered : Chronological [plainGet, timedPut] :=
    List.pairwise_pair.2 (le_refl Instant.epoch)
  have routed : plainGet.route? = some ⟨.read, "c", some "k"⟩ := by decide +kernel
  have written : (Handled.mk timedPut
      (plainService.answerAfter emptyWorld.memory [] timedPut)).Writes "c" "k" := by
    decide +kernel
  obtain ⟨served, -⟩ := Service.plain_read_returns_latest_write plainService
    ⟨"node", "address", []⟩ [⟨"c", .unlimited, .unlimited, none⟩] emptyWorld.memory rfl
    (by simp) [timedPut] plainGet ordered "c" "k" rfl rfl routed
  have settings : resolveMetadata timedPut.request ⟨.unlimited, .unlimited, .passthrough⟩ =
      .ok ⟨.seconds 10, .unlimited⟩ := by rfl
  let latest : LatestWrite (plainService.history emptyWorld.memory [timedPut]) "c" "k" :=
    ⟨[], _, [], rfl, written, by simp⟩
  have force : latest.InForce emptyWorld.memory plainGet.now := by
    refine ⟨_, _, rfl, settings, ?_, ?_⟩
    · rintro count same deadline sum
      obtain rfl := Expiration.seconds.inj same
      change deadline.nanos = 0 + (10 : Nat) * nanosPerSecond at sum
      change (0 : Int) < deadline.nanos
      rw [sum]
      decide
    · intro count same
      cases same
  obtain ⟨found, body⟩ := served latest force
  exact ⟨found, (Option.some.inj body).symm⟩

end CacheGate
