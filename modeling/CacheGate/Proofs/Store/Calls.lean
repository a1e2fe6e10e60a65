import CacheGate.Proofs.Store.Live

/-!
# What store calls answer and leave

One law for the answer of each store call and one for the entries it leaves,
in terms of the map view of the store. Two laws sum them up for all calls:

* `Memory.held?_perform`: an entry that is there after a call was there
  before, perhaps with another last use, or was put there by this call.
* `Memory.live?_perform_of_not_alters`: a call that neither used, wrote nor
  removed a live entry leaves all live entries as they were.
-/

namespace CacheGate

open Time

namespace Memory

variable {memory : Memory} {configuration : CacheConfiguration} {call : Call}
  {name other : String} {key : Key} {content : Bytes} {now later : Instant}
  {subject : Subject} {context : ExecutionContext} {format : MediaType} {added : NewEntry}
  {value : Bytes} {stored : StoredEntry}

/-! ## Known and unknown caches -/

theorem configuration?_eq_some_iff :
    memory.configuration? name = some configuration ↔
      ∃ cache, memory.cache? name = some cache ∧ cache.configuration = configuration :=
  Option.map_eq_some_iff

theorem cache?_eq_none_iff : memory.cache? name = none ↔ memory.configuration? name = none :=
  Option.map_eq_none_iff.symm

theorem onCache_of_known {α : Type} {action : MemoryCache → Performed α} {cache : MemoryCache}
    (known : memory.cache? name = some cache) : memory.onCache name action = action cache := by
  unfold onCache
  rw [known]

theorem onCache_of_unknown {α : Type} {action : MemoryCache → Performed α}
    (unknown : memory.configuration? name = none) :
    memory.onCache name action = memory.unchanged (.error (.unknownCache name)) := by
  unfold onCache
  rw [cache?_eq_none_iff.2 unknown]

/-- A call on a cache that does not exist fails and changes nothing. -/
theorem perform_of_unknown (unknown : memory.configuration? call.cache = none) :
    memory.perform now call = memory.unchanged (.error (.unknownCache call.cache)) := by
  cases call <;> exact onCache_of_unknown unknown

theorem held?_of_unknown (unknown : memory.configuration? name = none) :
    memory.held? name content = none := by
  unfold held?
  rw [cache?_eq_none_iff.2 unknown]
  rfl

theorem live?_of_unknown (unknown : memory.configuration? name = none) :
    memory.live? now name content = none := by
  unfold live?
  rw [held?_of_unknown unknown]
  rfl

/-! ## Answers -/

theorem live_fst_eq_live? {cache : MemoryCache} (known : memory.cache? name = some cache) :
    (cache.live key now).1 = memory.live? now name key.content := by
  rw [MemoryCache.live_fst]
  unfold live? held?
  rw [known]
  rfl

theorem answer_configuration (known : memory.configuration? name = some configuration) :
    (memory.perform now (.configuration context name)).answer = .ok configuration := by
  obtain ⟨cache, found, rfl⟩ := configuration?_eq_some_iff.1 known
  exact congrArg Performed.answer (onCache_of_known found)

theorem answer_distribution (known : memory.configuration? name = some configuration) :
    (memory.perform now (.distribution context name key)).answer =
      .ok ⟨memory.cluster.primaryOwner key, memory.cluster.nodeName,
        memory.cluster.serverAddress⟩ := by
  obtain ⟨cache, found, rfl⟩ := configuration?_eq_some_iff.1 known
  exact congrArg Performed.answer (onCache_of_known found)

theorem answer_entry (known : memory.configuration? name = some configuration) :
    (memory.perform now (.entry context name key)).answer =
      .ok ((memory.live? now name key.content).map StoredEntry.snapshot) := by
  obtain ⟨cache, found, rfl⟩ := configuration?_eq_some_iff.1 known
  rw [← live_fst_eq_live? found]
  exact congrArg Performed.answer (onCache_of_known found)

/-- An internal read shows the live entry, and fails only if there is no such cache. -/
theorem answer_entry_eq_ok_iff {found : Option Entry} :
    (memory.perform now (.entry context name key)).answer = .ok found ↔
      (memory.configuration? name).isSome ∧
        (memory.live? now name key.content).map StoredEntry.snapshot = found := by
  cases known : memory.configuration? name with
  | none =>
    rw [perform_of_unknown known]
    simp [Memory.unchanged]
  | some configuration =>
    rw [answer_entry known]
    simp

/-- A read finds what is live, and refuses a format that the cache does not offer. -/
theorem answer_get (known : memory.configuration? name = some configuration) :
    (memory.perform now (.get subject name key format)).answer =
      match memory.live? now name key.content with
      | none => .ok none
      | some stored =>
        if configuration.conversion.supports format then .ok (some stored.value)
        else .error (.encoding (configuration.conversion.storage.getD stored.mediaType) format) := by
  obtain ⟨cache, found, rfl⟩ := configuration?_eq_some_iff.1 known
  rw [← live_fst_eq_live? found]
  change (memory.get now subject name key format).answer = _
  unfold Memory.get
  rw [onCache_of_known found]
  rcases looked : cache.live key now with ⟨_ | stored, left, events⟩
  · rfl
  · have kept : left.configuration = cache.configuration := by
      rw [← MemoryCache.configuration_live cache key now, looked]
    simp only [kept]
    split <;> rfl

theorem answer_put (known : memory.configuration? name = some configuration) :
    (memory.perform now (.put subject name added)).answer = .ok () := by
  obtain ⟨cache, found, rfl⟩ := configuration?_eq_some_iff.1 known
  exact congrArg Performed.answer (onCache_of_known found)

/-- A removal tells whether the entry was live. -/
theorem answer_remove (known : memory.configuration? name = some configuration) :
    (memory.perform now (.remove subject name key)).answer =
      .ok (memory.live? now name key.content).isSome := by
  obtain ⟨cache, found, rfl⟩ := configuration?_eq_some_iff.1 known
  refine (congrArg Performed.answer (onCache_of_known found)).trans ?_
  unfold live? held?
  rw [found, MemoryCache.find?_eq_lookup, Option.bind_some, Option.isSome_filter]

/-- A removal that removed something met a live entry. -/
theorem live?_of_answer_remove
    (answered : (memory.perform now (.remove subject name key)).answer = .ok true) :
    ∃ stored, memory.live? now name key.content = some stored := by
  cases known : memory.configuration? name with
  | none =>
    rw [perform_of_unknown known] at answered
    cases answered
  | some configuration =>
    rw [answer_remove known, Except.ok.injEq] at answered
    exact Option.isSome_iff_exists.1 answered

/-- A listing has each live key once. -/
theorem answer_keys (known : memory.configuration? name = some configuration) (now : Instant)
    (subject : Subject) :
    ∃ listed, (memory.perform now (.keys subject name)).answer = .ok listed ∧
      (listed.map Key.content).Nodup ∧
      ∀ content, content ∈ listed.map Key.content ↔
        (memory.live? now name content).isSome := by
  obtain ⟨cache, found, rfl⟩ := configuration?_eq_some_iff.1 known
  refine ⟨(cache.dropExpired now).sortedKeys, congrArg Performed.answer (onCache_of_known found),
    MemoryCache.nodup_sortedKeys _, fun content => ?_⟩
  rw [MemoryCache.mem_sortedKeys_iff, MemoryCache.lookup_dropExpired]
  unfold live? held?
  rw [found]
  rfl

theorem answer_clear (known : memory.configuration? name = some configuration) :
    (memory.perform now (.clear subject name)).answer = .ok () := by
  obtain ⟨cache, found, rfl⟩ := configuration?_eq_some_iff.1 known
  exact congrArg Performed.answer (onCache_of_known found)

/-- Only for a cache that does not exist is the answer that it is unknown. -/
theorem configuration?_of_answer_unknown
    (failed : (memory.perform now call).answer = .error (.unknownCache name)) :
    memory.configuration? call.cache = none := by
  cases known : memory.configuration? call.cache with
  | none => rfl
  | some configuration =>
    cases call with
    | get =>
      have answered := failed.symm.trans (answer_get known)
      repeat' split at answered
      all_goals cases answered
    | put => cases failed.symm.trans (answer_put known)
    | remove => cases failed.symm.trans (answer_remove known)
    | clear => cases failed.symm.trans (answer_clear known)
    | keys subject =>
      obtain ⟨listed, answered, -⟩ := answer_keys known now subject
      cases failed.symm.trans answered
    | entry => cases failed.symm.trans (answer_entry known)
    | configuration => cases failed.symm.trans (answer_configuration known)
    | distribution => cases failed.symm.trans (answer_distribution known)

/-! ## The store after a call -/

theorem memory_configuration :
    (memory.perform now (.configuration context name)).memory = memory := by
  change (memory.onCache name _).memory = memory
  unfold onCache
  split <;> rfl

theorem memory_distribution :
    (memory.perform now (.distribution context name key)).memory = memory := by
  change (memory.onCache name _).memory = memory
  unfold onCache
  split <;> rfl

section Known

variable {cache : MemoryCache}

theorem memory_put (found : memory.cache? name = some cache) :
    (memory.perform now (.put subject name added)).memory =
      memory.setCache name
        (cache.insert added.key ⟨added.value, added.mediaType, added.metadata, now, now⟩) :=
  congrArg Performed.memory (onCache_of_known found)

theorem memory_remove (found : memory.cache? name = some cache) :
    (memory.perform now (.remove subject name key)).memory =
      memory.setCache name (cache.erase key) :=
  congrArg Performed.memory (onCache_of_known found)

theorem memory_clear (found : memory.cache? name = some cache) :
    (memory.perform now (.clear subject name)).memory = memory.setCache name cache.clear :=
  congrArg Performed.memory (onCache_of_known found)

theorem memory_keys (found : memory.cache? name = some cache) :
    (memory.perform now (.keys subject name)).memory =
      memory.setCache name (cache.dropExpired now) :=
  congrArg Performed.memory (onCache_of_known found)

theorem memory_entry (found : memory.cache? name = some cache) :
    (memory.perform now (.entry context name key)).memory =
      memory.setCache name (cache.live key now).2.1 :=
  congrArg Performed.memory (onCache_of_known found)

theorem memory_get (found : memory.cache? name = some cache) :
    (memory.perform now (.get subject name key format)).memory =
      match (cache.live key now).1 with
      | none => memory.setCache name (cache.live key now).2.1
      | some stored =>
        if cache.configuration.conversion.supports format then
          memory.setCache name ((cache.live key now).2.1.insert key (stored.touch now))
        else memory := by
  change (memory.get now subject name key format).memory = _
  unfold Memory.get
  rw [onCache_of_known found]
  rcases looked : cache.live key now with ⟨_ | stored, left, events⟩
  · rfl
  · have kept : left.configuration = cache.configuration := by
      rw [← MemoryCache.configuration_live cache key now, looked]
    simp only [kept]
    split <;> rfl

end Known

/-- No call changes the settings of a cache. -/
theorem configuration?_perform (memory : Memory) (now : Instant) (call : Call)
    (other : String) :
    (memory.perform now call).memory.configuration? other = memory.configuration? other := by
  cases known : memory.configuration? call.cache with
  | none => rw [perform_of_unknown known]; rfl
  | some configuration =>
    obtain ⟨cache, found, rfl⟩ := configuration?_eq_some_iff.1 known
    cases call <;> dsimp only [Call.cache] at found
    case put => rw [memory_put found]; exact configuration?_setCache found rfl
    case remove => rw [memory_remove found]; exact configuration?_setCache found rfl
    case clear => rw [memory_clear found]; exact configuration?_setCache found rfl
    case keys => rw [memory_keys found]; exact configuration?_setCache found rfl
    case entry _ _ key =>
      rw [memory_entry found]
      exact configuration?_setCache found (cache.configuration_live key now)
    case configuration => rw [memory_configuration]
    case distribution => rw [memory_distribution]
    case get _ _ key _ =>
      rw [memory_get found]
      have kept := cache.configuration_live key now
      split
      · exact configuration?_setCache found kept
      · split
        · exact configuration?_setCache found kept
        · rfl

/-! ## Entries after a call -/

/-- The entries left by a call that changes one cache, or none if there is no
such cache. -/
theorem held?_of_change {after : Memory} {f : MemoryCache → MemoryCache} (name : String)
    (unknown : memory.configuration? name = none → after = memory)
    (known : ∀ cache, memory.cache? name = some cache → after = memory.setCache name (f cache)) :
    after.held? other content =
      if other = name then (memory.cache? name).bind fun cache => (f cache).lookup content
      else memory.held? other content := by
  cases found : memory.cache? name with
  | none =>
    have absent := cache?_eq_none_iff.1 found
    rw [unknown absent]
    split
    case isTrue same => rw [same]; exact held?_of_unknown absent
    case isFalse => rfl
  | some cache =>
    rw [known cache found, held?_setCache found]
    rfl

theorem memory_of_unknown (call : Call) (unknown : memory.configuration? call.cache = none) :
    (memory.perform now call).memory = memory := by
  rw [perform_of_unknown unknown]
  rfl

/-- An internal read drops the entry it asks for if that has expired. -/
theorem held?_entry :
    (memory.perform now (.entry context name key)).memory.held? other content =
      if other = name ∧ key.content = content then memory.live? now other content
      else memory.held? other content := by
  rw [held?_of_change name (memory_of_unknown (.entry context name key)) fun _ => memory_entry]
  by_cases named : other = name
  · subst named
    unfold live? held?
    by_cases same : key.content = content <;>
      cases memory.cache? other <;> simp [MemoryCache.lookup_live, MemoryCache.live_fst, same]
  · simp [named]

/-- A listing drops everything that has expired. -/
theorem held?_keys :
    (memory.perform now (.keys subject name)).memory.held? other content =
      if other = name then memory.live? now other content else memory.held? other content := by
  rw [held?_of_change name (memory_of_unknown (.keys subject name)) fun _ => memory_keys]
  by_cases named : other = name
  · subst named
    unfold live? held?
    cases memory.cache? other <;> simp [MemoryCache.lookup_dropExpired]
  · simp [named]

theorem held?_remove :
    (memory.perform now (.remove subject name key)).memory.held? other content =
      if other = name ∧ key.content = content then none else memory.held? other content := by
  rw [held?_of_change name (memory_of_unknown (.remove subject name key)) fun _ => memory_remove]
  by_cases named : other = name
  · subst named
    unfold held?
    by_cases same : key.content = content <;>
      cases memory.cache? other <;> simp [MemoryCache.lookup_erase, same]
  · simp [named]

theorem held?_clear :
    (memory.perform now (.clear subject name)).memory.held? other content =
      if other = name then none else memory.held? other content := by
  rw [held?_of_change name (memory_of_unknown (.clear subject name)) fun _ => memory_clear]
  by_cases named : other = name
  · subst named
    cases memory.cache? other <;> simp [MemoryCache.lookup_clear]
  · simp [named]

/-- The entry that a write leaves: created and last used at the same time. -/
def fresh (added : NewEntry) (now : Instant) : StoredEntry :=
  ⟨added.value, added.mediaType, added.metadata, now, now⟩

theorem held?_put (known : memory.configuration? name = some configuration) :
    (memory.perform now (.put subject name added)).memory.held? other content =
      if other = name ∧ added.key.content = content then some (fresh added now)
      else memory.held? other content := by
  obtain ⟨cache, found, rfl⟩ := configuration?_eq_some_iff.1 known
  rw [memory_put found, held?_setCache found, MemoryCache.lookup_insert]
  by_cases named : other = name
  · subst named
    unfold held?
    by_cases same : added.key.content = content <;> simp [found, same, fresh]
  · simp [named]

/-- A read gives a value where there is a live entry and the format is offered. -/
theorem answer_get_eq_found_iff :
    (memory.perform now (.get subject name key format)).answer = .ok (some value) ↔
      ∃ configuration stored, memory.configuration? name = some configuration ∧
        memory.live? now name key.content = some stored ∧
        configuration.conversion.supports format = true ∧ stored.value = value := by
  cases known : memory.configuration? name with
  | none =>
    rw [perform_of_unknown known]
    simp [Memory.unchanged]
  | some configuration =>
    rw [answer_get known]
    cases live : memory.live? now name key.content with
    | none => simp
    | some stored => by_cases offered : configuration.conversion.supports format <;> simp [offered]

/-- A read that gives a value counts as a use of the entry. -/
theorem held?_get_of_found
    (answered : (memory.perform now (.get subject name key format)).answer = .ok (some value)) :
    (memory.perform now (.get subject name key format)).memory.held? other content =
      if other = name ∧ key.content = content then
        (memory.live? now other content).map (·.touch now)
      else memory.held? other content := by
  obtain ⟨configuration, stored, known, live, offered, -⟩ := answer_get_eq_found_iff.1 answered
  obtain ⟨cache, found, rfl⟩ := configuration?_eq_some_iff.1 known
  have kept := cache.lookup_live key now
  rw [memory_get found, live_fst_eq_live? found, live]
  simp only [offered, if_true, held?_setCache found, MemoryCache.lookup_insert, kept]
  by_cases named : other = name
  · subst named
    by_cases same : key.content = content
    · subst same
      simp [live]
    · simp [same, held?, found]
  · simp [named]

/-- Any other read at most drops the entry it asks for, if that has expired. -/
theorem held?_get_of_missed
    (missed : ∀ value,
      (memory.perform now (.get subject name key format)).answer ≠ .ok (some value)) :
    (memory.perform now (.get subject name key format)).memory.held? other content =
      if other = name ∧ key.content = content then memory.live? now other content
      else memory.held? other content := by
  cases known : memory.configuration? name with
  | none =>
    rw [memory_of_unknown _ known]
    split
    case isTrue same => rw [same.1, live?_of_unknown known]; exact held?_of_unknown known
    case isFalse => rfl
  | some configuration =>
    obtain ⟨cache, found, rfl⟩ := configuration?_eq_some_iff.1 known
    rw [memory_get found, live_fst_eq_live? found]
    cases live : memory.live? now name key.content with
    | none =>
      simp only [held?_setCache found, MemoryCache.lookup_live, live_fst_eq_live? found, live]
      by_cases named : other = name
      · subst named
        by_cases same : key.content = content
        · subst same
          simp [live]
        · simp [same, held?, found]
      · simp [named]
    | some stored =>
      have refused : cache.configuration.conversion.supports format = false := by
        by_contra offered
        exact missed stored.value (answer_get_eq_found_iff.2
          ⟨_, stored, known, live, Bool.not_eq_false _ ▸ offered, rfl⟩)
      simp only [refused, Bool.false_eq_true, if_false]
      split
      case isTrue same =>
        obtain ⟨rfl, rfl⟩ := same
        rw [live]
        exact (live?_eq_some_iff.1 live).1
      case isFalse => rfl

/-! ## All calls at once -/

/-- Where an entry that is there after a call comes from. -/
theorem held?_perform
    (after : (memory.perform now call).memory.held? other content = some stored) :
    memory.held? other content = some stored ∨
      (∃ earlier, memory.live? now other content = some earlier ∧ earlier.touch now = stored) ∨
      ∃ subject added, call = .put subject other added ∧ added.key.content = content ∧
        fresh added now = stored := by
  have settled (live : memory.live? now other content = some stored) :
      memory.held? other content = some stored := (live?_eq_some_iff.1 live).1
  cases call with
  | configuration => rw [memory_configuration] at after; exact Or.inl after
  | distribution => rw [memory_distribution] at after; exact Or.inl after
  | entry =>
    rw [held?_entry] at after
    split at after
    · exact Or.inl (settled after)
    · exact Or.inl after
  | keys =>
    rw [held?_keys] at after
    split at after
    · exact Or.inl (settled after)
    · exact Or.inl after
  | remove =>
    rw [held?_remove] at after
    split at after
    · cases after
    · exact Or.inl after
  | clear =>
    rw [held?_clear] at after
    split at after
    · cases after
    · exact Or.inl after
  | put subject name added =>
    cases known : memory.configuration? name with
    | none => rw [memory_of_unknown _ known] at after; exact Or.inl after
    | some configuration =>
      rw [held?_put known] at after
      split at after
      case isTrue same =>
        obtain ⟨rfl, sameContent⟩ := same
        exact Or.inr (Or.inr ⟨subject, added, rfl, sameContent, Option.some.inj after⟩)
      case isFalse => exact Or.inl after
  | get subject name key format =>
    by_cases answered : ∃ value,
        (memory.perform now (.get subject name key format)).answer = .ok (some value)
    · obtain ⟨value, answered⟩ := answered
      rw [held?_get_of_found answered] at after
      split at after
      · exact Or.inr (Or.inl (Option.map_eq_some_iff.1 after))
      · exact Or.inl after
    · rw [held?_get_of_missed fun value => not_exists.1 answered value] at after
      split at after
      · exact Or.inl (settled after)
      · exact Or.inl after

end Memory

/-- Whether a call writes the entry under a key. -/
def Call.puts (call : Call) (name : String) (content : Bytes) : Bool :=
  match call with
  | .put _ cache added => cache == name && added.key.content == content
  | _ => false

/-- Whether a call writes or removes the entry under a key. -/
def Call.changes (call : Call) (name : String) (content : Bytes) : Bool :=
  match call with
  | .put _ cache added => cache == name && added.key.content == content
  | .remove _ cache key => cache == name && key.content == content
  | .clear _ cache => cache == name
  | _ => false

namespace Memory

variable {memory : Memory} {call : Call} {name : String} {content : Bytes} {now : Instant}
  {stored : StoredEntry}

/-- An entry that a call did not write was there before the call. -/
theorem held?_perform_of_not_puts
    (after : (memory.perform now call).memory.held? name content = some stored)
    (others : call.puts name content = false) :
    ∃ earlier, memory.held? name content = some earlier ∧ earlier.written = stored.written := by
  rcases held?_perform after with held | ⟨earlier, live, rfl⟩ | ⟨subject, added, rfl, rfl, -⟩
  · exact ⟨stored, held, rfl⟩
  · exact ⟨earlier, (live?_eq_some_iff.1 live).1, rfl⟩
  · simp [Call.puts] at others

/-- A live entry that a call does not change is there after it. -/
theorem held?_perform_of_not_changes (live : memory.live? now name content = some stored)
    (others : call.changes name content = false) :
    ∃ left, (memory.perform now call).memory.held? name content = some left ∧
      left.written = stored.written := by
  have held := (live?_eq_some_iff.1 live).1
  cases call with
  | configuration => exact ⟨stored, by rw [memory_configuration, held], rfl⟩
  | distribution => exact ⟨stored, by rw [memory_distribution, held], rfl⟩
  | entry => exact ⟨stored, by rw [held?_entry, live, held, ite_self], rfl⟩
  | keys => exact ⟨stored, by rw [held?_keys, live, held, ite_self], rfl⟩
  | remove =>
    refine ⟨stored, ?_, rfl⟩
    rw [held?_remove, held]
    split
    case isTrue same => simp [Call.changes, same.1, same.2] at others
    case isFalse => rfl
  | clear =>
    refine ⟨stored, ?_, rfl⟩
    rw [held?_clear, held]
    split
    case isTrue same => simp [Call.changes, same] at others
    case isFalse => rfl
  | put subject cache added =>
    refine ⟨stored, ?_, rfl⟩
    cases known : memory.configuration? cache with
    | none => rw [memory_of_unknown _ known, held]
    | some configuration =>
      rw [held?_put known, held]
      split
      case isTrue same => simp [Call.changes, same.1, same.2] at others
      case isFalse => rfl
  | get subject cache key format =>
    by_cases answered : ∃ value,
        (memory.perform now (.get subject cache key format)).answer = .ok (some value)
    · obtain ⟨value, answered⟩ := answered
      rw [held?_get_of_found answered, live, held]
      split
      · exact ⟨stored.touch now, rfl, rfl⟩
      · exact ⟨stored, rfl, rfl⟩
    · rw [held?_get_of_missed fun value => not_exists.1 answered value, live, held, ite_self]
      exact ⟨stored, rfl, rfl⟩

end Memory

/-- Whether a call with this answer used, wrote or removed an entry. -/
def Call.alters : (call : Call) → Except StoreError call.Answer → Bool
  | .get .., .ok found => found.isSome
  | .put .., .ok _ => true
  | .remove .., .ok removed => removed
  | .clear .., .ok _ => true
  | _, _ => false

namespace Memory

variable {memory : Memory} {call : Call} {name : String} {content : Bytes}
  {now later : Instant}

/-- A call that alters nothing leaves every live entry, from its time on. -/
theorem live?_perform_of_not_alters (order : now ≤ later)
    (idle : call.alters (memory.perform now call).answer = false) :
    (memory.perform now call).memory.live? later name content =
      memory.live? later name content := by
  apply live?_eq_of_held? order
  cases known : memory.configuration? call.cache with
  | none => exact Or.inl (by rw [memory_of_unknown call known])
  | some configuration =>
    cases call <;> dsimp only [Call.cache] at known
    case configuration => exact Or.inl (by rw [memory_configuration])
    case distribution => exact Or.inl (by rw [memory_distribution])
    case entry =>
      rw [held?_entry]
      split
      · exact Or.inr rfl
      · exact Or.inl rfl
    case keys =>
      rw [held?_keys]
      split
      · exact Or.inr rfl
      · exact Or.inl rfl
    case remove subject cache key =>
      rw [answer_remove known] at idle
      have gone : memory.live? now cache key.content = none := by
        simpa [Call.alters] using idle
      rw [held?_remove]
      split
      case isTrue same => exact Or.inr (by rw [same.1, ← same.2]; exact gone.symm)
      case isFalse => exact Or.inl rfl
    case clear subject cache =>
      rw [answer_clear known] at idle
      cases idle
    case put subject cache added =>
      rw [answer_put known] at idle
      cases idle
    case get subject cache key format =>
      have missed : ∀ value,
          (memory.perform now (.get subject cache key format)).answer ≠ .ok (some value) := by
        intro value answered
        rw [answered] at idle
        cases idle
      rw [held?_get_of_missed missed]
      split
      · exact Or.inr rfl
      · exact Or.inl rfl

/-- No entry was last used after `now`. -/
def UsedBy (memory : Memory) (now : Instant) : Prop :=
  ∀ name content stored, memory.held? name content = some stored → stored.lastUsed ≤ now

/-- While the clock does not run backwards, no last use lies in the future. -/
theorem UsedBy.perform (used : memory.UsedBy now) (order : now ≤ later) :
    (memory.perform later call).memory.UsedBy later := by
  intro name content stored after
  rcases held?_perform after with before | ⟨earlier, -, rfl⟩ | ⟨subject, added, -, -, rfl⟩
  · exact le_trans (used name content stored before) order
  · exact le_refl later
  · exact le_refl later

theorem UsedBy.mono (used : memory.UsedBy now) (order : now ≤ later) : memory.UsedBy later :=
  fun name content stored held => le_trans (used name content stored held) order

end Memory

end CacheGate
