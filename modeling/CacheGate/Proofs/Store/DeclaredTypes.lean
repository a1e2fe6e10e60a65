import CacheGate.Proofs.Handler.Interleaving
import CacheGate.Proofs.Handler.Lockstep

/-!
# Declared types of keys in the store

The store keeps each key with the type that it was first declared with.
`Memory.plain` redeclares all of them as plain text. Every call commutes with
that (`Memory.get_plain` and its siblings), so no call ever depends on a
declared type: calls on keys with the same contents are answered in step by
stores that differ in declared types only (`Memory.perform_alike`).
-/

namespace CacheGate

open Time

/-! ## Keys -/

namespace Key

/-- Two keys that differ in their declared types at most. -/
def SameContent (left right : Key) : Prop := left.content = right.content

/-- The key as it is declared by default. -/
def plain (key : Key) : Key := ⟨key.content, .textPlain⟩

variable {left right key : Key}

theorem plain_inj : left.plain = right.plain ↔ left.SameContent right := by
  unfold plain SameContent
  simp

end Key

/-! ## Caches -/

namespace MemoryCache

variable {cache other : MemoryCache} {key : Key} {now : Instant}

theorem eq_of_entries (configuration : cache.configuration = other.configuration)
    (entries : cache.entries = other.entries) : cache = other := by
  obtain ⟨_, _, _⟩ := cache
  obtain ⟨_, _, _⟩ := other
  obtain rfl := configuration
  obtain rfl := entries
  rfl

/-- The cache with all keys declared as plain text. -/
def plain (cache : MemoryCache) : MemoryCache :=
  { cache with
    entries := cache.entries.map fun item => (item.1.plain, item.2)
    distinct := List.pairwise_map.2 cache.distinct }

theorem entries_plain (cache : MemoryCache) :
    cache.plain.entries = cache.entries.map fun item => (item.1.plain, item.2) := rfl

theorem entries_find?_plain (cache : MemoryCache) (key : Key) :
    (cache.plain.entries.find? fun item => item.1.same key.plain) =
      (cache.entries.find? fun item => item.1.same key).map
        fun item => (item.1.plain, item.2) := by
  rw [entries_plain, List.find?_map]
  rfl

theorem find?_plain (cache : MemoryCache) (key : Key) :
    cache.plain.find? key.plain = cache.find? key := by
  unfold find?
  rw [entries_find?_plain, Option.map_map]
  rfl

theorem erase_plain (cache : MemoryCache) (key : Key) :
    cache.plain.erase key.plain = (cache.erase key).plain :=
  eq_of_entries rfl List.filter_map

theorem storedKey_plain (cache : MemoryCache) (key : Key) :
    cache.plain.storedKey key.plain = (cache.storedKey key).plain := by
  unfold storedKey
  rw [entries_find?_plain]
  cases cache.entries.find? fun item => item.1.same key with
  | none => rfl
  | some item => rfl

/-- The key that stays is the one that was stored first, whatever its type. -/
theorem insert_plain (cache : MemoryCache) (key : Key) (stored : StoredEntry) :
    cache.plain.insert key.plain stored = (cache.insert key stored).plain := by
  refine eq_of_entries rfl ?_
  change (cache.plain.erase key.plain).entries ++ [(cache.plain.storedKey key.plain, stored)] =
    ((cache.erase key).entries ++ [(cache.storedKey key, stored)]).map _
  rw [erase_plain, storedKey_plain, List.map_append]
  rfl

theorem dropExpired_plain (cache : MemoryCache) (now : Instant) :
    cache.plain.dropExpired now = (cache.dropExpired now).plain :=
  eq_of_entries rfl List.filter_map

theorem live_plain (cache : MemoryCache) (key : Key) (now : Instant) :
    cache.plain.live key.plain now =
      ((cache.live key now).1, (cache.live key now).2.1.plain, (cache.live key now).2.2) := by
  unfold live
  rw [find?_plain, erase_plain]
  cases cache.find? key with
  | none => rfl
  | some stored =>
    dsimp only
    split <;> rfl

/-- Listings are in the order of the texts of keys, which have no type. -/
theorem sortedKeys_plain (cache : MemoryCache) :
    cache.plain.sortedKeys = cache.sortedKeys.map Key.plain := by
  have sorted : cache.sortedKeys.map Key.plain =
      ((cache.entries.map (·.1)).map Key.plain).mergeSort
        fun left right => left.displayText ≤ right.displayText :=
    List.map_mergeSort fun _ _ _ _ => rfl
  rw [sorted, List.map_map]
  unfold sortedKeys
  rw [entries_plain, List.map_map]
  rfl

end MemoryCache

/-! ## Calls -/

namespace Memory

variable {memory left right : Memory} {now : Instant} {name : String} {α : Type}

/-- The store with all keys declared as plain text. -/
def plain (memory : Memory) : Memory :=
  { memory with caches := memory.caches.map fun item => (item.1, item.2.plain) }

theorem cache?_plain (memory : Memory) (name : String) :
    memory.plain.cache? name = (memory.cache? name).map MemoryCache.plain := by
  unfold plain cache?
  generalize memory.caches = caches
  induction caches with
  | nil => rfl
  | cons item caches ih =>
    rw [List.map_cons, List.lookup_cons, List.lookup_cons, ih]
    split <;> rfl

theorem setCache_plain (memory : Memory) (name : String) (cache : MemoryCache) :
    memory.plain.setCache name cache.plain = (memory.setCache name cache).plain := by
  unfold setCache plain
  simp only [List.map_map]
  congr 1
  refine List.map_congr_left fun item _ => ?_
  by_cases named : item.1 = name <;> simp [named]

/-- The result of a call, with all keys declared as plain text. -/
def Performed.plain (performed : Performed α) : Performed α :=
  { performed with memory := performed.memory.plain }

theorem onCache_plain {action again : MemoryCache → Performed α}
    (commutes : ∀ cache : MemoryCache, again cache.plain = (action cache).plain) :
    memory.plain.onCache name again = (memory.onCache name action).plain := by
  unfold onCache
  rw [cache?_plain]
  cases memory.cache? name with
  | none => rfl
  | some cache => exact commutes cache

theorem get_plain (subject : Subject) (key : Key) (format : MediaType) :
    memory.plain.get now subject name key.plain format =
      (memory.get now subject name key format).plain := by
  refine onCache_plain fun cache => ?_
  rw [MemoryCache.live_plain]
  obtain ⟨found, kept, events⟩ := cache.live key now
  cases found with
  | none =>
    dsimp only
    rw [setCache_plain]
    rfl
  | some stored =>
    dsimp only
    rw [MemoryCache.insert_plain, setCache_plain]
    rw [apply_ite Performed.plain]
    rfl

theorem put_plain (subject : Subject) (key : Key) (value : Bytes) (mediaType : MediaType)
    (metadata : EntryMetadata) :
    memory.plain.put now subject name ⟨key.plain, value, mediaType, metadata⟩ =
      (memory.put now subject name ⟨key, value, mediaType, metadata⟩).plain := by
  refine onCache_plain fun cache => ?_
  rw [MemoryCache.insert_plain, setCache_plain]
  rfl

theorem remove_plain (key : Key) :
    memory.plain.remove now name key.plain = (memory.remove now name key).plain := by
  refine onCache_plain fun cache => ?_
  rw [MemoryCache.find?_plain, MemoryCache.erase_plain, setCache_plain]
  rfl

theorem clear_plain (subject : Subject) :
    memory.plain.clear subject name = (memory.clear subject name).plain := by
  refine onCache_plain fun cache => ?_
  have counted : cache.plain.entries.length = cache.entries.length := List.length_map ..
  rw [counted]
  exact congrArg (Performed.mk _ · _) (setCache_plain memory name cache.clear)

theorem entry_plain (context : ExecutionContext) (key : Key) :
    memory.plain.entry now context name key.plain =
      (memory.entry now context name key).plain := by
  refine onCache_plain fun cache => ?_
  rw [MemoryCache.live_plain]
  obtain ⟨found, kept, events⟩ := cache.live key now
  dsimp only
  rw [setCache_plain]
  rfl

/-- A listing has the same keys, with other types. -/
theorem keys_plain (memory : Memory) (now : Instant) (name : String) :
    (memory.plain.keys now name).answer = (memory.keys now name).answer.map (List.map Key.plain) ∧
      (memory.plain.keys now name).memory = (memory.keys now name).memory.plain := by
  unfold keys onCache
  rw [cache?_plain]
  cases memory.cache? name with
  | none => exact ⟨rfl, rfl⟩
  | some cache =>
    dsimp only [Option.map_some]
    rw [MemoryCache.dropExpired_plain, MemoryCache.sortedKeys_plain, setCache_plain]
    exact ⟨rfl, rfl⟩

theorem configuration_plain (context : ExecutionContext) :
    memory.plain.perform now (.configuration context name) =
      (memory.perform now (.configuration context name)).plain :=
  onCache_plain fun _ => rfl

/-- The owner of a key is chosen by its content. -/
theorem distribution_plain (context : ExecutionContext) (key : Key) :
    memory.plain.perform now (.distribution context name key.plain) =
      (memory.perform now (.distribution context name key)).plain :=
  onCache_plain fun _ => rfl

/-! ## Stores that differ in declared types -/

/-- Two results that are the same but for the types of keys in the store. -/
theorem Performed.eq_of_plain {performed other : Performed α}
    (same : performed.plain = other.plain) :
    performed.answer = other.answer ∧ performed.memory.plain = other.memory.plain := by
  have answers := congrArg Performed.answer same
  have memories := congrArg Performed.memory same
  exact ⟨answers, memories⟩

section Alike

variable {key other : Key}

theorem get_alike (same : left.plain = right.plain) (keys : key.SameContent other)
    (subject : Subject) (format : MediaType) :
    (left.get now subject name key format).plain =
      (right.get now subject name other format).plain := by
  rw [← get_plain, ← get_plain, same, Key.plain_inj.2 keys]

theorem put_alike (same : left.plain = right.plain) (keys : key.SameContent other)
    (subject : Subject) (value : Bytes) (mediaType : MediaType) (metadata : EntryMetadata) :
    (left.put now subject name ⟨key, value, mediaType, metadata⟩).plain =
      (right.put now subject name ⟨other, value, mediaType, metadata⟩).plain := by
  rw [← put_plain, ← put_plain, same, Key.plain_inj.2 keys]

theorem remove_alike (same : left.plain = right.plain) (keys : key.SameContent other) :
    (left.remove now name key).plain = (right.remove now name other).plain := by
  rw [← remove_plain, ← remove_plain, same, Key.plain_inj.2 keys]

theorem clear_alike (same : left.plain = right.plain) (subject : Subject) :
    (left.clear subject name).plain = (right.clear subject name).plain := by
  rw [← clear_plain, ← clear_plain, same]

theorem entry_alike (same : left.plain = right.plain) (keys : key.SameContent other)
    (context : ExecutionContext) :
    (left.entry now context name key).plain = (right.entry now context name other).plain := by
  rw [← entry_plain, ← entry_plain, same, Key.plain_inj.2 keys]

theorem configuration_alike (same : left.plain = right.plain) (context : ExecutionContext) :
    (left.perform now (.configuration context name)).plain =
      (right.perform now (.configuration context name)).plain := by
  rw [← configuration_plain, ← configuration_plain, same]

theorem distribution_alike (same : left.plain = right.plain) (keys : key.SameContent other)
    (context : ExecutionContext) :
    (left.perform now (.distribution context name key)).plain =
      (right.perform now (.distribution context name other)).plain := by
  rw [← distribution_plain, ← distribution_plain, same, Key.plain_inj.2 keys]

end Alike

/-- Listings that agree once all keys are declared as plain text list the same
contents in the same order. -/
theorem listings_inStep {subject : Subject} {listed others : Except StoreError (List Key)}
    (same : listed.map (List.map Key.plain) = others.map (List.map Key.plain)) :
    (Call.keys subject name).InStep Key.SameContent (.keys subject name) listed others := by
  cases listed with
  | error error =>
    cases others with
    | error failure => exact .error (congrArg StoreError.withoutDetail (Except.error.inj same))
    | ok => cases same
  | ok keys =>
    cases others with
    | error => cases same
    | ok others =>
      have related : List.Forall₂ Eq (keys.map Key.plain) (others.map Key.plain) := by
        rw [Except.ok.inj same]
        exact List.forall₂_same.2 fun _ _ => rfl
      rw [List.forall₂_map_left_iff, List.forall₂_map_right_iff] at related
      exact .ok (related.imp fun _ _ => Key.plain_inj.1)

/-- A call is answered in step by stores that differ in declared types only,
and leaves such stores. -/
theorem perform_alike {call other : Call} (same : left.plain = right.plain) (now : Instant)
    (alike : call.Alike Key.SameContent other) :
    call.InStep Key.SameContent other (left.perform now call).answer
        (right.perform now other).answer ∧
      (left.perform now call).memory.plain = (right.perform now other).memory.plain := by
  cases alike with
  | get keys =>
    obtain ⟨answer, memory⟩ := Performed.eq_of_plain (get_alike same keys _ _)
    exact ⟨.of_eq (fun _ => rfl) (fun _ => rfl) answer, memory⟩
  | put keys =>
    obtain ⟨answer, memory⟩ := Performed.eq_of_plain (put_alike same keys _ _ _ _)
    exact ⟨.of_eq (fun _ => rfl) (fun _ => trivial) answer, memory⟩
  | remove keys =>
    obtain ⟨answer, memory⟩ := Performed.eq_of_plain (remove_alike same keys)
    exact ⟨.of_eq (fun _ => rfl) (fun _ => rfl) answer, memory⟩
  | clear =>
    obtain ⟨answer, memory⟩ := Performed.eq_of_plain (clear_alike same _)
    exact ⟨.of_eq (fun _ => rfl) (fun _ => trivial) answer, memory⟩
  | entry keys =>
    obtain ⟨answer, memory⟩ := Performed.eq_of_plain (entry_alike same keys _)
    exact ⟨.of_eq (fun _ => rfl) (fun _ => rfl) answer, memory⟩
  | configuration =>
    obtain ⟨answer, memory⟩ := Performed.eq_of_plain (configuration_alike same _)
    exact ⟨.of_eq (fun _ => rfl) (fun _ => rfl) answer, memory⟩
  | distribution keys =>
    obtain ⟨answer, memory⟩ := Performed.eq_of_plain (distribution_alike same keys _)
    exact ⟨.of_eq (fun _ => rfl) (fun _ => rfl) answer, memory⟩
  | @keys _ name =>
    obtain ⟨listed, kept⟩ := left.keys_plain now name
    obtain ⟨others, keptToo⟩ := right.keys_plain now name
    rw [same] at listed kept
    exact ⟨listings_inStep (listed.symm.trans others), kept.symm.trans keptToo⟩

end Memory

end CacheGate
