import CacheGate.Proofs.Store.Expiry
import Mathlib.Data.List.Pairwise

/-!
# The store as a map

What a store holds, read as a map from cache names and key contents:
`Memory.held?` finds an entry whether or not it has expired, `Memory.live?`
only one that has not, and `Memory.configuration?` the settings of a cache.
The laws below say what each store call answers and what it leaves, in terms
of these three, so later modules never look at the list of entries.

The calls that only look at a store may drop expired entries. They leave
`live?` as it was from the time of the call on.
-/

namespace CacheGate

open Time

/-! ## One cache -/

namespace MemoryCache

variable {cache : MemoryCache} {key : Key} {content : Bytes} {stored : StoredEntry}
  {now : Instant}

/-- The entry under a key of the given content, expired or not. -/
def lookup (cache : MemoryCache) (content : Bytes) : Option StoredEntry :=
  (cache.entries.find? fun item => item.1.content == content).map (·.2)

theorem find?_eq_lookup (cache : MemoryCache) (key : Key) :
    cache.find? key = cache.lookup key.content := rfl

/-- A cache has at most one entry for the content of a key. -/
theorem eq_of_content_eq {item other : Key × StoredEntry} (member : item ∈ cache.entries)
    (otherMember : other ∈ cache.entries) (same : item.1.content = other.1.content) :
    item = other := by
  have symm : Std.Symm fun left right : Key × StoredEntry => left.1.content ≠ right.1.content :=
    ⟨fun _ _ => Ne.symm⟩
  by_contra differs
  exact cache.distinct.forall member otherMember differs same

theorem lookup_eq_some_iff :
    cache.lookup content = some stored ↔
      ∃ key, (key, stored) ∈ cache.entries ∧ key.content = content := by
  unfold lookup
  constructor
  · intro found
    obtain ⟨item, first, rfl⟩ := Option.map_eq_some_iff.1 found
    exact ⟨item.1, List.mem_of_find?_eq_some first, by simpa using List.find?_some first⟩
  · rintro ⟨key, member, rfl⟩
    obtain ⟨item, first⟩ : ∃ item,
        cache.entries.find? (fun item => item.1.content == key.content) = some item :=
      Option.isSome_iff_exists.1
        (List.find?_isSome.2 ⟨(key, stored), member, beq_self_eq_true key.content⟩)
    have same : item = (key, stored) := eq_of_content_eq (List.mem_of_find?_eq_some first) member
      (by simpa using List.find?_some first)
    rw [first, same]
    rfl

theorem lookup_erase (cache : MemoryCache) (key : Key) (content : Bytes) :
    (cache.erase key).lookup content =
      if key.content = content then none else cache.lookup content := by
  split
  case isTrue same =>
    rw [Option.eq_none_iff_forall_ne_some]
    intro stored found
    obtain ⟨held, member, contentEq⟩ := lookup_eq_some_iff.1 found
    exact content_ne_of_mem_erase member (contentEq.trans same.symm)
  case isFalse differs =>
    apply Option.ext
    intro stored
    rw [lookup_eq_some_iff, lookup_eq_some_iff]
    constructor
    · rintro ⟨held, member, contentEq⟩
      exact ⟨held, (List.mem_filter.1 member).1, contentEq⟩
    · rintro ⟨held, member, rfl⟩
      exact ⟨held, List.mem_filter.2 ⟨member, by simpa [Key.same] using Ne.symm differs⟩, rfl⟩

theorem lookup_insert (cache : MemoryCache) (key : Key) (stored : StoredEntry)
    (content : Bytes) :
    (cache.insert key stored).lookup content =
      if key.content = content then some stored else cache.lookup content := by
  have erased := cache.lookup_erase key content
  unfold lookup at erased
  unfold lookup insert
  simp only [List.find?_append, List.find?_singleton, storedKey_content, beq_iff_eq]
  split
  case isTrue same =>
    rw [if_pos same, Option.map_eq_none_iff] at erased
    rw [erased]
    rfl
  case isFalse differs =>
    rw [if_neg differs] at erased
    rw [Option.or_none]
    exact erased

theorem lookup_clear (cache : MemoryCache) (content : Bytes) : cache.clear.lookup content = none :=
  rfl

theorem lookup_dropExpired (cache : MemoryCache) (now : Instant) (content : Bytes) :
    (cache.dropExpired now).lookup content =
      (cache.lookup content).filter fun stored => !stored.isExpired now := by
  apply Option.ext
  intro stored
  rw [lookup_eq_some_iff, Option.filter_eq_some_iff, lookup_eq_some_iff]
  constructor
  · rintro ⟨key, member, contentEq⟩
    obtain ⟨inside, fresh⟩ := List.mem_filter.1 member
    exact ⟨⟨key, inside, contentEq⟩, fresh⟩
  · rintro ⟨⟨key, inside, contentEq⟩, fresh⟩
    exact ⟨key, List.mem_filter.2 ⟨inside, fresh⟩, contentEq⟩

/-- The live entry under a key is the one it holds, unless that has expired. -/
theorem live_fst (cache : MemoryCache) (key : Key) (now : Instant) :
    (cache.live key now).1 =
      (cache.lookup key.content).filter fun stored => !stored.isExpired now := by
  unfold live
  rw [find?_eq_lookup]
  cases cache.lookup key.content with
  | none => rfl
  | some stored => cases expired : stored.isExpired now <;> simp [expired, Option.filter]

/-- Looking for a live entry drops the entry under that key if it has expired. -/
theorem lookup_live (cache : MemoryCache) (key : Key) (now : Instant) (content : Bytes) :
    (cache.live key now).2.1.lookup content =
      if key.content = content then (cache.live key now).1 else cache.lookup content := by
  unfold live
  rw [find?_eq_lookup]
  cases found : cache.lookup key.content with
  | none =>
    by_cases same : key.content = content
    · rw [if_pos same, ← same, found]
    · rw [if_neg same]
  | some stored =>
    cases expired : stored.isExpired now with
    | false =>
      by_cases same : key.content = content
      · simp [expired, ← same, found]
      · simp [expired, same]
    | true => simp [expired, lookup_erase]

/-- Each content is listed once. -/
theorem nodup_sortedKeys (cache : MemoryCache) : (cache.sortedKeys.map Key.content).Nodup := by
  have sorted : cache.sortedKeys.Perm (cache.entries.map (·.1)) := List.mergeSort_perm ..
  have distinct : ((cache.entries.map (·.1)).map Key.content).Nodup := by
    unfold List.Nodup
    rw [List.map_map, List.pairwise_map]
    exact cache.distinct
  exact (sorted.map Key.content).nodup_iff.2 distinct

/-- The keys of all entries are listed. -/
theorem mem_sortedKeys_iff (cache : MemoryCache) (content : Bytes) :
    content ∈ cache.sortedKeys.map Key.content ↔ (cache.lookup content).isSome := by
  have sorted : cache.sortedKeys.Perm (cache.entries.map (·.1)) := List.mergeSort_perm ..
  rw [(sorted.map Key.content).mem_iff, List.map_map, List.mem_map, Option.isSome_iff_exists]
  constructor
  · rintro ⟨⟨key, stored⟩, member, rfl⟩
    exact ⟨stored, lookup_eq_some_iff.2 ⟨key, member, rfl⟩⟩
  · rintro ⟨stored, found⟩
    obtain ⟨key, member, contentEq⟩ := lookup_eq_some_iff.1 found
    exact ⟨(key, stored), member, contentEq⟩

theorem configuration_live (cache : MemoryCache) (key : Key) (now : Instant) :
    (cache.live key now).2.1.configuration = cache.configuration := by
  unfold live
  split
  · rfl
  · split <;> rfl

end MemoryCache

/-! ## The store -/

namespace StoredEntry

/-- What a write put into an entry: all but its last use. -/
def written (stored : StoredEntry) : Bytes × MediaType × EntryMetadata × Instant :=
  (stored.value, stored.mediaType, stored.metadata, stored.created)

end StoredEntry

/-- An entry, unless it has expired. -/
def unexpired (now : Instant) (held : Option StoredEntry) : Option StoredEntry :=
  held.filter fun stored => !stored.isExpired now

/-- What has expired once does not come back. -/
theorem unexpired_unexpired {now later : Instant} {held : Option StoredEntry}
    (order : now ≤ later) : unexpired later (unexpired now held) = unexpired later held := by
  unfold unexpired
  rw [Option.filter_filter]
  congr 1
  funext stored
  cases expired : stored.isExpired now with
  | false => simp
  | true => simp [StoredEntry.isExpired_mono order expired]

namespace Memory

variable {memory : Memory} {cache : MemoryCache} {configuration : CacheConfiguration}
  {name other : String} {content : Bytes} {now later : Instant}

/-- The settings of a cache. -/
def configuration? (memory : Memory) (name : String) : Option CacheConfiguration :=
  (memory.cache? name).map (·.configuration)

/-- The entry under a key, expired or not. -/
def held? (memory : Memory) (name : String) (content : Bytes) : Option StoredEntry :=
  (memory.cache? name).bind fun cache => cache.lookup content

/-- The entry under a key, unless it has expired. -/
def live? (memory : Memory) (now : Instant) (name : String) (content : Bytes) :
    Option StoredEntry :=
  (memory.held? name content).filter fun stored => !stored.isExpired now

theorem live?_eq_some_iff {stored : StoredEntry} :
    memory.live? now name content = some stored ↔
      memory.held? name content = some stored ∧ stored.isExpired now = false := by
  unfold live?
  rw [Option.filter_eq_some_iff, Bool.not_eq_true']

/-- Dropping entries that have expired changes nothing from then on. -/
theorem live?_eq_of_held? {after : Memory} (order : now ≤ later)
    (held : after.held? name content = memory.held? name content ∨
      after.held? name content = memory.live? now name content) :
    after.live? later name content = memory.live? later name content := by
  rcases held with same | settled
  · unfold live?
    rw [same]
  · unfold live? at settled ⊢
    rw [settled]
    exact unexpired_unexpired order

theorem lookup_replaced (items : List (String × MemoryCache)) (name : String)
    (cache : MemoryCache) (other : String) :
    (items.map fun item => if item.1 = name then (name, cache) else item).lookup other =
      if other = name then (items.lookup name).map fun _ => cache else items.lookup other := by
  induction items with
  | nil => simp
  | cons item rest ih =>
    obtain ⟨held, old⟩ := item
    rw [List.map_cons]
    by_cases named : held = name
    · subst named
      by_cases same : other = held
      · simp [same]
      · simp only [if_true, List.lookup_cons, beq_eq_false_iff_ne.2 same, ih, if_neg same]
    · by_cases same : other = name
      · subst same
        simp only [if_neg named, List.lookup_cons, beq_eq_false_iff_ne.2 (Ne.symm named), ih,
          if_true]
      · simp only [if_neg named, List.lookup_cons, ih, if_neg same]

theorem cache?_setCache (memory : Memory) (name : String) (cache : MemoryCache)
    (other : String) :
    (memory.setCache name cache).cache? other =
      if other = name then (memory.cache? name).map fun _ => cache else memory.cache? other :=
  lookup_replaced memory.caches name cache other

theorem cache?_setCache_of_known {old : MemoryCache} (known : memory.cache? name = some old) :
    (memory.setCache name cache).cache? other =
      if other = name then some cache else memory.cache? other := by
  rw [cache?_setCache, known]
  rfl

theorem held?_setCache {old : MemoryCache} (known : memory.cache? name = some old) :
    (memory.setCache name cache).held? other content =
      if other = name then cache.lookup content else memory.held? other content := by
  unfold held?
  rw [cache?_setCache_of_known known]
  split <;> rfl

theorem configuration?_setCache {old : MemoryCache} (known : memory.cache? name = some old)
    (kept : cache.configuration = old.configuration) :
    (memory.setCache name cache).configuration? other = memory.configuration? other := by
  unfold configuration?
  rw [cache?_setCache_of_known known]
  split
  case isTrue same => rw [same, known, Option.map_some, Option.map_some, kept]
  case isFalse => rfl

end Memory

end CacheGate
