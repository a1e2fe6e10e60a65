import CacheGate.Log.Event
import CacheGate.Number.SipHash
import CacheGate.Store.Call

/-!
# The in-memory store

A store that keeps its entries in memory. An expired entry is dropped the
next time anything looks at it; nothing observes it in between.
`Memory.perform` answers one call at a given time and gives the store after
it. The owner of a key is chosen by its hash among the sorted members of the
cluster, so all nodes with the same members choose the same one.

A store may list its keys in any order, and in another one each time. Here they
are listed in the order of their texts, which is a choice made to have one
answer: callers can rely on the set of the keys alone.
-/

namespace CacheGate

open Time

/-- The definition of a cache. -/
structure CacheDefinition where
  name : String
  lifespan : Expiration
  maxIdle : Expiration
  storage : Option MediaType
  deriving DecidableEq, Repr

/-- How a node sees its cluster. -/
structure ClusterView where
  nodeName : String
  serverAddress : String
  members : List String
  deriving DecidableEq, Repr

namespace ClusterView

/-- The view with the node among its members, sorted and without repetition. -/
def normalize (view : ClusterView) : ClusterView :=
  let members := if view.nodeName ∈ view.members then view.members
    else view.members ++ [view.nodeName]
  { view with members := (members.mergeSort fun left right => left ≤ right).eraseDups }

/-- Where the owner of a key stands among the members. -/
def ownerIndex (view : ClusterView) (key : Key) : Nat :=
  (SipHash.hashWithLength key.content).toNat % max view.members.length 1

/-- The member that owns a key. -/
def primaryOwner (view : ClusterView) (key : Key) : String :=
  view.members.getD (view.ownerIndex key) view.nodeName

end ClusterView

/-! ## Stored entries -/

/-- An entry in memory; both stamps are always tracked. -/
structure StoredEntry where
  value : Bytes
  mediaType : MediaType
  metadata : EntryMetadata
  created : Instant
  lastUsed : Instant
  deriving DecidableEq

namespace StoredEntry

/-- The entry as internal reads show it. -/
def snapshot (stored : StoredEntry) : Entry :=
  ⟨stored.value, stored.mediaType, stored.metadata, some stored.created, some stored.lastUsed⟩

def isExpired (stored : StoredEntry) (now : Instant) : Bool := stored.snapshot.isExpired now

/-- The entry after a use. -/
def touch (stored : StoredEntry) (now : Instant) : StoredEntry := { stored with lastUsed := now }

end StoredEntry

/-- One cache: its configuration and its entries, with at most one entry for
the content of a key. -/
structure MemoryCache where
  configuration : CacheConfiguration
  entries : List (Key × StoredEntry)
  distinct : entries.Pairwise fun left right => left.1.content ≠ right.1.content
  deriving DecidableEq

namespace MemoryCache

/-- The entry under a key, expired or not. -/
def find? (cache : MemoryCache) (key : Key) : Option StoredEntry :=
  (cache.entries.find? fun item => item.1.same key).map (·.2)

/-- Removes the entry under a key. -/
def erase (cache : MemoryCache) (key : Key) : MemoryCache :=
  { cache with
    entries := cache.entries.filter fun item => !item.1.same key
    distinct := cache.distinct.filter _ }

/-- The key that the entry under a key was first stored with. -/
def storedKey (cache : MemoryCache) (key : Key) : Key :=
  ((cache.entries.find? fun item => item.1.same key).map (·.1)).getD key

theorem storedKey_content (cache : MemoryCache) (key : Key) :
    (cache.storedKey key).content = key.content := by
  unfold storedKey
  cases found : cache.entries.find? fun item => item.1.same key with
  | none => rfl
  | some item => simpa [Key.same] using List.find?_some found

theorem content_ne_of_mem_erase {cache : MemoryCache} {key : Key} {item : Key × StoredEntry}
    (member : item ∈ (cache.erase key).entries) : item.1.content ≠ key.content := by
  simpa [Key.same] using (List.mem_filter.1 member).2

/-- Writes an entry. The key that was stored first stays, with its media type. -/
def insert (cache : MemoryCache) (key : Key) (stored : StoredEntry) : MemoryCache :=
  { cache with
    entries := (cache.erase key).entries ++ [(cache.storedKey key, stored)]
    distinct := List.pairwise_append.2 ⟨(cache.erase key).distinct, List.pairwise_singleton ..,
      fun item member other last => by
        rw [List.mem_singleton.1 last, cache.storedKey_content key]
        exact content_ne_of_mem_erase member⟩ }

/-- Removes all entries. -/
def clear (cache : MemoryCache) : MemoryCache := { cache with entries := [], distinct := .nil }

/-- Removes all expired entries. -/
def dropExpired (cache : MemoryCache) (now : Instant) : MemoryCache :=
  { cache with
    entries := cache.entries.filter fun item => !item.2.isExpired now
    distinct := cache.distinct.filter _ }

/-- The entry under a key unless it has expired; an expired one is dropped. -/
def live (cache : MemoryCache) (key : Key) (now : Instant) :
    Option StoredEntry × MemoryCache × List Event :=
  match cache.find? key with
  | none => (none, cache, [])
  | some stored =>
    if stored.isExpired now then (none, cache.erase key, [.evicted key.displayText])
    else (some stored, cache, [])

/-- The keys in the order of their texts, one of those that a store may choose. -/
def sortedKeys (cache : MemoryCache) : List Key :=
  (cache.entries.map (·.1)).mergeSort fun left right => left.displayText ≤ right.displayText

end MemoryCache

/-! ## The store -/

/-- Named caches and the cluster they live in. -/
structure Memory where
  caches : List (String × MemoryCache)
  cluster : ClusterView
  deriving DecidableEq

namespace Memory

/-- The cache of a name. -/
def cache? (memory : Memory) (name : String) : Option MemoryCache := memory.caches.lookup name

/-- Replaces the cache of a name. -/
def setCache (memory : Memory) (name : String) (cache : MemoryCache) : Memory :=
  { memory with
    caches := memory.caches.map fun item => if item.1 = name then (name, cache) else item }

/-- An empty cache as defined. -/
def emptyCache (definition : CacheDefinition) : MemoryCache :=
  ⟨⟨definition.lifespan, definition.maxIdle, .ofStorage definition.storage⟩, [], .nil⟩

/-- Adds a cache; an earlier one of the same name is given up. -/
def define (memory : Memory) (definition : CacheDefinition) : Memory :=
  { memory with
    caches := memory.caches.filter (fun item => item.1 != definition.name) ++
      [(definition.name, emptyCache definition)] }

/-- A store with empty caches. -/
def create (cluster : ClusterView) (definitions : List CacheDefinition) : Memory :=
  definitions.foldl define ⟨[], cluster.normalize⟩

/-- What is logged when a store is created. -/
def creationEvents (definitions : List CacheDefinition) : List Event :=
  definitions.map fun definition =>
    .definedCache definition.name (definition.storage.map MediaType.text)

/-! ## Calls -/

/-- The result of a call: the answer, the store after it, and what is logged. -/
structure Performed (α : Type) where
  answer : Except StoreError α
  memory : Memory
  events : List Event

/-- A call that leaves the store as it was and logs nothing. -/
def unchanged {α : Type} (memory : Memory) (answer : Except StoreError α) : Performed α :=
  ⟨answer, memory, []⟩

/-- Runs a call on the cache it names, if that exists. -/
def onCache {α : Type} (memory : Memory) (name : String)
    (action : MemoryCache → Performed α) : Performed α :=
  match memory.cache? name with
  | none => memory.unchanged (.error (.unknownCache name))
  | some cache => action cache

/-- Reads a value. A format that the cache cannot produce is refused before
the read counts as a use. -/
def get (memory : Memory) (now : Instant) (subject : Subject) (name : String) (key : Key)
    (format : MediaType) : Performed (Option Bytes) :=
  memory.onCache name fun cache =>
    match cache.live key now with
    | (none, cache, events) => ⟨.ok none, memory.setCache name cache, events⟩
    | (some stored, cache, _) =>
      let conversion := cache.configuration.conversion
      if conversion.supports format then
        ⟨.ok (some stored.value),
          memory.setCache name (cache.insert key (stored.touch now)),
          [.storeGet name subject]⟩
      else
        memory.unchanged (.error (.encoding (conversion.storage.getD stored.mediaType) format))

/-- Writes an entry, created and last used now. -/
def put (memory : Memory) (now : Instant) (subject : Subject) (name : String) (added : NewEntry) :
    Performed Unit :=
  memory.onCache name fun cache =>
    ⟨.ok (),
      memory.setCache name
        (cache.insert added.key ⟨added.value, added.mediaType, added.metadata, now, now⟩),
      [.storePut name subject added.value.length]⟩

/-- Removes an entry; an expired one counts as absent. -/
def remove (memory : Memory) (now : Instant) (name : String) (key : Key) : Performed Bool :=
  memory.onCache name fun cache =>
    ⟨.ok ((cache.find? key).any fun stored => !stored.isExpired now),
      memory.setCache name (cache.erase key), []⟩

/-- Removes all entries of a cache. -/
def clear (memory : Memory) (subject : Subject) (name : String) : Performed Unit :=
  memory.onCache name fun cache =>
    ⟨.ok (), memory.setCache name cache.clear, [.storeClear name subject cache.entries.length]⟩

/-- Lists the keys of a cache. -/
def keys (memory : Memory) (now : Instant) (name : String) : Performed (List Key) :=
  memory.onCache name fun cache =>
    let cache := cache.dropExpired now
    ⟨.ok cache.sortedKeys, memory.setCache name cache, []⟩

/-- Reads an entry with its metadata. -/
def entry (memory : Memory) (now : Instant) (context : ExecutionContext) (name : String)
    (key : Key) : Performed (Option Entry) :=
  memory.onCache name fun cache =>
    let (found, cache, events) := cache.live key now
    ⟨.ok (found.map StoredEntry.snapshot), memory.setCache name cache,
      .storeEntry name context :: events⟩

/-- Answers one call at time `now`. -/
def perform (memory : Memory) (now : Instant) : (call : Call) → Performed call.Answer
  | .get subject name key format => memory.get now subject name key format
  | .put subject name added => memory.put now subject name added
  | .remove _ name key => memory.remove now name key
  | .clear subject name => memory.clear subject name
  | .keys _ name => memory.keys now name
  | .entry context name key => memory.entry now context name key
  | .configuration _ name =>
    memory.onCache name fun cache => memory.unchanged (.ok cache.configuration)
  | .distribution _ name key =>
    memory.onCache name fun _ =>
      memory.unchanged (.ok ⟨memory.cluster.primaryOwner key, memory.cluster.nodeName,
        memory.cluster.serverAddress⟩)

end Memory

end CacheGate
