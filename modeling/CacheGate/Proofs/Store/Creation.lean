import CacheGate.Proofs.Http.Response
import CacheGate.Proofs.Store.Calls

/-!
# Stores as they are created

Every cache of a new store is empty and has the settings of one of the
definitions. Where their names are distinct, each definition has its cache
(`Memory.cache?_create_of_mem`).
-/

namespace CacheGate

open Time

namespace Memory

variable {memory : Memory} {definition : CacheDefinition} {definitions : List CacheDefinition}
  {cluster : ClusterView} {configuration : CacheConfiguration} {cache : MemoryCache}
  {name : String} {content : Bytes} {now : Instant}

/-- All caches are empty caches of the given definitions. -/
def Defined (memory : Memory) (definitions : List CacheDefinition) : Prop :=
  ∀ item ∈ memory.caches, ∃ definition ∈ definitions, item.2 = emptyCache definition

theorem Defined.define (defined : memory.Defined definitions) :
    (memory.define definition).Defined (definitions ++ [definition]) := by
  intro item member
  rcases List.mem_append.1 member with kept | added
  · obtain ⟨earlier, inside, same⟩ := defined item (List.mem_filter.1 kept).1
    exact ⟨earlier, List.mem_append_left _ inside, same⟩
  · rw [List.mem_singleton.1 added]
    exact ⟨definition, List.mem_append_right _ (List.mem_singleton.2 rfl), rfl⟩

theorem Defined.foldl (defined : memory.Defined definitions) (others : List CacheDefinition) :
    (others.foldl Memory.define memory).Defined (definitions ++ others) := by
  induction others generalizing memory definitions with
  | nil => rwa [List.append_nil]
  | cons definition others ih =>
    rw [List.append_cons]
    exact ih defined.define

theorem defined_create : (create cluster definitions).Defined definitions := by
  have empty : (Memory.mk [] cluster.normalize).Defined [] :=
    fun _ member => (List.not_mem_nil member).elim
  exact empty.foldl definitions

theorem cache?_create (known : (create cluster definitions).cache? name = some cache) :
    ∃ definition ∈ definitions, cache = emptyCache definition := by
  obtain ⟨before, after, split, -⟩ := List.lookup_eq_some_iff.1 known
  exact defined_create (name, cache) (by rw [split]; simp)

theorem configuration?_create
    (known : (create cluster definitions).configuration? name = some configuration) :
    ∃ definition ∈ definitions, configuration.conversion = .ofStorage definition.storage := by
  obtain ⟨cache, found, rfl⟩ := configuration?_eq_some_iff.1 known
  obtain ⟨definition, inside, rfl⟩ := cache?_create found
  exact ⟨definition, inside, rfl⟩

/-! ## Caches of distinct names -/

theorem cache?_define_self : (memory.define definition).cache? definition.name =
    some (emptyCache definition) := by
  have absent : (memory.caches.filter fun item => item.1 != definition.name).lookup
      definition.name = none := by
    rw [List.lookup_eq_none_iff]
    intro item member
    exact bne_iff_ne.2 (bne_iff_ne.1 (List.mem_filter.1 member).2).symm
  simp [cache?, define, List.lookup_append, absent]

theorem cache?_define_of_ne (other : name ≠ definition.name) :
    (memory.define definition).cache? name = memory.cache? name := by
  unfold cache? define
  rw [List.lookup_append, Http.Headers.lookup_filter_ne _ other, List.lookup_cons,
    beq_eq_false_iff_ne.2 other, List.lookup_nil, Option.or_none]

theorem cache?_foldl_define_of_ne (others : ∀ definition ∈ definitions, name ≠ definition.name) :
    (definitions.foldl define memory).cache? name = memory.cache? name := by
  induction definitions generalizing memory with
  | nil => rfl
  | cons first rest ih =>
    obtain ⟨other, others⟩ := List.forall_mem_cons.1 others
    exact (ih others).trans (cache?_define_of_ne other)

theorem cache?_foldl_define (distinct : (definitions.map CacheDefinition.name).Nodup)
    (member : definition ∈ definitions) :
    (definitions.foldl define memory).cache? definition.name = some (emptyCache definition) := by
  induction definitions generalizing memory with
  | nil => cases member
  | cons first rest ih =>
    obtain ⟨fresh, distinct⟩ := List.nodup_cons.1 distinct
    rcases List.mem_cons.1 member with rfl | later
    · have others : ∀ other ∈ rest, definition.name ≠ other.name :=
        fun other inside same => fresh (List.mem_map.2 ⟨other, inside, same.symm⟩)
      exact (cache?_foldl_define_of_ne others).trans cache?_define_self
    · exact ih distinct later

/-- A new store has an empty cache for each definition. -/
theorem cache?_create_of_mem (distinct : (definitions.map CacheDefinition.name).Nodup)
    (member : definition ∈ definitions) :
    (create cluster definitions).cache? definition.name = some (emptyCache definition) :=
  cache?_foldl_define distinct member

/-! ## No entries -/

theorem held?_create : (create cluster definitions).held? name content = none := by
  unfold held?
  cases found : (create cluster definitions).cache? name with
  | none => rfl
  | some cache =>
    obtain ⟨definition, -, rfl⟩ := cache?_create found
    rfl

theorem usedBy_create : (create cluster definitions).UsedBy now := by
  intro name content stored held
  rw [held?_create] at held
  cases held

end Memory

end CacheGate
