import CacheGate.Proofs.Store.Creation
import CacheGate.Proofs.Store.LazyExpiry

/-!
# Where keys are placed

Every node builds its own view of the cluster. What it keeps of the configured
members is a canonical form of the set of names
(`ClusterView.members_normalize_eq`), and the hash of a key picks one of them
(`ClusterView.picks_primaryOwner`). So nodes that know the same names place
every key at the same owner: `Memory.nodes_agree_on_owner`.
-/

namespace CacheGate

open Time

/-! ## Lists without repetition -/

/-- Without its repetitions, a sorted list is strictly sorted. -/
theorem pairwise_eraseDups {α : Type} [DecidableEq α] {r : α → α → Prop} {xs : List α}
    (sorted : xs.Pairwise r) : xs.eraseDups.Pairwise fun left right => r left right ∧ left ≠ right := by
  match xs with
  | [] => exact .nil
  | first :: rest =>
    obtain ⟨before, later⟩ := List.pairwise_cons.1 sorted
    rw [List.eraseDups_cons, List.pairwise_cons]
    refine ⟨fun other member => ?_, pairwise_eraseDups (later.filter _)⟩
    obtain ⟨inside, differs⟩ := List.mem_filter.1 (List.mem_eraseDups.1 member)
    refine ⟨before other inside, fun same => ?_⟩
    simp [same] at differs
termination_by xs.length
decreasing_by
  rw [List.length_cons]
  have shorter := List.length_filter_le (fun other => !other == first) rest
  omega

/-! ## Members -/

namespace ClusterView

variable {view other : ClusterView} {name : String} {key : Key}

/-- The names that a node counts as members: its own and the configured ones. -/
def names (view : ClusterView) : List String := view.nodeName :: view.members

theorem mem_members_normalize : name ∈ view.normalize.members ↔ name ∈ view.names := by
  unfold normalize names
  simp only [List.mem_eraseDups, List.mem_mergeSort, List.mem_cons]
  split
  case isTrue inside =>
    constructor
    · exact Or.inr
    · rintro (rfl | member)
      · exact inside
      · exact member
  case isFalse => rw [List.mem_append, List.mem_singleton, or_comm]

theorem pairwise_members_normalize (view : ClusterView) :
    view.normalize.members.Pairwise fun left right => left ≤ right ∧ left ≠ right := by
  apply pairwise_eraseDups
  have transitive (first second third : String) (before : decide (first ≤ second))
      (after : decide (second ≤ third)) : decide (first ≤ third) = true := by
    rw [decide_eq_true_iff] at *
    exact String.le_trans before after
  have total (left right : String) : (decide (left ≤ right) || decide (right ≤ left)) = true := by
    simpa using String.le_total left right
  exact (List.pairwise_mergeSort transitive total _).imp of_decide_eq_true

/-- The members that are kept depend on the set of names only. -/
theorem members_normalize_eq (same : ∀ name, name ∈ view.names ↔ name ∈ other.names) :
    view.normalize.members = other.normalize.members := by
  have kept : ∀ name, name ∈ view.normalize.members ↔ name ∈ other.normalize.members := by
    intro name
    rw [mem_members_normalize, mem_members_normalize, same]
  have sorted := view.pairwise_members_normalize
  have otherSorted := other.pairwise_members_normalize
  have shuffled : view.normalize.members.Perm other.normalize.members :=
    (List.perm_ext_iff_of_nodup (sorted.imp And.right) (otherSorted.imp And.right)).2 kept
  exact shuffled.eq_of_pairwise
    (fun _ _ _ _ before after => String.le_antisymm before.1 after.1) sorted otherSorted

/-- The hash of the key picks this owner among the members. There is a member,
so nothing is made up for the number of them, and the index is one of theirs,
so it is a machine word as their number is. -/
structure Picks (view : ClusterView) (key : Key) (owner : String) : Prop where
  filled : max view.members.length 1 = view.members.length
  inside : view.ownerIndex key < view.members.length
  found : view.members[view.ownerIndex key]? = some owner

theorem picks_primaryOwner (key : Key) (filled : view.members ≠ []) :
    view.Picks key (view.primaryOwner key) := by
  have positive : 0 < view.members.length := List.length_pos_iff.2 filled
  have single : max view.members.length 1 = view.members.length := Nat.max_eq_left positive
  have inside : view.ownerIndex key < view.members.length := by
    unfold ownerIndex
    rw [single]
    exact Nat.mod_lt _ positive
  refine ⟨single, inside, ?_⟩
  unfold primaryOwner
  rw [List.getD_eq_getElem?_getD, List.getElem?_eq_getElem inside]
  rfl

theorem Picks.mem {owner : String} (picks : view.Picks key owner) : owner ∈ view.members :=
  List.mem_of_getElem? picks.found

/-- The type that a key was declared with plays no part. -/
theorem primaryOwner_congr {again : Key} (members : view.members = other.members)
    (filled : view.members ≠ []) (content : key.content = again.content) :
    view.primaryOwner key = other.primaryOwner again := by
  have index : view.ownerIndex key = other.ownerIndex again := by
    unfold ownerIndex
    rw [content, members]
  have picked := (picks_primaryOwner key filled).found
  have pickedAgain := (picks_primaryOwner again (members ▸ filled)).found
  rw [index, members] at picked
  exact Option.some.inj (picked.symm.trans pickedAgain)

end ClusterView

/-! ## Stores -/

namespace Memory

variable {cluster : ClusterView} {definitions : List CacheDefinition}

/-- What every call keeps, a run keeps. -/
theorem eq_after {α : Type} (view : Memory → α)
    (kept : ∀ memory now call, view (memory.perform now call).memory = view memory)
    (memory : Memory) (calls : List TimedCall) : view (memory.after calls) = view memory := by
  induction calls generalizing memory with
  | nil => rfl
  | cons timed calls ih => exact (ih _).trans (kept memory timed.now timed.call)

theorem cluster_create : (create cluster definitions).cluster = cluster.normalize := by
  have kept (memory : Memory) : (definitions.foldl define memory).cluster = memory.cluster := by
    induction definitions generalizing memory with
    | nil => rfl
    | cons definition definitions ih => exact ih (memory.define definition)
  exact kept _

/-- Every cache that is defined is there. -/
theorem exists_configuration?_create (cluster : ClusterView) {definition : CacheDefinition}
    (defined : definition ∈ definitions) :
    ∃ configuration, (create cluster definitions).configuration? definition.name =
      some configuration := by
  have kept (memory : Memory) :
      definition.name ∈ memory.caches.map Prod.fst ∨ definition ∈ definitions →
        definition.name ∈ (definitions.foldl define memory).caches.map Prod.fst := by
    clear defined
    -- a later definition may replace a cache, but its name stays known
    induction definitions generalizing memory with
    | nil => exact fun known => known.resolve_right List.not_mem_nil
    | cons first definitions ih =>
      intro known
      refine ih (memory.define first) ?_
      by_cases same : first.name = definition.name
      · exact Or.inl (by simp [define, same])
      · rcases known with known | defined
        · refine Or.inl ?_
          obtain ⟨item, member, named⟩ := List.mem_map.1 known
          refine List.mem_map.2 ⟨item, List.mem_append_left _ (List.mem_filter.2 ⟨member, ?_⟩), named⟩
          rw [named]
          exact bne_iff_ne.2 (Ne.symm same)
        · exact Or.inr ((List.mem_cons.1 defined).resolve_left fun absurd => same (absurd ▸ rfl))
  have known := kept ⟨[], cluster.normalize⟩ (Or.inr defined)
  refine Option.isSome_iff_exists.1 ?_
  rw [Option.isSome_iff_ne_none]
  intro missing
  have absent := List.lookup_eq_none_iff.1 (Option.map_eq_none_iff.1 missing)
  obtain ⟨item, member, named⟩ := List.mem_map.1 known
  exact bne_iff_ne.1 (absent item member) named.symm

end Memory

/-- A node with this view of the cluster names this owner for all keys of a
content, whatever caches it has and whatever calls it has answered. -/
def ClusterView.Places (view : ClusterView) (content : Bytes) (owner : String) : Prop :=
  ∀ (definitions : List CacheDefinition) (calls : List TimedCall) (now : Instant)
    (context : ExecutionContext) (key : Key), key.content = content →
    let store := (Memory.create view definitions).after calls
    store.cluster.Picks key owner ∧
      ∀ definition ∈ definitions,
        (store.perform now (.distribution context definition.name key)).answer =
          .ok ⟨owner, view.nodeName, view.serverAddress⟩

theorem ClusterView.places_primaryOwner (view : ClusterView) (key : Key) :
    view.Places key.content (view.normalize.primaryOwner key) := by
  intro definitions calls now context again content store
  have cluster : store.cluster = view.normalize :=
    (Memory.eq_after Memory.cluster Memory.cluster_perform _ calls).trans Memory.cluster_create
  have filled : view.normalize.members ≠ [] :=
    List.ne_nil_of_mem (mem_members_normalize.2 List.mem_cons_self)
  have owner : view.normalize.primaryOwner key = store.cluster.primaryOwner again := by
    rw [cluster]
    exact primaryOwner_congr rfl filled content.symm
  rw [owner]
  refine ⟨picks_primaryOwner again (cluster ▸ filled), fun definition defined => ?_⟩
  obtain ⟨configuration, known⟩ := Memory.exists_configuration?_create view defined
  have known : store.configuration? definition.name = some configuration :=
    (Memory.eq_after (·.configuration? definition.name)
      (fun memory now call => memory.configuration?_perform now call _) _ calls).trans known
  rw [Memory.answer_distribution known, cluster]
  rfl

/-- Nodes agree on placement. If the configured members of two nodes, each with
the node's own name added, are the same names in any order and with any
repetitions, then both nodes name the same owner for all keys of a content,
whatever types the keys were declared with. The owner is one of these names,
picked by the hash: nothing is ever made up for a missing member. -/
theorem Memory.nodes_agree_on_owner (left right : ClusterView)
    (same : ∀ name, name ∈ left.names ↔ name ∈ right.names) (content : Bytes) :
    ∃ owner ∈ left.names, left.Places content owner ∧ right.Places content owner := by
  let key : Key := ⟨content, .textPlain⟩
  have filled : left.normalize.members ≠ [] :=
    List.ne_nil_of_mem (ClusterView.mem_members_normalize.2 List.mem_cons_self)
  have member := (ClusterView.picks_primaryOwner key filled).mem
  refine ⟨left.normalize.primaryOwner key, ClusterView.mem_members_normalize.1 member,
    left.places_primaryOwner key, ?_⟩
  rw [ClusterView.primaryOwner_congr (ClusterView.members_normalize_eq same) filled rfl]
  exact right.places_primaryOwner key

/-! ## Two nodes -/

/-- A node that lists itself and another one twice. -/
def firstNode : ClusterView := ⟨"node-b", "10.0.0.2:11222", ["node-c", "node-b", "node-c"]⟩

/-- A node that lists only the other one. -/
def secondNode : ClusterView := ⟨"node-c", "10.0.0.3:11222", ["node-b"]⟩

/-- Both name the same owner for a key that is declared as text here and as JSON there. -/
theorem two_nodes_name_same_owner :
    ∃ owner ∈ ["node-b", "node-c"],
      ((Memory.create firstNode [⟨"c", .unlimited, .unlimited, none⟩]).perform .epoch
        (.distribution .service "c" ⟨Utf8.encode "k", .textPlain⟩)).answer =
          .ok ⟨owner, "node-b", "10.0.0.2:11222"⟩ ∧
      ((Memory.create secondNode [⟨"c", .unlimited, .unlimited, none⟩]).perform .epoch
        (.distribution .service "c" ⟨Utf8.encode "k", .json⟩)).answer =
          .ok ⟨owner, "node-c", "10.0.0.3:11222"⟩ := by
  have same : ∀ name, name ∈ firstNode.names ↔ name ∈ secondNode.names := by
    intro name
    simp only [ClusterView.names, firstNode, secondNode, List.mem_cons, List.not_mem_nil, or_false]
    grind
  obtain ⟨owner, member, first, second⟩ :=
    Memory.nodes_agree_on_owner firstNode secondNode same (Utf8.encode "k")
  refine ⟨owner, ?_, ?_, ?_⟩
  · simp only [ClusterView.names, firstNode, List.mem_cons, List.not_mem_nil, or_false] at member ⊢
    grind
  · exact (first [⟨"c", .unlimited, .unlimited, none⟩] [] .epoch .service _ rfl).2 _
      List.mem_cons_self
  · exact (second [⟨"c", .unlimited, .unlimited, none⟩] [] .epoch .service _ rfl).2 _
      List.mem_cons_self

end CacheGate
