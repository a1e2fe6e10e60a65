import CacheGate.Proofs.Handler.Exchange
import CacheGate.Proofs.Store.LiveCalls
import Mathlib.Data.Set.Defs

/-!
# A store that drops entries at their deadline

`PromptStore` is the store that callers may think they talk to: a map from
cache names and key contents to entries, in which nothing is ever expired.
Entries leave it because time passes (`PromptStore.expire`), and its calls
take the entries that are there as they are. `PromptStore.outcomes` runs calls
on it, and `Memory.exchanges` runs them on the in-memory store.
-/

namespace CacheGate

open Time

/-! ## Runs of calls -/

/-- A store call and the time at which it is made. -/
structure TimedCall where
  now : Instant
  call : Call

/-- The clock does not run backwards from call to call; the first one is in front. -/
def InOrder (calls : List TimedCall) : Prop :=
  calls.Pairwise fun earlier later => earlier.now ≤ later.now

namespace Memory

/-- The calls of a run with their answers. -/
def exchanges : Memory → List TimedCall → List Exchange
  | _, [] => []
  | memory, ⟨now, call⟩ :: rest =>
    ⟨call, (memory.perform now call).answer⟩ :: (memory.perform now call).memory.exchanges rest

/-- The store after a run. -/
def after (memory : Memory) (calls : List TimedCall) : Memory :=
  calls.foldl (fun memory timed => (memory.perform timed.now timed.call).memory) memory

end Memory

/-! ## What callers compare -/

namespace Call

/-- An answer as callers compare it. Of a key listing that is the set of the
key contents: neither its order nor the types of the keys matter. -/
abbrev Outcome : Call → Type
  | .get .. => Option Bytes
  | .put .. => Unit
  | .remove .. => Bool
  | .clear .. => Unit
  | .keys .. => Set Bytes
  | .entry .. => Option Entry
  | .configuration .. => CacheConfiguration
  | .distribution .. => Distribution

def observe : (call : Call) → call.Answer → call.Outcome
  | .keys .., listed => {content | content ∈ listed.map Key.content}
  | .get .., answer | .put .., answer | .remove .., answer | .clear .., answer | .entry .., answer
  | .configuration .., answer | .distribution .., answer => answer

end Call

/-- A store call with its outcome. -/
structure Observed where
  call : Call
  outcome : Except StoreError call.Outcome

def Exchange.observed (exchange : Exchange) : Observed :=
  ⟨exchange.call, exchange.answer.map exchange.call.observe⟩

/-! ## The reference -/

/-- A map from cache names and key contents to entries. -/
@[ext]
structure PromptStore where
  settings : String → Option CacheConfiguration
  cluster : ClusterView
  entries : String → Bytes → Option StoredEntry

namespace PromptStore

/-- All that an in-memory store holds. -/
def holding (memory : Memory) : PromptStore :=
  ⟨memory.configuration?, memory.cluster, memory.held?⟩

/-- Time has come to `now`: what has reached its deadline is gone. -/
def expire (store : PromptStore) (now : Instant) : PromptStore :=
  { store with entries := fun name content => unexpired now (store.entries name content) }

/-- Whether time is told in one step or in several makes no difference. -/
theorem expire_expire {now later : Instant} (store : PromptStore) (order : now ≤ later) :
    (store.expire now).expire later = store.expire later := by
  unfold expire
  congr 1
  funext name content
  exact unexpired_unexpired order

/-- Changes the entry under one key. -/
def alter (store : PromptStore) (name : String) (content : Bytes)
    (change : Option StoredEntry → Option StoredEntry) : PromptStore :=
  { store with
    entries := fun other found =>
      if other = name ∧ content = found then change (store.entries other found)
      else store.entries other found }

/-- What a call answers on a cache of the given settings. No entry is checked
for its deadline. -/
def answerOn (store : PromptStore) (configuration : CacheConfiguration) :
    (call : Call) → Except StoreError call.Outcome
  | .get _ name key format =>
    match store.entries name key.content with
    | none => .ok none
    | some stored =>
      if configuration.conversion.supports format then .ok (some stored.value)
      else .error (.encoding (configuration.conversion.storage.getD stored.mediaType) format)
  | .put .. => .ok ()
  | .remove _ name key => .ok (store.entries name key.content).isSome
  | .clear .. => .ok ()
  | .keys _ name => .ok {content | (store.entries name content).isSome = true}
  | .entry _ name key => .ok ((store.entries name key.content).map StoredEntry.snapshot)
  | .configuration .. => .ok configuration
  | .distribution _ _ key =>
    .ok ⟨store.cluster.primaryOwner key, store.cluster.nodeName, store.cluster.serverAddress⟩

/-- What a call answers. -/
def answer (store : PromptStore) (call : Call) : Except StoreError call.Outcome :=
  match store.settings call.cache with
  | none => .error (.unknownCache call.cache)
  | some configuration => store.answerOn configuration call

/-- The store right after a call: reads in a format that is offered count as
uses, and internal calls and listings leave everything as it is. -/
def next (store : PromptStore) (now : Instant) : Call → PromptStore
  | .get _ name key format =>
    if (store.settings name).any fun configuration => configuration.conversion.supports format then
      store.alter name key.content fun found => found.map (·.touch now)
    else store
  | .put _ name added =>
    if (store.settings name).isSome then
      store.alter name added.key.content fun _ =>
        some ⟨added.value, added.mediaType, added.metadata, now, now⟩
    else store
  | .remove _ name key => store.alter name key.content fun _ => none
  | .clear _ name =>
    { store with
      entries := fun other content => if other = name then none else store.entries other content }
  | .keys .. | .entry .. | .configuration .. | .distribution .. => store

/-- The store after a call at time `now`, from which everything that has
reached its deadline is gone before the call and after it. -/
def step (store : PromptStore) (timed : TimedCall) : PromptStore :=
  ((store.expire timed.now).next timed.now timed.call).expire timed.now

/-- The store after a run. -/
def after (store : PromptStore) (calls : List TimedCall) : PromptStore := calls.foldl step store

/-- The calls of a run with their outcomes. -/
def outcomes : PromptStore → List TimedCall → List Observed
  | _, [] => []
  | store, timed :: rest =>
    ⟨timed.call, (store.expire timed.now).answer timed.call⟩ :: (store.step timed).outcomes rest

end PromptStore

end CacheGate
