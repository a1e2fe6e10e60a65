import CacheGate.Proofs.Handler.Solo
import CacheGate.Proofs.Route
import CacheGate.Proofs.Serve.Alone

/-!
# Requests one after another

`Service.handleAll` handles requests on the in-memory store, each when the one
before it is answered, and `Handled` records how each was answered. Histories
have the newest request in front.

What a history says about an entry is its `LatestWrite`: the write that
nothing after it replaced or removed. `Standing` is that write with the last
use of the entry, computed along the history (`standing?_eq_some_iff`), and
each request changes it in one of four ways.
-/

namespace CacheGate

open Time Http

/-! ## Handled requests -/

/-- A request and the time at which it is made. -/
structure Visit where
  now : Instant
  request : Request

/-- A request with its answer. -/
structure Handled extends Visit where
  response : Response

def Visit.route? (visit : Visit) : Option Route :=
  (Route.resolve visit.request.method visit.request.path visit.request.action?).toOption

/-- The key of a request on an entry is not empty. -/
theorem Visit.key_filled {visit : Visit} {operation : Operation} {cache key : String}
    (routed : visit.route? = some ⟨operation, cache, some key⟩) : key.isEmpty = false := by
  unfold Visit.route? at routed
  cases resolved : Route.resolve visit.request.method visit.request.path visit.request.action? with
  | error error =>
    rw [resolved] at routed
    cases routed
  | ok route =>
    rw [resolved] at routed
    obtain rfl := Option.some.inj routed
    rcases Route.resolve_shape resolved with ⟨raw, same, filled, -⟩ | ⟨absurd, -⟩
    · cases same
      exact filled
    · cases absurd

namespace Service

/-- Handles a request on the in-memory store. Nobody else acts meanwhile, and
the clock stands still. -/
def handle (service : Service) (memory : Memory) (visit : Visit) : Memory × Response :=
  let ran := (service.dispatch visit.request).among ⟨memory, visit.now⟩ []
  (ran.state.world.memory, ran.value)

theorem handle_eq_solo (service : Service) (memory : Memory) (visit : Visit) :
    service.handle memory visit =
      let ran := (service.dispatch visit.request).solo ⟨memory, visit.now⟩
      (ran.1.memory, ran.2) := by
  obtain ⟨world, value⟩ := (service.dispatch visit.request).among_nil ⟨memory, visit.now⟩
  unfold handle
  dsimp only
  rw [world, value]

/-- A routed request runs the handler of its operation, alone. -/
theorem handle_routed_eq_solo {visit : Visit} {route : Route} (service : Service) (memory : Memory)
    (routed : visit.route? = some route) :
    service.handle memory visit =
      let ran := (service.perform visit.request route.operation route.cache
        (route.key.getD "")).run.solo ⟨memory, visit.now⟩
      (ran.1.memory, answerOf ran.2) := by
  rw [handle_eq_solo]
  unfold dispatch
  unfold Visit.route? at routed
  split
  case h_1 error unrouted =>
    rw [unrouted] at routed
    cases routed
  case h_2 taken resolved =>
    rw [resolved] at routed
    obtain rfl := Option.some.inj routed
    have ran := (service.perform visit.request taken.operation taken.cache
      (taken.key.getD "")).run.solo_bind (fun result =>
        .count (.request taken.operation.label (outcomeOf result)) (.done (answerOf result)))
      ⟨memory, visit.now⟩
    exact congrArg (fun ran => (ran.1.memory, ran.2)) ran

/-- Handles requests one after another; the last one is the first of the list. -/
def handleAll (service : Service) (start : Memory) : List Visit → Memory × List Handled
  | [] => (start, [])
  | visit :: earlier =>
    let (memory, history) := service.handleAll start earlier
    let (memory, response) := service.handle memory visit
    (memory, ⟨visit, response⟩ :: history)

variable {service : Service} {start : Memory} {visits : List Visit} {handled : Handled}

theorem handleAll_cons (service : Service) (start : Memory) (visit : Visit) (earlier : List Visit) :
    (service.handleAll start (visit :: earlier)).1 =
      (service.handle (service.handleAll start earlier).1 visit).1 := rfl

/-- A run goes on from the store that its beginning left. -/
theorem handleAll_append (service : Service) (start : Memory) (later earlier : List Visit) :
    service.handleAll start (later ++ earlier) =
      ((service.handleAll (service.handleAll start earlier).1 later).1,
        (service.handleAll (service.handleAll start earlier).1 later).2 ++
          (service.handleAll start earlier).2) := by
  induction later with
  | nil => rfl
  | cons visit later ih => simp only [List.cons_append, handleAll, ih]

/-- What was handled is one of the requests that were made. -/
theorem mem_of_mem_handleAll (member : handled ∈ (service.handleAll start visits).2) :
    handled.toVisit ∈ visits := by
  induction visits with
  | nil => cases member
  | cons visit visits ih =>
    rcases List.mem_cons.1 member with rfl | earlier
    · exact List.mem_cons_self
    · exact List.mem_cons_of_mem _ (ih earlier)

end Service

namespace Handled

variable (handled : Handled) (cache key : String)

/-- A PUT or POST on the entry that was answered 200 or 201. -/
def Writes : Prop :=
  handled.route? = some ⟨.write, cache, some key⟩ ∧ handled.response.status.Succeeds

/-- A DELETE of the entry, or of its whole cache, that was answered 200. -/
def Removes : Prop :=
  (handled.route? = some ⟨.delete, cache, some key⟩ ∨
    handled.route? = some ⟨.clear, cache, none⟩) ∧ handled.response.status = .ok

/-- A GET or HEAD on the entry that was answered 200. -/
def Uses : Prop :=
  handled.route? = some ⟨.read, cache, some key⟩ ∧ handled.response.status = .ok

/-- A request that is none of these: on another key or cache, for a listing,
or refused. -/
def Passes : Prop :=
  ¬ handled.Writes cache key ∧ ¬ handled.Removes cache key ∧ ¬ handled.Uses cache key

instance : Decidable (handled.Writes cache key) := inferInstanceAs (Decidable (_ ∧ _))

instance : Decidable (handled.Removes cache key) := inferInstanceAs (Decidable (_ ∧ _))

instance : Decidable (handled.Uses cache key) := inferInstanceAs (Decidable (_ ∧ _))

variable {handled} {cache key} {other raw : String} {operation : Operation}

theorem passes_of_refused (refused : ¬ handled.response.status.Succeeds) :
    handled.Passes cache key :=
  ⟨fun writes => refused writes.2, fun removes => refused (Or.inl removes.2),
    fun uses => refused (Or.inl uses.2)⟩

theorem passes_of_unrouted (unrouted : handled.route? = none) : handled.Passes cache key := by
  refine ⟨fun writes => ?_, fun removes => ?_, fun uses => ?_⟩
  · cases unrouted.symm.trans writes.1
  · rcases removes.1 with route | route <;> cases unrouted.symm.trans route
  · cases unrouted.symm.trans uses.1

/-- A request on an entry passes all other entries. -/
theorem passes_of_entry (routed : handled.route? = some ⟨operation, other, some raw⟩)
    (differs : ¬ (cache = other ∧ key = raw)) : handled.Passes cache key := by
  refine ⟨fun writes => ?_, fun removes => ?_, fun uses => ?_⟩
  · cases routed.symm.trans writes.1
    exact differs ⟨rfl, rfl⟩
  · rcases removes.1 with route | route
    · cases routed.symm.trans route
      exact differs ⟨rfl, rfl⟩
    · cases routed.symm.trans route
  · cases routed.symm.trans uses.1
    exact differs ⟨rfl, rfl⟩

/-- A request on a cache passes all entries, unless it clears their cache. -/
theorem passes_of_cache (routed : handled.route? = some ⟨operation, other, none⟩)
    (differs : ¬ (cache = other ∧ operation = .clear)) : handled.Passes cache key := by
  refine ⟨fun writes => ?_, fun removes => ?_, fun uses => ?_⟩
  · cases routed.symm.trans writes.1
  · rcases removes.1 with route | route
    · cases routed.symm.trans route
    · cases routed.symm.trans route
      exact differs ⟨rfl, rfl⟩
  · cases routed.symm.trans uses.1

end Handled

/-! ## The latest write -/

/-- A write of an entry that nothing after it replaced or removed. -/
structure LatestWrite (history : List Handled) (cache key : String) where
  later : List Handled
  write : Handled
  earlier : List Handled
  history_eq : history = later ++ write :: earlier
  writes : write.Writes cache key
  stands : ∀ handled ∈ later, ¬ handled.Writes cache key ∧ ¬ handled.Removes cache key

/-- When the entry was last used: by its latest read after the write, if any,
and else by the write. -/
def LatestWrite.lastUse {history : List Handled} {cache key : String}
    (latest : LatestWrite history cache key) : Instant :=
  ((latest.later.find? fun handled => handled.Uses cache key).map (·.now)).getD latest.write.now

/-- What a history says about an entry: the write that stands, and the last use. -/
structure Standing where
  write : Handled
  lastUse : Instant

/-- Follows one entry along a history. -/
def standing? (cache key : String) : List Handled → Option Standing
  | [] => none
  | handled :: earlier =>
    if handled.Writes cache key then some ⟨handled, handled.now⟩
    else if handled.Removes cache key then none
    else if handled.Uses cache key then
      (standing? cache key earlier).map fun standing => { standing with lastUse := handled.now }
    else standing? cache key earlier

section Standing

variable {handled : Handled} {history : List Handled} {cache key : String}

theorem standing?_of_writes (writes : handled.Writes cache key) :
    standing? cache key (handled :: history) = some ⟨handled, handled.now⟩ :=
  if_pos writes

theorem standing?_of_removes (removes : handled.Removes cache key) :
    standing? cache key (handled :: history) = none := by
  have keeps : ¬ handled.Writes cache key := by
    rintro ⟨write, -⟩
    rcases removes.1 with route | route <;> cases write.symm.trans route
  unfold standing?
  rw [if_neg keeps, if_pos removes]

theorem standing?_of_uses (uses : handled.Uses cache key) :
    standing? cache key (handled :: history) =
      (standing? cache key history).map fun standing => { standing with lastUse := handled.now } := by
  have writesNot : ¬ handled.Writes cache key := by
    rintro ⟨write, -⟩
    cases write.symm.trans uses.1
  have removesNot : ¬ handled.Removes cache key := by
    rintro ⟨delete | clear, -⟩
    · cases delete.symm.trans uses.1
    · cases clear.symm.trans uses.1
  rw [standing?, if_neg writesNot, if_neg removesNot, if_pos uses]

theorem standing?_of_passes (passes : handled.Passes cache key) :
    standing? cache key (handled :: history) = standing? cache key history := by
  rw [standing?, if_neg passes.1, if_neg passes.2.1, if_neg passes.2.2]

/-- What stands after a run was written in its later part, or stood before that. -/
theorem standing?_append {later earlier : List Handled} {standing : Standing}
    (found : standing? cache key (later ++ earlier) = some standing) :
    (standing.write ∈ later ∧ standing.write.Writes cache key) ∨
      ∃ before, standing? cache key earlier = some before ∧ before.write = standing.write := by
  induction later generalizing standing with
  | nil => exact Or.inr ⟨standing, found, rfl⟩
  | cons handled later ih =>
    rw [List.cons_append] at found
    by_cases writes : handled.Writes cache key
    · rw [standing?_of_writes writes] at found
      obtain rfl := Option.some.inj found
      exact Or.inl ⟨List.mem_cons_self, writes⟩
    by_cases removes : handled.Removes cache key
    · rw [standing?_of_removes removes] at found
      cases found
    have stood : ∃ past, standing? cache key (later ++ earlier) = some past ∧
        past.write = standing.write := by
      by_cases uses : handled.Uses cache key
      · rw [standing?_of_uses uses] at found
        obtain ⟨past, foundPast, rfl⟩ := Option.map_eq_some_iff.1 found
        exact ⟨past, foundPast, rfl⟩
      · rw [standing?_of_passes ⟨writes, removes, uses⟩] at found
        exact ⟨standing, found, rfl⟩
    obtain ⟨past, foundPast, same⟩ := stood
    rw [← same]
    rcases ih foundPast with ⟨member, written⟩ | before
    · exact Or.inl ⟨List.mem_cons_of_mem _ member, written⟩
    · exact Or.inr before

/-- The write that stands is one of the requests. -/
theorem mem_of_standing? {standing : Standing}
    (found : standing? cache key history = some standing) : standing.write ∈ history := by
  rw [← List.append_nil history] at found
  rcases standing?_append found with ⟨member, -⟩ | ⟨_, absurd, -⟩
  · exact member
  · cases absurd

namespace LatestWrite

/-- The latest write is still the latest after a request that neither writes nor removes. -/
def push (latest : LatestWrite history cache key)
    (keeps : ¬ handled.Writes cache key ∧ ¬ handled.Removes cache key) :
    LatestWrite (handled :: history) cache key where
  later := handled :: latest.later
  write := latest.write
  earlier := latest.earlier
  history_eq := congrArg (handled :: ·) latest.history_eq
  writes := latest.writes
  stands := List.forall_mem_cons.2 ⟨keeps, latest.stands⟩

theorem lastUse_push (latest : LatestWrite history cache key)
    (keeps : ¬ handled.Writes cache key ∧ ¬ handled.Removes cache key) :
    (latest.push keeps).lastUse =
      if handled.Uses cache key then handled.now else latest.lastUse := by
  by_cases uses : handled.Uses cache key <;> simp [lastUse, push, uses]

/-- Without a write in front, the latest write lies further back. -/
theorem eq_push (latest : LatestWrite (handled :: history) cache key)
    (other : ¬ handled.Writes cache key) :
    ∃ (before : LatestWrite history cache key) (keeps : _), latest = before.push keeps := by
  obtain ⟨later, write, earlier, split, writes, stands⟩ := latest
  cases later with
  | nil =>
    obtain ⟨rfl, -⟩ := List.cons.inj split
    exact (other writes).elim
  | cons first later =>
    obtain ⟨rfl, rfl⟩ := List.cons.inj split
    obtain ⟨keeps, standing⟩ := List.forall_mem_cons.1 stands
    exact ⟨⟨later, write, earlier, rfl, writes, standing⟩, keeps, rfl⟩

/-- A write in front is the latest one. -/
theorem of_writes (latest : LatestWrite (handled :: history) cache key)
    (writes : handled.Writes cache key) :
    latest.write = handled ∧ latest.lastUse = handled.now := by
  obtain ⟨later, write, earlier, split, written, stands⟩ := latest
  cases later with
  | nil =>
    obtain ⟨rfl, -⟩ := List.cons.inj split
    exact ⟨rfl, rfl⟩
  | cons first later =>
    obtain ⟨rfl, -⟩ := List.cons.inj split
    exact ((stands handled List.mem_cons_self).1 writes).elim

end LatestWrite

/-- The standing that is computed is the latest write with the last use after it. -/
theorem standing?_eq_some_iff {standing : Standing} :
    standing? cache key history = some standing ↔
      ∃ latest : LatestWrite history cache key,
        latest.write = standing.write ∧ latest.lastUse = standing.lastUse := by
  induction history generalizing standing with
  | nil =>
    constructor
    · intro found
      cases found
    · rintro ⟨⟨later, write, earlier, split, -, -⟩, -⟩
      cases later <;> cases split
  | cons handled history ih =>
    by_cases writes : handled.Writes cache key
    · rw [standing?_of_writes writes]
      constructor
      · intro found
        obtain rfl := Option.some.inj found
        exact ⟨⟨[], handled, history, rfl, writes, fun _ member => (List.not_mem_nil member).elim⟩,
          rfl, rfl⟩
      · rintro ⟨latest, writeEq, useEq⟩
        obtain ⟨same, used⟩ := latest.of_writes writes
        obtain ⟨write, lastUse⟩ := standing
        obtain rfl : handled = write := same.symm.trans writeEq
        obtain rfl : handled.now = lastUse := used.symm.trans useEq
        rfl
    · constructor
      · intro found
        by_cases removes : handled.Removes cache key
        · rw [standing?_of_removes removes] at found
          cases found
        · by_cases uses : handled.Uses cache key
          · rw [standing?_of_uses uses] at found
            obtain ⟨before, foundBefore, rfl⟩ := Option.map_eq_some_iff.1 found
            obtain ⟨latest, writeEq, -⟩ := ih.1 foundBefore
            exact ⟨latest.push ⟨writes, removes⟩, writeEq,
              (latest.lastUse_push _).trans (if_pos uses)⟩
          · rw [standing?_of_passes ⟨writes, removes, uses⟩] at found
            obtain ⟨latest, writeEq, useEq⟩ := ih.1 found
            exact ⟨latest.push ⟨writes, removes⟩, writeEq,
              ((latest.lastUse_push _).trans (if_neg uses)).trans useEq⟩
      · rintro ⟨latest, writeEq, useEq⟩
        obtain ⟨before, keeps, rfl⟩ := latest.eq_push writes
        have found : standing? cache key history = some ⟨before.write, before.lastUse⟩ :=
          ih.2 ⟨before, rfl, rfl⟩
        rw [before.lastUse_push] at useEq
        obtain ⟨write, lastUse⟩ := standing
        obtain rfl : before.write = write := writeEq
        by_cases uses : handled.Uses cache key
        · obtain rfl : handled.now = lastUse := (if_pos uses).symm.trans useEq
          rw [standing?_of_uses uses, found]
          rfl
        · obtain rfl : before.lastUse = lastUse := (if_neg uses).symm.trans useEq
          rw [standing?_of_passes ⟨keeps.1, keeps.2, uses⟩, found]

end Standing

end CacheGate
