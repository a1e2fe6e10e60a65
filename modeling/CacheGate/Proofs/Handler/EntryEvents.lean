import CacheGate.Proofs.Handler.Aftermath
import Mathlib.Data.List.DropRight

/-!
# Events that hit an entry

What can happen to the entry under a key while a handler runs: it is put, it is
taken away, or it expires (`EntryEvent`). `World.events` lists the events of a
record in their order, and `World.eventsDuring` those between the first and the
last call that the handler makes itself.

`World.live?_after_of_events_eq_nil`: without an event a live entry stays what
it is.
-/

namespace CacheGate

/-- What happens to an entry. -/
inductive EntryEvent where
  /-- A new value is put, whatever was there. -/
  | put
  /-- A live entry is removed, or cleared away with its cache. -/
  | removed
  /-- A live entry is live no longer, though nobody changed it. -/
  | expired
  deriving DecidableEq, Repr

namespace World

/-- The event for the entry under a key that a happening is, if it is one. -/
def event? (world : World) (name : String) (content : Bytes) (happening : Happening) :
    Option EntryEvent :=
  if happening.puts name content then some .put
  else if (world.live? name content).isNone then none
  else if happening.changes name content then some .removed
  else if ((world.happen happening).live? name content).isNone then some .expired
  else none

/-- The events for the entry under a key in a record. -/
def events (name : String) (content : Bytes) : World → List Happening → List EntryEvent
  | _, [] => []
  | world, happening :: rest =>
    (world.event? name content happening).toList ++
      (world.happen happening).events name content rest

variable {world : World} {history : List Happening} {happening : Happening} {name : String}
  {content : Bytes} {stored : StoredEntry}

theorem events_append (world : World) (first second : List Happening) :
    world.events name content (first ++ second) =
      world.events name content first ++ (world.after first).events name content second := by
  induction first generalizing world with
  | nil => rfl
  | cons happening first ih =>
    change _ ++ (world.happen happening).events name content (first ++ second) = _
    rw [ih (world.happen happening), ← List.append_assoc]
    rfl

theorem length_events_after_le (world : World) (first second : List Happening) :
    ((world.after first).events name content second).length ≤
      (world.events name content (first ++ second)).length := by
  rw [events_append, List.length_append]
  exact Nat.le_add_left ..

theorem length_events_own_le (world : World) (call : Call) (later : List Happening) :
    ((world.perform call).events name content later).length ≤
      (world.events name content (.own call :: later)).length :=
  world.length_events_after_le [.own call] later

/-- An internal read leaves what is live as it is. -/
theorem live?_perform_entry {context : ExecutionContext} {cache : String} {key : Key} :
    (world.perform (.entry context cache key)).live? name content = world.live? name content :=
  Memory.live?_perform_of_not_alters (le_refl _) rfl

/-- A happening that is no event leaves a live entry live, with all that was written. -/
theorem live?_happen_of_event?_eq_none (live : world.live? name content = some stored)
    (uneventful : world.event? name content happening = none) :
    ∃ left, (world.happen happening).live? name content = some left ∧
      left.written = stored.written := by
  have calm : happening.puts name content = false ∧
      (world.happen happening).live? name content ≠ none := by
    unfold event? at uneventful
    rw [live] at uneventful
    repeat' split at uneventful
    all_goals simp_all
  obtain ⟨left, stays⟩ := Option.ne_none_iff_exists'.1 calm.2
  have behind : (world.after [happening]).live? name content = some left := stays
  exact ⟨left, stays, written_eq_of_not_puts live behind (List.forall_mem_singleton.2 calm.1)⟩

theorem live?_after_of_events_eq_nil (live : world.live? name content = some stored)
    (uneventful : world.events name content history = []) :
    ∃ left, (world.after history).live? name content = some left ∧
      left.written = stored.written := by
  induction history generalizing world stored with
  | nil => exact ⟨stored, live, rfl⟩
  | cons happening history ih =>
    obtain ⟨first, rest⟩ := List.append_eq_nil_iff.1 uneventful
    obtain ⟨met, next, same⟩ :=
      live?_happen_of_event?_eq_none live (Option.toList_eq_nil_iff.1 first)
    obtain ⟨left, stays, written⟩ := ih next rest
    exact ⟨left, stays, written.trans same⟩

/-- Between two snapshots that do not show the same value there was an event. -/
theorem events_ne_nil_of_differ {entry : Entry} {found : Option Entry}
    (before : (world.live? name content).map StoredEntry.snapshot = some entry)
    (behind : ((world.after history).live? name content).map StoredEntry.snapshot = found)
    (differ : ∀ current, found = some current → current.value ≠ entry.value) :
    world.events name content history ≠ [] := by
  intro uneventful
  obtain ⟨stored, live, rfl⟩ := Option.map_eq_some_iff.1 before
  obtain ⟨left, stays, written⟩ := live?_after_of_events_eq_nil live uneventful
  rw [stays, Option.map_some] at behind
  exact differ left.snapshot behind.symm (congrArg Prod.fst written)

end World

/-! ## While a handler runs -/

/-- Whether a happening is a call of the handler itself. -/
def Happening.isOwn : Happening → Bool
  | .own _ => true
  | .move _ => false

/-- A record without what comes before the first call of the handler. -/
def sinceFirstOwn (history : List Happening) : List Happening :=
  history.dropWhile fun happening => !happening.isOwn

/-- A record without what comes after the last call of the handler. -/
def untilLastOwn (history : List Happening) : List Happening :=
  history.rdropWhile fun happening => !happening.isOwn

section Cutting

variable {moves : List Move} {call : Call} {later : List Happening}

theorem untilLastOwn_append_own (front : List Happening) :
    untilLastOwn (front ++ .own call :: later) = front ++ .own call :: untilLastOwn later := by
  induction later using List.reverseRecOn with
  | nil => exact List.rdropWhile_concat_neg _ _ _ nofun
  | append_singleton later last ih =>
    have whole : front ++ .own call :: (later ++ [last]) =
        (front ++ .own call :: later) ++ [last] := by
      simp
    unfold untilLastOwn at ih ⊢
    rw [whole, List.rdropWhile_concat, List.rdropWhile_concat, ih]
    split
    · rfl
    · exact whole.symm

theorem not_isOwn_of_mem_moves :
    ∀ happening ∈ moves.map Happening.move, (!happening.isOwn) = true :=
  List.forall_mem_map.2 fun _ _ => rfl

end Cutting

/-- The events up to the second of two calls, and those behind it, are among
all events until the last call. -/
theorem Consecutive.length_events_le {history : List Happening} {first second : Call}
    (calls : Consecutive history first second) (world : World) (name : String) (content : Bytes) :
    (world.events name content (calls.earlier ++ calls.since)).length +
        (((calls.atSecond world).perform second).events name content
          (untilLastOwn calls.later)).length ≤
      (world.events name content (untilLastOwn history)).length := by
  have whole : history = (calls.earlier ++ calls.since) ++ .own second :: calls.later := by
    rw [List.append_assoc]
    exact calls.history_eq
  have kept : untilLastOwn history =
      (calls.earlier ++ calls.since) ++ .own second :: untilLastOwn calls.later :=
    (congrArg untilLastOwn whole).trans (untilLastOwn_append_own _)
  have reached : world.after (calls.earlier ++ calls.since) = calls.atSecond world :=
    World.after_append ..
  have behind : (((calls.atSecond world).perform second).events name content
      (untilLastOwn calls.later)).length ≤ ((calls.atSecond world).events name content
        (.own second :: untilLastOwn calls.later)).length := World.length_events_own_le ..
  rw [kept, World.events_append world (calls.earlier ++ calls.since), List.length_append, reached]
  exact Nat.add_le_add_left behind _

namespace World

/-- The events for the entry under a key from the first call of a handler to its last. -/
def eventsDuring (world : World) (name : String) (content : Bytes) (history : List Happening) :
    List EntryEvent :=
  (world.after (history.takeWhile fun happening => !happening.isOwn)).events name content
    (untilLastOwn (sinceFirstOwn history))

theorem eventsDuring_eq (world : World) (name : String) (content : Bytes) (moves : List Move)
    (call : Call) (later : List Happening) :
    world.eventsDuring name content (moves.map .move ++ .own call :: later) =
      (world.after (moves.map .move)).events name content (.own call :: untilLastOwn later) := by
  have first : (moves.map Happening.move ++ .own call :: later).takeWhile
      (fun happening => !happening.isOwn) = moves.map .move := by
    rw [List.takeWhile_append_of_pos not_isOwn_of_mem_moves,
      List.takeWhile_cons_of_neg Bool.false_ne_true, List.append_nil]
  have rest : sinceFirstOwn (moves.map .move ++ .own call :: later) = .own call :: later := by
    unfold sinceFirstOwn
    rw [List.dropWhile_append_of_pos not_isOwn_of_mem_moves,
      List.dropWhile_cons_of_neg Bool.false_ne_true]
  unfold eventsDuring
  rw [first, rest]
  exact congrArg _ (untilLastOwn_append_own [])

end World

end CacheGate
