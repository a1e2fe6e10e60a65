import CacheGate.Proofs.Store.LazyExpiry

/-!
# Calls on different entries

A call on one entry depends on that entry alone and changes no other
(`PromptStore.step_of_on`, `PromptStore.answer_alter`). Two calls on different
entries at the same time therefore commute: each is answered as without the
other, and callers cannot tell the stores apart that the two orders leave
(`Memory.answer_perform_of_apart`, `Memory.shown_perform_comm`).
-/

namespace CacheGate

open Time

/-! ## Places -/

/-- A place in a store: the name of a cache and the content of a key. -/
structure Place where
  name : String
  content : Bytes
  deriving DecidableEq

/-- Whether a call is about the entry at a place, or about the settings of its cache. -/
def Call.On (place : Place) : Call → Prop
  | .get _ name key _ | .remove _ name key | .entry _ name key | .distribution _ name key =>
    name = place.name ∧ key.content = place.content
  | .put _ name added => name = place.name ∧ added.key.content = place.content
  | .configuration _ name => name = place.name
  | .clear .. | .keys .. => False

/-- What a call on an entry makes of it, in a cache of the given settings. -/
def Call.change (settings : Option CacheConfiguration) (now : Instant) :
    Call → Option StoredEntry → Option StoredEntry
  | .get _ _ _ format =>
    if settings.any fun configuration => configuration.conversion.supports format then
      fun found => found.map (·.touch now)
    else id
  | .put _ _ added =>
    if settings.isSome then
      fun _ => some ⟨added.value, added.mediaType, added.metadata, now, now⟩
    else id
  | .remove .. => fun _ => none
  | .clear .. | .keys .. | .entry .. | .configuration .. | .distribution .. => id

/-! ## Changes at one place -/

namespace PromptStore

variable {store : PromptStore} {place other : Place} {call : Call} {now : Instant}
  {change later : Option StoredEntry → Option StoredEntry}

/-- The entry at a place. -/
def at? (store : PromptStore) (place : Place) : Option StoredEntry :=
  store.entries place.name place.content

/-- Changes the entry at a place. -/
def alterAt (store : PromptStore) (place : Place)
    (change : Option StoredEntry → Option StoredEntry) : PromptStore :=
  store.alter place.name place.content change

theorem entries_alterAt (name : String) (content : Bytes) :
    (store.alterAt place change).entries name content =
      if name = place.name ∧ place.content = content then change (store.entries name content)
      else store.entries name content := rfl

theorem at?_alterAt_of_ne (differs : other ≠ place) :
    (store.alterAt place change).at? other = store.at? other := by
  unfold at?
  rw [entries_alterAt, if_neg]
  rintro ⟨name, content⟩
  obtain ⟨otherName, otherContent⟩ := other
  exact differs (by cases name; cases content; rfl)

/-- To leave an entry as it is changes nothing. -/
theorem alterAt_id : store.alterAt place id = store := by
  refine PromptStore.ext rfl rfl (funext fun name => funext fun content => ?_)
  rw [entries_alterAt, id, ite_self]

/-- Changes at different places commute. -/
theorem alterAt_comm (differs : place ≠ other) :
    (store.alterAt place change).alterAt other later =
      (store.alterAt other later).alterAt place change := by
  refine PromptStore.ext rfl rfl (funext fun name => funext fun content => ?_)
  simp only [entries_alterAt]
  by_cases first : name = place.name ∧ place.content = content
  · have second : ¬ (name = other.name ∧ other.content = content) := by
      rintro ⟨sameName, sameContent⟩
      obtain ⟨placeName, placeContent⟩ := place
      obtain ⟨otherName, otherContent⟩ := other
      obtain ⟨rfl, rfl⟩ := first
      cases sameName
      cases sameContent
      exact differs rfl
    rw [if_neg second, if_pos first, if_pos first, if_neg second]
  · rw [if_neg first, if_neg first]

theorem expire_alterAt :
    ((store.expire now).alterAt place change).expire now =
      (store.expire now).alterAt place fun found => unexpired now (change found) := by
  refine PromptStore.ext rfl rfl (funext fun name => funext fun content => ?_)
  change unexpired now (((store.expire now).alterAt place change).entries name content) = _
  rw [entries_alterAt, entries_alterAt]
  split
  · rfl
  · exact unexpired_unexpired (le_refl now)

theorem next_of_on (on : call.On place) :
    store.next now call = store.alterAt place (call.change (store.settings place.name) now) := by
  obtain ⟨name, content⟩ := place
  cases call with
  | get subject name key format =>
    obtain ⟨rfl, rfl⟩ := on
    dsimp only [next, Call.change]
    split
    · rfl
    · exact alterAt_id.symm
  | put subject name added =>
    obtain ⟨rfl, rfl⟩ := on
    dsimp only [next, Call.change]
    split
    · rfl
    · exact alterAt_id.symm
  | remove subject name key =>
    obtain ⟨rfl, rfl⟩ := on
    rfl
  | entry | configuration | distribution => exact alterAt_id.symm
  | clear | keys => exact on.elim

/-- A call on an entry makes a change at its place, which depends on the
settings of the cache only. -/
theorem step_of_on (on : call.On place) :
    store.step ⟨now, call⟩ = (store.expire now).alterAt place fun found =>
      unexpired now (call.change (store.settings place.name) now found) := by
  unfold step
  rw [next_of_on on]
  exact expire_alterAt

theorem step_step_of_on {next : Call} (on : call.On place) (onOther : next.On other) :
    (store.step ⟨now, call⟩).step ⟨now, next⟩ =
      ((store.expire now).alterAt place fun found =>
        unexpired now (call.change (store.settings place.name) now found)).alterAt other
          fun found => unexpired now (next.change (store.settings other.name) now found) := by
  have again : (store.step ⟨now, call⟩).expire now = store.step ⟨now, call⟩ :=
    expire_expire _ (le_refl now)
  rw [step_of_on onOther, again, step_of_on on]
  rfl

/-- Calls on different entries commute. -/
theorem step_comm {next : Call} (on : call.On place) (onOther : next.On other)
    (differs : place ≠ other) :
    (store.step ⟨now, call⟩).step ⟨now, next⟩ = (store.step ⟨now, next⟩).step ⟨now, call⟩ := by
  rw [step_step_of_on on onOther, step_step_of_on onOther on]
  exact alterAt_comm differs

/-- A call on an entry is answered as if entries elsewhere were any others. -/
theorem answer_alterAt (on : call.On place) (differs : place ≠ other) :
    (store.alterAt other change).answer call = store.answer call := by
  have same : (store.alterAt other change).entries place.name place.content =
      store.entries place.name place.content := at?_alterAt_of_ne differs
  have settings : (store.alterAt other change).settings call.cache = store.settings call.cache :=
    rfl
  unfold answer
  rw [settings]
  cases known : store.settings call.cache with
  | none => rfl
  | some configuration =>
    cases call with
    | get subject name key format | remove subject name key | entry context name key =>
      obtain ⟨rfl, content⟩ := on
      dsimp only [answerOn]
      rw [content, same]
    | put | configuration | distribution => rfl
    | clear | keys => exact on.elim

end PromptStore

/-! ## Calls on the in-memory store -/

namespace Memory

variable {memory after : Memory} {place other : Place} {call next : Call} {now later : Instant}

/-- What callers can see of a store at some time. -/
def shown (memory : Memory) (now : Instant) : PromptStore := (PromptStore.holding memory).expire now

theorem shown_perform (memory : Memory) (now : Instant) (call : Call) :
    (memory.perform now call).memory.shown now = (memory.shown now).step ⟨now, call⟩ := by
  unfold shown PromptStore.step
  rw [PromptStore.expire_expire _ (le_refl now)]
  exact PromptStore.expire_holding_perform memory now call

/-- What can be seen now decides what can be seen later, if nothing is done. -/
theorem live?_of_shown (same : memory.shown now = after.shown now) (order : now ≤ later)
    (name : String) (content : Bytes) :
    memory.live? later name content = after.live? later name content := by
  have live : memory.live? now name content = after.live? now name content :=
    congrFun (congrFun (congrArg PromptStore.entries same) name) content
  rw [← unexpired_live? order, live, unexpired_live? order]

/-- What can be seen at a place decides how a call on it is answered. -/
theorem answer_of_shown (on : call.On place)
    (same : (memory.shown now).answer call = (after.shown now).answer call) :
    (memory.perform now call).answer = (after.perform now call).answer := by
  have observed : (memory.perform now call).answer.map call.observe =
      (after.perform now call).answer.map call.observe :=
    (observe_perform memory now call).trans (same.trans (observe_perform after now call).symm)
  cases call with
  | get | put | remove | entry | configuration | distribution =>
    generalize (Memory.perform memory now _).answer = left at observed ⊢
    generalize (Memory.perform after now _).answer = right at observed ⊢
    cases left <;> cases right <;> cases observed <;> rfl
  | clear | keys => exact on.elim

/-- A call on an entry is answered as if a call on another had not been made. -/
theorem answer_perform_of_apart (on : call.On place) (onOther : next.On other)
    (differs : place ≠ other) :
    ((memory.perform now next).memory.perform now call).answer =
      (memory.perform now call).answer := by
  refine answer_of_shown on ?_
  have again : (memory.shown now).expire now = memory.shown now :=
    PromptStore.expire_expire _ (le_refl now)
  rw [shown_perform, PromptStore.step_of_on onOther, again]
  exact PromptStore.answer_alterAt on differs

/-- In which order calls on different entries are made cannot be seen. -/
theorem shown_perform_comm (on : call.On place) (onOther : next.On other)
    (differs : place ≠ other) :
    ((memory.perform now call).memory.perform now next).memory.shown now =
      ((memory.perform now next).memory.perform now call).memory.shown now := by
  rw [shown_perform, shown_perform, shown_perform, shown_perform]
  exact PromptStore.step_comm on onOther differs

end Memory

end CacheGate
