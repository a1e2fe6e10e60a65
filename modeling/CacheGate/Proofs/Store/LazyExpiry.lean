import CacheGate.Proofs.Store.PromptStore

/-!
# Lazy expiry is unobservable

The in-memory store keeps expired entries until something looks at them, and
each of its calls finds out about that in its own way. What it holds at a
time, less the entries that have expired, is a `PromptStore`: that is the
abstraction function `fun memory => (PromptStore.holding memory).expire now`.

* `PromptStore.expire_holding_perform` and `Memory.observe_perform`: each call
  makes the same step on both stores and is answered alike.
* `Memory.observed_exchanges`: so is every call of a run.
* `PromptStore.outcomes_eraseIdx`: internal calls do nothing to the reference,
  so any of them can be left out of a run.
* `Memory.lazy_expiry_unobservable` is what callers see of it.
-/

namespace CacheGate

open Time

/-- Whether a call is an internal read, of an entry, of settings or of a placement. -/
def Call.isInternal : Call → Bool
  | .entry .. | .configuration .. | .distribution .. => true
  | .get .. | .put .. | .remove .. | .clear .. | .keys .. => false

/-! ## The reference store -/

namespace PromptStore

variable {store : PromptStore} {now later : Instant} {call : Call} {calls : List TimedCall}

theorem next_of_isInternal (internal : call.isInternal = true) : store.next now call = store := by
  cases call <;> first | rfl | cases internal

theorem settings_next : (store.next now call).settings = store.settings := by
  cases call <;> dsimp only [next] <;> first | rfl | (split <;> rfl)

theorem settings_after : (store.after calls).settings = store.settings := by
  induction calls generalizing store with
  | nil => rfl
  | cons timed rest ih => exact ih.trans settings_next

theorem cluster_next : (store.next now call).cluster = store.cluster := by
  cases call <;> dsimp only [next] <;> first | rfl | (split <;> rfl)

/-- Only what is there when a run starts matters to it. -/
theorem outcomes_expire (past : ∀ timed ∈ calls, now ≤ timed.now) :
    (store.expire now).outcomes calls = store.outcomes calls := by
  cases calls with
  | nil => rfl
  | cons timed rest =>
    unfold outcomes step
    rw [store.expire_expire (past timed List.mem_cons_self)]

theorem after_expire (past : ∀ timed ∈ calls, now ≤ timed.now) (order : now ≤ later) :
    ((store.expire now).after calls).expire later = (store.after calls).expire later := by
  cases calls with
  | nil => exact store.expire_expire order
  | cons timed rest =>
    have first : (store.expire now).step timed = store.step timed := by
      unfold step
      rw [store.expire_expire (past timed List.mem_cons_self)]
    unfold after
    rw [List.foldl_cons, List.foldl_cons, first]

/-- To leave out one internal call is to leave out its answer. -/
theorem outcomes_eraseIdx (ordered : InOrder calls) (index : Nat) (inside : index < calls.length)
    (internal : calls[index].call.isInternal = true) :
    store.outcomes (calls.eraseIdx index) = (store.outcomes calls).eraseIdx index := by
  induction calls generalizing store index with
  | nil => cases inside
  | cons timed rest ih =>
    obtain ⟨past, ordered⟩ := List.pairwise_cons.1 ordered
    cases index with
    | zero =>
      have stays : store.step timed = store.expire timed.now := by
        unfold step
        exact (congrArg (expire · timed.now) (next_of_isInternal internal)).trans
          (store.expire_expire (le_refl _))
      rw [List.eraseIdx_cons_zero, outcomes, List.eraseIdx_cons_zero, stays, outcomes_expire past]
    | succ index =>
      rw [List.eraseIdx_cons_succ, outcomes, outcomes, List.eraseIdx_cons_succ,
        ih ordered index (Nat.lt_of_succ_lt_succ inside) internal]

end PromptStore

/-! ## One call -/

section Step

variable {memory : Memory} {now : Instant} {call : Call} {name other : String} {content : Bytes}
  {configuration : CacheConfiguration}

theorem Memory.cluster_perform (memory : Memory) (now : Instant) (call : Call) :
    (memory.perform now call).memory.cluster = memory.cluster := by
  cases known : memory.configuration? call.cache with
  | none => rw [Memory.memory_of_unknown call known]
  | some configuration =>
    obtain ⟨cache, found, -⟩ := Memory.configuration?_eq_some_iff.1 known
    cases call <;> dsimp only [Call.cache] at found
    case put => rw [Memory.memory_put found]; rfl
    case remove => rw [Memory.memory_remove found]; rfl
    case clear => rw [Memory.memory_clear found]; rfl
    case keys => rw [Memory.memory_keys found]; rfl
    case entry => rw [Memory.memory_entry found]; rfl
    case configuration => rw [Memory.memory_configuration]
    case distribution => rw [Memory.memory_distribution]
    case get =>
      rw [Memory.memory_get found]
      split
      · rfl
      · split <;> rfl

/-- A call is answered as the reference answers it. -/
theorem Memory.observe_perform (memory : Memory) (now : Instant) (call : Call) :
    (memory.perform now call).answer.map call.observe =
      ((PromptStore.holding memory).expire now).answer call := by
  have settings : ((PromptStore.holding memory).expire now).settings call.cache =
      memory.configuration? call.cache := rfl
  unfold PromptStore.answer
  rw [settings]
  cases known : memory.configuration? call.cache with
  | none =>
    rw [Memory.perform_of_unknown known]
    rfl
  | some configuration =>
    cases call <;> dsimp only [Call.cache] at known
    case get subject name key format =>
      have live : ((PromptStore.holding memory).expire now).entries name key.content =
          memory.live? now name key.content := rfl
      rw [Memory.answer_get known]
      dsimp only [PromptStore.answerOn]
      rw [live]
      cases memory.live? now name key.content with
      | none => rfl
      | some stored => dsimp only; split <;> rfl
    case put => rw [Memory.answer_put known]; rfl
    case remove => rw [Memory.answer_remove known]; rfl
    case clear => rw [Memory.answer_clear known]; rfl
    case keys subject name =>
      obtain ⟨listed, answered, -, live⟩ := Memory.answer_keys known now subject
      rw [answered]
      exact congrArg Except.ok (Set.ext live)
    case entry => rw [Memory.answer_entry known]; rfl
    case configuration => rw [Memory.answer_configuration known]; rfl
    case distribution => rw [Memory.answer_distribution known]; rfl

/-- What a call leaves alive is what the reference has after it. -/
theorem Memory.live?_perform (memory : Memory) (now : Instant) (call : Call) (other : String)
    (content : Bytes) :
    (memory.perform now call).memory.live? now other content =
      unexpired now
        ((((PromptStore.holding memory).expire now).next now call).entries other content) := by
  have stays : unexpired now (memory.live? now other content) = memory.live? now other content :=
    unexpired_live? (le_refl now)
  -- internal calls and listings alter nothing, on either side
  have idle (quiet : call.alters (memory.perform now call).answer = false)
      (left : ((PromptStore.holding memory).expire now).next now call =
        (PromptStore.holding memory).expire now) :
      (memory.perform now call).memory.live? now other content =
        unexpired now
          ((((PromptStore.holding memory).expire now).next now call).entries other content) := by
    rw [live?_perform_of_not_alters (le_refl now) quiet, left]
    exact stays.symm
  cases call with
  | entry => exact idle rfl rfl
  | configuration => exact idle rfl rfl
  | distribution => exact idle rfl rfl
  | keys => exact idle rfl rfl
  | remove subject name key =>
    rw [live?_remove]
    dsimp only [PromptStore.next, PromptStore.alter]
    split
    · rfl
    · exact stays.symm
  | clear subject name =>
    rw [live?_clear]
    dsimp only [PromptStore.next]
    split
    · rfl
    · exact stays.symm
  | put subject name added =>
    cases known : memory.configuration? name with
    | none =>
      have left : ((PromptStore.holding memory).expire now).next now (.put subject name added) =
          (PromptStore.holding memory).expire now :=
        if_neg (by simp [PromptStore.expire, PromptStore.holding, known])
      rw [memory_of_unknown _ known, left]
      exact stays.symm
    | some configuration =>
      have left : ((PromptStore.holding memory).expire now).next now (.put subject name added) =
          ((PromptStore.holding memory).expire now).alter name added.key.content
            fun _ => some (fresh added now) :=
        if_pos (by simp [PromptStore.expire, PromptStore.holding, known])
      rw [live?_put known, left]
      dsimp only [PromptStore.alter]
      split
      · rfl
      · exact stays.symm
  | get subject name key format =>
    by_cases answered : ∃ value,
        (memory.perform now (.get subject name key format)).answer = .ok (some value)
    · obtain ⟨value, answered⟩ := answered
      obtain ⟨configuration, stored, known, live, offered, -⟩ := answer_get_eq_found_iff.1 answered
      have left : ((PromptStore.holding memory).expire now).next now (.get subject name key format)
          = ((PromptStore.holding memory).expire now).alter name key.content
            fun found => found.map (·.touch now) :=
        if_pos (by simp [PromptStore.expire, PromptStore.holding, known, offered])
      rw [live?_get live answered, left]
      dsimp only [PromptStore.alter]
      split
      case isTrue same =>
        obtain ⟨rfl, rfl⟩ := same
        change _ = unexpired now ((memory.live? now other key.content).map (·.touch now))
        rw [live]
        rfl
      case isFalse => exact stays.symm
    · rw [live?_get_of_missed (le_refl now) (not_exists.1 answered)]
      by_cases offered :
          (memory.configuration? name).any fun configuration => configuration.conversion.supports format
      case pos =>
        have left :
            ((PromptStore.holding memory).expire now).next now (.get subject name key format) =
              ((PromptStore.holding memory).expire now).alter name key.content
                fun found => found.map (·.touch now) := if_pos offered
        have absent : memory.live? now name key.content = none := by
          by_contra found
          obtain ⟨stored, live⟩ := Option.ne_none_iff_exists'.1 found
          obtain ⟨known, supported⟩ := (Option.any_eq_true_iff_get _ _).1 offered
          exact answered ⟨stored.value, answer_get_eq_found_iff.2
            ⟨_, stored, (Option.some_get known).symm, live, supported, rfl⟩⟩
        rw [left]
        dsimp only [PromptStore.alter]
        split
        case isTrue same =>
          obtain ⟨rfl, rfl⟩ := same
          change _ = unexpired now ((memory.live? now other key.content).map (·.touch now))
          rw [absent]
          rfl
        case isFalse => exact stays.symm
      case neg =>
        have left :
            ((PromptStore.holding memory).expire now).next now (.get subject name key format) =
              (PromptStore.holding memory).expire now := if_neg offered
        rw [left]
        exact stays.symm

/-- The store after a call is, for callers, the reference after it. -/
theorem PromptStore.expire_holding_perform (memory : Memory) (now : Instant) (call : Call) :
    (holding (memory.perform now call).memory).expire now = (holding memory).step ⟨now, call⟩ := by
  have settings : (((holding memory).expire now).next now call).settings = memory.configuration? :=
    settings_next
  have cluster : (((holding memory).expire now).next now call).cluster = memory.cluster :=
    cluster_next
  have settingsLeft := funext (Memory.configuration?_perform memory now call)
  have clusterLeft := Memory.cluster_perform memory now call
  rw [← settings] at settingsLeft
  rw [← cluster] at clusterLeft
  have entriesLeft := funext fun name => funext fun content =>
    Memory.live?_perform memory now call name content
  exact PromptStore.ext settingsLeft clusterLeft entriesLeft

end Step

/-! ## Runs -/

namespace Memory

variable {memory : Memory} {calls : List TimedCall} {now : Instant}

/-- All calls of a run are answered as the reference answers them. -/
theorem observed_exchanges (ordered : InOrder calls) :
    (memory.exchanges calls).map Exchange.observed = (PromptStore.holding memory).outcomes calls := by
  induction calls generalizing memory with
  | nil => rfl
  | cons timed rest ih =>
    obtain ⟨past, ordered⟩ := List.pairwise_cons.1 ordered
    unfold exchanges PromptStore.outcomes
    rw [List.map_cons, ih ordered, ← PromptStore.expire_holding_perform,
      PromptStore.outcomes_expire past, ← observe_perform]
    rfl

/-- From its end on, a run leaves the same entries in both stores. -/
theorem expire_holding_after (memory : Memory) (ordered : InOrder calls)
    (past : ∀ timed ∈ calls, timed.now ≤ now) :
    (PromptStore.holding (memory.after calls)).expire now =
      ((PromptStore.holding memory).after calls).expire now := by
  induction calls generalizing memory with
  | nil => rfl
  | cons timed rest ih =>
    obtain ⟨ahead, ordered⟩ := List.pairwise_cons.1 ordered
    obtain ⟨started, past⟩ := List.forall_mem_cons.1 past
    unfold after PromptStore.after at ih ⊢
    rw [List.foldl_cons, List.foldl_cons, ih _ ordered past, ← PromptStore.expire_holding_perform]
    exact (PromptStore.after_expire ahead started).symm

/-- Callers cannot tell that expired entries stay in the store for a while.

Every run of calls is answered as by a store that drops entries at their
deadline, and to put internal calls into a run, or to take them out, changes
no other answer. At any time after a run, a listing has each key that is live
in the reference once and no other, a removal tells whether the entry is live
there, and a read of an entry that is not live finds nothing in any format. -/
theorem lazy_expiry_unobservable (memory : Memory) (calls : List TimedCall)
    (ordered : InOrder calls) :
    (memory.exchanges calls).map Exchange.observed =
        (PromptStore.holding memory).outcomes calls ∧
      (∀ (index : Nat) (inside : index < calls.length), calls[index].call.isInternal = true →
        (memory.exchanges (calls.eraseIdx index)).map Exchange.observed =
          ((memory.exchanges calls).map Exchange.observed).eraseIdx index) ∧
      ∀ now, (∀ timed ∈ calls, timed.now ≤ now) →
        ∀ name configuration, memory.configuration? name = some configuration →
          let live := (((PromptStore.holding memory).after calls).expire now).entries name
          (∀ subject, ∃ listed,
            ((memory.after calls).perform now (.keys subject name)).answer = .ok listed ∧
              (listed.map Key.content).Nodup ∧
              ∀ content, content ∈ listed.map Key.content ↔ (live content).isSome) ∧
          (∀ subject key, ((memory.after calls).perform now (.remove subject name key)).answer =
            .ok (live key.content).isSome) ∧
          ∀ subject key format, live key.content = none →
            ((memory.after calls).perform now (.get subject name key format)).answer = .ok none := by
  refine ⟨observed_exchanges ordered, fun index inside internal => ?_,
    fun now past name configuration known => ?_⟩
  · have shorter : InOrder (calls.eraseIdx index) := ordered.sublist (List.eraseIdx_sublist ..)
    rw [observed_exchanges shorter, observed_exchanges ordered]
    exact PromptStore.outcomes_eraseIdx ordered index inside internal
  · have same := congrArg PromptStore.entries (expire_holding_after memory ordered past)
    have settings : (memory.after calls).configuration? = memory.configuration? :=
      (congrArg PromptStore.settings (expire_holding_after memory ordered past)).trans
        PromptStore.settings_after
    have settled : (memory.after calls).configuration? name = some configuration :=
      (congrFun settings name).trans known
    intro live
    have liveLeft (content : Bytes) : (memory.after calls).live? now name content = live content :=
      congrFun (congrFun same name) content
    refine ⟨fun subject => ?_, fun subject key => ?_, fun subject key format gone => ?_⟩
    · obtain ⟨listed, answered, distinct, listedLive⟩ :=
        answer_keys settled now subject
      refine ⟨listed, answered, distinct, fun content => ?_⟩
      rw [listedLive, liveLeft]
    · rw [answer_remove settled, liveLeft]
    · rw [answer_get settled, liveLeft, gone]

/-! ## A run -/

/-- A store with one cache of texts. -/
def textStore : Memory :=
  .create ⟨"node", "address", []⟩ [⟨"c", .unlimited, .unlimited, some .textPlain⟩]

/-- A text is written for one second, and just before that is over its entry is looked at. -/
def briefRun : List TimedCall :=
  [⟨.epoch, .put .anonymous "c"
      ⟨⟨Utf8.encode "k", .textPlain⟩, Utf8.encode "v", .textPlain, ⟨.seconds 1, .unlimited⟩⟩⟩,
    ⟨⟨nanosPerSecond - 1, by decide, by decide⟩,
      .entry .service "c" ⟨Utf8.encode "k", .octetStream⟩⟩]

/-- The text cannot be had as JSON, but once its second is over that is no longer said. -/
theorem expired_text_is_absent_in_any_format :
    (textStore.exchanges briefRun).map Exchange.observed =
        (PromptStore.holding textStore).outcomes briefRun ∧
      (textStore.exchanges (briefRun.eraseIdx 1)).map Exchange.observed =
        ((textStore.exchanges briefRun).map Exchange.observed).eraseIdx 1 ∧
      ((textStore.after briefRun).perform ⟨nanosPerSecond - 1, by decide, by decide⟩
        (.get .anonymous "c" ⟨Utf8.encode "k", .textPlain⟩ .json)).answer =
          .error (.encoding .textPlain .json) ∧
      ((textStore.after briefRun).perform ⟨nanosPerSecond, by decide, by decide⟩
        (.get .anonymous "c" ⟨Utf8.encode "k", .textPlain⟩ .json)).answer = .ok none := by
  have ordered : InOrder briefRun := List.pairwise_pair.2 (by decide)
  obtain ⟨alike, erased, ended⟩ := lazy_expiry_unobservable textStore briefRun ordered
  obtain ⟨-, -, missed⟩ := ended ⟨nanosPerSecond, by decide, by decide⟩ (by decide) "c"
    ⟨.unlimited, .unlimited, .ofStorage (some .textPlain)⟩ rfl
  exact ⟨alike, erased 1 (by decide) rfl, rfl, missed _ _ _ rfl⟩

end Memory

end CacheGate
