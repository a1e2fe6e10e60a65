import CacheGate.Proofs.Serve.CheckedChange
import CacheGate.Proofs.Store.Creation

/-!
# Refused requests leave the store intact

Whatever store a request is served from, its changing call is the last one
that it makes (`ChangesLast`), and if the answer is neither 200 nor 201 that
call failed or had nothing to remove. Over the in-memory store such a request
leaves every live entry as it is.

The second statement is about reads too, which move the last use of an entry
before they know how they end. A read that fetched a value and then found the
entry expired has moved the deadline of that entry, but only ever to a time
that has passed (`Memory.live?_of_lapsed_use`), as long as the clock does not
run backwards.
-/

namespace CacheGate

open Time Http

/-! ## Changes come last -/

/-- A call failed, or found nothing to remove. -/
def Exchange.CameToNothing (exchange : Exchange) : Prop :=
  (∃ failure, exchange.answer = .error failure) ∨
  ∃ subject cache key, exchange = ⟨.remove subject cache key, .ok false⟩

/-- At most one call may change the store. No call follows it, and it came to
nothing unless the status is a success. -/
def ChangesLast (exchanges : List Exchange) (status : Status) : Prop :=
  ∃ reads changes : List Exchange, exchanges = reads ++ changes ∧
    (∀ exchange ∈ reads, exchange.call.mutates = false) ∧ changes.length ≤ 1 ∧
    (¬ status.Succeeds → ∀ exchange ∈ changes, exchange.CameToNothing)

theorem ChangesLast.of_reads {exchanges : List Exchange} {status : Status}
    (reads : ∀ exchange ∈ exchanges, exchange.call.mutates = false) :
    ChangesLast exchanges status :=
  ⟨exchanges, [], (List.append_nil _).symm, reads, Nat.zero_le 1, fun _ _ member =>
    (List.not_mem_nil member).elim⟩

theorem ChangesLast.of_change (reads : List Exchange) {change : Exchange} {status : Status}
    (reading : ∀ exchange ∈ reads, exchange.call.mutates = false)
    (fails : ¬ status.Succeeds → change.CameToNothing) :
    ChangesLast (reads ++ [change]) status :=
  ⟨reads, [change], rfl, reading, Nat.le_refl 1, fun refused exchange member => by
    rw [List.mem_singleton.1 member]
    exact fails refused⟩

namespace Service

variable {service : Service} {request : Request} {cache raw : String}
  {exchanges : List Exchange} {result : Except AccessError Response}

theorem ReadCourse.not_mutates (course : service.ReadCourse request cache raw exchanges result) :
    ∀ exchange ∈ exchanges, exchange.call.mutates = false := by
  cases course with
  | unkeyed | unknown | unacceptable | unseen => simp [Call.mutates]
  | evaluated _ _ course => simpa [Call.mutates] using course.not_mutates

/-- Both answers to a write that was stored are successes. -/
theorem succeeds_of_stored {response : Response} {existing : Option Entry}
    (status : response.status = if existing.isSome then .ok else .created) :
    response.status.Succeeds := by
  rw [status]
  split <;> decide

theorem WriteCourse.changesLast
    (course : service.WriteCourse request cache raw exchanges result) :
    ChangesLast exchanges (answerOf result).status := by
  cases course with
  | unkeyed | bodiless | unknown | unsettled | unseen | refused =>
    exact .of_reads (by simp [Call.mutates])
  | failed =>
    exact .of_change [_, _] (by simp [Call.mutates]) fun _ => Or.inl ⟨_, rfl⟩
  | stored _ _ _ _ _ status =>
    exact .of_change [_, _] (by simp [Call.mutates]) fun refused =>
      (refused (succeeds_of_stored status)).elim

theorem DeleteCourse.changesLast
    (course : service.DeleteCourse request cache raw exchanges result) :
    ChangesLast exchanges (answerOf result).status := by
  cases course with
  | unkeyed | unseen | refused => exact .of_reads (by simp [Call.mutates])
  | failed => exact .of_change [_] (by simp [Call.mutates]) fun _ => Or.inl ⟨_, rfl⟩
  | @removed _ _ removed =>
    refine .of_change [_] (by simp [Call.mutates]) fun refused => ?_
    cases removed with
    | false => exact Or.inr ⟨_, _, _, rfl⟩
    | true => exact absurd (Or.inl rfl) refused

theorem ClearCourse.changesLast (course : ClearCourse request cache exchanges result) :
    ChangesLast exchanges (answerOf result).status := by
  cases course with
  | failed => exact .of_change [] (by simp) fun _ => Or.inl ⟨_, rfl⟩
  | cleared => exact .of_change [] (by simp) fun refused => absurd (Or.inl rfl) refused

theorem KeysCourse.not_mutates (course : service.KeysCourse request cache exchanges result) :
    ∀ exchange ∈ exchanges, exchange.call.mutates = false := by
  cases course <;> simp [Call.mutates]

end Service

/-! ## Uses that lapse -/

namespace Memory

variable {memory : Memory} {name other : String} {key : Key} {content value : Bytes}
  {now lapse later : Instant} {subject : Subject} {context : ExecutionContext}
  {format : MediaType}

/-- An entry that expires although it was just used would have expired unused
as well. -/
theorem live?_of_lapsed_use (used : memory.UsedBy now)
    (fetched : (memory.perform now (.get subject name key format)).answer = .ok (some value))
    (lapsed : (memory.perform now (.get subject name key format)).memory.live? lapse name
      key.content = none)
    (order : lapse ≤ later) :
    ((memory.perform now (.get subject name key format)).memory.perform lapse
      (.entry context name key)).memory.live? later other content =
        memory.live? later other content := by
  obtain ⟨configuration, stored, known, live, -, -⟩ := answer_get_eq_found_iff.1 fetched
  obtain ⟨held, -⟩ := live?_eq_some_iff.1 live
  by_cases same : other = name ∧ key.content = content
  · obtain ⟨rfl, rfl⟩ := same
    have touched : (memory.perform now (.get subject other key format)).memory.held? other
        key.content = some (stored.touch now) := by
      rw [held?_get_of_found fetched, if_pos ⟨rfl, rfl⟩, live]
      rfl
    have expired : (stored.touch now).isExpired lapse = true := by
      by_contra fresh
      have alive := live?_eq_some_iff.2 ⟨touched, Bool.not_eq_true _ ▸ fresh⟩
      rw [lapsed] at alive
      cases alive
    have gone : stored.isExpired later = true :=
      StoredEntry.isExpired_of_touch (used other key.content stored held)
        (StoredEntry.isExpired_mono order expired)
    have before : memory.live? later other key.content = none := by
      unfold live?
      rw [held]
      simp [gone]
    have after : ((memory.perform now (.get subject other key format)).memory.perform lapse
        (.entry context other key)).memory.held? other key.content = none := by
      rw [held?_entry, if_pos ⟨rfl, rfl⟩, lapsed]
    rw [before]
    unfold live?
    rw [after]
    rfl
  · unfold live?
    rw [held?_entry, if_neg same, held?_get_of_found fetched, if_neg same]

end Memory

/-! ## Refused reads -/

variable {world : World} {history : List Happening} {name : String} {content : Bytes}
  {later : Instant} {service : Service} {exchanges : List Exchange}
  {result : Except AccessError Response}

/-- An undisturbed read whose second look shows another value than the first
can only have found the entry expired: what it fetched was not changed since. -/
theorem ReadPlan.lapsed_of_moved {plan : ReadPlan} {entry : Entry} {media : MediaType}
    {value : Bytes} {snapshot : Option Entry}
    (calls : Consecutive history (plan.fetch media) (plan.look service))
    (calm : Undisturbed world.now history) (quiet : world.exchanges calls.earlier = [])
    (fetched : (calls.atFirst world).answer (plan.fetch media) = .ok (some value))
    (seen : (calls.atSecond world).answer (plan.look service) = .ok snapshot)
    (shown : ∀ held, world.memory.held? plan.cache plan.key.content = some held →
      held.value = entry.value)
    (differs : ∀ current, snapshot = some current →
      EntityTag.of current.value ≠ EntityTag.of entry.value) :
    (calls.atSecond world).live? plan.cache plan.key.content = none ∧ snapshot = none := by
  have started : (calls.atFirst world).memory = world.memory :=
    world.memory_after_of_quiet (calls.undisturbed world calm).1 quiet
  obtain ⟨configuration, stored, -, live, -, -⟩ := Memory.answer_get_eq_found_iff.1 fetched
  have held : world.memory.held? plan.cache plan.key.content = some stored := by
    rw [← started]
    exact (Memory.live?_eq_some_iff.1 live).1
  have touched : (calls.atSecond world).memory.held? plan.cache plan.key.content =
      some (stored.touch (calls.atFirst world).now) := by
    rw [calls.memory_atSecond world calm]
    refine (Memory.held?_get_of_found fetched).trans ?_
    rw [if_pos ⟨rfl, rfl⟩, live]
    rfl
  have found : ((calls.atSecond world).live? plan.cache plan.key.content).map
      StoredEntry.snapshot = snapshot := (Memory.answer_entry_eq_ok_iff.1 seen).2
  cases met : (calls.atSecond world).live? plan.cache plan.key.content with
  | none =>
    rw [met] at found
    exact ⟨rfl, found.symm⟩
  | some current =>
    have same : current = stored.touch (calls.atFirst world).now :=
      Option.some.inj ((Memory.live?_eq_some_iff.1 met).1.symm.trans touched)
    have value : current.value = entry.value := by
      rw [same]
      exact shown stored held
    rw [met] at found
    refine (differs current.snapshot found.symm ?_).elim
    exact congrArg EntityTag.of value

/-- The evaluation of a snapshot that shows what is there changes nothing
unless it ends in success. -/
theorem ReadPlan.Course.keeps_live {plan : ReadPlan} {remaining : Nat} {snapshot : Option Entry}
    (course : plan.Course service remaining snapshot exchanges result)
    (made : world.exchanges history = exchanges) (calm : Undisturbed world.now history)
    (used : world.memory.UsedBy world.now)
    (shown : ∀ entry, snapshot = some entry → ∀ held,
      world.memory.held? plan.cache plan.key.content = some held → held.value = entry.value)
    (refused : ¬ (answerOf result).status.Succeeds) (order : (world.after history).now ≤ later) :
    (world.after history).memory.live? later name content =
      world.memory.live? later name content := by
  cases course with
  | exhausted | absent | refused | unsettled =>
    exact world.live?_after_of_idle calm (by simp [made]) order
  | failed | gone =>
    exact world.live?_after_of_idle calm (by simp [made, fetch, Call.alters]) order
  | unconfirmed =>
    obtain ⟨calls, -, fetched, failed, -⟩ := World.exchanges_eq_pair (made.trans
      (List.nil_append _).symm)
    obtain ⟨configuration, known⟩ := calls.known_of_answered fetched rfl
    exact absurd (failed.symm.trans (Memory.answer_entry known)) (by simp)
  | @served _ _ current _ media value _ _ _ _ same reply =>
    cases reply with
    | @unplaced failure =>
      have pair : world.exchanges history = [⟨plan.fetch media, .ok (some value)⟩] ++
          [⟨plan.look service, .ok (some current)⟩,
            ⟨.distribution service.context plan.cache plan.key, .error failure⟩] := made
      obtain ⟨calls, -, seen, failed, -⟩ := World.exchanges_eq_pair pair
      obtain ⟨configuration, known⟩ := calls.known_of_answered seen rfl
      exact absurd (failed.symm.trans (Memory.answer_distribution known)) (by simp)
    | complete _ fresh => exact (refused (Or.inl fresh.status_finished)).elim
  | @moved _ entry media value snapshot rest _ _ differs again =>
    obtain ⟨calls, quiet, fetched, seen, ending⟩ := World.exchanges_eq_pair (made.trans
      (List.nil_append _).symm)
    obtain ⟨opening, -, closing⟩ := calls.undisturbed world calm
    obtain ⟨lapsed, rfl⟩ :=
      plan.lapsed_of_moved calls calm quiet fetched seen (shown entry rfl) differs
    have finished : rest = [] := by
      cases again <;> rfl
    have started : (calls.atFirst world).memory = world.memory :=
      world.memory_after_of_quiet opening quiet
    have touched : (calls.atSecond world).memory =
        ((calls.atFirst world).perform (plan.fetch media)).memory :=
      calls.memory_atSecond world calm
    have final : (world.after history).memory =
        ((calls.atSecond world).perform (plan.look service)).memory := by
      rw [calls.after_eq world]
      exact World.memory_after_of_quiet _ closing (ending.trans finished)
    have reached : (calls.atSecond world).now ≤ later := by
      refine le_trans ?_ order
      rw [calls.after_eq world]
      exact World.now_le_after ((calls.atSecond world).perform (plan.look service)) closing
    rw [final, ← started]
    change ((calls.atSecond world).memory.perform (calls.atSecond world).now
      (plan.look service)).memory.live? later name content = _
    change (calls.atSecond world).memory.live? _ plan.cache plan.key.content = none at lapsed
    rw [touched] at lapsed ⊢
    exact Memory.live?_of_lapsed_use (world.usedBy_after opening used) fetched lapsed reached

namespace Service

variable {request : Request} {cache raw : String}

/-- A read that is not answered 200 changes nothing. -/
theorem ReadCourse.keeps_live (course : service.ReadCourse request cache raw exchanges result)
    (made : world.exchanges history = exchanges) (calm : Undisturbed world.now history)
    (used : world.memory.UsedBy world.now) (refused : ¬ (answerOf result).status.Succeeds)
    (order : (world.after history).now ≤ later) :
    (world.after history).memory.live? later name content =
      world.memory.live? later name content := by
  cases course with
  | unkeyed | unknown | unacceptable | unseen =>
    exact world.live?_after_of_idle calm (by simp [made, Call.alters]) order
  | @evaluated key configuration negotiated snapshot rest _ _ _ course =>
    have cut : world.exchanges history = [⟨.configuration service.context cache, .ok configuration⟩,
        ⟨.entry service.context cache key, .ok snapshot⟩] ++ rest := made
    obtain ⟨earlier, ending, rfl, opening, made⟩ := World.exchanges_eq_append cut
    obtain ⟨calmOpening, calmEnding⟩ := (world.undisturbed_append earlier ending).1 calm
    rw [World.after_append] at order ⊢
    -- The snapshot shows what is there when its evaluation starts.
    have shown : ∀ entry, snapshot = some entry → ∀ held,
        (world.after earlier).memory.held? cache key.content = some held →
          held.value = entry.value := by
      intro entry same held left
      obtain ⟨calls, -, -, seen, ending⟩ := World.exchanges_eq_pair (opening.trans
        (List.nil_append _).symm)
      obtain ⟨-, found⟩ := Memory.answer_entry_eq_ok_iff.1 seen
      rw [calls.after_eq world, World.memory_after_of_quiet
        ((calls.atSecond world).perform (.entry service.context cache key))
        (calls.undisturbed world calmOpening).2.2 ending] at left
      change ((calls.atSecond world).memory.perform (calls.atSecond world).now
        (.entry service.context cache key)).memory.held? cache key.content = some held at left
      rw [Memory.held?_entry, if_pos ⟨rfl, rfl⟩] at left
      rw [left, same] at found
      exact congrArg Entry.value (Option.some.inj found)
    rw [course.keeps_live made calmEnding (world.usedBy_after calmOpening used) shown refused order]
    refine world.live?_after_of_idle calmOpening (by simp [opening, Call.alters]) ?_
    exact le_trans (World.now_le_after _ calmEnding) order

/-- A request that is answered neither 200 nor 201 alters nothing. -/
theorem WriteCourse.idle (course : service.WriteCourse request cache raw exchanges result)
    (refused : ¬ (answerOf result).status.Succeeds) :
    ∀ exchange ∈ exchanges, exchange.call.alters exchange.answer = false := by
  cases course with
  | unkeyed | bodiless | unknown | unsettled | unseen | refused | failed => simp [Call.alters]
  | stored _ _ _ _ _ status => exact (refused (succeeds_of_stored status)).elim

theorem DeleteCourse.idle (course : service.DeleteCourse request cache raw exchanges result)
    (refused : ¬ (answerOf result).status.Succeeds) :
    ∀ exchange ∈ exchanges, exchange.call.alters exchange.answer = false := by
  cases course with
  | unkeyed | unseen | refused | failed => simp [Call.alters]
  | @removed _ _ removed =>
    cases removed with
    | false => simp [Call.alters]
    | true => exact absurd (Or.inl rfl) refused

theorem ClearCourse.idle (course : ClearCourse request cache exchanges result)
    (refused : ¬ (answerOf result).status.Succeeds) :
    ∀ exchange ∈ exchanges, exchange.call.alters exchange.answer = false := by
  cases course with
  | failed => simp [Call.alters]
  | cleared => exact absurd (Or.inl rfl) refused

theorem KeysCourse.idle (course : service.KeysCourse request cache exchanges result) :
    ∀ exchange ∈ exchanges, exchange.call.alters exchange.answer = false := by
  cases course <;> simp [Call.alters]

/-! ## Dispatched requests -/

theorem perform_changesLast {operation : Operation}
    (run : (service.perform request operation cache raw).run.Yields exchanges result) :
    ChangesLast exchanges (answerOf result).status := by
  cases operation with
  | read => exact .of_reads (read_course run).not_mutates
  | write => exact (write_course run).changesLast
  | delete => exact (delete_course run).changesLast
  | clear => exact (clear_course run).changesLast
  | keys => exact .of_reads (keys_course run).not_mutates
  | search =>
    obtain ⟨rfl, -⟩ := Answering.yields_ofExcept_iff.1 run
    exact .of_reads (by simp)

theorem perform_keeps_live {operation : Operation}
    (run : (service.perform request operation cache raw).run.Yields (world.exchanges history)
      result)
    (calm : Undisturbed world.now history) (used : world.memory.UsedBy world.now)
    (refused : ¬ (answerOf result).status.Succeeds) (order : (world.after history).now ≤ later) :
    (world.after history).memory.live? later name content =
      world.memory.live? later name content := by
  cases operation with
  | read => exact (read_course run).keeps_live rfl calm used refused order
  | write => exact world.live?_after_of_idle calm ((write_course run).idle refused) order
  | delete => exact world.live?_after_of_idle calm ((delete_course run).idle refused) order
  | clear => exact world.live?_after_of_idle calm ((clear_course run).idle refused) order
  | keys => exact world.live?_after_of_idle calm (keys_course run).idle order
  | search =>
    obtain ⟨quiet, -⟩ := Answering.yields_ofExcept_iff.1 run
    exact world.live?_after_of_idle calm (by simp [quiet]) order

/-- What holds of every dispatched request: whatever the store answers, its
change comes last and came to nothing unless the request succeeds; and over
the in-memory store a request that does not succeed leaves every live entry as
it was, if nobody else acts and the clock never runs backwards. -/
theorem refused_requests_keep_store (service : Service) (request : Request) :
    (∀ exchanges response, (service.dispatch request).Yields exchanges response →
      ChangesLast exchanges response.status) ∧
    ∀ (world : World) (schedule : List (List Move × List Move))
      (ran : Handler.Ran Interleaved Response),
      (service.dispatch request).among world schedule = ran →
      Undisturbed world.now ran.state.history → world.memory.UsedBy world.now →
      ¬ ran.value.status.Succeeds →
      ∀ later, ran.state.world.now ≤ later → ∀ name content,
        ran.state.world.memory.live? later name content =
          world.memory.live? later name content := by
  refine ⟨fun exchanges response run => ?_, ?_⟩
  · rcases dispatch_course run with ⟨error, -, rfl, rfl⟩ | ⟨route, result, -, handled, rfl⟩
    · exact .of_reads (by simp)
    · exact perform_changesLast handled
  · rintro world schedule ran rfl calm used refused later order name content
    rw [Handler.among_world] at order ⊢
    rcases dispatch_course (Handler.among_yields _ world schedule) with
      ⟨error, -, quiet, -⟩ | ⟨route, result, -, handled, same⟩
    · refine world.live?_after_of_idle calm ?_ order
      rw [quiet]
      exact fun _ member => (List.not_mem_nil member).elim
    · rw [same] at refused
      exact perform_keeps_live handled calm used refused order

end Service

/-! ## Examples -/

/-- A guarded PUT over an entry that its tag excludes. -/
def refusedPut : Handler.Ran Interleaved Response :=
  (plainService.dispatch (guarded .put)).among (emptyWorld.perform (rivalPut "v2")) []

/-- The refused PUT makes no change and leaves the entry. -/
theorem refused_put_keeps_entry :
    refusedPut.value.status = .preconditionFailed ∧
    ChangesLast ((emptyWorld.perform (rivalPut "v2")).exchanges refusedPut.state.history)
      refusedPut.value.status ∧
    refusedPut.state.world.memory.live? .epoch "c" (Utf8.encode "k") =
      (emptyWorld.perform (rivalPut "v2")).memory.live? .epoch "c" (Utf8.encode "k") := by
  have status : refusedPut.value.status = .preconditionFailed := by decide +kernel
  have refused : ¬ refusedPut.value.status.Succeeds := by
    rw [status]
    decide
  have used : (emptyWorld.perform (rivalPut "v2")).memory.UsedBy .epoch :=
    Memory.usedBy_create.perform (le_refl Instant.epoch)
  have order : refusedPut.state.world.now ≤ .epoch := by decide +kernel
  exact ⟨status,
    (Service.refused_requests_keep_store plainService (guarded .put)).1 _ _
      (Handler.among_yields _ _ []),
    (Service.refused_requests_keep_store plainService (guarded .put)).2 _ [] refusedPut rfl
      (Handler.undisturbed_among_nil _ _ _) used refused .epoch order "c" (Utf8.encode "k")⟩

/-- So many seconds before the epoch. -/
def beforeEpoch (seconds : Fin 1000) : Instant where
  nanos := -(seconds.val * nanosPerSecond)
  first_le := by
    have bound := seconds.isLt
    unfold firstNano nanosPerSecond
    omega
  le_last := by
    unfold lastNano nanosPerSecond
    omega

/-- An entry that may be idle for ten seconds, put at the epoch. Then the clock
is set back. -/
def setBackWorld : World :=
  { emptyWorld.perform (.put .anonymous "c" ⟨⟨Utf8.encode "k", .textPlain⟩, Utf8.encode "v1",
      .textPlain, ⟨.unlimited, .seconds 10⟩⟩) with
    now := beforeEpoch 100 }

/-- A read after the clock was set back. It takes twenty seconds before the last snapshot. -/
def setBackRead : Handler.Ran Interleaved Response :=
  (plainService.dispatch (.of .get "c/k")).among setBackWorld
    [([], []), ([], []), ([], []), ([.clock (beforeEpoch 80)], [])]

/-- When the clock was set back, a use brings the deadline of an entry forward,
and a read may drop an entry that would have lived on. -/
theorem set_back_read_drops_live_entry :
    setBackRead.value.status = .notFound ∧
    (setBackWorld.memory.live? setBackRead.state.world.now "c" (Utf8.encode "k")).isSome = true ∧
    setBackRead.state.world.memory.live? setBackRead.state.world.now "c" (Utf8.encode "k") =
      none := by
  decide +kernel

end CacheGate
