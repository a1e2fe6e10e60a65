import CacheGate.Proofs.Negotiation
import CacheGate.Proofs.Serve.Intact
import CacheGate.Proofs.Store.LiveCalls
import CacheGate.Proofs.Text.Letters

/-!
# Requests that are handled alone

What a request leaves in the in-memory store when nobody else acts and the
clock stands still while it is handled. Live entries are compared from that
time on: an entry that has expired may be dropped at any point.

* `ReadPlan.Course.alone`: an evaluation then ends at its first attempt.
* `Service.ReadCourse.uses`, `Service.WriteCourse.writes`,
  `Service.DeleteCourse.removes` and `Service.ClearCourse.clears`: what a
  request that succeeds does to each live entry.
* `Service.ReadCourse.plain`: a read without headers finds what is live.
-/

namespace CacheGate

open Time Http

/-! ## Worlds that look alike -/

/-- Two worlds with the same clock show the same caches, and the same live
entries from now on. -/
structure World.Alike (first second : World) : Prop where
  now_eq : second.now = first.now
  configuration?_eq (name : String) :
    second.memory.configuration? name = first.memory.configuration? name
  live?_eq (later : Instant) (name : String) (content : Bytes) : first.now ≤ later →
    second.memory.live? later name content = first.memory.live? later name content

namespace World

variable {world reached : World} {calls : List Call} {name : String} {content : Bytes}
  {later : Instant}

/-- Calls that alter nothing lead to a world that looks alike. -/
theorem alike_after (idle : ∀ exchange ∈ world.exchanges (calls.map .own),
    exchange.call.alters exchange.answer = false) : world.Alike (world.after (calls.map .own)) where
  now_eq := world.now_after_own calls
  configuration?_eq := world.configuration?_after (calls.map .own)
  live?_eq _ _ _ order := world.live?_after_of_idle (undisturbed_own world.now calls) idle
    (by rwa [world.now_after_own calls])

theorem Alike.live?_now (alike : world.Alike reached) :
    reached.live? name content = world.live? name content := by
  unfold live?
  rw [alike.now_eq]
  exact alike.live?_eq _ name content (le_refl _)

/-- After calls that altered nothing the rest is made in a world that looks alike. -/
theorem exchanges_alone_eq_append {reads rest : List Exchange}
    (cut : world.exchanges (calls.map .own) = reads ++ rest)
    (idle : ∀ exchange ∈ reads, exchange.call.alters exchange.answer = false) :
    ∃ (reached : World) (remaining : List Call), world.Alike reached ∧
      (world.memory.UsedBy world.now → reached.memory.UsedBy reached.now) ∧
      reached.exchanges (remaining.map .own) = rest ∧
      reached.after (remaining.map .own) = world.after (calls.map .own) := by
  obtain ⟨earlier, later, split, readsEq, restEq⟩ := exchanges_eq_append cut
  obtain ⟨opening, remaining, rfl, rfl, rfl⟩ := List.map_eq_append_iff.1 split
  have alike : world.Alike (world.after (opening.map .own)) := alike_after (by rwa [readsEq])
  refine ⟨_, remaining, alike, world.usedBy_after (undisturbed_own world.now opening), restEq, ?_⟩
  rw [List.map_append, after_append]

end World

/-! ## Reading -/

section Reading

variable {world : World} {calls : List Call} {service : Service} {plan : ReadPlan}
  {exchanges rest : List Exchange} {result : Except AccessError Response} {stored : StoredEntry}
  {media : MediaType} {value : Bytes} {later : Instant} {name : String} {content : Bytes}

/-- The value that is fetched is the live one, and the look after it shows the
same entry, used now, unless that makes it expire. -/
theorem ReadPlan.look_after_fetch {answer : Except StoreError (Option Entry)}
    (made : world.exchanges (calls.map .own) =
      ⟨plan.fetch media, .ok (some value)⟩ :: ⟨plan.look service, answer⟩ :: rest)
    (live : world.live? plan.cache plan.key.content = some stored) :
    value = stored.value ∧
      answer = .ok ((unexpired world.now (some (stored.touch world.now))).map
        StoredEntry.snapshot) := by
  obtain ⟨remaining, -, fetched, next⟩ := World.exchanges_own_eq_cons made
  obtain ⟨-, -, seen, -⟩ := World.exchanges_own_eq_cons next
  obtain ⟨configuration, met, known, shown, -, valueEq⟩ := Memory.answer_get_eq_found_iff.1 fetched
  have same : some met = some stored := shown.symm.trans live
  obtain rfl := Option.some.inj same
  have touched : (world.perform (plan.fetch media)).live? plan.cache plan.key.content =
      unexpired world.now (some (met.touch world.now)) := by
    exact (Memory.live?_get live fetched).trans (if_pos ⟨rfl, rfl⟩)
  have knownNow : (world.perform (plan.fetch media)).memory.configuration? plan.cache =
      some configuration := (Memory.configuration?_perform ..).trans known
  have found : (world.perform (plan.fetch media)).answer (plan.look service) =
      .ok (((world.perform (plan.fetch media)).live? plan.cache plan.key.content).map
        StoredEntry.snapshot) := Memory.answer_entry knownNow
  rw [touched] at found
  exact ⟨valueEq.symm, seen.symm.trans found⟩

/-- The entry that was fetched was used now, and nothing else changed. -/
theorem ReadPlan.live?_after_fetch
    (made : world.exchanges (calls.map .own) = ⟨plan.fetch media, .ok (some value)⟩ :: rest)
    (live : world.live? plan.cache plan.key.content = some stored)
    (idle : ∀ exchange ∈ rest, exchange.call.alters exchange.answer = false)
    (order : world.now ≤ later) :
    (world.after (calls.map .own)).memory.live? later name content =
      if name = plan.cache ∧ plan.key.content = content then
        unexpired later (some (stored.touch world.now))
      else world.memory.live? later name content := by
  obtain ⟨remaining, rfl, fetched, next⟩ := World.exchanges_own_eq_cons made
  have alike : (world.perform (plan.fetch media)).Alike
      ((world.perform (plan.fetch media)).after (remaining.map .own)) :=
    World.alike_after (by rwa [next])
  have left := alike.live?_eq later name content order
  exact left.trans (Memory.live?_get live fetched)

/-- How an evaluation ends when nobody disturbs it. The entry may expire by
being used only if its last use lies in the future. -/
inductive ReadPlan.Alone (plan : ReadPlan) (service : Service) (world : World) :
    List Exchange → Except AccessError Response → Prop
  | absent : world.live? plan.cache plan.key.content = none →
    plan.Alone service world [] (.ok (.ofStatus .notFound))
  | refused {stored : StoredEntry} {now : Instant} {status : Status} :
    world.live? plan.cache plan.key.content = some stored →
    (evaluateRead stored.snapshot plan.conditions now).verdict.status? = some status →
    plan.Alone service world [] (.ok (.ofStatus status))
  | unsettled {stored : StoredEntry} {error : AccessError} :
    world.live? plan.cache plan.key.content = some stored →
    plan.format stored.snapshot = .error error → plan.Alone service world [] (.error error)
  | failed {stored : StoredEntry} {media : MediaType} {failure : StoreError} :
    world.live? plan.cache plan.key.content = some stored →
    plan.format stored.snapshot = .ok media → world.answer (plan.fetch media) = .error failure →
    plan.Alone service world [⟨plan.fetch media, .error failure⟩] (.error (.store failure))
  | served {stored : StoredEntry} {now : Instant} {media : MediaType} {rest : List Exchange}
    {response : Response} :
    world.live? plan.cache plan.key.content = some stored →
    (evaluateRead stored.snapshot plan.conditions now).verdict = .serve →
    plan.format stored.snapshot = .ok media →
    response.Freshened stored.snapshot (evaluateRead stored.snapshot plan.conditions now) now →
    (∀ exchange ∈ rest, exchange.call.alters exchange.answer = false) →
    plan.Alone service world (⟨plan.fetch media, .ok (some stored.value)⟩ :: rest)
      (.ok (bodyFor plan.request.method (response.entity media stored.value)))
  | lapsed {stored : StoredEntry} {media : MediaType} {rest : List Exchange} :
    world.live? plan.cache plan.key.content = some stored →
    (stored.touch world.now).isExpired world.now = true →
    plan.Alone service world (⟨plan.fetch media, .ok (some stored.value)⟩ :: rest)
      (.ok (.ofStatus .notFound))

theorem ReadPlan.Course.alone {remaining : Nat} {snapshot : Option Entry}
    {configuration : CacheConfiguration}
    (course : plan.Course service (remaining + 2) snapshot exchanges result)
    (made : world.exchanges (calls.map .own) = exchanges)
    (known : world.memory.configuration? plan.cache = some configuration)
    (shown : (world.live? plan.cache plan.key.content).map StoredEntry.snapshot = snapshot) :
    plan.Alone service world exchanges result := by
  cases course with
  | absent => exact .absent (Option.map_eq_none_iff.1 shown)
  | refused verdict =>
    obtain ⟨stored, live, rfl⟩ := Option.map_eq_some_iff.1 shown
    exact .refused live verdict
  | unsettled unsettled =>
    obtain ⟨stored, live, rfl⟩ := Option.map_eq_some_iff.1 shown
    exact .unsettled live unsettled
  | failed settled =>
    obtain ⟨stored, live, rfl⟩ := Option.map_eq_some_iff.1 shown
    obtain ⟨-, -, answered, -⟩ := World.exchanges_own_eq_cons made
    exact .failed live settled answered
  | @gone _ _ media settled =>
    obtain ⟨stored, live, rfl⟩ := Option.map_eq_some_iff.1 shown
    obtain ⟨-, -, answered, -⟩ := World.exchanges_own_eq_cons made
    have found : world.answer (plan.fetch media) = _ := Memory.answer_get known
    change world.memory.live? world.now plan.cache plan.key.content = some stored at live
    rw [live, answered] at found
    dsimp only at found
    split at found <;> cases found
  | unconfirmed =>
    obtain ⟨stored, live, rfl⟩ := Option.map_eq_some_iff.1 shown
    cases (ReadPlan.look_after_fetch made live).2
  | @served _ entry current _ media value placed result serves settled same reply =>
    obtain ⟨stored, live, rfl⟩ := Option.map_eq_some_iff.1 shown
    obtain ⟨rfl, -⟩ := ReadPlan.look_after_fetch made live
    cases reply with
    | @unplaced failure =>
      obtain ⟨_, -, -, second⟩ := World.exchanges_own_eq_cons made
      obtain ⟨_, -, -, third⟩ := World.exchanges_own_eq_cons second
      obtain ⟨-, -, answered, -⟩ := World.exchanges_own_eq_cons third
      have knownNow : ((world.perform (plan.fetch media)).perform
          (plan.look service)).memory.configuration? plan.cache = some configuration :=
        (world.configuration?_after [.own (plan.fetch media), .own (plan.look service)]
          plan.cache).trans known
      cases answered.symm.trans (Memory.answer_distribution knownNow)
    | complete placing fresh =>
      refine .served live serves settled fresh fun exchange member => ?_
      rcases List.mem_cons.1 member with rfl | member
      · rfl
      · obtain ⟨placement, rfl⟩ := placing exchange member
        rfl
  | moved _ differs again =>
    obtain ⟨stored, live, rfl⟩ := Option.map_eq_some_iff.1 shown
    obtain ⟨rfl, same⟩ := ReadPlan.look_after_fetch made live
    rw [unexpired, Option.filter_some] at same
    cases expired : (stored.touch world.now).isExpired world.now with
    | false =>
      rw [expired] at same
      exact absurd rfl (differs (stored.touch world.now).snapshot (Except.ok.inj same))
    | true =>
      rw [expired] at same
      obtain rfl := Except.ok.inj same
      cases again with
      | absent => exact .lapsed live expired

/-- An evaluation without conditions, for which a format is always found, ends
with 200 or 404. -/
theorem ReadPlan.Alone.unconditional {configuration : CacheConfiguration}
    (alone : plan.Alone service world exchanges result) (used : world.memory.UsedBy world.now)
    (known : world.memory.configuration? plan.cache = some configuration)
    (serves : ∀ (stored : StoredEntry) now,
      (evaluateRead stored.snapshot plan.conditions now).verdict = .serve)
    (offered : ∀ stored : StoredEntry, ∃ media, plan.format stored.snapshot = .ok media ∧
      configuration.conversion.supports media = true) :
    (answerOf result).status =
      if (world.live? plan.cache plan.key.content).isSome then .ok else .notFound := by
  cases alone with
  | absent absent =>
    rw [absent]
    rfl
  | @refused stored now status _ ends =>
    rw [serves stored now] at ends
    cases ends
  | @unsettled stored error _ unsettled =>
    obtain ⟨media, settled, -⟩ := offered stored
    cases unsettled.symm.trans settled
  | @failed stored media failure met settled failed =>
    obtain ⟨format, found, supported⟩ := offered stored
    obtain rfl : media = format := Except.ok.inj (settled.symm.trans found)
    have answered : world.answer (plan.fetch media) = .ok (some stored.value) :=
      Memory.answer_get_eq_found_iff.2 ⟨configuration, stored, known, met, supported, rfl⟩
    cases failed.symm.trans answered
  | served met _ _ fresh =>
    rw [met]
    exact fresh.status_finished
  | lapsed met lapsed => cases (Memory.isExpired_touch_now used met).symm.trans lapsed

end Reading

/-! ## Whole requests -/

/-- The last call of a handler, after calls that altered nothing. -/
theorem World.exchanges_alone_eq_concat {world : World} {calls : List Call}
    {reads : List Exchange} {call : Call} {answer : Except StoreError call.Answer}
    (cut : world.exchanges (calls.map .own) = reads ++ [⟨call, answer⟩])
    (idle : ∀ exchange ∈ reads, exchange.call.alters exchange.answer = false) :
    ∃ reached : World, world.Alike reached ∧ reached.answer call = answer ∧
      world.after (calls.map .own) = reached.perform call := by
  obtain ⟨reached, remaining, alike, -, last, ended⟩ := exchanges_alone_eq_append cut idle
  obtain ⟨later, rfl, answered, rest⟩ := exchanges_own_eq_cons last
  cases later with
  | nil => exact ⟨reached, alike, answered, ended.symm⟩
  | cons next later => cases rest

theorem requestKey_content {request : Request} {raw : String} {key : Key}
    (keyed : requestKey request raw = .ok key) : key.content = Utf8.encode raw := by
  unfold requestKey at keyed
  split at keyed
  · cases keyed
  · cases typed : request.keyContentType with
    | error error =>
      rw [typed] at keyed
      cases keyed
    | ok media =>
      rw [typed] at keyed
      obtain rfl := Except.ok.inj keyed
      rfl

namespace Service

variable {world : World} {calls : List Call} {service : Service} {request : Request}
  {cache raw : String} {exchanges rest : List Exchange} {result : Except AccessError Response}

/-- When the evaluation of a read starts, the world looks as at the start of
the request, and the snapshot shows what is live. -/
theorem evaluation_start {key : Key} {configuration : CacheConfiguration}
    {snapshot : Option Entry}
    (made : world.exchanges (calls.map .own) =
      ⟨.configuration service.context cache, .ok configuration⟩ ::
        ⟨.entry service.context cache key, .ok snapshot⟩ :: rest) :
    ∃ (reached : World) (remaining : List Call), world.Alike reached ∧
      (world.memory.UsedBy world.now → reached.memory.UsedBy reached.now) ∧
      reached.exchanges (remaining.map .own) = rest ∧
      reached.after (remaining.map .own) = world.after (calls.map .own) ∧
      reached.memory.configuration? cache = some configuration ∧
      (reached.live? cache key.content).map StoredEntry.snapshot = snapshot := by
  have cut : world.exchanges (calls.map .own) =
      [⟨.configuration service.context cache, .ok configuration⟩,
        ⟨.entry service.context cache key, .ok snapshot⟩] ++ rest := made
  obtain ⟨reached, remaining, alike, usedNow, restEq, ended⟩ :=
    World.exchanges_alone_eq_append cut (by simp [Call.alters])
  obtain ⟨_, -, settings, second⟩ := World.exchanges_own_eq_cons made
  obtain ⟨_, -, looked, -⟩ := World.exchanges_own_eq_cons second
  have known := World.configuration?_of_answered settings
  have shown := (Memory.answer_entry_eq_ok_iff.1 looked).2
  have unmoved : (world.perform (.configuration service.context cache)).memory = world.memory :=
    Memory.memory_configuration
  refine ⟨reached, remaining, alike, usedNow, restEq, ended,
    (alike.configuration?_eq cache).trans known, ?_⟩
  rw [alike.live?_now]
  rwa [unmoved] at shown

/-- A read that succeeds is answered 200, shows the live entry and uses it. -/
theorem ReadCourse.uses (course : service.ReadCourse request cache raw exchanges result)
    (made : world.exchanges (calls.map .own) = exchanges)
    (found : (answerOf result).status.Succeeds) :
    (answerOf result).status = .ok ∧
    ∃ stored, world.live? cache (Utf8.encode raw) = some stored ∧
      (answerOf result).body = (if request.method = .head then [] else stored.value) ∧
      ∀ later name content, world.now ≤ later →
        (world.after (calls.map .own)).memory.live? later name content =
          if name = cache ∧ Utf8.encode raw = content then
            unexpired later (some (stored.touch world.now))
          else world.memory.live? later name content := by
  cases course with
  | unkeyed => exact (AccessError.not_succeeds_response _ found).elim
  | unknown => exact (AccessError.not_succeeds_response _ found).elim
  | unacceptable => exact (AccessError.not_succeeds_response _ found).elim
  | unseen => exact (AccessError.not_succeeds_response _ found).elim
  | @evaluated key configuration negotiated snapshot rest _ keyed _ course =>
    obtain ⟨reached, remaining, alike, usedNow, restEq, ended, known, shown⟩ :=
      evaluation_start made
    have content := requestKey_content keyed
    cases course.alone restEq known shown with
    | absent => exact absurd found (by decide)
    | refused _ ends => exact (Verdict.not_succeeds ends found).elim
    | unsettled => exact (AccessError.not_succeeds_response _ found).elim
    | failed => exact (AccessError.not_succeeds_response _ found).elim
    | lapsed => exact absurd found (by decide)
    | @served stored _ _ _ response live _ _ fresh idle =>
      have met : world.live? cache (Utf8.encode raw) = some stored := by
        rw [← content, ← alike.live?_now]
        exact live
      refine ⟨fresh.status_finished, stored, met, body_bodyFor_entity, fun later name other order => ?_⟩
      rw [← ended, ReadPlan.live?_after_fetch restEq live idle (alike.now_eq ▸ order), alike.now_eq,
        alike.live?_eq later name other order, ← content]
      rfl

/-- A write that succeeds leaves its value, created and used now. -/
theorem WriteCourse.writes (course : service.WriteCourse request cache raw exchanges result)
    (made : world.exchanges (calls.map .own) = exchanges)
    (found : (answerOf result).status.Succeeds) :
    ∃ configuration added, world.memory.configuration? cache = some configuration ∧
      writtenBody request = .ok added.value ∧
      writtenType request configuration.conversion = .ok added.mediaType ∧
      resolveMetadata request configuration = .ok added.metadata ∧
      ∀ later name content, world.now ≤ later →
        (world.after (calls.map .own)).memory.live? later name content =
          if name = cache ∧ Utf8.encode raw = content then
            unexpired later (some (Memory.fresh added world.now))
          else world.memory.live? later name content := by
  obtain ⟨configuration, existing, added, keyed, filled, typed, timed, -, -, rfl⟩ :=
    course.stored_of_succeeds found
  have cut : world.exchanges (calls.map .own) =
      [⟨.configuration service.context cache, .ok configuration⟩,
        ⟨.entry service.context cache added.key, .ok existing⟩] ++
        [⟨.put request.subject cache added, .ok ()⟩] := made
  obtain ⟨reached, alike, -, ended⟩ :=
    World.exchanges_alone_eq_concat cut (by simp [Call.alters])
  obtain ⟨-, -, settings, -⟩ := World.exchanges_own_eq_cons made
  have known := World.configuration?_of_answered settings
  refine ⟨configuration, added, known, filled, typed, timed, fun later name content order => ?_⟩
  have put : (reached.perform (.put request.subject cache added)).memory.live? later name content =
      if name = cache ∧ added.key.content = content then
        unexpired later (some (Memory.fresh added reached.now))
      else reached.memory.live? later name content :=
    Memory.live?_put ((alike.configuration?_eq cache).trans known)
  rw [ended, put, alike.now_eq, alike.live?_eq later name content order, requestKey_content keyed]

/-- A delete that succeeds leaves nothing under its key. -/
theorem DeleteCourse.removes (course : service.DeleteCourse request cache raw exchanges result)
    (made : world.exchanges (calls.map .own) = exchanges)
    (found : (answerOf result).status.Succeeds) :
    (answerOf result).status = .ok ∧ ∀ later name content, world.now ≤ later →
      (world.after (calls.map .own)).memory.live? later name content =
        if name = cache ∧ Utf8.encode raw = content then none
        else world.memory.live? later name content := by
  obtain ⟨key, existing, keyed, -, status, rfl⟩ := course.removed_of_succeeds found
  have cut : world.exchanges (calls.map .own) =
      [⟨.entry service.context cache key, .ok existing⟩] ++
        [⟨.remove request.subject cache key, .ok true⟩] := made
  obtain ⟨reached, alike, -, ended⟩ :=
    World.exchanges_alone_eq_concat cut (by simp [Call.alters])
  refine ⟨status, fun later name content order => ?_⟩
  have removed : (reached.perform (.remove request.subject cache key)).memory.live? later name
      content = if name = cache ∧ key.content = content then none
        else reached.memory.live? later name content := Memory.live?_remove
  rw [ended, removed, alike.live?_eq later name content order, requestKey_content keyed]

/-- A clearing that succeeds leaves nothing in its cache. -/
theorem ClearCourse.clears (course : ClearCourse request cache exchanges result)
    (made : world.exchanges (calls.map .own) = exchanges)
    (found : (answerOf result).status.Succeeds) :
    (answerOf result).status = .ok ∧ ∀ later name content,
      (world.after (calls.map .own)).memory.live? later name content =
        if name = cache then none else world.memory.live? later name content := by
  cases course with
  | failed => exact (AccessError.not_succeeds_response _ found).elim
  | cleared =>
    obtain ⟨remaining, rfl, -, rest⟩ := World.exchanges_own_eq_cons made
    cases remaining with
    | nil => exact ⟨rfl, fun _ _ _ => Memory.live?_clear⟩
    | cons next remaining => cases rest

/-! ## Reads without headers -/

theorem header?_of_empty (bare : request.headers = .empty) (name : String) :
    request.header? name = none := by
  unfold Request.header?
  rw [bare]
  rfl

theorem requestKey_of_bare (bare : request.headers = .empty) (keyed : raw.isEmpty = false) :
    requestKey request raw = .ok ⟨Utf8.encode raw, .textPlain⟩ := by
  unfold requestKey Request.keyContentType Request.mediaType?
  rw [keyed, header?_of_empty bare]
  rfl

theorem verdict_of_bare (bare : request.headers = .empty) (entry : Entry) (now : Instant) :
    (evaluateRead entry (.ofRequest request) now).verdict = .serve := by
  have unconditional : Conditions.ofRequest request = .unconditional := by
    unfold Conditions.ofRequest
    simp only [header?_of_empty bare]
    rfl
  rw [unconditional]
  change readVerdict _ _ entry.expiresAt .unconditional now = .serve
  unfold readVerdict failsMinFresh
  cases entry.expiresAt <;> rfl

/-- A read without headers is answered 200 if there is a live entry and 404 if
not, whatever concrete format the cache stores. -/
theorem ReadCourse.plain (course : service.ReadCourse request cache raw exchanges result)
    (made : world.exchanges (calls.map .own) = exchanges) (used : world.memory.UsedBy world.now)
    (bare : request.headers = .empty) (keyed : raw.isEmpty = false)
    (concrete : ∀ configuration, world.memory.configuration? cache = some configuration →
      ∃ storage, configuration.conversion = .ofStorage storage ∧
        ∀ format, storage = some format → format.isConcrete = true) :
    (answerOf result).status =
      if (world.live? cache (Utf8.encode raw)).isSome then .ok else .notFound := by
  have accepts : request.accept? = none := header?_of_empty bare Field.accept
  cases course with
  | unkeyed unkeyed =>
    rw [requestKey_of_bare bare keyed] at unkeyed
    cases unkeyed
  | @unknown _ failure =>
    obtain ⟨-, -, answered, -⟩ := World.exchanges_own_eq_cons made
    cases known : world.memory.configuration? cache with
    | none =>
      have failed : world.answer (.configuration service.context cache) =
          .error (.unknownCache cache) :=
        congrArg Memory.Performed.answer (Memory.perform_of_unknown known)
      rw [failed] at answered
      obtain rfl := Except.error.inj answered
      have absent : world.live? cache (Utf8.encode raw) = none := Memory.live?_of_unknown known
      rw [absent]
      rfl
    | some configuration => cases answered.symm.trans (Memory.answer_configuration known)
  | unacceptable _ unacceptable =>
    rw [accepts, negotiate_none] at unacceptable
    cases unacceptable
  | @unseen key configuration =>
    obtain ⟨_, -, settings, second⟩ := World.exchanges_own_eq_cons made
    obtain ⟨-, -, answered, -⟩ := World.exchanges_own_eq_cons second
    have known : (world.perform (.configuration service.context cache)).memory.configuration?
        cache = some configuration :=
      (Memory.configuration?_perform ..).trans (World.configuration?_of_answered settings)
    cases answered.symm.trans (Memory.answer_entry known)
  | @evaluated key configuration negotiated snapshot rest _ keyEq negotiation course =>
    obtain ⟨reached, remaining, alike, usedNow, restEq, ended, known, shown⟩ :=
      evaluation_start made
    have content := requestKey_content keyEq
    have live : world.live? cache (Utf8.encode raw) = reached.live? cache key.content := by
      rw [content, alike.live?_now]
    -- A format is found for every value, and the cache offers it.
    have offered (value : Bytes) : ∃ media,
        settle negotiated configuration.conversion.storage value request.accept? = .ok media ∧
          configuration.conversion.supports media = true := by
      obtain ⟨storage, conversion, formats⟩ :=
        concrete configuration ((alike.configuration?_eq cache).symm.trans known)
      rw [accepts, conversion] at negotiation ⊢
      exact negotiate_without_accept formats negotiation value
    rw [live]
    exact (course.alone restEq known shown).unconditional (usedNow used) known
      (fun stored now => verdict_of_bare bare stored.snapshot now) (fun stored => offered stored.value)

end Service

end CacheGate
