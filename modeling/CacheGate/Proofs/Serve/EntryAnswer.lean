import CacheGate.Proofs.Serve.ReadYourWrites

/-!
# What clients are answered about an entry

The answers of a request that is handled alone, in terms of the live entry
under its key. A read that is answered 200 shows that entry
(`Service.handle_read_ok`), and 304 says that its evaluation came to
`notModified` (`Service.handle_read_notModified`). In the other direction, a
read whose key and format are in order, and a write that has nothing wrong
with it, are answered as their evaluation comes out
(`Service.handle_read_live`, `Service.handle_put`).
-/

namespace CacheGate

open Time Http

/-! ## Requests with nothing wrong -/

/-- A request that can read a value: its key is in order, and the format
negotiated for the value is one that the cache offers. -/
structure Readable (request : Request) (raw : String) (configuration : CacheConfiguration)
    (value : Bytes) : Prop where
  keyed : ∃ key, requestKey request raw = .ok key
  offered : ∃ media, responseFormat request.accept? configuration.conversion value = .ok media ∧
    configuration.conversion.supports media = true

/-- A request that can write: key, body, type and expiration settings are in order. -/
structure Writable (request : Request) (raw : String) (configuration : CacheConfiguration) :
    Prop where
  keyed : ∃ key, requestKey request raw = .ok key
  filled : ∃ body, writtenBody request = .ok body
  typed : ∃ media, writtenType request configuration.conversion = .ok media
  timed : ∃ metadata, resolveMetadata request configuration = .ok metadata

/-- What an answered read says about an entry. -/
structure Http.Response.Shows (response : Response) (method : Method) (stored : StoredEntry) :
    Prop where
  status : response.status = .ok
  etag : response.etag? = some (EntityTag.of stored.value).text
  lastModified : response.lastModified? = some (HttpDate.format stored.created.wholeSecond)
  body : response.body = if method = .head then [] else stored.value

/-- Evaluating a read of a stored entry. -/
def StoredEntry.verdict (stored : StoredEntry) (request : Request) (now : Instant) : Verdict :=
  (evaluateRead stored.snapshot (.ofRequest request) now).verdict

theorem shows_of_freshened {response : Response} {method : Method} {stored : StoredEntry}
    {conditions : Conditions} {now : Instant} {media : MediaType}
    (fresh : response.Freshened stored.snapshot (evaluateRead stored.snapshot conditions now) now) :
    (bodyFor method (response.entity media stored.value)).Shows method stored :=
  ⟨fresh.status_finished, fresh.etag?_finished, fresh.lastModified?_finished, body_bodyFor_entity⟩

theorem AccessError.response_status_ne_notModified (error : AccessError) :
    error.response.status ≠ .notModified := by
  change error.status ≠ .notModified
  cases error with
  | store error => cases error <;> exact fun same => by cases same
  | _ => exact fun same => by cases same

theorem Verdict.eq_notModified {verdict : Verdict} (ends : verdict.status? = some .notModified) :
    verdict = .notModified := by
  cases verdict <;> cases ends
  rfl

namespace Service

section Courses

variable {service : Service} {world : World} {calls : List Call} {request : Request}
  {cache raw : String} {exchanges : List Exchange} {result : Except AccessError Response}
  {configuration : CacheConfiguration} {stored : StoredEntry}

/-! ## Reads -/

/-- How a read ends when it is handled alone: refused before the evaluation,
and then nothing can be read by the request, or as the evaluation ends. -/
theorem ReadCourse.evaluation (course : service.ReadCourse request cache raw exchanges result)
    (made : world.exchanges (calls.map .own) = exchanges) :
    (∃ error, result = .error error ∧
      ∀ configuration value, world.memory.configuration? cache = some configuration →
        ¬ Readable request raw configuration value) ∨
    ∃ (key : Key) (configuration : CacheConfiguration) (negotiated : MediaType) (reached : World)
      (remaining : List Call) (rest : List Exchange),
      requestKey request raw = .ok key ∧
      negotiate request.accept? configuration.conversion = .ok negotiated ∧
      world.memory.configuration? cache = some configuration ∧
      reached.memory.configuration? cache = some configuration ∧
      reached.live? cache key.content = world.live? cache (Utf8.encode raw) ∧
      (world.memory.UsedBy world.now → reached.memory.UsedBy reached.now) ∧
      reached.exchanges (remaining.map .own) = rest ∧
      (ReadPlan.of request cache key configuration negotiated).Alone service reached rest result := by
  cases course with
  | unkeyed unkeyed =>
    refine Or.inl ⟨_, rfl, fun configuration value known readable => ?_⟩
    obtain ⟨key, keyed⟩ := readable.keyed
    cases unkeyed.symm.trans keyed
  | unknown =>
    refine Or.inl ⟨_, rfl, fun configuration value known readable => ?_⟩
    obtain ⟨-, -, answered, -⟩ := World.exchanges_own_eq_cons made
    cases answered.symm.trans (Memory.answer_configuration known)
  | unacceptable _ unacceptable =>
    refine Or.inl ⟨_, rfl, fun configuration value known readable => ?_⟩
    obtain ⟨-, -, answered, -⟩ := World.exchanges_own_eq_cons made
    obtain rfl := Option.some.inj ((World.configuration?_of_answered answered).symm.trans known)
    obtain ⟨media, settled, -⟩ := readable.offered
    obtain ⟨negotiated, found, -⟩ := responseFormat_eq_ok_iff.1 settled
    cases unacceptable.symm.trans found
  | unseen =>
    refine Or.inl ⟨_, rfl, fun configuration value known readable => ?_⟩
    obtain ⟨_, -, -, second⟩ := World.exchanges_own_eq_cons made
    obtain ⟨-, -, answered, -⟩ := World.exchanges_own_eq_cons second
    have knownNow : (world.perform (.configuration service.context cache)).memory.configuration?
        cache = some configuration := (Memory.configuration?_perform ..).trans known
    cases answered.symm.trans (Memory.answer_entry knownNow)
  | @evaluated key configuration negotiated snapshot rest _ keyed negotiation course =>
    obtain ⟨reached, remaining, alike, used, restEq, -, known, shown⟩ := evaluation_start made
    have same : reached.live? cache key.content = world.live? cache (Utf8.encode raw) := by
      rw [alike.live?_now, requestKey_content keyed]
    exact Or.inr ⟨key, configuration, negotiated, reached, remaining, rest, keyed, negotiation,
      (alike.configuration?_eq cache).symm.trans known, known, same, used, restEq,
      course.alone restEq known shown⟩

/-- A read that is answered 200 shows the live entry, which its request can read. -/
theorem ReadCourse.shows_of_ok (course : service.ReadCourse request cache raw exchanges result)
    (made : world.exchanges (calls.map .own) = exchanges)
    (found : (answerOf result).status = .ok) :
    ∃ configuration stored, world.memory.configuration? cache = some configuration ∧
      world.live? cache (Utf8.encode raw) = some stored ∧
      Readable request raw configuration stored.value ∧
      (answerOf result).Shows request.method stored := by
  rcases course.evaluation made with
    ⟨error, rfl, -⟩ | ⟨key, configuration, negotiated, reached, remaining, rest, keyed,
      negotiation, known, knownNow, same, -, restEq, alone⟩
  · exact (AccessError.not_succeeds_response _ (Or.inl found)).elim
  cases alone with
  | absent => cases found
  | refused _ ends => exact (Verdict.not_succeeds ends (Or.inl found)).elim
  | unsettled => exact (AccessError.not_succeeds_response _ (Or.inl found)).elim
  | failed => exact (AccessError.not_succeeds_response _ (Or.inl found)).elim
  | lapsed => cases found
  | @served stored _ media _ _ live _ settled fresh =>
    obtain ⟨-, -, fetched, -⟩ := World.exchanges_own_eq_cons restEq
    obtain ⟨settings, -, configured, -, supported, -⟩ := Memory.answer_get_eq_found_iff.1 fetched
    obtain rfl : settings = configuration := Option.some.inj (configured.symm.trans knownNow)
    have offered : responseFormat request.accept? settings.conversion stored.value = .ok media :=
      responseFormat_eq_ok_iff.2 ⟨negotiated, negotiation, settled⟩
    exact ⟨settings, stored, known, same.symm.trans live, ⟨⟨key, keyed⟩, media, offered, supported⟩,
      shows_of_freshened fresh⟩

/-- A read that is answered 304 was evaluated so. -/
theorem ReadCourse.verdict_of_notModified
    (course : service.ReadCourse request cache raw exchanges result)
    (made : world.exchanges (calls.map .own) = exchanges)
    (unmodified : (answerOf result).status = .notModified) :
    ∃ stored now, world.live? cache (Utf8.encode raw) = some stored ∧
      stored.verdict request now = .notModified := by
  rcases course.evaluation made with
    ⟨error, rfl, -⟩ | ⟨key, configuration, negotiated, reached, remaining, rest, -, -, -, -, same,
      -, -, alone⟩
  · exact (AccessError.response_status_ne_notModified error unmodified).elim
  cases alone with
  | absent => cases unmodified
  | @refused stored now status live ends =>
    obtain rfl : status = .notModified := unmodified
    exact ⟨stored, now, same.symm.trans live, Verdict.eq_notModified ends⟩
  | unsettled => exact (AccessError.response_status_ne_notModified _ unmodified).elim
  | failed => exact (AccessError.response_status_ne_notModified _ unmodified).elim
  | lapsed => cases unmodified
  | served _ _ _ fresh => cases fresh.status_finished.symm.trans unmodified

/-- A read of a live entry by a request that can read it is answered as its
evaluation comes out. -/
theorem ReadCourse.answer_of_live (course : service.ReadCourse request cache raw exchanges result)
    (made : world.exchanges (calls.map .own) = exchanges) (used : world.memory.UsedBy world.now)
    (known : world.memory.configuration? cache = some configuration)
    (live : world.live? cache (Utf8.encode raw) = some stored)
    (readable : Readable request raw configuration stored.value) :
    ∃ now, (∃ status, (stored.verdict request now).status? = some status ∧
        answerOf result = .ofStatus status) ∨
      (stored.verdict request now = .serve ∧ (answerOf result).Shows request.method stored) := by
  rcases course.evaluation made with
    ⟨error, rfl, unreadable⟩ | ⟨key, settings, negotiated, reached, remaining, rest, -,
      negotiation, configured, knownNow, same, usedNow, restEq, alone⟩
  · exact (unreadable configuration stored.value known readable).elim
  obtain rfl : settings = configuration := Option.some.inj (configured.symm.trans known)
  have met (shown : StoredEntry) (liveNow : reached.live? cache key.content = some shown) :
      shown = stored := Option.some.inj (liveNow.symm.trans (same.trans live))
  obtain ⟨media, offered, supported⟩ := readable.offered
  obtain ⟨chosen, found, settled⟩ := responseFormat_eq_ok_iff.1 offered
  obtain rfl : negotiated = chosen := Except.ok.inj (negotiation.symm.trans found)
  cases alone with
  | absent absent => cases (absent.symm.trans (same.trans live))
  | @refused shown now status liveNow ends =>
    obtain rfl := met shown liveNow
    exact ⟨now, Or.inl ⟨status, ends, rfl⟩⟩
  | @unsettled shown error liveNow unsettled =>
    obtain rfl := met shown liveNow
    cases unsettled.symm.trans settled
  | @failed shown format failure liveNow formatted failed =>
    obtain rfl := met shown liveNow
    obtain rfl : format = media := Except.ok.inj (formatted.symm.trans settled)
    have answered : reached.answer ((ReadPlan.of request cache key settings negotiated).fetch
        format) = .ok (some shown.value) := Memory.answer_get_eq_found_iff.2
      ⟨settings, shown, knownNow, liveNow, supported, rfl⟩
    cases failed.symm.trans answered
  | lapsed liveNow lapsed =>
    cases (Memory.isExpired_touch_now (usedNow used) liveNow).symm.trans lapsed
  | @served shown now _ _ _ liveNow serves _ fresh =>
    obtain rfl := met shown liveNow
    exact ⟨now, Or.inr ⟨serves, shows_of_freshened fresh⟩⟩

/-! ## Writes -/

/-- The snapshot that a write evaluates shows what is live. -/
theorem snapshot_eq {key : Key} {settings : CacheConfiguration} {existing : Option Entry}
    {rest : List Exchange}
    (made : world.exchanges (calls.map .own) =
      ⟨.configuration service.context cache, .ok settings⟩ ::
        ⟨.entry service.context cache key, .ok existing⟩ :: rest)
    (keyed : requestKey request raw = .ok key) :
    existing = (world.live? cache (Utf8.encode raw)).map StoredEntry.snapshot := by
  obtain ⟨reached, -, alike, -, -, -, -, shown⟩ := evaluation_start made
  rw [alike.live?_now, requestKey_content keyed] at shown
  exact shown.symm

/-- A write that succeeds was evaluated so, over what is live. -/
theorem WriteCourse.serves_of_succeeds
    (course : service.WriteCourse request cache raw exchanges result)
    (made : world.exchanges (calls.map .own) = exchanges)
    (found : (answerOf result).status.Succeeds) :
    evaluateWrite ((world.live? cache (Utf8.encode raw)).map StoredEntry.snapshot)
        (.ofRequest request) (request.method == .post) = .serve ∧
      (answerOf result).status =
        if (world.live? cache (Utf8.encode raw)).isSome then .ok else .created := by
  obtain ⟨configuration, existing, added, keyed, -, -, -, serves, status, rfl⟩ :=
    course.stored_of_succeeds found
  obtain rfl := snapshot_eq made keyed
  rw [Option.isSome_map] at status
  exact ⟨serves, status⟩

/-- A PUT with nothing wrong is answered as its evaluation comes out. If that
lets it proceed, it is answered 200 over a live entry, and 201 without one. -/
theorem WriteCourse.status_of_writable
    (course : service.WriteCourse request cache raw exchanges result)
    (made : world.exchanges (calls.map .own) = exchanges) (method : request.method = .put)
    (known : world.memory.configuration? cache = some configuration)
    (writable : Writable request raw configuration) :
    (answerOf result).status =
      ((evaluateWrite ((world.live? cache (Utf8.encode raw)).map StoredEntry.snapshot)
        (.ofRequest request) false).status?).getD
          (if (world.live? cache (Utf8.encode raw)).isSome then .ok else .created) := by
  have replacing : (request.method == .post) = false := by rw [method]; rfl
  cases course with
  | unkeyed unkeyed =>
    obtain ⟨key, keyed⟩ := writable.keyed
    cases unkeyed.symm.trans keyed
  | bodiless _ bodiless =>
    obtain ⟨body, filled⟩ := writable.filled
    cases bodiless.symm.trans filled
  | unknown =>
    obtain ⟨-, -, answered, -⟩ := World.exchanges_own_eq_cons made
    cases answered.symm.trans (Memory.answer_configuration known)
  | unsettled _ _ unsettled =>
    obtain ⟨-, -, answered, -⟩ := World.exchanges_own_eq_cons made
    obtain rfl := Option.some.inj ((World.configuration?_of_answered answered).symm.trans known)
    obtain ⟨media, typed⟩ := writable.typed
    obtain ⟨metadata, timed⟩ := writable.timed
    rcases unsettled with untyped | untimed
    · cases untyped.symm.trans typed
    · cases untimed.symm.trans timed
  | unseen =>
    obtain ⟨_, -, -, second⟩ := World.exchanges_own_eq_cons made
    obtain ⟨-, -, answered, -⟩ := World.exchanges_own_eq_cons second
    have knownNow : (world.perform (.configuration service.context cache)).memory.configuration?
        cache = some configuration := (Memory.configuration?_perform ..).trans known
    cases answered.symm.trans (Memory.answer_entry knownNow)
  | refused keyed _ ends status =>
    obtain rfl := snapshot_eq made keyed
    rw [replacing] at ends
    rw [ends]
    exact status
  | failed =>
    obtain ⟨reached, remaining, alike, -, last, -, settled, -⟩ := evaluation_start made
    obtain ⟨-, -, answered, -⟩ := World.exchanges_own_eq_cons last
    cases answered.symm.trans (Memory.answer_put settled)
  | stored keyed _ _ _ serves status =>
    obtain rfl := snapshot_eq made keyed
    rw [replacing] at serves
    rw [Option.isSome_map] at status
    rw [serves]
    exact status

end Courses

/-! ## Handled requests -/

section Handling

variable {service : Service} {memory : Memory} {visit : Visit} {cache key : String}
  {configuration : CacheConfiguration} {stored : StoredEntry}

/-- A read that is answered 200 shows the live entry, which its request can read. -/
theorem handle_read_ok (routed : visit.route? = some ⟨.read, cache, some key⟩)
    (found : (service.handle memory visit).2.status = .ok) :
    ∃ configuration stored, memory.configuration? cache = some configuration ∧
      memory.live? visit.now cache (Utf8.encode key) = some stored ∧
      Readable visit.request key configuration stored.value ∧
      (service.handle memory visit).2.Shows visit.request.method stored := by
  obtain ⟨calls, result, -, run, answer⟩ := service.handle_routed memory routed
  rw [answer] at found ⊢
  exact (read_course run).shows_of_ok rfl found

/-- A read that is answered 304 was evaluated so. -/
theorem handle_read_notModified (routed : visit.route? = some ⟨.read, cache, some key⟩)
    (unmodified : (service.handle memory visit).2.status = .notModified) :
    ∃ stored now, memory.live? visit.now cache (Utf8.encode key) = some stored ∧
      stored.verdict visit.request now = .notModified := by
  obtain ⟨calls, result, -, run, answer⟩ := service.handle_routed memory routed
  rw [answer] at unmodified
  exact (read_course run).verdict_of_notModified rfl unmodified

/-- A read of a live entry is answered as its evaluation comes out. -/
theorem handle_read_live (service : Service) (used : memory.UsedBy visit.now)
    (routed : visit.route? = some ⟨.read, cache, some key⟩)
    (known : memory.configuration? cache = some configuration)
    (live : memory.live? visit.now cache (Utf8.encode key) = some stored)
    (readable : Readable visit.request key configuration stored.value) :
    ∃ now, (∃ status, (stored.verdict visit.request now).status? = some status ∧
        (service.handle memory visit).2 = .ofStatus status) ∨
      (stored.verdict visit.request now = .serve ∧
        (service.handle memory visit).2.Shows visit.request.method stored) := by
  obtain ⟨calls, result, -, run, answer⟩ := service.handle_routed memory routed
  rw [answer]
  exact (read_course run).answer_of_live rfl used known live readable

/-- A read whose evaluation always ends in 304 is answered so. -/
theorem handle_read_unmodified (service : Service) (used : memory.UsedBy visit.now)
    (routed : visit.route? = some ⟨.read, cache, some key⟩)
    (known : memory.configuration? cache = some configuration)
    (live : memory.live? visit.now cache (Utf8.encode key) = some stored)
    (readable : Readable visit.request key configuration stored.value)
    (verdict : ∀ now, stored.verdict visit.request now = .notModified) :
    (service.handle memory visit).2 = .ofStatus .notModified := by
  obtain ⟨now, ⟨status, ends, answer⟩ | ⟨serves, -⟩⟩ :=
    service.handle_read_live used routed known live readable
  · rw [verdict now] at ends
    obtain rfl := Option.some.inj ends
    exact answer
  · cases (verdict now).symm.trans serves

/-- A read whose evaluation always lets it proceed shows the entry. -/
theorem handle_read_served (service : Service) (used : memory.UsedBy visit.now)
    (routed : visit.route? = some ⟨.read, cache, some key⟩)
    (known : memory.configuration? cache = some configuration)
    (live : memory.live? visit.now cache (Utf8.encode key) = some stored)
    (readable : Readable visit.request key configuration stored.value)
    (verdict : ∀ now, stored.verdict visit.request now = .serve) :
    (service.handle memory visit).2.Shows visit.request.method stored := by
  obtain ⟨now, ⟨status, ends, -⟩ | ⟨-, shows⟩⟩ :=
    service.handle_read_live used routed known live readable
  · rw [verdict now] at ends
    cases ends
  · exact shows

/-- A write that succeeds was evaluated so, over what is live. -/
theorem handle_write_succeeds (service : Service)
    (routed : visit.route? = some ⟨.write, cache, some key⟩)
    (found : (service.handle memory visit).2.status.Succeeds) :
    evaluateWrite ((memory.live? visit.now cache (Utf8.encode key)).map StoredEntry.snapshot)
        (.ofRequest visit.request) (visit.request.method == .post) = .serve ∧
      (service.handle memory visit).2.status =
        if (memory.live? visit.now cache (Utf8.encode key)).isSome then .ok else .created := by
  obtain ⟨calls, result, -, run, answer⟩ := service.handle_routed memory routed
  rw [answer] at found ⊢
  exact (write_course run).serves_of_succeeds rfl found

/-- A write that is refused leaves every live entry, whatever the clock did before. -/
theorem handle_write_refused {later : Instant} (service : Service)
    (routed : visit.route? = some ⟨.write, cache, some key⟩)
    (refused : ¬ (service.handle memory visit).2.status.Succeeds) (order : visit.now ≤ later)
    (name : String) (content : Bytes) :
    (service.handle memory visit).1.live? later name content =
      memory.live? later name content := by
  obtain ⟨calls, result, reached, run, answer⟩ := service.handle_routed memory routed
  rw [answer] at refused
  rw [reached]
  exact (World.alike_after ((write_course run).idle refused)).live?_eq later name content order

/-- A PUT with nothing wrong is answered as its evaluation comes out. -/
theorem handle_put (service : Service)
    (routed : visit.route? = some ⟨.write, cache, some key⟩) (method : visit.request.method = .put)
    (known : memory.configuration? cache = some configuration)
    (writable : Writable visit.request key configuration) :
    (service.handle memory visit).2.status =
      ((evaluateWrite ((memory.live? visit.now cache (Utf8.encode key)).map StoredEntry.snapshot)
        (.ofRequest visit.request) false).status?).getD
          (if (memory.live? visit.now cache (Utf8.encode key)).isSome then .ok else .created) := by
  obtain ⟨calls, result, -, run, answer⟩ := service.handle_routed memory routed
  rw [answer]
  exact (write_course run).status_of_writable rfl method known writable

/-- A PUT over a live entry is answered as its evaluation comes out. -/
theorem handle_put_live (service : Service)
    (routed : visit.route? = some ⟨.write, cache, some key⟩) (method : visit.request.method = .put)
    (known : memory.configuration? cache = some configuration)
    (live : memory.live? visit.now cache (Utf8.encode key) = some stored)
    (writable : Writable visit.request key configuration) :
    (service.handle memory visit).2.status =
      ((evaluateWrite (some stored.snapshot) (.ofRequest visit.request) false).status?).getD .ok := by
  have status := service.handle_put routed method known writable
  rw [live] at status
  exact status

end Handling

end Service

end CacheGate
