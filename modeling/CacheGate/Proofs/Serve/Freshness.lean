import CacheGate.Proofs.Serve.Validators

/-!
# Freshness that was promised

A 200 answer to a read says how long it stays fresh: by `Cache-Control`, a
number of whole seconds from now, and by `Expires`, a date. Both are rounded
down from the deadline of the entry as it was before the read used it.
`Service.promised_freshness_is_kept` says that the client can rely on them:
until then the entry is there and has the same value, unless a request wrote
or removed it.

The headers are computed from the time at which the read evaluates the entry,
so reads are evaluated forwards here (`ReadPlan.solo_attempt`), with the clock
that stands still.
-/

namespace CacheGate

open Time Http

/-! ## What the headers say -/

namespace Http.Response

/-- An answer that was given at `now` still promises to be fresh: its lifetime
in seconds is not over, or its expiry date has not come. -/
def PromisesFresh (response : Response) (now later : Instant) : Prop :=
  (∃ seconds : Nat, response.headers.get? Field.cacheControl =
      some ("max-age=" ++ Text.natText seconds) ∧
    later.nanos < now.nanos + seconds * nanosPerSecond) ∨
  ∃ text date, response.headers.get? Field.expires = some text ∧
    HttpDate.parse? text = some date ∧ later < date

end Http.Response

theorem of_get?_setHeader? {response : Response} {name text : String} {value : Option String}
    (present : (setHeader? response name value).headers.get? name = some text) :
    value = some text ∨ response.headers.get? name = some text := by
  cases value with
  | none => exact Or.inr present
  | some value =>
    by_cases sendable : isFieldText value = true
    · exact Or.inl ((Response.get?_setHeader_self sendable).symm.trans present)
    · change (response.setHeader name value).headers.get? name = some text at present
      rw [Response.setHeader, if_neg sendable] at present
      exact Or.inr present

section Headers

variable {entry : Entry} {evaluation : ReadEvaluation} {now : Instant} {text : String}

/-- The expiry date of an answer is that of the entry. -/
theorem expiresAt_of_expires
    (present : (freshnessResponse entry evaluation now).headers.get? Field.expires = some text) :
    evaluation.expiresAt.map HttpDate.format = some text := by
  unfold freshnessResponse at present
  simp (disch := decide) only [Response.get?_setHeader_of_ne, get?_setHeader?_of_ne] at present
  rcases of_get?_setHeader? present with dated | absurd
  · exact dated
  · simp (disch := decide) only [Response.get?_setHeader_of_ne] at absurd
    cases absurd

/-- The lifetime of an answer is that of the entry. -/
theorem cacheControl_of_cacheControl
    (present : (freshnessResponse entry evaluation now).headers.get? Field.cacheControl =
      some text) :
    cacheControl evaluation.expiresAt now = some text := by
  unfold freshnessResponse at present
  simp (disch := decide) only [Response.get?_setHeader_of_ne] at present
  rcases of_get?_setHeader? present with stated | absurd
  · exact stated
  · simp (disch := decide) only [Response.get?_setHeader_of_ne, get?_setHeader?_of_ne] at absurd
    cases absurd

end Headers

/-! ## Promises and deadlines -/

theorem Time.Instant.wholeSecond_le (instant : Instant) : instant.wholeSecond ≤ instant := by
  change instant.nanos / nanosPerSecond * nanosPerSecond ≤ instant.nanos
  exact Int.ediv_mul_le _ (by decide)

/-- So many whole seconds are left until the deadline. -/
theorem Time.Instant.add_secondsUntil_le {now deadline : Instant}
    (remains : 0 < now.secondsUntil deadline) :
    now.nanos + now.secondsUntil deadline * nanosPerSecond ≤ deadline.nanos := by
  have enough := mt (Instant.secondsUntil_lt_iff remains).2 (Int.lt_irrefl _)
  omega

section Promises

variable {now later : Instant} {expiresAt : Option Instant}

/-- While the lifetime that was stated lasts, the deadline is ahead. -/
theorem lt_deadline_of_maxAge {seconds : Nat}
    (stated : cacheControl expiresAt now = some ("max-age=" ++ Text.natText seconds))
    (early : later.nanos < now.nanos + seconds * nanosPerSecond) :
    ∃ deadline, expiresAt = some deadline ∧ later < deadline := by
  rw [← Text.intText_natCast] at stated
  obtain ⟨deadline, rfl, count, remains⟩ := cacheControl_eq_maxAge_iff.1 stated
  have left := Instant.add_secondsUntil_le (count ▸ remains)
  rw [count] at left
  have ahead : later.nanos < deadline.nanos := lt_of_lt_of_le early left
  exact ⟨deadline, rfl, ahead⟩

/-- Until the date that was stated, the deadline is ahead. -/
theorem lt_deadline_of_expires {text : String} {date : Instant}
    (stated : expiresAt.map HttpDate.format = some text) (read : HttpDate.parse? text = some date)
    (early : later < date) : ∃ deadline, expiresAt = some deadline ∧ later < deadline := by
  obtain ⟨deadline, rfl, rfl⟩ := Option.map_eq_some_iff.1 stated
  rw [HttpDate.parse?_format] at read
  obtain rfl := Option.some.inj read
  exact ⟨deadline, rfl, lt_of_lt_of_le early deadline.wholeSecond_le⟩

/-- An answer promises no more than the deadline of the entry that it shows. -/
theorem isExpired_of_promisesFresh {entry : Entry} {conditions : Conditions} {response : Response}
    {method : Method} {media : MediaType} {body : Bytes}
    (fresh : response.Freshened entry (evaluateRead entry conditions now) now)
    (promises : (bodyFor method (response.entity media body)).PromisesFresh now later) :
    entry.isExpired later = false := by
  have ahead : ∃ deadline, entry.expiresAt = some deadline ∧ later < deadline := by
    rcases promises with ⟨seconds, stated, early⟩ | ⟨text, date, stated, read, early⟩
    · rw [fresh.header_finished (by decide) (by decide)] at stated
      exact lt_deadline_of_maxAge (cacheControl_of_cacheControl stated) early
    · rw [fresh.header_finished (by decide) (by decide)] at stated
      exact lt_deadline_of_expires (expiresAt_of_expires stated) read early
  obtain ⟨deadline, known, early⟩ := ahead
  unfold Entry.isExpired
  rw [known]
  exact decide_eq_false (not_le_of_gt early)

end Promises

/-! ## Reads at a known time -/

namespace ReadPlan

variable {plan : ReadPlan} {service : Service} {world : World} {stored : StoredEntry}
  {media : MediaType} {configuration : CacheConfiguration}

/-- A snapshot of the live entry is evaluated at the time of the clock, and if
the verdict is to serve, the value that was evaluated is sent. -/
theorem solo_attempt (service : Service) (number remaining : Nat)
    (used : world.memory.UsedBy world.now)
    (known : world.memory.configuration? plan.cache = some configuration)
    (live : world.live? plan.cache plan.key.content = some stored)
    (settled : plan.format stored.snapshot = .ok media)
    (supported : configuration.conversion.supports media = true)
    (serves : (evaluateRead stored.snapshot plan.conditions world.now).verdict = .serve) :
    ∃ reached : World,
      ((plan.attempt service number (remaining + 1) (some stored.snapshot)).run.solo world).2 =
        ((plan.respond service stored.snapshot
          (evaluateRead stored.snapshot plan.conditions world.now) world.now media
          stored.value).run.solo reached).2 := by
  have fetched : world.answer (plan.fetch media) = .ok (some stored.value) :=
    Memory.answer_get_eq_found_iff.2 ⟨configuration, stored, known, live, supported, rfl⟩
  have touched : (world.perform (plan.fetch media)).live? plan.cache plan.key.content =
      unexpired world.now (some (stored.touch world.now)) :=
    (Memory.live?_get live fetched).trans (if_pos ⟨rfl, rfl⟩)
  rw [unexpired, Option.filter_some, Memory.isExpired_touch_now used live] at touched
  have knownNow : (world.perform (plan.fetch media)).memory.configuration? plan.cache =
      some configuration := (Memory.configuration?_perform ..).trans known
  have seen : (world.perform (plan.fetch media)).answer (plan.look service) =
      .ok (some (stored.touch world.now).snapshot) := by
    refine (Memory.answer_entry knownNow).trans ?_
    exact congrArg (fun shown => Except.ok (shown.map StoredEntry.snapshot)) touched
  have same : unchanged (evaluateRead stored.snapshot plan.conditions world.now)
      (some (stored.touch world.now).snapshot) = true := decide_eq_true rfl
  refine ⟨(world.perform (plan.fetch media)).perform (plan.look service), ?_⟩
  unfold attempt
  rw [Answering.solo_clock_bind, Answering.solo_log_bind, serves]
  refine (congrArg Prod.snd (Answering.solo_ofExcept_bind settled)).trans ?_
  refine (congrArg Prod.snd (Answering.solo_ask_bind fetched)).trans ?_
  refine (congrArg Prod.snd (Answering.solo_ask_bind seen)).trans ?_
  rw [if_pos same]

/-- A snapshot that is refused is refused by its evaluation at the time of the clock. -/
theorem solo_attempt_of_refused {entry : Entry} {status : Status} (service : Service)
    (number remaining : Nat)
    (refused : (evaluateRead entry plan.conditions world.now).verdict.status? = some status) :
    ((plan.attempt service number (remaining + 1) (some entry)).run.solo world).2 =
      .ok (.ofStatus status) := by
  unfold attempt
  rw [Answering.solo_clock_bind, Answering.solo_log_bind, refused]
  rfl

end ReadPlan

namespace Service

section Reading

variable {memory : Memory} {request : Request} {visit : Visit}
  {cache raw key : String} {resolved : Key} {configuration : CacheConfiguration}
  {negotiated : MediaType}

/-- A read whose key and format are in order comes to the evaluation of what is live. -/
theorem solo_read (service : Service) (world : World) (used : world.memory.UsedBy world.now)
    (keyed : requestKey request raw = .ok resolved)
    (known : world.memory.configuration? cache = some configuration)
    (negotiation : negotiate request.accept? configuration.conversion = .ok negotiated) :
    ∃ reached : World, world.Alike reached ∧ reached.memory.UsedBy reached.now ∧
      ((service.read request cache raw).run.solo world).2 =
        (((ReadPlan.of request cache resolved configuration negotiated).attempt service 1
          readAttempts ((world.live? cache resolved.content).map
            StoredEntry.snapshot)).run.solo reached).2 := by
  let opening : List Call :=
    [.configuration service.context cache, .entry service.context cache resolved]
  have settings : world.answer (.configuration service.context cache) = .ok configuration :=
    Memory.answer_configuration known
  have unmoved : world.perform (.configuration service.context cache) = world :=
    congrArg (World.mk · world.now) Memory.memory_configuration
  have seen : (world.perform (.configuration service.context cache)).answer
      (.entry service.context cache resolved) =
        .ok ((world.live? cache resolved.content).map StoredEntry.snapshot) := by
    rw [unmoved]
    exact Memory.answer_entry known
  have idle : ∀ exchange ∈ world.exchanges (opening.map .own),
      exchange.call.alters exchange.answer = false := by
    simp [opening, World.exchanges, Call.alters]
  refine ⟨world.after (opening.map .own), World.alike_after idle,
    world.usedBy_after (undisturbed_own world.now opening) used, ?_⟩
  refine (congrArg Prod.snd (Answering.solo_ofExcept_bind keyed)).trans ?_
  refine (congrArg Prod.snd (Answering.solo_ask_bind settings)).trans ?_
  refine (congrArg Prod.snd (Answering.solo_ofExcept_bind negotiation)).trans ?_
  exact congrArg Prod.snd (Answering.solo_ask_bind seen)

/-- The headers of a read that is answered 200 are those of the live entry, as
it was at the time of the request, and its body has the format that is settled
for the value. -/
theorem handle_read_freshened (service : Service) (used : memory.UsedBy visit.now)
    (routed : visit.route? = some ⟨.read, cache, some key⟩)
    (found : (service.handle memory visit).2.status = .ok) :
    ∃ (configuration : CacheConfiguration) (stored : StoredEntry) (response : Response)
        (media : MediaType),
      memory.configuration? cache = some configuration ∧
      memory.live? visit.now cache (Utf8.encode key) = some stored ∧
      responseFormat visit.request.accept? configuration.conversion stored.value = .ok media ∧
      response.Freshened stored.snapshot
        (evaluateRead stored.snapshot (.ofRequest visit.request) visit.now) visit.now ∧
      (service.handle memory visit).2 =
        bodyFor visit.request.method (response.entity media stored.value) := by
  obtain ⟨configuration, stored, known, live, readable, -⟩ := handle_read_ok routed found
  obtain ⟨resolved, keyed⟩ := readable.keyed
  obtain ⟨media, offered, supported⟩ := readable.offered
  obtain ⟨negotiated, negotiation, settled⟩ := responseFormat_eq_ok_iff.1 offered
  let plan := ReadPlan.of visit.request cache resolved configuration negotiated
  obtain ⟨reached, alike, usedNow, ran⟩ :=
    service.solo_read ⟨memory, visit.now⟩ used keyed known negotiation
  have shown : World.live? ⟨memory, visit.now⟩ cache resolved.content = some stored := by
    rw [requestKey_content keyed]
    exact live
  have answer : (service.handle memory visit).2 =
      answerOf ((plan.attempt service 1 readAttempts (some stored.snapshot)).run.solo
        reached).2 := by
    rw [service.handle_routed_eq_solo memory routed]
    refine congrArg answerOf (ran.trans ?_)
    rw [shown]
    rfl
  cases ends : (evaluateRead stored.snapshot plan.conditions reached.now).verdict.status? with
  | some status =>
    rw [answer.trans (congrArg answerOf (plan.solo_attempt_of_refused service 1 2 ends))] at found
    exact (Verdict.not_succeeds ends (Or.inl found)).elim
  | none =>
    obtain ⟨last, served⟩ := plan.solo_attempt service 1 2 usedNow
      ((alike.configuration?_eq cache).trans known) (alike.live?_now.trans shown) settled supported
      (Verdict.eq_serve ends)
    obtain ⟨exchanges, yields⟩ := (plan.respond service stored.snapshot
      (evaluateRead stored.snapshot plan.conditions reached.now) reached.now media
      stored.value).run.yields_solo last
    have answer := answer.trans (congrArg answerOf served)
    generalize ((plan.respond service stored.snapshot (evaluateRead stored.snapshot
      plan.conditions reached.now) reached.now media stored.value).run.solo last).2 = result
      at yields answer
    cases ReadPlan.respond_course yields with
    | unplaced =>
      rw [answer] at found
      exact (AccessError.not_succeeds_response _ (Or.inl found)).elim
    | @complete _ response _ fresh =>
      rw [alike.now_eq] at fresh
      exact ⟨configuration, stored, response, media, known, live, offered, fresh, answer⟩

end Reading

end Service

/-! ## Entries that are only read -/

/-- A setting lasts longer when it is counted from a later start. -/
theorem Expiration.Lasts.of_le {setting : Expiration} {start later now : Instant}
    (lasts : setting.Lasts start now) (order : start ≤ later) : setting.Lasts later now := by
  intro count same deadline sum
  obtain ⟨earlier, earlierSum, le⟩ :=
    Instant.addSeconds?_of_le order (Instant.addSeconds?_eq_some_iff.2 sum)
  exact lt_of_lt_of_le
    (lasts count same earlier (Instant.addSeconds?_eq_some_iff.1 earlierSum)) le

/-- Requests that neither write nor remove an entry leave its write standing,
and at most use it. -/
theorem standing?_append_of_unchanged {cache key : String} {later earlier : List Handled}
    {standing : Standing}
    (unchanged : ∀ handled ∈ later, ¬ handled.Writes cache key ∧ ¬ handled.Removes cache key)
    (found : standing? cache key earlier = some standing) :
    ∃ lastUse, standing? cache key (later ++ earlier) = some ⟨standing.write, lastUse⟩ ∧
      (lastUse = standing.lastUse ∨ ∃ handled ∈ later, lastUse = handled.now) := by
  induction later with
  | nil => exact ⟨standing.lastUse, found, Or.inl rfl⟩
  | cons handled later ih =>
    obtain ⟨⟨writes, removes⟩, rest⟩ := List.forall_mem_cons.1 unchanged
    obtain ⟨lastUse, stands, used⟩ := ih rest
    rw [List.cons_append]
    by_cases uses : handled.Uses cache key
    · rw [standing?_of_uses uses, stands]
      exact ⟨handled.now, rfl, Or.inr ⟨handled, List.mem_cons_self, rfl⟩⟩
    · rw [standing?_of_passes ⟨writes, removes, uses⟩, stands]
      refine ⟨lastUse, rfl, used.imp id ?_⟩
      rintro ⟨user, member, same⟩
      exact ⟨user, List.mem_cons_of_mem _ member, same⟩

/-- An entry that an earlier one became by being used is live as long as that one would be. -/
theorem Standing.Leaves.isExpired_of_later {start : Memory} {cache : String}
    {standing after : Standing} {stored current : StoredEntry} {now : Instant}
    (leaves : standing.Leaves start cache stored) (left : after.Leaves start cache current)
    (write : after.write = standing.write) (order : standing.lastUse ≤ after.lastUse)
    (fresh : stored.isExpired now = false) : current.isExpired now = false := by
  obtain ⟨configuration, known, resolved⟩ := leaves.metadata
  obtain ⟨settings, knownAfter, resolvedAfter⟩ := left.metadata
  obtain rfl : configuration = settings := Option.some.inj (known.symm.trans knownAfter)
  rw [write] at resolvedAfter
  have metadata : stored.metadata = current.metadata :=
    Except.ok.inj (resolved.symm.trans resolvedAfter)
  obtain ⟨lifespan, idle⟩ := StoredEntry.isExpired_eq_false_iff.1 fresh
  rw [metadata, leaves.created, ← write] at lifespan
  rw [metadata, leaves.lastUsed] at idle
  rw [StoredEntry.isExpired_eq_false_iff, left.created, left.lastUsed]
  exact ⟨lifespan, idle.of_le order⟩

namespace Service

section Runs

variable {service : Service} {start : Memory} {definitions : List CacheDefinition}
  {cluster : ClusterView} {earlier between : List Visit} {get again : Visit}
  {cache key : String} {stored : StoredEntry}

/-- The entry that a read showed is there with its value at any time at which
that entry would not have expired, if it is neither written nor removed. -/
theorem live?_of_unchanged (created : start = .create cluster definitions)
    (ordered : Chronological (again :: (between ++ get :: earlier)))
    (routed : get.route? = some ⟨.read, cache, some key⟩)
    (live : (service.handleAll start earlier).1.live? get.now cache (Utf8.encode key) =
      some stored)
    (unchanged : ∀ handled ∈ service.history (service.handleAll start (get :: earlier)).1 between,
      ¬ handled.Writes cache key ∧ ¬ handled.Removes cache key)
    (fresh : stored.isExpired again.now = false) :
    ∃ current, (service.handleAll start (between ++ get :: earlier)).1.live? again.now cache
        (Utf8.encode key) = some current ∧ current.value = stored.value := by
  obtain ⟨last, ordered⟩ := List.pairwise_cons.1 ordered
  obtain ⟨-, past, order⟩ := List.pairwise_append.1 ordered
  obtain ⟨first, before⟩ := List.pairwise_cons.1 past
  have recalls := service.recalls_run created before first
  obtain ⟨standing, found, leaves, -⟩ := (recalls.entries cache key).leaves_of_live? live
  let read : Handled := ⟨get, service.answerAfter start earlier get⟩
  have reads : ¬ read.Writes cache key ∧ ¬ read.Removes cache key := by
    refine ⟨fun writes => ?_, fun removes => ?_⟩
    · cases writes.1.symm.trans routed
    · rcases removes.1 with route | route <;> cases route.symm.trans routed
  have split : service.history start (between ++ get :: earlier) =
      (service.history (service.handleAll start (get :: earlier)).1 between ++ [read]) ++
        service.history start earlier := by
    rw [List.append_assoc]
    exact congrArg Prod.snd (service.handleAll_append start between (get :: earlier))
  have since : ∀ handled ∈ service.history (service.handleAll start (get :: earlier)).1 between ++
      [read], get.now ≤ handled.now := by
    intro handled member
    rcases List.mem_append.1 member with member | member
    · exact order _ (mem_of_mem_handleAll member) get List.mem_cons_self
    · rw [List.mem_singleton.1 member]
  obtain ⟨lastUse, foundAfter, usedAfter⟩ := standing?_append_of_unchanged
    (List.forall_mem_append.2 ⟨unchanged, List.forall_mem_singleton.2 reads⟩) found
  have later : standing.lastUse ≤ lastUse := by
    rcases usedAfter with same | ⟨handled, member, same⟩
    · exact le_of_eq same.symm
    · have used : stored.lastUsed ≤ get.now :=
        recalls.used cache (Utf8.encode key) stored (Memory.live?_eq_some_iff.1 live).1
      rw [← leaves.lastUsed, same]
      exact le_trans used (since handled member)
  obtain ⟨kept, explained, shown⟩ := (service.recalls_run created ordered last).entries cache key
  rw [split, foundAfter] at explained
  cases explained with
  | @some _ current left =>
    have body := left.body.symm.trans leaves.body
    refine ⟨current, ?_, Option.some.inj body⟩
    rw [shown again.now (le_refl again.now), unexpired, Option.filter_some,
      leaves.isExpired_of_later left rfl later fresh]
    rfl

/-- A read without conditions is served, whatever the time. -/
theorem verdict_of_unconditional {request : Request}
    (unconditional : Conditions.ofRequest request = .unconditional) (now : Instant) :
    stored.verdict request now = .serve := by
  change readVerdict (EntityTag.of stored.value) _ _ _ now = _
  rw [unconditional]
  apply readVerdict_of_match <;> simp [Conditions.unconditional]

/-- Promised freshness is kept. If a GET is answered 200 with a lifetime or an
expiry date, then until that is over a GET without conditions that accepts the
same formats is answered 200 with the same body, unless a request in between
wrote or removed the entry. -/
theorem promised_freshness_is_kept (service : Service) (cluster : ClusterView)
    (definitions : List CacheDefinition) (start : Memory)
    (created : start = .create cluster definitions) (earlier between : List Visit)
    (get again : Visit) (ordered : Chronological (again :: (between ++ get :: earlier)))
    (cache key : String) (routed : get.route? = some ⟨.read, cache, some key⟩)
    (routedAgain : again.route? = some ⟨.read, cache, some key⟩)
    (method : get.request.method = .get) (methodAgain : again.request.method = .get)
    (unconditional : Conditions.ofRequest again.request = .unconditional)
    (accept : again.request.accept? = get.request.accept?)
    (keyed : ∃ resolved, requestKey again.request key = .ok resolved)
    (answer : Response) (answered : service.answerAfter start earlier get = answer)
    (found : answer.status = .ok) (promises : answer.PromisesFresh get.now again.now)
    (unchanged : ∀ handled ∈ service.history (service.handleAll start (get :: earlier)).1 between,
      ¬ handled.Writes cache key ∧ ¬ handled.Removes cache key) :
    (service.answerAfter start (between ++ get :: earlier) again).status = .ok ∧
      (service.answerAfter start (between ++ get :: earlier) again).body = answer.body := by
  subst answered
  obtain ⟨last, run⟩ := List.pairwise_cons.1 ordered
  obtain ⟨first, before⟩ := List.pairwise_cons.1 (List.pairwise_append.1 run).2.1
  have recalls := service.recalls_run created run last
  have used : (service.handleAll start earlier).1.UsedBy get.now :=
    (service.recalls_run created before first).used
  obtain ⟨configuration, stored, known, live, readable, shows⟩ := handle_read_ok routed found
  obtain ⟨_, met, response, media, -, liveToo, -, fresh, answer⟩ :=
    service.handle_read_freshened used routed found
  obtain rfl : stored = met := Option.some.inj (live.symm.trans liveToo)
  rw [show service.answerAfter start earlier get = _ from answer] at promises
  have lasts : stored.isExpired again.now = false := isExpired_of_promisesFresh fresh promises
  obtain ⟨current, liveNow, value⟩ :=
    live?_of_unchanged created ordered routed live unchanged lasts
  have knownNow : (service.handleAll start (between ++ get :: earlier)).1.configuration? cache =
      some configuration := by
    rw [configuration?_handleAll] at known ⊢
    exact known
  have readableNow : Readable again.request key configuration current.value := by
    refine ⟨keyed, ?_⟩
    rw [accept, value]
    exact readable.offered
  have again := service.handle_read_served recalls.used routedAgain knownNow liveNow readableNow
    (verdict_of_unconditional unconditional)
  refine ⟨again.status, again.body.trans ?_⟩
  rw [methodAgain, value]
  exact (shows.body.trans (by rw [method])).symm

end Runs

end Service

/-! ## A run -/

/-- A value with a lifespan of ten seconds is answered the same after four and
a half seconds. -/
theorem timed_value_is_fresh_for_ten_seconds :
    (plainService.answerAfter emptyWorld.memory [halfPastGet, plainGet, timedPut]
        ⟨threeLater, .of .get "c/k"⟩).status = .ok ∧
      (plainService.answerAfter emptyWorld.memory [halfPastGet, plainGet, timedPut]
        ⟨threeLater, .of .get "c/k"⟩).body =
          (plainService.answerAfter emptyWorld.memory [timedPut] plainGet).body := by
  have ordered : Chronological [⟨threeLater, .of .get "c/k"⟩, halfPastGet, plainGet, timedPut] := by
    unfold Chronological
    decide +kernel
  have found : (plainService.answerAfter emptyWorld.memory [timedPut] plainGet).status = .ok := by
    decide +kernel
  have lifetime : (plainService.answerAfter emptyWorld.memory [timedPut] plainGet).headers.get?
      Field.cacheControl = some ("max-age=" ++ Text.natText 10) := by
    decide +kernel
  have unchanged : ∀ handled ∈ plainService.history
      (plainService.handleAll emptyWorld.memory [plainGet, timedPut]).1 [halfPastGet],
      ¬ handled.Writes "c" "k" ∧ ¬ handled.Removes "c" "k" := by
    decide +kernel
  exact Service.promised_freshness_is_kept plainService ⟨"node", "address", []⟩
    [⟨"c", .unlimited, .unlimited, none⟩] emptyWorld.memory rfl [timedPut] [halfPastGet] plainGet
    ⟨threeLater, .of .get "c/k"⟩ ordered "c" "k" (by decide +kernel) (by decide +kernel) rfl rfl
    (by decide +kernel) rfl ⟨_, rfl⟩ _ rfl found (Or.inl ⟨10, lifetime, by decide⟩) unchanged

end CacheGate
