import CacheGate.Proofs.Conditions
import CacheGate.Proofs.Serve.EntryAnswer

/-!
# Validators that clients send back

A 200 answer to a read carries a tag and a date. `Service.validators_round_trip`
says what they are good for as long as nobody writes or removes the entry and
it does not expire.
-/

namespace CacheGate

open Time Http

/-! ## What a condition leaves alone -/

namespace Http.Request.Repeats

variable {request again : Request} {raw : String} {configuration : CacheConfiguration}
  {value : Bytes}

theorem accept?_eq (repeats : again.Repeats request) : again.accept? = request.accept? :=
  repeats.header Field.accept (by decide)

theorem mediaType?_eq (repeats : again.Repeats request) {name : String} (label : String)
    (free : FreeOfConditions name) :
    again.mediaType? name label = request.mediaType? name label := by
  unfold mediaType?
  rw [repeats.header name free]

theorem requestKey_eq (repeats : again.Repeats request) :
    requestKey again raw = requestKey request raw := by
  unfold requestKey keyContentType
  rw [repeats.mediaType?_eq _ (by decide)]

theorem writtenBody_eq (repeats : again.Repeats request) :
    writtenBody again = writtenBody request := by
  unfold writtenBody
  rw [repeats.body]

theorem writtenType_eq (repeats : again.Repeats request) :
    writtenType again configuration.conversion = writtenType request configuration.conversion := by
  unfold writtenType contentType
  rw [repeats.mediaType?_eq _ (by decide)]

theorem resolveMetadata_eq (repeats : again.Repeats request) :
    resolveMetadata again configuration = resolveMetadata request configuration := by
  unfold resolveMetadata
  rw [repeats.header Field.timeToLive (by decide),
    repeats.header Field.maxIdle (by decide)]

/-- Repeating a request, at whatever time, asks for the same. -/
theorem route?_eq (repeats : again.Repeats request) (now later : Instant) :
    Visit.route? ⟨later, again⟩ = Visit.route? ⟨now, request⟩ := by
  unfold Visit.route? action? param?
  rw [repeats.method, repeats.path, repeats.query]

theorem readable (repeats : again.Repeats request)
    (readable : Readable request raw configuration value) :
    Readable again raw configuration value where
  keyed := by
    rw [repeats.requestKey_eq]
    exact readable.keyed
  offered := by
    rw [repeats.accept?_eq]
    exact readable.offered

theorem writable (repeats : again.Repeats request)
    (writable : Writable request raw configuration) : Writable again raw configuration where
  keyed := by
    rw [repeats.requestKey_eq]
    exact writable.keyed
  filled := by
    rw [repeats.writtenBody_eq]
    exact writable.filled
  typed := by
    rw [repeats.writtenType_eq]
    exact writable.typed
  timed := by
    rw [repeats.resolveMetadata_eq]
    exact writable.timed

end Http.Request.Repeats

/-! ## Conditions on an entry that has not changed -/

/-- A request once more with a tag, with a date, and with both. -/
def Http.Request.withValidators (request : Request)
    (tagField dateField etag lastModified : String) : List Request :=
  [request.withHeader tagField etag, request.withHeader dateField lastModified,
    (request.withHeader tagField etag).withHeader dateField lastModified]

namespace Http.Request

variable {request again : Request} {tagField dateField etag lastModified : String}

theorem repeats_of_mem_withValidators (tagged : tagField ∈ conditionFields)
    (dated : dateField ∈ conditionFields)
    (member : again ∈ request.withValidators tagField dateField etag lastModified) :
    again.Repeats request := by
  simp only [withValidators, List.mem_cons, List.not_mem_nil, or_false] at member
  rcases member with rfl | rfl | rfl
  · exact repeats_refl.withHeader tagged
  · exact repeats_refl.withHeader dated
  · exact (repeats_refl.withHeader tagged).withHeader dated

end Http.Request

namespace StoredEntry

variable {stored : StoredEntry} {request again : Request}

/-- The date of an answer, when it is sent back, is the one that it is compared with. -/
theorem lastModified_snapshot (now : Instant) :
    stored.snapshot.lastModified now = stored.created.wholeSecond.wholeSecond :=
  stored.created.wholeSecond_wholeSecond.symm

/-- A read that would take a value only if its validators are no longer right. -/
theorem verdict_ifNoneMatch (unconditional : Conditions.ofRequest request = .unconditional)
    (member : again ∈ request.withValidators Field.ifNoneMatch Field.ifModifiedSince
      (EntityTag.of stored.value).text (HttpDate.format stored.created.wholeSecond))
    (now : Instant) : stored.verdict again now = .notModified := by
  simp only [Request.withValidators, List.mem_cons, List.not_mem_nil, or_false] at member
  change readVerdict (EntityTag.of stored.value) (stored.snapshot.lastModified now) _ _ now = _
  rw [lastModified_snapshot]
  rcases member with same | same | same
  · rw [same, Conditions.ofRequest_ifNoneMatch, unconditional]
    apply readVerdict_of_unmodified <;> simp [Conditions.unconditional]
  · rw [same, Conditions.ofRequest_ifModifiedSince, unconditional]
    apply readVerdict_of_unmodified <;> simp [Conditions.unconditional]
  · rw [same, Conditions.ofRequest_ifModifiedSince, Conditions.ofRequest_ifNoneMatch, unconditional]
    apply readVerdict_of_unmodified <;> simp [Conditions.unconditional]

/-- A read that takes a value only if its validators are still right. -/
theorem verdict_ifMatch (unconditional : Conditions.ofRequest request = .unconditional)
    (member : again ∈ request.withValidators Field.ifMatch Field.ifUnmodifiedSince
      (EntityTag.of stored.value).text (HttpDate.format stored.created.wholeSecond))
    (now : Instant) : stored.verdict again now = .serve := by
  simp only [Request.withValidators, List.mem_cons, List.not_mem_nil, or_false] at member
  change readVerdict (EntityTag.of stored.value) (stored.snapshot.lastModified now) _ _ now = _
  rw [lastModified_snapshot]
  rcases member with same | same | same
  · rw [same, Conditions.ofRequest_ifMatch, unconditional]
    apply readVerdict_of_match <;> simp [Conditions.unconditional]
  · rw [same, Conditions.ofRequest_ifUnmodifiedSince, unconditional]
    apply readVerdict_of_match <;> simp [Conditions.unconditional]
  · rw [same, Conditions.ofRequest_ifUnmodifiedSince, Conditions.ofRequest_ifMatch, unconditional]
    apply readVerdict_of_match <;> simp [Conditions.unconditional]

end StoredEntry

theorem Http.Response.Shows.congr {response : Response} {method : Method}
    {former current : StoredEntry} (shows : response.Shows method former)
    (value : former.value = current.value) (created : former.created = current.created) :
    response.Shows method current :=
  ⟨shows.status, value ▸ shows.etag, created ▸ shows.lastModified, value ▸ shows.body⟩

/-! ## Entries along a run -/

namespace Service

variable {service : Service} {start : Memory} {definitions : List CacheDefinition}
  {cluster : ClusterView} {earlier later : List Visit} {read : Visit} {now : Instant}
  {cache key : String} {former current : StoredEntry}

/-- If a read finds an entry, and the run goes on and shows an entry under the
same key again, then a request in between wrote that one, or the two have the
same value and creation. -/
theorem written_or_same (created : start = .create cluster definitions)
    (ordered : Chronological (later ++ read :: earlier))
    (last : ∀ visit ∈ later ++ read :: earlier, visit.now ≤ now)
    (routed : read.route? = some ⟨.read, cache, some key⟩)
    (shown : (service.handleAll start earlier).1.live? read.now cache (Utf8.encode key) =
      some former)
    (shownAfter : (service.handleAll start (later ++ read :: earlier)).1.live? now cache
      (Utf8.encode key) = some current) :
    (∃ handled ∈ service.history (service.handleAll start (read :: earlier)).1 later,
      handled.Writes cache key ∧ current.created = handled.now) ∨
    (former.value = current.value ∧ former.created = current.created) := by
  obtain ⟨first, past⟩ := List.pairwise_cons.1 (List.pairwise_append.1 ordered).2.1
  obtain ⟨stood, found, leaves, -⟩ :=
    ((service.recalls_run created past first).entries cache key).leaves_of_live? shown
  obtain ⟨stands, foundAfter, leavesAfter, -⟩ :=
    ((service.recalls_run created ordered last).entries cache key).leaves_of_live? shownAfter
  have split : service.history start (later ++ read :: earlier) =
      service.history (service.handleAll start (read :: earlier)).1 later ++
        ([⟨read, service.answerAfter start earlier read⟩] ++ service.history start earlier) :=
    congrArg Prod.snd (service.handleAll_append start later (read :: earlier))
  rw [split] at foundAfter
  rcases standing?_append foundAfter with ⟨member, writes⟩ | ⟨middle, foundMiddle, middleEq⟩
  · exact Or.inl ⟨stands.write, member, writes, leavesAfter.created⟩
  rcases standing?_append foundMiddle with ⟨member, writes, -⟩ | ⟨same, foundBefore, writeEq⟩
  · rw [List.mem_singleton.1 member] at writes
    cases writes.symm.trans routed
  obtain rfl : same = stood := Option.some.inj (foundBefore.symm.trans found)
  have writeEq : same.write = stands.write := writeEq.trans middleEq
  refine Or.inr ⟨Option.some.inj ?_, ?_⟩
  · rw [← leaves.body, ← leavesAfter.body, writeEq]
  · rw [leaves.created, leavesAfter.created, writeEq]

section Puts

variable {memory : Memory} {configuration : CacheConfiguration} {stored : StoredEntry}
  {put again : Request}

theorem handle_put_repeats (service : Service) (verdict : Verdict)
    (repeats : again.Repeats put) (method : put.method = .put)
    (routed : Visit.route? ⟨now, put⟩ = some ⟨.write, cache, some key⟩)
    (known : memory.configuration? cache = some configuration)
    (live : memory.live? now cache (Utf8.encode key) = some stored)
    (writable : Writable put key configuration)
    (evaluated : evaluateWrite (some stored.snapshot) (.ofRequest again) false = verdict) :
    (service.handle memory ⟨now, again⟩).2.status = verdict.status?.getD .ok := by
  rw [← evaluated]
  exact service.handle_put_live ((repeats.route?_eq now now).trans routed)
    (repeats.method.trans method) known live (repeats.writable writable)

/-- A PUT that insists on the tag of the live entry is accepted. -/
theorem handle_put_ifMatch (service : Service) (method : put.method = .put)
    (routed : Visit.route? ⟨now, put⟩ = some ⟨.write, cache, some key⟩)
    (known : memory.configuration? cache = some configuration)
    (live : memory.live? now cache (Utf8.encode key) = some stored)
    (writable : Writable put key configuration)
    (unexcluded : put.header? Field.ifNoneMatch = none) :
    (service.handle memory
      ⟨now, put.withHeader Field.ifMatch (EntityTag.of stored.value).text⟩).2.status = .ok := by
  refine service.handle_put_repeats .serve (Request.repeats_refl.withHeader (by decide)) method
    routed known live writable ?_
  rw [Conditions.ofRequest_ifMatch]
  exact evaluateWrite_of_match unexcluded rfl

/-- A PUT that excludes the tag of the live entry is not carried out. -/
theorem handle_put_ifNoneMatch (service : Service) (method : put.method = .put)
    (routed : Visit.route? ⟨now, put⟩ = some ⟨.write, cache, some key⟩)
    (known : memory.configuration? cache = some configuration)
    (live : memory.live? now cache (Utf8.encode key) = some stored)
    (writable : Writable put key configuration) :
    (service.handle memory
      ⟨now, put.withHeader Field.ifNoneMatch (EntityTag.of stored.value).text⟩).2.status =
        .notModified := by
  refine service.handle_put_repeats .notModified (Request.repeats_refl.withHeader (by decide))
    method routed known live writable ?_
  rw [Conditions.ofRequest_ifNoneMatch]
  exact evaluateWrite_of_excludes rfl

end Puts

variable {between : List Visit} {get : Visit}

/-- As long as an entry is neither written nor removed and does not expire, it
is the one that an earlier read showed. -/
theorem shows_unchanged (created : start = .create cluster definitions)
    (ordered : Chronological (between ++ get :: earlier))
    (last : ∀ visit ∈ between ++ get :: earlier, visit.now ≤ now)
    (routed : get.route? = some ⟨.read, cache, some key⟩)
    (found : (service.answerAfter start earlier get).status = .ok)
    (unchanged : ∀ handled ∈ service.history (service.handleAll start (get :: earlier)).1 between,
      ¬ handled.Writes cache key ∧ ¬ handled.Removes cache key)
    (unexpired : ((service.handleAll start (between ++ get :: earlier)).1.live? now cache
      (Utf8.encode key)).isSome) :
    ∃ configuration stored, start.configuration? cache = some configuration ∧
      (service.handleAll start (between ++ get :: earlier)).1.live? now cache (Utf8.encode key) =
        some stored ∧
      Readable get.request key configuration stored.value ∧
      (service.answerAfter start earlier get).Shows get.request.method stored := by
  obtain ⟨configuration, former, known, live, readable, shows⟩ := handle_read_ok routed found
  obtain ⟨current, liveNow⟩ := Option.isSome_iff_exists.1 unexpired
  obtain ⟨first, past⟩ := List.pairwise_cons.1 (List.pairwise_append.1 ordered).2.1
  rw [(service.recalls_run created past first).configuration?_eq] at known
  rcases written_or_same created ordered last routed live liveNow with
    ⟨handled, member, writes, -⟩ | ⟨value, creation⟩
  · exact ((unchanged handled member).1 writes).elim
  · exact ⟨configuration, current, known, liveNow, value ▸ readable, shows.congr value creation⟩

/-- Validators round-trip. After a read without conditions was answered 200
with a tag and a date, and as long as the entry is neither written nor removed
and does not expire: the read again with `If-None-Match` and the tag,
`If-Modified-Since` and the date, or both, is answered 304 without a body; with
`If-Match` and the tag, `If-Unmodified-Since` and the date, or both, it is
answered as it was; a PUT with nothing wrong is accepted with `If-Match` and
the tag, and with `If-None-Match` and the tag it is answered 304 and leaves
every live entry as it was. -/
theorem validators_round_trip (service : Service) (cluster : ClusterView)
    (definitions : List CacheDefinition) (start : Memory)
    (created : start = .create cluster definitions)
    (earlier between visits : List Visit) (get : Visit)
    (split : visits = between ++ get :: earlier) (ordered : Chronological visits)
    (now : Instant) (last : ∀ visit ∈ visits, visit.now ≤ now)
    (cache key : String) (routed : get.route? = some ⟨.read, cache, some key⟩)
    (unconditional : Conditions.ofRequest get.request = .unconditional)
    (answer : Response) (answered : service.answerAfter start earlier get = answer)
    (found : answer.status = .ok) (etag lastModified : String)
    (tagged : answer.etag? = some etag) (dated : answer.lastModified? = some lastModified)
    (unchanged : ∀ handled ∈ service.history (service.handleAll start (get :: earlier)).1 between,
      ¬ handled.Writes cache key ∧ ¬ handled.Removes cache key)
    (unexpired : ((service.handleAll start visits).1.live? now cache (Utf8.encode key)).isSome) :
    (∀ request ∈ get.request.withValidators Field.ifNoneMatch Field.ifModifiedSince etag
        lastModified,
      (service.answerAfter start visits ⟨now, request⟩).status = .notModified ∧
      (service.answerAfter start visits ⟨now, request⟩).body = []) ∧
    (∀ request ∈ get.request.withValidators Field.ifMatch Field.ifUnmodifiedSince etag
        lastModified,
      (service.answerAfter start visits ⟨now, request⟩).status = .ok ∧
      (service.answerAfter start visits ⟨now, request⟩).body = answer.body ∧
      (service.answerAfter start visits ⟨now, request⟩).etag? = some etag ∧
      (service.answerAfter start visits ⟨now, request⟩).lastModified? = some lastModified) ∧
    ∀ put : Request, put.method = .put →
      Visit.route? ⟨now, put⟩ = some ⟨.write, cache, some key⟩ →
      (∀ configuration, start.configuration? cache = some configuration →
        Writable put key configuration) →
      (put.header? Field.ifNoneMatch = none →
        (service.answerAfter start visits ⟨now, put.withHeader Field.ifMatch etag⟩).status =
          .ok) ∧
      (service.answerAfter start visits ⟨now, put.withHeader Field.ifNoneMatch etag⟩).status =
        .notModified ∧
      ∀ later, now ≤ later → ∀ name content,
        (service.handleAll start (⟨now, put.withHeader Field.ifNoneMatch etag⟩ :: visits)).1.live?
            later name content =
          (service.handleAll start visits).1.live? later name content := by
  subst split answered
  obtain ⟨configuration, stored, known, live, readable, shows⟩ :=
    shows_unchanged created ordered last routed found unchanged unexpired
  have recalls := service.recalls_run created ordered last
  have knownNow := (recalls.configuration?_eq cache).trans known
  obtain rfl := Option.some.inj (shows.etag.symm.trans tagged)
  obtain rfl := Option.some.inj (shows.lastModified.symm.trans dated)
  refine ⟨fun request member => ?_, fun request member => ?_,
    fun put method routedPut writable => ?_⟩
  · have repeats := Request.repeats_of_mem_withValidators (by decide) (by decide) member
    have answer := service.handle_read_unmodified recalls.used
      ((repeats.route?_eq get.now now).trans routed) knownNow live (repeats.readable readable)
      (StoredEntry.verdict_ifNoneMatch unconditional member)
    exact ⟨congrArg Response.status answer, congrArg Response.body answer⟩
  · have repeats := Request.repeats_of_mem_withValidators (by decide) (by decide) member
    have again := service.handle_read_served recalls.used
      ((repeats.route?_eq get.now now).trans routed) knownNow live (repeats.readable readable)
      (StoredEntry.verdict_ifMatch unconditional member)
    have body := again.body
    rw [repeats.method, ← shows.body] at body
    exact ⟨again.status, body, again.etag, again.lastModified⟩
  · have accepted := service.handle_put_ifMatch method routedPut knownNow live (writable _ known)
    have refused := service.handle_put_ifNoneMatch method routedPut knownNow live (writable _ known)
    unfold answerAfter
    refine ⟨accepted, refused, fun later order name content => ?_⟩
    rw [handleAll_cons]
    refine handle_keeps_live recalls.used ?_ order name content
    rw [refused]
    decide

end Service

/-! ## A run -/

/-- A second and a half after the epoch. -/
def halfPast : Instant := ⟨1500000000, by decide, by decide⟩

/-- Three seconds after `halfPast`. -/
def threeLater : Instant := ⟨4500000000, by decide, by decide⟩

def plainPut (value : String) : Request :=
  { Request.of .put "c/k" with body := some (Utf8.encode value) }

/-- A PUT of `v1` in the middle of a second. -/
def halfPastPut : Visit := ⟨halfPast, plainPut "v1"⟩

def halfPastGet : Visit := ⟨halfPast, .of .get "c/k"⟩

theorem route?_halfPastGet : halfPastGet.route? = some ⟨.read, "c", some "k"⟩ := by
  decide +kernel

/-- The GET shows the value, with its tag and the second of the PUT. -/
theorem answer_halfPastGet :
    (plainService.answerAfter emptyWorld.memory [halfPastPut] halfPastGet).status = .ok ∧
    (plainService.answerAfter emptyWorld.memory [halfPastPut] halfPastGet).body =
      Utf8.encode "v1" ∧
    (plainService.answerAfter emptyWorld.memory [halfPastPut] halfPastGet).etag? =
      some "\"1282175466896328754\"" ∧
    (plainService.answerAfter emptyWorld.memory [halfPastPut] halfPastGet).lastModified? =
      some "Thu, 01 Jan 1970 00:00:01 GMT" := by
  decide +kernel

/-- What a request is answered three seconds after `v1` was put and read twice. -/
def answerThreeLater (request : Request) : Response :=
  plainService.answerAfter emptyWorld.memory [halfPastGet, halfPastGet, halfPastPut]
    ⟨threeLater, request⟩

theorem writable_plainPut {configuration : CacheConfiguration}
    (known : emptyWorld.memory.configuration? "c" = some configuration) :
    Writable (plainPut "v2") "k" configuration := by
  obtain rfl := Option.some.inj known
  exact ⟨⟨_, rfl⟩, ⟨_, rfl⟩, ⟨_, rfl⟩, ⟨_, rfl⟩⟩

/-- The validators of a value that was put in the middle of a second are good later on. -/
theorem half_past_validators_are_good :
    (answerThreeLater ((Request.of .get "c/k").withHeader Field.ifModifiedSince
      "Thu, 01 Jan 1970 00:00:01 GMT")).status = .notModified ∧
    (answerThreeLater ((Request.of .get "c/k").withHeader Field.ifUnmodifiedSince
      "Thu, 01 Jan 1970 00:00:01 GMT")).body = Utf8.encode "v1" ∧
    (answerThreeLater ((plainPut "v2").withHeader Field.ifMatch
      "\"1282175466896328754\"")).status = .ok ∧
    (answerThreeLater ((plainPut "v2").withHeader Field.ifNoneMatch
      "\"1282175466896328754\"")).status = .notModified := by
  have ordered : Chronological [halfPastGet, halfPastGet, halfPastPut] := by
    unfold Chronological
    decide +kernel
  have last : ∀ visit ∈ [halfPastGet, halfPastGet, halfPastPut], visit.now ≤ threeLater := by
    decide +kernel
  have unconditional : Conditions.ofRequest halfPastGet.request = .unconditional := by
    decide +kernel
  obtain ⟨found, body, tagged, dated⟩ := answer_halfPastGet
  have unchanged : ∀ handled ∈ plainService.history
      (plainService.handleAll emptyWorld.memory [halfPastGet, halfPastPut]).1 [halfPastGet],
      ¬ handled.Writes "c" "k" ∧ ¬ handled.Removes "c" "k" := by
    decide +kernel
  have unexpired : ((plainService.handleAll emptyWorld.memory
      [halfPastGet, halfPastGet, halfPastPut]).1.live? threeLater "c"
        (Utf8.encode "k")).isSome := by
    decide +kernel
  obtain ⟨unmodified, served, puts⟩ := Service.validators_round_trip plainService
    ⟨"node", "address", []⟩ [⟨"c", .unlimited, .unlimited, none⟩] emptyWorld.memory rfl
    [halfPastPut] [halfPastGet] [halfPastGet, halfPastGet, halfPastPut] halfPastGet rfl ordered
    threeLater last "c" "k" route?_halfPastGet unconditional _ rfl found _ _ tagged dated unchanged
    unexpired
  obtain ⟨accepted, refused, -⟩ := puts (plainPut "v2") rfl (by decide +kernel)
    fun _ known => writable_plainPut known
  have second (request first third : Request) : request ∈ [first, request, third] :=
    List.mem_cons_of_mem _ List.mem_cons_self
  exact ⟨(unmodified _ (second ..)).1, (served _ (second ..)).2.1.trans body,
    accepted (by decide +kernel), refused⟩

end CacheGate
