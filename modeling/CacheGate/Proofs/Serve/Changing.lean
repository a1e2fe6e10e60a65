import CacheGate.Proofs.Serve.Reading

/-!
# The courses of the other requests

As for reads, every way in which a write, a delete, a clearing or a listing
can go, with its store calls and its result. A write makes its change in
`Service.WriteCourse.failed` and `Service.WriteCourse.stored` only, right
after the snapshot that it evaluated, and so does a delete.

* `Service.write_course`, `Service.delete_course`, `Service.clear_course` and
  `Service.keys_course`: every request takes one of these courses.
* `Service.write_answer`: what a write answers unless it fails.
* `Service.dispatch_course`: a dispatched request without a route asks
  nothing, and any other one runs the handler of its operation.

A worker pool that is closed or loses its job has a part in listings only
(`Service.keys_course_of_pool`, `Service.dispatch_course_of_pool`).
-/

namespace CacheGate

open Http

namespace Service

variable {service : Service} {request : Request} {cache raw : String}
  {exchanges : List Exchange} {result : Except AccessError Response}

/-! ## Writing -/

/-- How a write can go. -/
inductive WriteCourse (service : Service) (request : Request) (cache raw : String) :
    List Exchange → Except AccessError Response → Prop
  | unkeyed {error : AccessError} :
    requestKey request raw = .error error → service.WriteCourse request cache raw [] (.error error)
  | bodiless {key : Key} {error : AccessError} :
    requestKey request raw = .ok key → writtenBody request = .error error →
    service.WriteCourse request cache raw [] (.error error)
  | unknown {key : Key} {body : Bytes} {failure : StoreError} :
    requestKey request raw = .ok key → writtenBody request = .ok body →
    service.WriteCourse request cache raw
      [⟨.configuration service.context cache, .error failure⟩] (.error (.store failure))
  | unsettled {key : Key} {body : Bytes} {configuration : CacheConfiguration}
    {error : AccessError} :
    requestKey request raw = .ok key → writtenBody request = .ok body →
    (writtenType request configuration.conversion = .error error ∨
      resolveMetadata request configuration = .error error) →
    service.WriteCourse request cache raw
      [⟨.configuration service.context cache, .ok configuration⟩] (.error error)
  | unseen {key : Key} {body : Bytes} {configuration : CacheConfiguration}
    {failure : StoreError} :
    requestKey request raw = .ok key → writtenBody request = .ok body →
    service.WriteCourse request cache raw
      [⟨.configuration service.context cache, .ok configuration⟩,
        ⟨.entry service.context cache key, .error failure⟩]
      (.error (.store failure))
  | refused {key : Key} {body : Bytes} {configuration : CacheConfiguration}
    {existing : Option Entry} {status : Status} {response : Response} :
    requestKey request raw = .ok key → writtenBody request = .ok body →
    (evaluateWrite existing (.ofRequest request) (request.method == .post)).status? =
      some status →
    response.status = status →
    service.WriteCourse request cache raw
      [⟨.configuration service.context cache, .ok configuration⟩,
        ⟨.entry service.context cache key, .ok existing⟩]
      (.ok response)
  | failed {key : Key} {body : Bytes} {configuration : CacheConfiguration}
    {existing : Option Entry} {media : MediaType} {metadata : EntryMetadata}
    {failure : StoreError} :
    requestKey request raw = .ok key → writtenBody request = .ok body →
    evaluateWrite existing (.ofRequest request) (request.method == .post) = .serve →
    service.WriteCourse request cache raw
      [⟨.configuration service.context cache, .ok configuration⟩,
        ⟨.entry service.context cache key, .ok existing⟩,
        ⟨.put request.subject cache ⟨key, body, media, metadata⟩, .error failure⟩]
      (.error (.store failure))
  | stored {key : Key} {body : Bytes} {configuration : CacheConfiguration}
    {existing : Option Entry} {media : MediaType} {metadata : EntryMetadata}
    {response : Response} :
    requestKey request raw = .ok key → writtenBody request = .ok body →
    writtenType request configuration.conversion = .ok media →
    resolveMetadata request configuration = .ok metadata →
    evaluateWrite existing (.ofRequest request) (request.method == .post) = .serve →
    response.status = (if existing.isSome then .ok else .created) →
    service.WriteCourse request cache raw
      [⟨.configuration service.context cache, .ok configuration⟩,
        ⟨.entry service.context cache key, .ok existing⟩,
        ⟨.put request.subject cache ⟨key, body, media, metadata⟩, .ok ()⟩]
      (.ok response)

theorem write_course
    (run : (service.write request cache raw).run.Yields exchanges result) :
    service.WriteCourse request cache raw exchanges result := by
  rcases Answering.yields_ofExcept_bind_iff.1 run with
    ⟨error, unkeyed, rfl, rfl⟩ | ⟨key, keyed, filling⟩
  · exact .unkeyed unkeyed
  rcases Answering.yields_ofExcept_bind_iff.1 filling with
    ⟨error, bodiless, rfl, rfl⟩ | ⟨body, filled, settings⟩
  · exact .bodiless keyed bodiless
  rcases Answering.yields_ask_bind_iff.1 settings with
    ⟨failure, rfl, rfl⟩ | ⟨configuration, _, rfl, typing⟩
  · exact .unknown keyed filled
  rcases Answering.yields_ofExcept_bind_iff.1 typing with
    ⟨error, untyped, rfl, rfl⟩ | ⟨media, typed, timing⟩
  · exact .unsettled keyed filled (Or.inl untyped)
  rcases Answering.yields_ofExcept_bind_iff.1 timing with
    ⟨error, untimed, rfl, rfl⟩ | ⟨metadata, timed, looking⟩
  · exact .unsettled keyed filled (Or.inr untimed)
  rcases yields_internalEntry_bind_iff.1 looking with
    ⟨failure, rfl, rfl⟩ | ⟨existing, _, rfl, logged⟩
  · exact .unseen keyed filled
  have judged := Answering.yields_log_bind_iff.1 logged
  clear run filling settings typing timing looking logged
  split at judged
  case h_1 conflict =>
    obtain ⟨rfl, rfl⟩ := Answering.yields_pure_iff.1 judged
    exact .refused keyed filled (by rw [conflict]; rfl) Response.diagnostic_status
  case h_2 ends _ =>
    obtain ⟨rfl, rfl⟩ := Answering.yields_pure_iff.1 judged
    exact .refused keyed filled ends rfl
  case h_3 proceeds _ =>
    have serves : evaluateWrite existing (.ofRequest request) (request.method == .post) =
        .serve := Verdict.eq_serve proceeds
    rcases Answering.yields_ask_bind_iff.1 judged with
      ⟨failure, rfl, rfl⟩ | ⟨_, _, rfl, stored⟩
    · exact .failed keyed filled serves
    obtain ⟨rfl, rfl⟩ := Answering.yields_pure_iff.1 stored
    exact .stored keyed filled typed timed serves Response.setHeader_status

/-- What a write answers when it does not fail. -/
inductive WriteAnswer (request : Request) : Response → Prop
  | conflict : WriteAnswer request
      ((Response.ofStatus .conflict).diagnostic "An entry already exists")
  | refused {status : Status} : ¬ status.Succeeds → WriteAnswer request (.ofStatus status)
  | written {body : Bytes} {replacing : Bool} : writtenBody request = .ok body →
    WriteAnswer request ((Response.ofStatus (if replacing then .ok else .created)).setHeader
      Field.etag (EntityTag.of body).text)

theorem write_answer {response : Response}
    (run : (service.write request cache raw).run.Yields exchanges (.ok response)) :
    WriteAnswer request response := by
  rcases Answering.yields_ofExcept_bind_iff.1 run with ⟨_, -, -, ⟨⟩⟩ | ⟨key, -, filling⟩
  rcases Answering.yields_ofExcept_bind_iff.1 filling with ⟨_, -, -, ⟨⟩⟩ | ⟨body, filled, settings⟩
  rcases Answering.yields_ask_bind_iff.1 settings with ⟨_, -, ⟨⟩⟩ | ⟨configuration, _, -, typing⟩
  rcases Answering.yields_ofExcept_bind_iff.1 typing with ⟨_, -, -, ⟨⟩⟩ | ⟨media, -, timing⟩
  rcases Answering.yields_ofExcept_bind_iff.1 timing with ⟨_, -, -, ⟨⟩⟩ | ⟨metadata, -, looking⟩
  rcases yields_internalEntry_bind_iff.1 looking with ⟨_, -, ⟨⟩⟩ | ⟨existing, _, -, logged⟩
  have judged := Answering.yields_log_bind_iff.1 logged
  clear run filling settings typing timing looking logged
  split at judged
  case h_1 =>
    obtain ⟨-, same⟩ := Answering.yields_pure_iff.1 judged
    rw [Except.ok.inj same]
    exact .conflict
  case h_2 ends _ =>
    obtain ⟨-, same⟩ := Answering.yields_pure_iff.1 judged
    rw [Except.ok.inj same]
    exact .refused (Verdict.not_succeeds ends)
  case h_3 =>
    rcases Answering.yields_ask_bind_iff.1 judged with ⟨_, -, ⟨⟩⟩ | ⟨_, _, -, stored⟩
    obtain ⟨-, same⟩ := Answering.yields_pure_iff.1 stored
    rw [Except.ok.inj same]
    exact .written filled

/-! ## Deleting -/

/-- How a delete can go. -/
inductive DeleteCourse (service : Service) (request : Request) (cache raw : String) :
    List Exchange → Except AccessError Response → Prop
  | unkeyed {error : AccessError} :
    requestKey request raw = .error error → service.DeleteCourse request cache raw [] (.error error)
  | unseen {key : Key} {failure : StoreError} :
    requestKey request raw = .ok key →
    service.DeleteCourse request cache raw [⟨.entry service.context cache key, .error failure⟩]
      (.error (.store failure))
  | refused {key : Key} {existing : Option Entry} {status : Status} :
    requestKey request raw = .ok key →
    (evaluateDelete existing (.ofRequest request)).status? = some status →
    service.DeleteCourse request cache raw [⟨.entry service.context cache key, .ok existing⟩]
      (.ok (.ofStatus status))
  | failed {key : Key} {existing : Option Entry} {failure : StoreError} :
    requestKey request raw = .ok key →
    evaluateDelete existing (.ofRequest request) = .serve →
    service.DeleteCourse request cache raw
      [⟨.entry service.context cache key, .ok existing⟩,
        ⟨.remove request.subject cache key, .error failure⟩]
      (.error (.store failure))
  | removed {key : Key} {existing : Option Entry} {removed : Bool} :
    requestKey request raw = .ok key →
    evaluateDelete existing (.ofRequest request) = .serve →
    service.DeleteCourse request cache raw
      [⟨.entry service.context cache key, .ok existing⟩,
        ⟨.remove request.subject cache key, .ok removed⟩]
      (.ok (.ofStatus (if removed then .ok else .notFound)))

theorem delete_course
    (run : (service.delete request cache raw).run.Yields exchanges result) :
    service.DeleteCourse request cache raw exchanges result := by
  rcases Answering.yields_ofExcept_bind_iff.1 run with
    ⟨error, unkeyed, rfl, rfl⟩ | ⟨key, keyed, looking⟩
  · exact .unkeyed unkeyed
  rcases yields_internalEntry_bind_iff.1 looking with
    ⟨failure, rfl, rfl⟩ | ⟨existing, _, rfl, logged⟩
  · exact .unseen keyed
  have judged := Answering.yields_log_bind_iff.1 logged
  clear run looking logged
  split at judged
  case h_1 ends =>
    obtain ⟨rfl, rfl⟩ := Answering.yields_pure_iff.1 judged
    exact .refused keyed ends
  case h_2 verdict =>
    have serves : evaluateDelete existing (.ofRequest request) = .serve :=
      Verdict.eq_serve verdict
    rcases Answering.yields_ask_bind_iff.1 judged with
      ⟨failure, rfl, rfl⟩ | ⟨removed, _, rfl, last⟩
    · exact .failed keyed serves
    obtain ⟨rfl, rfl⟩ := Answering.yields_pure_iff.1 last
    exact .removed keyed serves

/-! ## Whole caches -/

/-- How a clearing can go. -/
inductive ClearCourse (request : Request) (cache : String) :
    List Exchange → Except AccessError Response → Prop
  | failed {failure : StoreError} :
    ClearCourse request cache [⟨.clear request.subject cache, .error failure⟩]
      (.error (.store failure))
  | cleared :
    ClearCourse request cache [⟨.clear request.subject cache, .ok ()⟩] (.ok (.ofStatus .ok))

theorem clear_course (run : (Service.clear request cache).run.Yields exchanges result) :
    ClearCourse request cache exchanges result := by
  rcases Answering.yields_ask_bind_iff.1 run with ⟨failure, rfl, rfl⟩ | ⟨_, _, rfl, last⟩
  · exact .failed
  obtain ⟨rfl, rfl⟩ := Answering.yields_pure_iff.1 last
  exact .cleared

/-- How a listing can go. -/
inductive KeysCourse (service : Service) (request : Request) (cache : String) :
    List Exchange → Except AccessError Response → Prop
  | unknown {failure : StoreError} :
    service.KeysCourse request cache [⟨.configuration service.context cache, .error failure⟩]
      (.error (.store failure))
  | unacceptable {configuration : CacheConfiguration} {error : AccessError} :
    negotiateListing request.accept? configuration.conversion = .error error →
    service.KeysCourse request cache
      [⟨.configuration service.context cache, .ok configuration⟩] (.error error)
  | failed {configuration : CacheConfiguration} {failure : StoreError} :
    service.KeysCourse request cache
      [⟨.configuration service.context cache, .ok configuration⟩,
        ⟨.keys request.subject cache, .error failure⟩]
      (.error (.store failure))
  | listed {configuration : CacheConfiguration} {format : KeysFormat} {charset : Charset}
    {keys : List Key} :
    negotiateListing request.accept? configuration.conversion = .ok (format, charset) →
    service.KeysCourse request cache
      [⟨.configuration service.context cache, .ok configuration⟩,
        ⟨.keys request.subject cache, .ok keys⟩]
      (.ok (((Response.ofStatus .ok).setHeader Field.cacheControl "no-cache").entity
        (listingType format charset) (listingBody format charset keys)))

/-- With any worker pool a listing goes as with a working one, unless the pool
fails its job. -/
theorem keys_course_of_pool {pool : WorkerPool}
    (run : (service.keys request cache pool).run.Yields exchanges result) :
    service.KeysCourse request cache exchanges result ∨
      pool ≠ .working ∧ ∃ configuration keys detail,
        exchanges = [⟨.configuration service.context cache, .ok configuration⟩,
          ⟨.keys request.subject cache, .ok keys⟩] ∧
        result = .error (.workerPool detail) := by
  rcases Answering.yields_ask_bind_iff.1 run with
    ⟨failure, rfl, rfl⟩ | ⟨configuration, _, rfl, chosen⟩
  · exact Or.inl .unknown
  rcases Answering.yields_ofExcept_bind_iff.1 chosen with
    ⟨error, unacceptable, rfl, rfl⟩ | ⟨⟨format, charset⟩, negotiated, asked⟩
  · exact Or.inl (.unacceptable unacceptable)
  rcases Answering.yields_ask_bind_iff.1 asked with ⟨failure, rfl, rfl⟩ | ⟨keys, _, rfl, found⟩
  · exact Or.inl .failed
  rcases Answering.yields_ofExcept_bind_iff.1 found with
    ⟨error, refused, rfl, rfl⟩ | ⟨_, -, entered⟩
  · cases pool <;> cases refused
    exact Or.inr ⟨WorkerPool.noConfusion, configuration, keys, _, rfl, rfl⟩
  have started := Answering.yields_log_bind_iff.1 entered
  rcases Answering.yields_ofExcept_bind_iff.1 started with
    ⟨error, lost, rfl, rfl⟩ | ⟨body, written, finished⟩
  · cases pool <;> cases lost
    exact Or.inr ⟨WorkerPool.noConfusion, configuration, keys, _, rfl, rfl⟩
  have timed := Answering.yields_count_bind_iff.1 finished
  have last := Answering.yields_log_bind_iff.1 timed
  obtain ⟨rfl, rfl⟩ := Answering.yields_pure_iff.1 last
  have whole : body = listingBody format charset keys := by
    cases pool <;> cases written <;> rfl
  rw [whole]
  exact Or.inl (.listed negotiated)

theorem keys_course (run : (service.keys request cache).run.Yields exchanges result) :
    service.KeysCourse request cache exchanges result :=
  (keys_course_of_pool run).resolve_right fun failed => failed.1 rfl

/-! ## Dispatching -/

/-- A dispatched request has no route, or runs the handler of its operation. -/
theorem dispatch_course_of_pool {pool : WorkerPool} {response : Response}
    (run : (service.dispatch request pool).Yields exchanges response) :
    (∃ error, Route.resolve request.method request.path request.action? = .error error ∧
      exchanges = [] ∧ response = error.response) ∨
    ∃ route result, Route.resolve request.method request.path request.action? = .ok route ∧
      (service.perform request route.operation route.cache (route.key.getD "") pool).run.Yields
        exchanges result ∧
      response = answerOf result := by
  unfold dispatch at run
  split at run
  case h_1 error unrouted =>
    rw [Handler.yields_count_iff] at run
    obtain ⟨rfl, rfl⟩ := Handler.yields_done_iff.1 run
    exact Or.inl ⟨error, unrouted, rfl, rfl⟩
  case h_2 route routed =>
    rw [Handler.yields_log_iff] at run
    obtain ⟨result, before, after, own, last, rfl⟩ := Handler.yields_bind_iff.1 run
    rw [Handler.yields_count_iff] at last
    obtain ⟨rfl, rfl⟩ := Handler.yields_done_iff.1 last
    exact Or.inr ⟨route, result, routed, by rwa [List.append_nil], rfl⟩

theorem dispatch_course {response : Response}
    (run : (service.dispatch request).Yields exchanges response) :
    (∃ error, Route.resolve request.method request.path request.action? = .error error ∧
      exchanges = [] ∧ response = error.response) ∨
    ∃ route result, Route.resolve request.method request.path request.action? = .ok route ∧
      (service.perform request route.operation route.cache (route.key.getD "")).run.Yields
        exchanges result ∧
      response = answerOf result :=
  dispatch_course_of_pool run

end Service

end CacheGate
