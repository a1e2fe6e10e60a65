import CacheGate.Proofs.Serve.Changing
import CacheGate.Proofs.Serve.ReadFormat

/-!
# Where failures come from

What a handler finds wrong with a request is no failure of the store
(`writtenBody_badRequest` and its siblings). So a failure of the store that a
request ends with was the answer to one of its calls, other than that a read
is given up while its entry keeps changing: every course of a handler is
`Service.Reported`.

Over the in-memory store a request is told that its cache is unknown only if
it is (`Service.Reported.unknown`).
-/

namespace CacheGate

open Time Http

/-! ## What is wrong with a request -/

theorem ExpirationOverride.parse_badRequest {label : String} {given : Option String}
    {error : AccessError} (failed : ExpirationOverride.parse label given = .error error) :
    error.status = .badRequest := by
  unfold parse at failed
  repeat' split at failed
  all_goals cases failed
  rfl

theorem resolveMetadata_badRequest {request : Request} {configuration : CacheConfiguration}
    {error : AccessError} (untimed : resolveMetadata request configuration = .error error) :
    error.status = .badRequest := by
  unfold resolveMetadata at untimed
  cases lives : ExpirationOverride.parse "timeToLiveSeconds" (request.header? Field.timeToLive) with
  | error failed =>
    rw [lives] at untimed
    cases untimed
    exact ExpirationOverride.parse_badRequest lives
  | ok lifespan =>
    rw [lives] at untimed
    cases idles : ExpirationOverride.parse "maxIdleTimeSeconds" (request.header? Field.maxIdle) with
    | error failed =>
      rw [idles] at untimed
      cases untimed
      exact ExpirationOverride.parse_badRequest idles
    | ok maxIdle =>
      rw [idles] at untimed
      cases untimed

theorem writtenBody_badRequest {request : Request} {error : AccessError}
    (bodiless : writtenBody request = .error error) : error.status = .badRequest := by
  unfold writtenBody at bodiless
  split at bodiless <;> cases bodiless
  rfl

theorem writtenType_error {request : Request} {conversion : ValueConversion} {error : AccessError}
    (untyped : writtenType request conversion = .error error) (failure : StoreError) :
    error ≠ .store failure := by
  unfold writtenType at untyped
  cases declared : request.contentType with
  | error other =>
    rw [declared] at untyped
    cases untyped
    unfold Request.contentType Request.mediaType? at declared
    repeat' split at declared
    all_goals cases declared
    exact AccessError.noConfusion
  | ok media =>
    rw [declared] at untyped
    simp only [bind, Except.bind] at untyped
    split at untyped <;> cases untyped
    exact AccessError.noConfusion

theorem Charset.ofParam?_error {name : Option String} {error : AccessError}
    (unsupported : Charset.ofParam? name = .error error) (failure : StoreError) :
    error ≠ .store failure := by
  unfold ofParam? at unsupported
  repeat' split at unsupported
  all_goals cases unsupported
  exact AccessError.noConfusion

theorem chooseListing_error {accept : Option String} {conversion : ValueConversion}
    {listed : List MediaType} {error : AccessError}
    (unacceptable : chooseListing accept conversion listed = .error error) (failure : StoreError) :
    error ≠ .store failure := by
  induction listed with
  | nil =>
    cases unacceptable
    exact AccessError.noConfusion
  | cons candidate rest ih =>
    unfold chooseListing at unacceptable
    split at unacceptable
    case isFalse => exact ih unacceptable
    case isTrue =>
      dsimp only at unacceptable
      split at unacceptable
      case h_2 => exact ih unacceptable
      case h_1 format _ =>
        cases named : Charset.ofParam? (narrow candidate conversion.storage).charset? with
        | error other =>
          rw [named] at unacceptable
          cases unacceptable
          exact Charset.ofParam?_error named failure
        | ok charset =>
          rw [named] at unacceptable
          cases unacceptable

theorem negotiateListing_error {accept : Option String} {conversion : ValueConversion}
    {error : AccessError} (unacceptable : negotiateListing accept conversion = .error error)
    (failure : StoreError) : error ≠ .store failure := by
  unfold negotiateListing at unacceptable
  cases accepted : candidates accept with
  | error other =>
    rw [accepted] at unacceptable
    cases unacceptable
    rw [candidates_error accepted]
    exact AccessError.noConfusion
  | ok listed =>
    rw [accepted] at unacceptable
    exact chooseListing_error unacceptable failure

/-! ## Failures that calls report -/

namespace Service

/-- A failure of the store, unless it says that an entry kept changing, was
the answer to one of the calls. -/
def Reported (exchanges : List Exchange) (result : Except AccessError Response) : Prop :=
  ∀ failure, result = .error (.store failure) →
    (∃ detail, failure = .backend detail) ∨
      ∃ exchange ∈ exchanges, exchange.answer = .error failure

variable {service : Service} {request : Request} {cache raw : String} {exchanges : List Exchange}
  {result : Except AccessError Response} {pool : WorkerPool}

theorem Reported.of_own {error : AccessError} (own : ∀ failure, error ≠ .store failure) :
    Reported exchanges (.error error) :=
  fun failure same => (own failure (Except.error.inj same)).elim

theorem Reported.of_failed {call : Call} {failure : StoreError}
    (last : exchanges.getLast? = some ⟨call, .error failure⟩) :
    Reported exchanges (.error (.store failure)) := by
  intro other same
  obtain rfl := AccessError.store.inj (Except.error.inj same)
  exact Or.inr ⟨_, List.mem_of_getLast? last, rfl⟩

theorem ReadCourse.reported (course : service.ReadCourse request cache raw exchanges result) :
    Reported exchanges result := by
  intro failure failed
  have ended := course.ending
  rw [failed] at ended
  cases ended with
  | failure told => exact told failure rfl

theorem WriteCourse.reported (course : service.WriteCourse request cache raw exchanges result) :
    Reported exchanges result := by
  cases course with
  | unkeyed unkeyed => exact .of_own (requestKey_error unkeyed)
  | bodiless _ bodiless =>
    exact .of_own (AccessError.ne_store_of_badRequest (writtenBody_badRequest bodiless))
  | unsettled _ _ unsettled =>
    rcases unsettled with untyped | untimed
    · exact .of_own (writtenType_error untyped)
    · exact .of_own (AccessError.ne_store_of_badRequest (resolveMetadata_badRequest untimed))
  | unknown | unseen | failed => exact .of_failed rfl
  | refused | stored => exact fun _ => nofun

theorem DeleteCourse.reported (course : service.DeleteCourse request cache raw exchanges result) :
    Reported exchanges result := by
  cases course with
  | unkeyed unkeyed => exact .of_own (requestKey_error unkeyed)
  | unseen | failed => exact .of_failed rfl
  | refused | removed => exact fun _ => nofun

theorem ClearCourse.reported (course : ClearCourse request cache exchanges result) :
    Reported exchanges result := by
  cases course with
  | failed => exact .of_failed rfl
  | cleared => exact fun _ => nofun

theorem KeysCourse.reported (course : service.KeysCourse request cache exchanges result) :
    Reported exchanges result := by
  cases course with
  | unknown | failed => exact .of_failed rfl
  | unacceptable unacceptable => exact .of_own (negotiateListing_error unacceptable)
  | listed => exact fun _ => nofun

/-- A pool that fails its job is no failure of the store. -/
theorem keys_reported (run : (service.keys request cache pool).run.Yields exchanges result) :
    Reported exchanges result := by
  rcases keys_course_of_pool run with course | ⟨-, _, _, _, -, rfl⟩
  · exact course.reported
  · exact .of_own fun _ => AccessError.noConfusion

/-- Over the in-memory store, a cache that is said to be unknown does not exist. -/
theorem Reported.unknown {world : World} {history : List Happening} {name : String}
    (reported : Reported (world.exchanges history) result)
    (directed : ∀ exchange ∈ world.exchanges history, exchange.call.cache = cache)
    (failed : result = .error (.store (.unknownCache name))) :
    world.memory.configuration? cache = none := by
  rcases reported _ failed with ⟨detail, same⟩ | ⟨exchange, member, answered⟩
  · cases same
  obtain ⟨reached, met, same⟩ := World.answered_of_mem member
  have unknown := Memory.configuration?_of_answer_unknown (met.trans answered)
  rwa [directed exchange member, same] at unknown

end Service

end CacheGate
