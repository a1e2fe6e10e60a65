import CacheGate.Proofs.Serve.CheckedChange
import CacheGate.Proofs.Serve.Independence

/-!
# In whose name store calls are made

The public calls of a store are made in the name of a caller and are audited,
the internal ones in the name of the service. `Service.Directs` says which call
a request may make once it has a route: public ones with its own subject,
internal ones with the context that the service was set up with, and both on
the cache and the key of the route.

* `Service.perform_directs`: every handler keeps to that, whatever it is
  answered, and succeeds only through a public call.
* `Service.calls_carry_identity_and_address` says so of dispatched requests.
-/

namespace CacheGate

open Http

/-! ## What a call states -/

namespace Call

/-- In whose name a public call is made. -/
def subject? : Call → Option Subject
  | .get subject .. | .put subject .. | .remove subject .. | .clear subject _ | .keys subject _ =>
    some subject
  | .entry .. | .configuration .. | .distribution .. => none

/-- In whose name an internal call is made. -/
def context? : Call → Option ExecutionContext
  | .entry context .. | .configuration context _ | .distribution context .. => some context
  | .get .. | .put .. | .remove .. | .clear .. | .keys .. => none

end Call

/-- A public call in the name of a caller, and the store carried it out. -/
def Exchange.Serves (exchange : Exchange) (subject : Subject) : Prop :=
  exchange.call.subject? = some subject ∧ exchange.Succeeded

namespace Service

/-- A call that a request may make under its route. Only settings are asked for
without the key, where the route names one. -/
structure Directs (service : Service) (request : Request) (route : Route) (call : Call) : Prop where
  subject : ∀ subject, call.subject? = some subject → subject = request.subject
  context : ∀ context, call.context? = some context → context = service.context
  cache : call.cache = route.cache
  key : call.key?.map Key.content = route.key.map Utf8.encode ∨
    call = .configuration service.context route.cache

variable {service : Service} {request : Request} {route : Route} {operation : Operation}
  {cache raw : String} {call : Call} {exchanges : List Exchange}
  {result : Except AccessError Response} {pool : WorkerPool}

/-! ## Calls of the handlers -/

theorem directs_configuration :
    service.Directs request route (.configuration service.context route.cache) where
  subject := nofun
  context _ same := (Option.some.inj same).symm
  cache := rfl
  key := Or.inr rfl

/-- A request on an entry asks for the settings, or names the key of its route. -/
theorem EntryCall.directs (asked : service.EntryCall request cache raw call) :
    service.Directs request ⟨operation, cache, some raw⟩ call := by
  cases asked with
  | configuration => exact directs_configuration
  | entry content | distribution content =>
    exact ⟨nofun, fun _ same => (Option.some.inj same).symm, rfl, Or.inl (congrArg some content)⟩
  | get content | put content | remove content =>
    exact ⟨fun _ same => (Option.some.inj same).symm, nofun, rfl, Or.inl (congrArg some content)⟩

theorem ClearCourse.directs (course : ClearCourse request cache exchanges result) :
    ∀ exchange ∈ exchanges, service.Directs request ⟨operation, cache, none⟩ exchange.call := by
  have clear : service.Directs request ⟨operation, cache, none⟩ (.clear request.subject cache) :=
    ⟨fun _ same => (Option.some.inj same).symm, nofun, rfl, Or.inl rfl⟩
  cases course <;> exact List.forall_mem_singleton.2 clear

theorem directs_listing {configuration : Except StoreError CacheConfiguration}
    {keys : Except StoreError (List Key)} :
    ∀ exchange ∈ [(⟨.configuration service.context cache, configuration⟩ : Exchange),
      ⟨.keys request.subject cache, keys⟩],
      service.Directs request ⟨operation, cache, none⟩ exchange.call :=
  List.forall_mem_cons.2 ⟨directs_configuration, List.forall_mem_singleton.2
    ⟨fun _ same => (Option.some.inj same).symm, nofun, rfl, Or.inl rfl⟩⟩

theorem KeysCourse.directs (course : service.KeysCourse request cache exchanges result) :
    ∀ exchange ∈ exchanges, service.Directs request ⟨operation, cache, none⟩ exchange.call := by
  cases course with
  | unknown | unacceptable => exact List.forall_mem_singleton.2 directs_configuration
  | failed | listed => exact directs_listing

/-! ## Calls that requests succeed through -/

theorem not_succeeds_error {error : AccessError} :
    ¬ (answerOf (.error error)).status.Succeeds :=
  error.not_succeeds_response

theorem ReadCourse.serves (course : service.ReadCourse request cache raw exchanges result)
    (found : (answerOf result).status.Succeeds) :
    ∃ exchange ∈ exchanges, exchange.Serves request.subject := by
  cases result with
  | error error => exact (not_succeeds_error found).elim
  | ok response =>
    rcases course.ok_or_refused with ok | ⟨status, refuses, rfl⟩
    · obtain ⟨key, before, media, value, current, placed, -, rfl, -, -⟩ := course.served_of_ok ok
      exact ⟨⟨.get request.subject cache key media, .ok (some value)⟩, by simp, rfl, rfl⟩
    · exact (refuses found).elim

theorem WriteCourse.serves (course : service.WriteCourse request cache raw exchanges result)
    (found : (answerOf result).status.Succeeds) :
    ∃ exchange ∈ exchanges, exchange.Serves request.subject := by
  obtain ⟨_, _, added, -, -, -, -, -, -, rfl⟩ := course.stored_of_succeeds found
  exact ⟨⟨.put request.subject cache added, .ok ()⟩, by simp, rfl, rfl⟩

theorem DeleteCourse.serves (course : service.DeleteCourse request cache raw exchanges result)
    (found : (answerOf result).status.Succeeds) :
    ∃ exchange ∈ exchanges, exchange.Serves request.subject := by
  obtain ⟨key, _, -, -, -, rfl⟩ := course.removed_of_succeeds found
  exact ⟨⟨.remove request.subject cache key, .ok true⟩, by simp, rfl, rfl⟩

theorem ClearCourse.serves (course : ClearCourse request cache exchanges result)
    (found : (answerOf result).status.Succeeds) :
    ∃ exchange ∈ exchanges, exchange.Serves request.subject := by
  cases course with
  | failed => exact (not_succeeds_error found).elim
  | cleared => exact ⟨_, List.mem_singleton.2 rfl, rfl, rfl⟩

theorem KeysCourse.serves (course : service.KeysCourse request cache exchanges result)
    (found : (answerOf result).status.Succeeds) :
    ∃ exchange ∈ exchanges, exchange.Serves request.subject := by
  cases course with
  | unknown | unacceptable | failed => exact (not_succeeds_error found).elim
  | @listed _ _ _ keys =>
    exact ⟨⟨.keys request.subject cache, .ok keys⟩, by simp, rfl, rfl⟩

/-! ## Dispatched requests -/

/-- What the handler of a route asks, and what it needs to succeed. -/
theorem perform_directs
    (resolved : Route.resolve request.method request.path request.action? = .ok route)
    (run : (service.perform request route.operation route.cache (route.key.getD "")
      pool).run.Yields exchanges result) :
    (∀ exchange ∈ exchanges, service.Directs request route exchange.call) ∧
      ((answerOf result).status.Succeeds → route.operation ≠ .search →
        ∃ exchange ∈ exchanges, exchange.Serves request.subject) := by
  obtain ⟨operation, cache, key⟩ := route
  rcases Route.resolve_shape resolved with ⟨raw, rfl, -, shape⟩ | ⟨rfl, shape⟩
  · -- on an entry the pool has no part
    rcases shape with rfl | rfl | rfl
    · have course := read_course run
      exact ⟨fun exchange member => (course.entryCalls exchange member).directs,
        fun found _ => course.serves found⟩
    · have course := write_course run
      exact ⟨fun exchange member => (course.entryCalls exchange member).directs,
        fun found _ => course.serves found⟩
    · have course := delete_course run
      exact ⟨fun exchange member => (course.entryCalls exchange member).directs,
        fun found _ => course.serves found⟩
  · rcases shape with rfl | rfl | rfl
    · have course := clear_course run
      exact ⟨course.directs, fun found _ => course.serves found⟩
    · rcases keys_course_of_pool run with course | ⟨-, _, _, _, rfl, rfl⟩
      · exact ⟨course.directs, fun found _ => course.serves found⟩
      · exact ⟨directs_listing, fun found _ => (not_succeeds_error found).elim⟩
    · obtain ⟨rfl, -⟩ := Answering.yields_ofExcept_iff.1 run
      exact ⟨fun _ member => (List.not_mem_nil member).elim, fun _ other => (other rfl).elim⟩

/-- Every store call of a request is made in the right name and on the right entry.

However a store answers, whatever becomes of the listing job, and however often
a read is repeated: a request without a route makes no store call; under a
route every public call carries the subject of the request, every internal one
the context that the service was set up with, and each of them names the cache
and the key of the route, where only the settings are asked for by the cache
alone. And unless it is a search, which is up to its own handler, a request
that is answered 200 or 201 was served by a public call in its own name. -/
theorem calls_carry_identity_and_address (service : Service) (request : Request)
    (pool : WorkerPool) (exchanges : List Exchange) (response : Response)
    (run : (service.dispatch request pool).Yields exchanges response) :
    match Route.resolve request.method request.path request.action? with
    | .error _ => exchanges = []
    | .ok route =>
      (∀ exchange ∈ exchanges, service.Directs request route exchange.call) ∧
        (response.status.Succeeds → route.operation ≠ .search →
          ∃ exchange ∈ exchanges, exchange.Serves request.subject) := by
  rcases dispatch_course_of_pool run with
    ⟨error, unrouted, rfl, -⟩ | ⟨route, result, resolved, handled, rfl⟩
  · rw [unrouted]
  · rw [resolved]
    exact perform_directs resolved handled

end Service

/-! ## A repeated read -/

/-- A service that was set up with a principal for its internal reads, and that
shows placements. -/
def elevatedService : Service := ⟨.elevated "admin", 1, .onDemand, .unsupported⟩

/-- A GET of `c/k` by a known caller, who asks for the placement too. -/
def namedGet : Request :=
  { Request.of .get "c/k" with query := [("extended", "true")], subject := .named "alice" }

/-- Another client puts `v2` just before the value is fetched, so that the read is repeated. -/
def repeatedRead : Handler.Ran Interleaved Response :=
  (elevatedService.dispatch namedGet).among (emptyWorld.perform (rivalPut "v1"))
    [([], []), ([], []), ([.call (rivalPut "v2")], [])]

/-- The store calls of that read. -/
def repeatedReadCalls : List Exchange :=
  (emptyWorld.perform (rivalPut "v1")).exchanges repeatedRead.state.history

/-- All seven calls of the repeated read are made in the right names. -/
theorem repeated_read_asks_for_caller_and_service :
    repeatedRead.value.status = .ok ∧ repeatedReadCalls.length = 7 ∧
      (∀ exchange ∈ repeatedReadCalls,
        elevatedService.Directs namedGet ⟨.read, "c", some "k"⟩ exchange.call) ∧
      ∃ exchange ∈ repeatedReadCalls, exchange.Serves (.named "alice") := by
  have found : repeatedRead.value.status = .ok := by decide +kernel
  have resolved : Route.resolve namedGet.method namedGet.path namedGet.action? =
      .ok ⟨.read, "c", some "k"⟩ := by decide +kernel
  have told := Service.calls_carry_identity_and_address elevatedService namedGet .working
    repeatedReadCalls repeatedRead.value (Handler.among_yields _ _ _)
  rw [resolved] at told
  exact ⟨found, by decide +kernel, told.1, told.2 (Or.inl found) (by decide)⟩

end CacheGate
