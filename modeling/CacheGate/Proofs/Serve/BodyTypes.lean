import CacheGate.Proofs.Serve.CallIdentity
import CacheGate.Proofs.Serve.Failures
import CacheGate.Proofs.Serve.RefusedTypes

/-!
# Bodies and their types

Every answer with a body announces a media type for it, and a client that
reads the announced text finds a type that is no range. The type of a value
comes from the client, from the cache, or is a common one
(`sources_of_responseFormat`), and in each case its text can be sent and is
read back (`announceable_of_responseFormat`). All other bodies are messages in
plain text and key listings.

`Service.bodies_fit` says so of every dispatched request, and which answers
have no body at all.
-/

namespace CacheGate

open Time Http

/-! ## Types that can be announced -/

namespace MediaType

variable {media format : MediaType}

/-- Whoever gets the text of the type in a header reads a type that is no range. -/
structure Announceable (media : MediaType) : Prop where
  sendable : isFieldText media.text = true
  reread : ∃ found, parse media.text = .ok found ∧ found.isConcrete = true

theorem Parsed.announceable (parsed : media.Parsed) (concrete : media.isConcrete = true)
    (sendable : isFieldText media.text = true) : media.Announceable := by
  have unpaired : ¬ media.IsStarPair := by
    rintro ⟨params, rfl⟩
    cases concrete
  refine ⟨sendable, media.reread, parsed.parse_text unpaired, ?_⟩
  cases media with
  | any => cases concrete
  | named => exact concrete

theorem announceable_of_mem_common (common : media ∈ ValueConversion.common) :
    media.Announceable := by
  have every : ∀ media ∈ ValueConversion.common, isFieldText media.text = true ∧
      parse media.text = .ok media ∧ media.isConcrete = true := by decide +kernel
  obtain ⟨sendable, read, concrete⟩ := every media common
  exact ⟨sendable, media, read, concrete⟩

/-- A storage format that is no range, and that without its parameters is what
some text is read as and is free of control characters. -/
structure Declarable (format : MediaType) : Prop where
  concrete : format.isConcrete = true
  parsed : format.essence.Parsed
  uncontrolled : ∀ c ∈ format.essence.text.toList, Text.Uncontrolled c

/-- Such a format can be announced without its parameters. -/
theorem Declarable.announceable_essence (declarable : format.Declarable) :
    format.essence.Announceable :=
  declarable.parsed.announceable (isConcrete_essence declarable.concrete)
    (Text.isFieldText_of_uncontrolled declarable.uncontrolled)

theorem IsName.lowered_eq {name : String} (given : IsName name) : Text.lowered name = name := by
  unfold Text.lowered
  rw [given.lowered, String.ofList_toList]

/-- Formats that are read from a text can be declared, unless they are ranges
or have control characters. -/
theorem Parsed.declarable (parsed : format.Parsed) (concrete : format.isConcrete = true)
    (uncontrolled : ∀ c ∈ format.text.toList, Text.Uncontrolled c) : format.Declarable := by
  cases parsed with
  | any => cases concrete
  | @named primary sub params first unslashed second =>
    have bare : (MediaType.named primary sub params).essence = .named primary sub [] := by
      change MediaType.named (Text.lowered primary) (Text.lowered sub) [] = _
      rw [first.lowered_eq, second.lowered_eq]
    refine ⟨concrete, ?_, fun c member => uncontrolled c ?_⟩
    · rw [bare]
      exact .named first unslashed second fun _ member => (List.not_mem_nil member).elim
    · rw [bare, toList_text_named, List.flatMap_nil, List.append_nil] at member
      rw [toList_text_named]
      exact List.mem_append_left _ member

end MediaType

/-- The type that a value is sent in can be announced. -/
theorem announceable_of_responseFormat {request : Request} {storage : Option MediaType}
    {value : Bytes} {media : MediaType}
    (formats : ∀ format, storage = some format → format.Declarable)
    (settled : responseFormat request.accept? (.ofStorage storage) value = .ok media) :
    media.Announceable := by
  obtain ⟨_, _, -, -, renders⟩ :=
    responseFormat_preferred (fun format declared => (formats format declared).concrete) settled
  rcases sources_of_responseFormat settled with
    ⟨listed, accepted, member⟩ | declared | offered | common
  · cases accepts : request.accept? with
    | none =>
      -- Then the client names the full range only, and that is no type of a value.
      rw [accepts] at accepted
      obtain rfl := Except.ok.inj accepted
      rw [List.mem_singleton.1 member] at renders
      cases renders.concrete
    | some header =>
      rw [accepts] at accepted
      have read := candidates_eq_ok_iff.1 accepted
      exact (MediaType.parsed_of_mem_parseList read member).announceable renders.concrete
        (MediaType.isFieldText_of_mem_parseList read member (Request.sendable_of_header? accepts))
  · cases storage with
    | none => cases declared
    | some format =>
      obtain rfl := Option.some.inj declared
      exact (formats format rfl).announceable_essence
  · cases storage with
    | none => cases offered
    | some format =>
      rcases ValueConversion.eq_or_mem_common offered with rfl | common
      · exact (formats format rfl).announceable_essence
      · exact MediaType.announceable_of_mem_common common
  · exact MediaType.announceable_of_mem_common common

/-! ## Bodies of responses -/

namespace Http.Response

/-- What a response has in its body goes with the rest of it and with what was
asked for. -/
structure Fits (response : Response) (request : Request) (memory : Memory) : Prop where
  /-- A body comes with a type that is no range. -/
  typed : response.body ≠ [] →
    ∃ media, response.contentType? = some media ∧ media.isConcrete = true
  /-- Conditions that end a request leave nothing to send. -/
  conditional : response.status = .notModified ∨ response.status = .preconditionFailed →
    response.body = []
  /-- Only a cache that does not exist is reported in words. -/
  absent : response.status = .notFound → response.body = [] ∨
    ∃ route, Route.resolve request.method request.path request.action? = .ok route ∧
      memory.configuration? route.cache = none
  /-- Without the value that HEAD leaves out there is nothing else to send. -/
  headless : request.method = .head → response.status = .ok → response.body = []

variable {response : Response} {request : Request} {memory : Memory} {media : MediaType}
  {body : Bytes}

theorem Fits.of_bodiless (bodiless : response.body = []) : response.Fits request memory :=
  ⟨fun filled => (filled bodiless).elim, fun _ => bodiless, fun _ => Or.inl bodiless,
    fun _ _ => bodiless⟩

/-- Other answers only need a type. -/
theorem Fits.of_typed
    (typed : ∃ media, response.contentType? = some media ∧ media.isConcrete = true)
    (status : response.status ∉ [.notModified, .preconditionFailed, .notFound])
    (headless : request.method = .head → response.status = .ok → response.body = []) :
    response.Fits request memory := by
  simp only [List.mem_cons, List.not_mem_nil, or_false, not_or] at status
  exact ⟨fun _ => typed, fun conditional => (conditional.elim status.1 status.2.1).elim,
    fun absent => (status.2.2 absent).elim, headless⟩

theorem contentType?_diagnostic (response : Response) (message : String) :
    (response.diagnostic message).contentType? = some .textPlain := by
  apply contentType?_entity <;> decide

end Http.Response

theorem AccessError.typed_response (error : AccessError) :
    ∃ media, error.response.contentType? = some media ∧ media.isConcrete = true :=
  ⟨.textPlain, Response.contentType?_diagnostic _ error.presentation, rfl⟩

/-- A failed request is told so in words, with 404 only if its cache is unknown. -/
theorem Http.Response.Fits.of_error {error : AccessError} {request : Request} {memory : Memory}
    (unknown : ∀ name, error = .store (.unknownCache name) →
      ∃ route, Route.resolve request.method request.path request.action? = .ok route ∧
        memory.configuration? route.cache = none) :
    error.response.Fits request memory where
  typed _ := error.typed_response
  conditional status := by
    change error.status = _ ∨ error.status = _ at status
    cases error with
    | store failure => cases failure <;> rcases status with status | status <;> cases status
    | _ => rcases status with status | status <;> cases status
  absent status := by
    change error.status = _ at status
    cases error with
    | store failure =>
      cases failure with
      | unknownCache name => exact Or.inr (unknown name rfl)
      | _ => cases status
    | _ => cases status
  headless _ status := (error.not_succeeds_response (Or.inl status)).elim

/-! ## Handlers -/

/-- Every cache stores values as they come, or in a format that can be declared. -/
def Memory.DeclaresFormats (memory : Memory) : Prop :=
  ∀ name configuration, memory.configuration? name = some configuration →
    ∃ storage, configuration.conversion = .ofStorage storage ∧
      ∀ format, storage = some format → format.Declarable

/-- New stores do so if their definitions do, and so do all states that they come to. -/
theorem World.declaresFormats_after {world : World} {cluster : ClusterView}
    {definitions : List CacheDefinition} (created : world.memory = .create cluster definitions)
    (formats : ∀ definition ∈ definitions, ∀ format, definition.storage = some format →
      format.Declarable) (history : List Happening) :
    (world.after history).memory.DeclaresFormats := by
  intro name configuration known
  rw [World.configuration?_after, created] at known
  obtain ⟨definition, member, conversion⟩ := Memory.configuration?_create known
  exact ⟨definition.storage, conversion, formats definition member⟩

/-- Only entries are read with HEAD. -/
theorem Route.operation_of_head {path : String} {action : Option String} {route : Route}
    (resolved : resolve .head path action = .ok route) : route.operation = .read := by
  obtain ⟨-, -, -, asked⟩ := resolve_eq_ok_iff.1 resolved
  cases key : route.key with
  | none =>
    rw [key] at asked
    change cacheOperation .head action = .ok route.operation at asked
    unfold cacheOperation at asked
    split at asked <;> cases asked
  | some raw =>
    rw [key] at asked
    exact (Except.ok.inj asked).symm

namespace Service

variable {service : Service} {request : Request} {cache raw : String} {world : World}
  {history : List Happening} {result : Except AccessError Response} {pool : WorkerPool}
  {route : Route}

/-- A request that fails with what its calls report fits its answer. -/
theorem Reported.fits {error : AccessError}
    (reported : Reported (world.exchanges history) (.error error))
    (resolved : Route.resolve request.method request.path request.action? = .ok route)
    (directed : ∀ exchange ∈ world.exchanges history,
      service.Directs request route exchange.call) :
    error.response.Fits request world.memory := by
  refine .of_error fun name same => ⟨route, resolved, ?_⟩
  exact reported.unknown (fun exchange member => (directed exchange member).cache)
    (congrArg Except.error same)

theorem ReadCourse.fits {response : Response}
    (course : service.ReadCourse request cache raw (world.exchanges history) (.ok response))
    (formats : world.memory.DeclaresFormats) : response.Fits request world.memory := by
  rcases course.ok_or_refused with found | ⟨status, -, rfl⟩
  · obtain ⟨configuration, value, media, configured, settled, announced⟩ :=
      course.announces_of_ok found
    obtain ⟨reached, answered, same⟩ := World.answered_of_mem configured
    have known := (same cache).symm.trans (World.configuration?_of_answered answered)
    obtain ⟨storage, conversion, declarable⟩ := formats cache configuration known
    rw [conversion] at settled
    obtain ⟨sendable, read, reread, concrete⟩ := announceable_of_responseFormat declarable settled
    rw [if_pos sendable] at announced
    refine .of_typed ⟨read, ?_, concrete⟩ ?_ fun head _ => ?_
    · change ((answerOf (.ok response)).announced?).bind _ = _
      rw [announced, Option.bind_some, reread]
      rfl
    · rw [show response.status = .ok from found]
      decide
    · obtain ⟨_, _, _, _, _, _, -, -, -, body⟩ := course.served_of_ok found
      exact body.trans (if_pos head)
  · exact .of_bodiless rfl

theorem WriteAnswer.fits {response : Response} {memory : Memory}
    (answer : WriteAnswer request response) : response.Fits request memory := by
  cases answer with
  | conflict =>
    refine .of_typed ⟨.textPlain, Response.contentType?_diagnostic _ _, rfl⟩ ?_ fun _ => ?_
    · rw [Response.diagnostic_status]
      decide
    · rw [Response.diagnostic_status]
      exact nofun
  | refused => exact .of_bodiless rfl
  | written => exact .of_bodiless Response.setHeader_body

theorem DeleteCourse.fits {exchanges : List Exchange} {response : Response} {memory : Memory}
    (course : service.DeleteCourse request cache raw exchanges (.ok response)) :
    response.Fits request memory := by
  cases course <;> exact .of_bodiless rfl

theorem ClearCourse.fits {exchanges : List Exchange} {response : Response} {memory : Memory}
    (course : ClearCourse request cache exchanges (.ok response)) :
    response.Fits request memory := by
  cases course
  exact .of_bodiless rfl

theorem KeysCourse.fits {exchanges : List Exchange} {response : Response} {memory : Memory}
    (course : service.KeysCourse request cache exchanges (.ok response))
    (method : request.method ≠ .head) : response.Fits request memory := by
  cases course with
  | @listed _ format charset =>
    refine .of_typed ⟨_, contentType?_listing format charset _, ?_⟩ ?_
      fun head => (method head).elim
    · cases format <;> cases charset <;> decide +kernel
    · change ((Response.setHeader _ _ _).setHeader _ _).status ∉ _
      rw [Response.setHeader_status, Response.setHeader_status]
      decide

/-- Whatever the handler of a route ends with fits the request. -/
theorem perform_fits (builtin : service.queries = .unsupported)
    (formats : world.memory.DeclaresFormats)
    (resolved : Route.resolve request.method request.path request.action? = .ok route)
    (run : (service.perform request route.operation route.cache (route.key.getD "")
      pool).run.Yields (world.exchanges history) result) :
    (answerOf result).Fits request world.memory := by
  have directed := (perform_directs resolved run).1
  have method : route.operation ≠ .read → request.method ≠ .head := by
    intro other head
    rw [head] at resolved
    exact other (Route.operation_of_head resolved)
  -- A value that is returned fits by its course, and a failure by what the calls reported.
  obtain ⟨operation, cache, key⟩ := route
  rcases Route.resolve_shape resolved with ⟨raw, rfl, -, shape⟩ | ⟨rfl, shape⟩
  · rcases shape with rfl | rfl | rfl
    · have course := read_course run
      cases result with
      | ok => exact course.fits formats
      | error => exact course.reported.fits resolved directed
    · cases result with
      | ok => exact (write_answer run).fits
      | error => exact (write_course run).reported.fits resolved directed
    · have course := delete_course run
      cases result with
      | ok => exact course.fits
      | error => exact course.reported.fits resolved directed
  · rcases shape with rfl | rfl | rfl
    · have course := clear_course run
      cases result with
      | ok => exact course.fits
      | error => exact course.reported.fits resolved directed
    · cases result with
      | ok =>
        rcases keys_course_of_pool run with course | ⟨-, _, _, _, -, ⟨⟩⟩
        exact course.fits (method nofun)
      | error => exact (keys_reported run).fits resolved directed
    · obtain ⟨-, rfl⟩ := Answering.yields_ofExcept_iff.1 run
      rw [builtin]
      refine .of_typed ⟨.textPlain, Response.contentType?_diagnostic _ _, rfl⟩ ?_
        fun head => (method nofun head).elim
      change ((Response.ofStatus .notImplemented).diagnostic _).status ∉ _
      rw [Response.diagnostic_status]
      decide

end Service

theorem RouteError.fits_response (error : RouteError) (request : Request) (memory : Memory) :
    error.response.Fits request memory := by
  cases error with
  | notFound => exact .of_bodiless rfl
  | methodNotAllowed allowed => exact .of_bodiless Response.setHeader_body
  | noKey | unknownAction => exact .of_error fun _ => nofun

/-- Bodies and their types go together.

Over an in-memory store in any state whose storage formats are absent or can be
declared, with any worker pool, among any other clients, and with the handler
of searches that is built in: an answer with a body states a type for it, whose
text is read as a media type that is no range. Answers with the status 304 or
412, with 404 unless the cache of the request does not exist, and with 200 to
HEAD have no body. -/
theorem Service.bodies_fit (service : Service) (builtin : service.queries = .unsupported)
    (world : World) (formats : world.memory.DeclaresFormats) (history : List Happening)
    (request : Request) (pool : WorkerPool) (response : Response)
    (run : (service.dispatch request pool).Yields (world.exchanges history) response) :
    (response.body ≠ [] →
      ∃ media, response.contentType? = some media ∧ media.isConcrete = true) ∧
    (response.status = .notModified ∨ response.status = .preconditionFailed →
      response.body = []) ∧
    (response.status = .notFound → response.body = [] ∨
      ∃ route, Route.resolve request.method request.path request.action? = .ok route ∧
        world.memory.configuration? route.cache = none) ∧
    (request.method = .head → response.status = .ok → response.body = []) := by
  have fits : response.Fits request world.memory := by
    rcases dispatch_course_of_pool run with
      ⟨error, -, -, rfl⟩ | ⟨route, result, resolved, handled, rfl⟩
    · exact error.fits_response request world.memory
    · exact perform_fits builtin formats resolved handled
  exact ⟨fits.typed, fits.conditional, fits.absent, fits.headless⟩

/-! ## A declared format -/

/-- A storage format that is declared as `Text/HTML; charset=utf-8`. -/
def hypertext : MediaType := .named "text" "html" [("charset", "utf-8")]

theorem declarable_hypertext : hypertext.Declarable := by
  have read : MediaType.parse "Text/HTML; charset=utf-8" = .ok hypertext := by decide +kernel
  have free : hypertext.text.toList.all (fun c => decide (Text.Uncontrolled c)) = true := by
    decide +kernel
  exact (MediaType.parsed_of_parse read).declarable (by decide) fun c member =>
    of_decide_eq_true (List.all_eq_true.1 free c member)

/-- A store with one cache `c` for that format. -/
def hypertextWorld : World :=
  ⟨.create ⟨"node", "address", []⟩ [⟨"c", .unlimited, .unlimited, some hypertext⟩], .epoch⟩

/-- A read of a value that was put there, by a client that takes any text. -/
def hypertextRead : Handler.Ran Interleaved Response :=
  (plainService.dispatch ((Request.of .get "c/k").withHeader Field.accept "text/*")).among
    (hypertextWorld.after [.move (.call (rivalPut "v1"))]) []

/-- The value is sent as a type that is no range. -/
theorem hypertext_is_sent_with_its_type :
    hypertextRead.value.status = .ok ∧ hypertextRead.value.body = Utf8.encode "v1" ∧
      ∃ media, hypertextRead.value.contentType? = some media ∧ media.isConcrete = true := by
  have formats : (hypertextWorld.after [.move (.call (rivalPut "v1"))]).memory.DeclaresFormats := by
    refine World.declaresFormats_after rfl (fun definition member format declared => ?_) _
    rw [List.mem_singleton.1 member] at declared
    obtain rfl := Option.some.inj declared
    exact declarable_hypertext
  have body : hypertextRead.value.body = Utf8.encode "v1" := by decide +kernel
  have filled : hypertextRead.value.body ≠ [] := by decide +kernel
  obtain ⟨typed, -, -, -⟩ := Service.bodies_fit plainService rfl
    (hypertextWorld.after [.move (.call (rivalPut "v1"))]) formats hypertextRead.state.history _
    .working hypertextRead.value (Handler.among_yields _ _ _)
  exact ⟨by decide +kernel, body, typed filled⟩

end CacheGate
