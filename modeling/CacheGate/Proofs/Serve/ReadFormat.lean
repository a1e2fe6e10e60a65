import CacheGate.Proofs.Handler.Aftermath
import CacheGate.Proofs.MediaType.Accept
import CacheGate.Proofs.Negotiation
import CacheGate.Proofs.Serve.Reading
import CacheGate.Proofs.Store.Creation

/-!
# The format of a read

The audited read of a value asks for the negotiated format, so over a store
whose caches declare a concrete format or none it is never refused, and the
body that is sent has a concrete type. `Service.read_format_sound` says so for
every read among other clients, next to what the negotiated format is.
-/

namespace CacheGate

open Time Http

/-! ## What the courses of a read tell about formats -/

namespace ReadPlan

variable {plan : ReadPlan} {service : Service} {remaining : Nat} {snapshot : Option Entry}
  {exchanges : List Exchange} {result : Except AccessError Response}

/-- A call that is no audited read, or one in the format that was settled for a value. -/
def Formats (plan : ReadPlan) (call : Call) : Prop :=
  ∀ subject name key media, call = .get subject name key media →
    name = plan.cache ∧ ∃ entry, plan.format entry = .ok media

theorem formats_fetch {entry : Entry} {media : MediaType} (settled : plan.format entry = .ok media) :
    plan.Formats (plan.fetch media) := by
  rintro subject name key asked same
  cases same
  exact ⟨rfl, entry, settled⟩

theorem formats_look : plan.Formats (plan.look service) := by
  rintro subject name key asked same
  cases same

theorem formats_distribution :
    plan.Formats (.distribution service.context plan.cache plan.key) := by
  rintro subject name key asked same
  cases same

theorem Reply.formats {entry : Entry} {now : Instant} {media : MediaType} {value : Bytes}
    (reply : plan.Reply service entry now media value exchanges result) :
    ∀ exchange ∈ exchanges, plan.Formats exchange.call := by
  intro exchange member
  cases reply with
  | unplaced =>
    rw [List.mem_singleton.1 member]
    exact formats_distribution
  | complete placing =>
    obtain ⟨placement, rfl⟩ := placing exchange member
    exact formats_distribution

/-- An evaluation asks only for the formats that were settled. -/
theorem Course.formats (course : plan.Course service remaining snapshot exchanges result) :
    ∀ exchange ∈ exchanges, plan.Formats exchange.call := by
  induction course with
  | exhausted | absent | refused | unsettled => exact fun _ member => (List.not_mem_nil member).elim
  | failed settled | gone settled =>
    exact List.forall_mem_singleton.2 (formats_fetch settled)
  | unconfirmed settled =>
    exact List.forall_mem_cons.2 ⟨formats_fetch settled, List.forall_mem_singleton.2 formats_look⟩
  | served _ settled _ reply =>
    exact List.forall_mem_cons.2
      ⟨formats_fetch settled, List.forall_mem_cons.2 ⟨formats_look, reply.formats⟩⟩
  | moved settled _ _ ih =>
    exact List.forall_mem_cons.2
      ⟨formats_fetch settled, List.forall_mem_cons.2 ⟨formats_look, ih⟩⟩

end ReadPlan

/-- Failures of the store are not the fault of a request. -/
theorem AccessError.ne_store_of_badRequest {error : AccessError}
    (bad : error.status = .badRequest) : ∀ failure, error ≠ .store failure := by
  rintro failure rfl
  cases failure <;> cases bad

/-- How a read ends: with a status alone, with the value that it fetched in the
format that it was fetched in, or with a failure, and then a failure of the
store is one that it answered or says that the entry kept changing. -/
inductive Service.ReadEnding (request : Request) (cache : String) (exchanges : List Exchange) :
    Except AccessError Response → Prop
  | status (status : Status) : ReadEnding request cache exchanges (.ok (.ofStatus status))
  | value {key : Key} {media : MediaType} {value : Bytes} (base : Response) :
    ⟨.get request.subject cache key media, .ok (some value)⟩ ∈ exchanges →
    ReadEnding request cache exchanges (.ok (bodyFor request.method (base.entity media value)))
  | failure {error : AccessError} :
    (∀ failure, error = .store failure → (∃ detail, failure = .backend detail) ∨
      ∃ exchange ∈ exchanges, exchange.answer = .error failure) →
    ReadEnding request cache exchanges (.error error)

namespace Service

variable {service : Service} {request : Request} {cache raw : String}
  {exchanges more : List Exchange} {result : Except AccessError Response}

theorem ReadEnding.mono (ending : ReadEnding request cache exchanges result)
    (inside : exchanges ⊆ more) : ReadEnding request cache more result := by
  cases ending with
  | status status => exact .status status
  | value base member => exact .value base (inside member)
  | failure told =>
    refine .failure fun failure same => (told failure same).imp_right ?_
    rintro ⟨exchange, member, failed⟩
    exact ⟨exchange, inside member, failed⟩

/-- A failure of the store ends a read as such. -/
theorem ReadEnding.of_failed {call : Call} {failure : StoreError}
    (member : (⟨call, .error failure⟩ : Exchange) ∈ exchanges) :
    ReadEnding request cache exchanges (.error (.store failure)) := by
  refine .failure fun other same => Or.inr ⟨_, member, ?_⟩
  rw [AccessError.store.inj same]

/-- A refusal is no failure of the store. -/
theorem ReadEnding.of_unacceptable {accept : Option String} :
    ReadEnding request cache exchanges (.error (.unacceptable accept)) := by
  refine .failure fun failure same => ?_
  cases same

theorem requestKey_badRequest {error : AccessError}
    (unkeyed : requestKey request raw = .error error) : error.status = .badRequest := by
  unfold requestKey Request.keyContentType Request.mediaType? at unkeyed
  repeat' split at unkeyed
  all_goals cases unkeyed
  all_goals rfl

theorem requestKey_error {error : AccessError} (unkeyed : requestKey request raw = .error error) :
    ∀ failure, error ≠ .store failure :=
  AccessError.ne_store_of_badRequest (requestKey_badRequest unkeyed)

end Service

theorem ReadPlan.Course.ending {plan : ReadPlan} {service : Service} {remaining : Nat}
    {snapshot : Option Entry} {exchanges : List Exchange} {result : Except AccessError Response}
    (course : plan.Course service remaining snapshot exchanges result) :
    Service.ReadEnding plan.request plan.cache exchanges result := by
  induction course with
  | @exhausted _ detail =>
    refine .failure fun failure same => Or.inl ⟨detail, ?_⟩
    exact (AccessError.store.inj same).symm
  | absent | refused => exact .status _
  | unsettled unsettled =>
    rw [settle_error unsettled]
    exact .of_unacceptable
  | failed => exact .of_failed (List.mem_singleton.2 rfl)
  | gone => exact .status _
  | unconfirmed => exact .of_failed (List.mem_cons_of_mem _ (List.mem_singleton.2 rfl))
  | served _ _ _ reply =>
    cases reply with
    | unplaced =>
      exact .of_failed (List.mem_cons_of_mem _ (List.mem_cons_of_mem _ (List.mem_singleton.2 rfl)))
    | complete => exact .value _ List.mem_cons_self
  | moved _ _ _ ih => exact ih.mono fun _ member => by simp [member]

theorem Service.ReadCourse.ending {service : Service} {request : Request} {cache raw : String}
    {exchanges : List Exchange} {result : Except AccessError Response}
    (course : service.ReadCourse request cache raw exchanges result) :
    ReadEnding request cache exchanges result := by
  cases course with
  | unkeyed unkeyed => exact .failure fun failure same => (requestKey_error unkeyed failure same).elim
  | unknown => exact .of_failed (List.mem_singleton.2 rfl)
  | unacceptable _ unacceptable =>
    rw [negotiate_error unacceptable]
    exact .of_unacceptable
  | unseen => exact .of_failed (List.mem_cons_of_mem _ (List.mem_singleton.2 rfl))
  | evaluated _ _ course => exact course.ending.mono fun _ member => by simp [member]

/-- A read asks for the value only in the format negotiated for some value. -/
theorem Service.ReadCourse.format_of_get {service : Service} {request : Request}
    {cache raw : String} {exchanges : List Exchange} {result : Except AccessError Response}
    {subject : Subject} {name : String} {key : Key} {media : MediaType}
    {answer : Except StoreError (Option Bytes)}
    (course : service.ReadCourse request cache raw exchanges result)
    (member : ⟨.get subject name key media, answer⟩ ∈ exchanges) :
    name = cache ∧ ∃ configuration value,
      ⟨.configuration service.context cache, .ok configuration⟩ ∈ exchanges ∧
      responseFormat request.accept? configuration.conversion value = .ok media := by
  cases course with
  | unkeyed | unknown | unacceptable | unseen => simp at member
  | evaluated _ negotiated course =>
    have inside := member
    simp only [List.mem_cons, Exchange.mk.injEq, reduceCtorEq, false_and, false_or] at inside
    obtain ⟨named, entry, settled⟩ := course.formats _ inside _ _ _ _ rfl
    refine ⟨named, _, entry.value, List.mem_cons_self, ?_⟩
    rw [responseFormat_of_negotiate negotiated]
    exact settled

/-! ## Over the in-memory store -/

/-- Each exchange was answered by the store as it was then, with the caches of the start. -/
theorem World.answered_of_mem {world : World} {history : List Happening} {exchange : Exchange}
    (member : exchange ∈ world.exchanges history) :
    ∃ reached : World, reached.answer exchange.call = exchange.answer ∧
      ∀ name, reached.memory.configuration? name = world.memory.configuration? name := by
  obtain ⟨before, rest, cut⟩ := List.append_of_mem member
  obtain ⟨earlier, later, -, -, tail⟩ := World.exchanges_eq_append cut
  obtain ⟨moves, last, -, answered, -⟩ := World.exchanges_eq_cons tail
  refine ⟨_, answered, fun name => ?_⟩
  rw [World.configuration?_after, World.configuration?_after]

/-- A store refuses a format only in a read that asks for one that its cache does not offer. -/
theorem Memory.unsupported_of_encoding {memory : Memory} {now : Instant} {call : Call}
    {stored wanted : MediaType}
    (failed : (memory.perform now call).answer = .error (.encoding stored wanted)) :
    ∃ subject name key media configuration, call = .get subject name key media ∧
      memory.configuration? name = some configuration ∧
      configuration.conversion.supports media = false := by
  cases known : memory.configuration? call.cache with
  | none =>
    rw [Memory.perform_of_unknown known] at failed
    cases failed
  | some configuration =>
    cases call <;> dsimp only [Call.cache] at known
    case get subject name key media =>
      refine ⟨subject, name, key, media, configuration, rfl, known, ?_⟩
      rw [Memory.answer_get known] at failed
      by_contra offered
      rw [Bool.not_eq_false] at offered
      split at failed
      · cases failed
      · rw [if_pos offered] at failed
        cases failed
    case put => cases (Memory.answer_put known).symm.trans failed
    case remove => cases (Memory.answer_remove known).symm.trans failed
    case clear => cases (Memory.answer_clear known).symm.trans failed
    case keys =>
      obtain ⟨listed, answered, -⟩ := Memory.answer_keys known _ _
      cases answered.symm.trans failed
    case entry => cases (Memory.answer_entry known).symm.trans failed
    case configuration => cases (Memory.answer_configuration known).symm.trans failed
    case distribution => cases (Memory.answer_distribution known).symm.trans failed

/-- All caches declare a concrete storage format or none. -/
def ConcreteFormats (definitions : List CacheDefinition) : Prop :=
  ∀ definition ∈ definitions, ∀ format, definition.storage = some format →
    format.isConcrete = true

/-- The settings of every cache, at any time, are for a concrete format or none. -/
theorem World.conversion_after {world : World} {history : List Happening} {cluster : ClusterView}
    {definitions : List CacheDefinition} {cache : String} {configuration : CacheConfiguration}
    (created : world.memory = .create cluster definitions) (formats : ConcreteFormats definitions)
    (known : (world.after history).memory.configuration? cache = some configuration) :
    ∃ storage, configuration.conversion = .ofStorage storage ∧
      ∀ format, storage = some format → format.isConcrete = true := by
  rw [World.configuration?_after, created] at known
  obtain ⟨definition, member, conversion⟩ := Memory.configuration?_create known
  exact ⟨definition.storage, conversion, formats definition member⟩

section Reads

variable {service : Service} {world : World} {history ongoing : List Happening}
  {cluster : ClusterView} {definitions : List CacheDefinition} {request : Request}
  {cache raw name : String} {result : Except AccessError Response} {subject : Subject} {key : Key}
  {media : MediaType} {answer : Except StoreError (Option Bytes)}

/-- Whatever format a read asks for, the cache was negotiated with and offers it. -/
theorem Service.ReadCourse.offered_of_get (created : world.memory = .create cluster definitions)
    (formats : ConcreteFormats definitions)
    (course : service.ReadCourse request cache raw ((world.after history).exchanges ongoing) result)
    (asked : (⟨.get subject name key media, answer⟩ : Exchange) ∈
      (world.after history).exchanges ongoing) :
    media.isConcrete = true ∧ ∃ configuration,
      (world.after history).memory.configuration? name = some configuration ∧
      configuration.conversion.supports media = true := by
  obtain ⟨rfl, configuration, value, configured, settled⟩ := course.format_of_get asked
  obtain ⟨reached, answered, same⟩ := World.answered_of_mem configured
  have known := (same name).symm.trans (World.configuration?_of_answered answered)
  obtain ⟨storage, conversion, concrete⟩ := World.conversion_after created formats known
  rw [conversion] at settled
  obtain ⟨_, _, -, -, renders⟩ := responseFormat_preferred concrete settled
  exact ⟨renders.concrete, configuration, known, conversion ▸ renders.offered⟩

/-- No read ends with the refusal of a format by the store. -/
theorem Service.ReadCourse.not_encoding (created : world.memory = .create cluster definitions)
    (formats : ConcreteFormats definitions)
    (course : service.ReadCourse request cache raw ((world.after history).exchanges ongoing) result)
    (stored wanted : MediaType) : result ≠ .error (.store (.encoding stored wanted)) := by
  intro failed
  have ended := course.ending
  rw [failed] at ended
  cases ended with
  | failure told =>
    rcases told _ rfl with ⟨detail, same⟩ | ⟨⟨call, answer⟩, member, refused⟩
    · cases same
    obtain ⟨reached, answered, same⟩ := World.answered_of_mem member
    obtain ⟨subject, name, key, media, configuration, rfl, known, unsupported⟩ :=
      Memory.unsupported_of_encoding (answered.trans refused)
    obtain ⟨-, settings, configured, supported⟩ := course.offered_of_get created formats member
    have settled := (same name).symm.trans known
    obtain rfl := Option.some.inj (settled.symm.trans configured)
    cases unsupported.symm.trans supported

end Reads

/-- Negotiation is sound, and reads rely on it.

Over a store whose caches declare a concrete storage format or none, whatever
was done to it before: the format negotiated for a value is concrete, offered
by the cache, and the first candidate that the cache supports, or inside that
one if it is a range; and a negotiation that fails says that no format is
acceptable, and fails only for want of a supported candidate, or where a cache
without a storage format is asked for a range that does not cover the value.
So no read, among any other clients, ends with the refusal of a format by the
store, and the type of a body that a read sends is the concrete one that the
value was fetched in. -/
theorem Service.read_format_sound (service : Service) (cluster : ClusterView)
    (definitions : List CacheDefinition) (formats : ConcreteFormats definitions) (world : World)
    (created : world.memory = .create cluster definitions) (history : List Happening) :
    (∀ cache configuration,
      (world.after history).memory.configuration? cache = some configuration →
      ∀ accept value,
        match responseFormat accept configuration.conversion value with
        | .ok media => media.isConcrete = true ∧
          configuration.conversion.supports media = true ∧
          ∃ listed chosen, candidates accept = .ok listed ∧
            listed.find? configuration.conversion.supports = some chosen ∧
            media.overlaps chosen = true ∧ (chosen.isConcrete = true → media = chosen)
        | .error error => error = .unacceptable accept ∧
          ∀ listed chosen, candidates accept = .ok listed →
            listed.find? configuration.conversion.supports = some chosen →
            configuration.conversion.storage = none ∧ chosen.isConcrete = false ∧
              (defaultRendering none value).overlaps chosen = false) ∧
    ∀ request cache raw schedule ran,
      (service.read request cache raw).run.among (world.after history) schedule = ran →
      (∀ stored wanted, ran.value ≠ .error (.store (.encoding stored wanted))) ∧
      ∀ response, ran.value = .ok response →
        (∃ status, response = .ofStatus status) ∨
        ∃ (key : Key) (media : MediaType) (value : Bytes) (base : Response),
          media.isConcrete = true ∧
          (⟨.get request.subject cache key media, .ok (some value)⟩ : Exchange) ∈
            (world.after history).exchanges ran.state.history ∧
          response = bodyFor request.method (base.entity media value) := by
  refine ⟨fun cache configuration known accept value => ?_,
    fun request cache raw schedule ran run => ?_⟩
  · obtain ⟨storage, conversion, concrete⟩ := World.conversion_after created formats known
    rw [conversion]
    cases settled : responseFormat accept (.ofStorage storage) value with
    | ok media =>
      obtain ⟨listed, chosen, accepted, first, renders⟩ := responseFormat_preferred concrete settled
      exact ⟨renders.concrete, renders.offered, listed, chosen, accepted, first, renders.inside,
        renders.exact⟩
    | error error =>
      obtain ⟨same, unsupported⟩ := responseFormat_refused concrete settled
      refine ⟨same, fun listed chosen accepted first => ?_⟩
      obtain ⟨absent, range, outside⟩ := unsupported listed chosen accepted first
      rw [absent]
      exact ⟨rfl, range, outside⟩
  · have yields := (service.read request cache raw).run.among_yields (world.after history) schedule
    rw [run] at yields
    have course := Service.read_course yields
    refine ⟨course.not_encoding created formats, fun response found => ?_⟩
    have ended : ReadEnding request cache ((world.after history).exchanges ran.state.history)
        ran.value := course.ending
    rw [found] at ended
    cases ended with
    | status status => exact Or.inl ⟨status, rfl⟩
    | value base asked =>
      obtain ⟨concrete, -⟩ := course.offered_of_get created formats asked
      exact Or.inr ⟨_, _, _, base, concrete, asked, rfl⟩

/-! ## A run -/

/-- A store with a cache of objects in the binary exchange format. -/
def objectWorld : World :=
  ⟨.create ⟨"node", "address", []⟩ [⟨"c", .unlimited, .unlimited, some .protostream⟩], .epoch⟩

/-- Another client puts an object under the key `k` of that cache. -/
def objectPut (value : String) : Call :=
  .put (.named "rival") "c" ⟨⟨Utf8.encode "k", .textPlain⟩, Utf8.encode value, .protostream,
    ⟨.unlimited, .unlimited⟩⟩

/-- That store with an object in it. -/
def heldObject : World := objectWorld.after [.move (.call (objectPut "v1"))]

/-- A read of the object by a client that takes any application type, while
another client puts another object just before the value is fetched. -/
def objectRead : Handler.Ran Interleaved (Except AccessError Response) :=
  ((⟨.service, 1, .never, .unsupported⟩ : Service).read
    ((Request.of .get "c/k").withHeader Field.accept "application/*") "c" "k").run.among
    heldObject [([], []), ([], []), ([.call (objectPut "v2")], [])]

/-- Of the application types the storage format comes first. The read is not
refused by the store, and sends the other object, which it fetched in that format. -/
theorem object_read_takes_storage_format :
    responseFormat (some "application/*") (.ofStorage (some .protostream)) [] =
        .ok .protostream ∧
      (∃ listed chosen, candidates (some "application/*") = .ok listed ∧
        listed.find? (ValueConversion.ofStorage (some .protostream)).supports = some chosen ∧
        MediaType.protostream.overlaps chosen = true) ∧
      (∀ stored wanted, objectRead.value ≠ .error (.store (.encoding stored wanted))) ∧
      (answerOf objectRead.value).body = Utf8.encode "v2" ∧
      ∃ key media value base, media.isConcrete = true ∧
        (⟨.get .anonymous "c" key media, .ok (some value)⟩ : Exchange) ∈
          heldObject.exchanges objectRead.state.history ∧
        objectRead.value = .ok (bodyFor .get (Response.entity base media value)) := by
  have formats : ConcreteFormats [⟨"c", .unlimited, .unlimited, some .protostream⟩] := by
    rintro definition member format stored
    rw [List.mem_singleton.1 member] at stored
    obtain rfl := Option.some.inj stored
    rfl
  have read : MediaType.parse "application/*" = .ok (.named "application" "*" []) := by
    decide +kernel
  have accepted : candidates (some "application/*") = .ok [.named "application" "*" []] := by
    unfold candidates
    dsimp only
    rw [MediaType.parseList_of_parse read (by decide) nofun nofun]
  have settled : responseFormat (some "application/*")
      (.ofStorage (some .protostream)) [] = .ok .protostream := by
    unfold responseFormat negotiate
    rw [accepted]
    rfl
  obtain ⟨negotiated, reads⟩ := Service.read_format_sound ⟨.service, 1, .never, .unsupported⟩
    ⟨"node", "address", []⟩ _ formats objectWorld rfl [.move (.call (objectPut "v1"))]
  have format := negotiated "c" ⟨.unlimited, .unlimited, .ofStorage (some .protostream)⟩ rfl
    (some "application/*") []
  rw [settled] at format
  obtain ⟨-, -, listed, chosen, named, first, inside, -⟩ := format
  obtain ⟨offered, sends⟩ := reads _ _ _ _ objectRead rfl
  have body : (answerOf objectRead.value).body = Utf8.encode "v2" := by decide +kernel
  have found : (answerOf objectRead.value).status = .ok := by decide +kernel
  refine ⟨settled, ⟨listed, chosen, named, first, inside⟩, offered, body, ?_⟩
  cases ended : objectRead.value with
  | error error =>
    rw [ended] at found
    exact (error.not_succeeds_response (Or.inl found)).elim
  | ok response =>
    rw [ended] at body
    rcases sends response ended with ⟨status, rfl⟩ | ⟨key, media, value, base, sent⟩
    · cases body
    · exact ⟨key, media, value, base, sent.1, sent.2.1, congrArg _ sent.2.2⟩

end CacheGate
