import CacheGate.Proofs.Serve.Failures
import CacheGate.Proofs.Settings.Caches
import CacheGate.Proofs.Store.Creation
import CacheGate.Settings.Setup

/-!
# Storage formats that settings are accepted with

A storage format that is the full range is refused, but other ranges, such as
`text/*`, are accepted. A cache with such a format refuses every write that
declares no type, since the type that is taken instead is the storage format.

* `ValueConversion.accepts_undeclared_iff`: the type that is taken is accepted
  just when the storage format is no range.
* `Settings.undeclared_writes_need_concrete_formats`: what that means for a
  node that is set up from accepted settings.
-/

namespace CacheGate

open Time Http

/-! ## Types of undeclared writes -/

theorem MediaType.isConcrete_of_essence {media : MediaType}
    (concrete : media.essence.isConcrete = true) : media.isConcrete = true := by
  cases media with
  | any => cases concrete
  | named primary sub params =>
    simp only [essence, plain, isConcrete, Bool.and_eq_true, bne_iff_ne] at concrete
    simp only [isConcrete, Bool.and_eq_true, bne_iff_ne]
    have star : Text.lowered "*" = "*" := by decide
    exact ⟨fun same => concrete.1 ((congrArg Text.lowered same).trans star),
      fun same => concrete.2 ((congrArg Text.lowered same).trans star)⟩

namespace ValueConversion

/-- The type of a written value that declares none. -/
def undeclared (conversion : ValueConversion) : MediaType :=
  conversion.storage.getD .octetStream

/-- The storage format itself may be written unless it is a range; where none
is declared, raw bytes may be written. -/
theorem accepts_undeclared_iff {storage : Option MediaType} :
    (ofStorage storage).accepts (ofStorage storage).undeclared = true ↔
      ∀ format, storage = some format → format.isConcrete = true := by
  cases storage with
  | none => exact ⟨fun _ => nofun, fun _ => rfl⟩
  | some format =>
    have supported : (ofStorage (some format)).supports format.essence = true :=
      supports_of_mem_readable mem_readableFrom_self
    change (format.essence.isConcrete && (ofStorage (some format)).supports format.essence) =
      true ↔ _
    rw [supported, Bool.and_true]
    simp only [Option.some.injEq, forall_eq']
    exact ⟨MediaType.isConcrete_of_essence, MediaType.isConcrete_essence⟩

end ValueConversion

theorem writtenType_of_undeclared {request : Request} {conversion : ValueConversion}
    (undeclared : request.header? Field.contentType = none) :
    writtenType request conversion =
      if conversion.accepts conversion.undeclared then .ok conversion.undeclared
      else .error (.unsupportedContentType conversion.undeclared.text) := by
  unfold writtenType Request.contentType Request.mediaType?
  rw [undeclared]
  rfl

/-! ## Refused types -/

theorem AccessError.unsupported_of_status {error : AccessError}
    (status : error.response.status = .unsupportedMediaType) :
    ∃ declared, error = .unsupportedContentType declared := by
  change error.status = _ at status
  cases error with
  | unsupportedContentType declared => exact ⟨declared, rfl⟩
  | store failure => cases failure <;> cases status
  | _ => cases status

theorem Verdict.not_unsupported {verdict : Verdict} {status : Status}
    (ends : verdict.status? = some status) : status ≠ .unsupportedMediaType := by
  cases verdict <;> cases ends <;> decide

namespace Service

variable {service : Service} {request : Request} {cache raw : String} {exchanges : List Exchange}
  {result : Except AccessError Response} {key : Key} {body : Bytes}
  {configuration : CacheConfiguration} {error : AccessError}

/-- Only a type that may not be written is answered 415. -/
theorem WriteCourse.mistyped_of_status
    (course : service.WriteCourse request cache raw exchanges result)
    (status : (answerOf result).status = .unsupportedMediaType) :
    ∃ configuration declared,
      ⟨.configuration service.context cache, .ok configuration⟩ ∈ exchanges ∧
      writtenType request configuration.conversion = .error (.unsupportedContentType declared) := by
  cases course with
  | unkeyed unkeyed => cases (requestKey_badRequest unkeyed).symm.trans status
  | bodiless _ bodiless => cases (writtenBody_badRequest bodiless).symm.trans status
  | unknown | unseen | failed =>
    obtain ⟨declared, same⟩ := AccessError.unsupported_of_status status
    cases same
  | @unsettled _ _ configuration _ _ _ unsettled =>
    rcases unsettled with mistyped | untimed
    · obtain ⟨declared, rfl⟩ := AccessError.unsupported_of_status status
      exact ⟨configuration, declared, List.mem_singleton.2 rfl, mistyped⟩
    · cases (resolveMetadata_badRequest untimed).symm.trans status
  | refused _ _ ends same => exact (Verdict.not_unsupported ends (same.symm.trans status)).elim
  | stored _ _ _ _ _ same =>
    have status := same.symm.trans status
    split at status <;> cases status

/-- A write whose type may not be written fails with that. -/
theorem write_mistyped (run : (service.write request cache raw).run.Yields exchanges result)
    (keyed : requestKey request raw = .ok key) (filled : writtenBody request = .ok body)
    (known : ∀ answer, ⟨.configuration service.context cache, answer⟩ ∈ exchanges →
      answer = .ok configuration)
    (mistyped : writtenType request configuration.conversion = .error error) :
    result = .error error := by
  rcases Answering.yields_ofExcept_bind_iff.1 run with
    ⟨_, unkeyed, -, -⟩ | ⟨_, -, filling⟩
  · cases keyed.symm.trans unkeyed
  rcases Answering.yields_ofExcept_bind_iff.1 filling with
    ⟨_, bodiless, -, -⟩ | ⟨_, -, settings⟩
  · cases filled.symm.trans bodiless
  rcases Answering.yields_ask_bind_iff.1 settings with
    ⟨failure, rfl, -⟩ | ⟨found, _, rfl, typing⟩
  · cases known _ List.mem_cons_self
  obtain rfl := Except.ok.inj (known _ List.mem_cons_self)
  rcases Answering.yields_ofExcept_bind_iff.1 typing with
    ⟨_, failed, -, rfl⟩ | ⟨_, typed, -⟩
  · rw [Except.error.inj (failed.symm.trans mistyped)]
  · cases mistyped.symm.trans typed

end Service

/-! ## Undeclared writes -/

theorem World.answer_of_configuration {world : World} {history : List Happening} {cache : String}
    {configuration : CacheConfiguration} {context : ExecutionContext}
    (known : world.memory.configuration? cache = some configuration) :
    ∀ answer, ⟨.configuration context cache, answer⟩ ∈ world.exchanges history →
      answer = .ok configuration := by
  intro answer member
  obtain ⟨reached, answered, same⟩ := World.answered_of_mem member
  exact answered.symm.trans (Memory.answer_configuration ((same cache).trans known))

/-- A write that declares no type is answered 415 just when the type that is
taken instead may not be written, if key and body are fine. -/
theorem Service.undeclared_write {service : Service} {request : Request} {cache raw : String}
    {world : World} {history : List Happening} {result : Except AccessError Response}
    {configuration : CacheConfiguration}
    (run : (service.write request cache raw).run.Yields (world.exchanges history) result)
    (known : world.memory.configuration? cache = some configuration)
    (undeclared : request.header? Field.contentType = none) :
    ((answerOf result).status = .unsupportedMediaType →
      configuration.conversion.accepts configuration.conversion.undeclared = false) ∧
    (configuration.conversion.accepts configuration.conversion.undeclared = false →
      ∀ key body, requestKey request raw = .ok key → writtenBody request = .ok body →
        (answerOf result).status = .unsupportedMediaType) := by
  constructor
  · intro status
    obtain ⟨found, declared, member, mistyped⟩ := (write_course run).mistyped_of_status status
    obtain rfl := Except.ok.inj (World.answer_of_configuration known _ member)
    rw [writtenType_of_undeclared undeclared] at mistyped
    split at mistyped
    case isTrue => cases mistyped
    case isFalse refused => exact Bool.eq_false_iff.2 refused
  · intro refused key body keyed filled
    have mistyped : writtenType request configuration.conversion = _ :=
      writtenType_of_undeclared undeclared
    rw [if_neg (Bool.eq_false_iff.1 refused)] at mistyped
    rw [write_mistyped run keyed filled (World.answer_of_configuration known) mistyped]
    rfl

/-! ## Accepted settings -/

/-- Values are stored as they come, or in a format that is no range. -/
def CacheSettings.FormatsConcretely (cache : CacheSettings) : Prop :=
  ∀ format, cache.storage = some format → format.isConcrete = true

namespace Settings

/-- What is written as the storage format is blank, or no media type, or no range. -/
def RawCache.FormatsConcretely (written : RawCache) : Prop :=
  ∀ text format, present? written.storageMediaType = some text →
    MediaType.parse text = .ok format → format.isConcrete = true

variable {raw : RawSettings} {settings : Settings} {written : RawCache} {cache : CacheSettings}
  {seen : List String}

/-- What is checked of a storage format leaves ranges in, other than the full one. -/
theorem formats_of_checkCache (checked : checkCache seen written = .ok cache) :
    cache.storage ≠ some .any ∧ (cache.FormatsConcretely ↔ written.FormatsConcretely) := by
  unfold CacheSettings.FormatsConcretely RawCache.FormatsConcretely
  rcases checkStorage_eq_ok_iff.1 (checkCache_eq_ok_iff.1 checked).2.1 with
    ⟨blank, stored⟩ | ⟨text, media, given, read, proper, stored⟩
  · rw [stored, blank]
    exact ⟨nofun, fun _ => nofun, fun _ => nofun⟩
  · rw [stored, given]
    refine ⟨fun same => proper (Option.some.inj same), fun concrete other format same again => ?_,
      fun concrete format same => ?_⟩
    · obtain rfl := Option.some.inj same
      exact concrete format (congrArg some (Except.ok.inj (read.symm.trans again)))
    · obtain rfl := Option.some.inj same
      exact concrete text media rfl read

/-- Accepted settings have no range as a storage format just when none is written. -/
theorem formatsConcretely_iff (accepted : ofRaw raw = .ok settings) :
    (∀ cache ∈ settings.caches, cache.FormatsConcretely) ↔
      ∀ written ∈ raw.caches, written.FormatsConcretely := by
  rcases pairs_of_ofRaw accepted with ⟨none, default⟩ | pairs
  · rw [none, default, List.forall_mem_singleton]
    exact ⟨fun _ => nofun, fun _ => nofun⟩
  · generalize raw.caches = each, settings.caches = caches at pairs ⊢
    induction pairs with
    | nil => simp
    | cons checked _ ih =>
      obtain ⟨before, checked⟩ := checked
      rw [List.forall_mem_cons, List.forall_mem_cons, ih, (formats_of_checkCache checked).2]

theorem storage_ne_any (accepted : ofRaw raw = .ok settings) :
    ∀ cache ∈ settings.caches, cache.storage ≠ some .any :=
  forall_caches_of_ofRaw accepted nofun fun _ _ _ checked => (formats_of_checkCache checked).1

/-- The store of accepted settings has each of their caches. -/
theorem configuration?_memory (accepted : ofRaw raw = .ok settings)
    (member : cache ∈ settings.caches) :
    settings.memory.configuration? cache.name =
      some ⟨cache.lifespan, cache.maxIdle, .ofStorage cache.storage⟩ := by
  have distinct : ((settings.caches.map CacheSettings.definition).map
      CacheDefinition.name).Nodup := by
    rw [List.map_map]
    exact nodup_names_of_ofRaw accepted
  have found : settings.memory.cache? cache.name = some (Memory.emptyCache cache.definition) :=
    Memory.cache?_create_of_mem distinct (List.mem_map.2 ⟨cache, member, rfl⟩)
  exact Memory.configuration?_eq_some_iff.2 ⟨_, found, rfl⟩

end Settings

/-- Writes that declare no type need a storage format that is no range, and
settings are accepted with other ranges than the full one.

Accepted settings have no cache for the full range. All their storage formats
are absent or no ranges if and only if none that is written is read as a range.
The node that is set up from them has each of the caches, and a cache whose
format is absent or no range accepts the type that is taken for values without
a declared one: whatever was done to the store, and among any other clients, no
write without a readable `Content-Type` is answered 415. But a cache whose
format is a range, such as `text/*`, does not accept it, and every such write
with a good key and a body is answered 415. -/
theorem Settings.undeclared_writes_need_concrete_formats (raw : RawSettings)
    (overrides : Overrides) (settings : Settings)
    (accepted : ofRaw (raw.override overrides) = .ok settings) :
    ((∀ cache ∈ settings.caches, cache.FormatsConcretely) ↔
      ∀ written ∈ raw.caches, written.FormatsConcretely) ∧
    ∀ cache ∈ settings.caches, cache.storage ≠ some .any ∧
      ∃ configuration, settings.memory.configuration? cache.name = some configuration ∧
        (configuration.conversion.accepts configuration.conversion.undeclared = true ↔
          cache.FormatsConcretely) ∧
        ∀ (now : Instant) (history : List Happening) (request : Request) (key : String)
          (pool : WorkerPool) (response : Response),
          Route.resolve request.method request.path request.action? =
            .ok ⟨.write, cache.name, some key⟩ →
          request.header? Field.contentType = none →
          (settings.service.dispatch request pool).Yields
            (World.exchanges ⟨settings.memory, now⟩ history) response →
          (cache.FormatsConcretely → response.status ≠ .unsupportedMediaType) ∧
          (¬ cache.FormatsConcretely → ∀ resolved body, requestKey request key = .ok resolved →
            writtenBody request = .ok body → response.status = .unsupportedMediaType) := by
  have concretely := formatsConcretely_iff accepted
  refine ⟨concretely, fun cache member =>
    ⟨storage_ne_any accepted cache member, _, configuration?_memory accepted member,
      ValueConversion.accepts_undeclared_iff, ?_⟩⟩
  intro now history request key pool response routed undeclared run
  rcases Service.dispatch_course_of_pool run with
    ⟨_, unrouted, -, -⟩ | ⟨route, result, resolved, own, rfl⟩
  · cases routed.symm.trans unrouted
  obtain rfl := Except.ok.inj (routed.symm.trans resolved)
  obtain ⟨refused, refuses⟩ := Service.undeclared_write own
    (configuration?_memory accepted member) undeclared
  have accepts : _ ↔ cache.FormatsConcretely := ValueConversion.accepts_undeclared_iff
  exact ⟨fun concrete status =>
      Bool.false_ne_true ((refused status).symm.trans (accepts.2 concrete)),
    fun range => refuses (Bool.eq_false_iff.2 (mt accepts.1 range))⟩

/-! ## A range as storage format -/

/-- Settings that are written with one cache, for values of any text type. -/
def rangedRaw : Settings.RawSettings :=
  { (default : Settings.RawSettings) with caches := [⟨"c", none, none, some "text/*"⟩] }

/-- They are accepted with that range. -/
def rangedSettings : Settings where
  address := .v4 [127, 0, 0, 1] 11222
  contextPath := "/rest/v2/caches"
  nodeName := "node-1"
  extendedHeaders := .never
  elevatedPrincipal := none
  level := .info
  format := .compact
  poolSize := 4
  members := ["node-1"]
  caches := [⟨"c", .unlimited, .unlimited, some (.named "text" "*" [])⟩]

/-- A PUT of `v1` that declares no type. -/
def undeclaredPut : Request :=
  { Request.of .put "c/k" with body := some (Utf8.encode "v1") }

/-- The answer of the node that is set up from these settings. -/
def undeclaredWrite : Handler.Ran Interleaved Response :=
  (rangedSettings.service.dispatch undeclaredPut).among ⟨rangedSettings.memory, .epoch⟩ []

/-- The write is refused for its type, which it did not declare. -/
theorem ranged_format_refuses_undeclared_write :
    Settings.ofRaw (rangedRaw.override default) = .ok rangedSettings ∧
      undeclaredWrite.value.status = .unsupportedMediaType := by
  have accepted : Settings.ofRaw (rangedRaw.override default) = .ok rangedSettings := by
    decide +kernel
  obtain ⟨-, each⟩ := Settings.undeclared_writes_need_concrete_formats rangedRaw default
    rangedSettings accepted
  obtain ⟨-, -, -, -, writes⟩ := each _ List.mem_cons_self
  have routed : Route.resolve undeclaredPut.method undeclaredPut.path undeclaredPut.action? =
      .ok ⟨.write, "c", some "k"⟩ := by decide +kernel
  have range : ¬ CacheSettings.FormatsConcretely
      ⟨"c", .unlimited, .unlimited, some (.named "text" "*" [])⟩ :=
    fun concrete => absurd (concrete _ rfl) (by decide)
  have refuses := (writes .epoch undeclaredWrite.state.history undeclaredPut "k" .working
    undeclaredWrite.value routed (by decide +kernel) (Handler.among_yields _ _ _)).2 range
  exact ⟨accepted, refuses _ _ rfl rfl⟩

end CacheGate
