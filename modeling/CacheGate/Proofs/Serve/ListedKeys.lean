import CacheGate.Proofs.KeyListing
import CacheGate.Proofs.Serve.Independence
import CacheGate.Proofs.Serve.Reachable

/-!
# What key listings list

Requests write under keys that are texts, so every key that they leave in a
store is one (`Service.Reaches.textKeys`), and a listing shows it as that text.
With the round trip of both documents, a client reads from a listing exactly
the keys that were live when the store was asked:
`Service.key_listing_is_lossless`.
-/

namespace CacheGate

open Time Http

/-! ## Reading a response -/

namespace Http.Response

/-- The type that a response announces. -/
def contentType? (response : Response) : Option MediaType :=
  (response.headers.get? Field.contentType).bind fun text => (MediaType.parse text).toOption

/-- The character set that a response announces. -/
def charset? (response : Response) : Option Charset :=
  response.contentType?.bind fun media => (Charset.ofParam? media.charset?).toOption

/-- The format of a key listing that a response announces. -/
def keysFormat? (response : Response) : Option KeysFormat :=
  response.contentType?.bind fun media =>
    KeysFormat.all.find? fun format => format.mediaType = media.essence

/-- The names that a client reads from a key listing, by what it announces. -/
def listedNames? (response : Response) : Option (List String) := do
  let charset ← response.charset?
  let format ← response.keysFormat?
  let document ← charset.decode? response.body
  format.names? document

theorem contentType?_entity {response : Response} {media : MediaType} (body : Bytes)
    (sendable : isFieldText media.text = true)
    (read : (MediaType.parse media.text).toOption = some media) :
    (response.entity media body).contentType? = some media := by
  have sent : (response.entity media body).headers.get? Field.contentType = some media.text :=
    get?_setHeader_self sendable
  unfold contentType?
  rw [sent]
  exact read

end Http.Response

section Listings

variable {response : Response} (format : KeysFormat) (charset : Charset) (body : Bytes)

theorem contentType?_listing :
    (response.entity (listingType format charset) body).contentType? =
      some (listingType format charset) := by
  apply Response.contentType?_entity
  · cases format <;> cases charset <;> decide +kernel
  · cases format <;> cases charset <;> decide +kernel

theorem charset?_listing :
    (response.entity (listingType format charset) body).charset? = some charset := by
  unfold Response.charset?
  rw [contentType?_listing]
  cases format <;> cases charset <;> decide +kernel

theorem keysFormat?_listing :
    (response.entity (listingType format charset) body).keysFormat? = some format := by
  unfold Response.keysFormat?
  rw [contentType?_listing]
  cases format <;> cases charset <;> decide +kernel

/-- Whatever the keys, their names are read from the answer to a listing. -/
theorem listedNames?_listing (structured : format = .json ∨ format = .xml) (keys : List Key) :
    (response.entity (listingType format charset)
        (listingBody format charset keys)).listedNames? =
      some (keys.map fun key => charset.shown key.displayText) := by
  have names := KeysFormat.names?_decoded structured charset (keys.map Key.displayText)
  rw [List.map_map] at names
  unfold Response.listedNames?
  rw [charset?_listing, keysFormat?_listing]
  exact names

end Listings

/-! ## Keys are texts -/

/-- A write is under a key that is a text. -/
def Call.WritesText : Call → Prop
  | .put _ _ added => ∃ text, added.key.content = Utf8.encode text
  | _ => True

/-- Every key of a store is a text. -/
def Memory.TextKeys (memory : Memory) : Prop :=
  ∀ name content stored, memory.held? name content = some stored →
    ∃ text, content = Utf8.encode text

theorem Memory.TextKeys.perform {memory : Memory} {call : Call} (texts : memory.TextKeys)
    (writes : call.WritesText) (now : Instant) : (memory.perform now call).memory.TextKeys := by
  intro name content stored held
  rcases held?_perform held with before | ⟨earlier, live, -⟩ | ⟨subject, added, rfl, rfl, -⟩
  · exact texts name content stored before
  · exact texts name content earlier (live?_eq_some_iff.1 live).1
  · exact writes

theorem Memory.textKeys_create (cluster : ClusterView) (definitions : List CacheDefinition) :
    (Memory.create cluster definitions).TextKeys := by
  intro name content stored held
  rw [held?_create] at held
  cases held

namespace Service

variable {service : Service} {request : Request} {cache raw : String}

theorem EntryCall.writesText {call : Call} (asked : service.EntryCall request cache raw call) :
    call.WritesText := by
  cases asked with
  | put content => exact ⟨raw, content⟩
  | _ => trivial

theorem KeysCourse.writesText {exchanges : List Exchange} {result : Except AccessError Response}
    (course : service.KeysCourse request cache exchanges result) :
    ∀ exchange ∈ exchanges, exchange.call.WritesText := by
  cases course <;> simp [Call.WritesText]

theorem ClearCourse.writesText {exchanges : List Exchange} {result : Except AccessError Response}
    (course : ClearCourse request cache exchanges result) :
    ∀ exchange ∈ exchanges, exchange.call.WritesText := by
  cases course <;> simp [Call.WritesText]

/-- No request writes under a key that is not a text. -/
theorem dispatch_writesText (service : Service) (request : Request) :
    (service.dispatch request).Asks Call.WritesText := by
  intro exchanges response run exchange member
  rcases dispatch_course run with
    ⟨_, -, rfl, -⟩ | ⟨⟨operation, cache, key?⟩, result, resolved, handled, -⟩
  · cases member
  rcases Route.resolve_shape resolved with ⟨raw, rfl, -, -⟩ | ⟨rfl, shape⟩
  · have routed : Visit.route? ⟨.epoch, request⟩ = some ⟨operation, cache, some raw⟩ :=
      congrArg Except.toOption resolved
    exact (service.dispatch_entryCalls routed exchanges response run exchange member).writesText
  rcases shape with rfl | rfl | rfl
  · exact (clear_course handled).writesText exchange member
  · exact (keys_course handled).writesText exchange member
  · rw [(Answering.yields_ofExcept_iff.1 handled).1] at member
    cases member

/-! ## Keys that requests leave -/

variable {start : Memory} {world : World}

theorem Makes.writesText {call : Call} (makes : service.Makes call) : call.WritesText := by
  obtain ⟨request, exchanges, response, run, exchange, member, rfl⟩ := makes
  exact service.dispatch_writesText request exchanges response run exchange member

theorem Reaches.textKeys (reached : service.Reaches start world) (texts : start.TextKeys) :
    world.memory.TextKeys := by
  induction reached with
  | start => exact texts
  | call _ makes ih => exact ih.perform makes.writesText _
  | clock _ _ ih => exact ih

end Service

/-! ## Listings -/

/-- A key that is a text is listed as that text. -/
theorem Key.encode_displayText {key : Key} {text : String} (content : key.content = Utf8.encode text) :
    Utf8.encode key.displayText = key.content := by
  unfold Key.displayText
  rw [content, Utf8.decodeLossy_encode]

/-- A listing that was answered 200 shows the keys that it got from the store. -/
theorem Service.listed_of_ok {service : Service} {request : Request} {cache : String}
    {exchanges : List Exchange} {response : Response} {now : Instant}
    (routed : Visit.route? ⟨now, request⟩ = some ⟨.keys, cache, none⟩)
    (run : (service.dispatch request).Yields exchanges response) (succeeds : response.status = .ok) :
    ∃ configuration format charset keys,
      exchanges = [⟨.configuration service.context cache, .ok configuration⟩,
        ⟨.keys request.subject cache, .ok keys⟩] ∧
      response = ((Response.ofStatus .ok).setHeader Field.cacheControl "no-cache").entity
        (listingType format charset) (listingBody format charset keys) := by
  rcases dispatch_course run with ⟨error, unrouted, -, -⟩ | ⟨route, result, resolved, run, rfl⟩
  · cases routed.symm.trans (congrArg Except.toOption unrouted)
  obtain rfl : route = ⟨.keys, cache, none⟩ :=
    Option.some.inj ((congrArg Except.toOption resolved).symm.trans routed)
  have refused {error : AccessError} : error.response.status ≠ .ok :=
    fun ok => error.not_succeeds_response (Or.inl ok)
  cases keys_course run with
  | unknown | unacceptable | failed => exact absurd succeeds refused
  | listed => exact ⟨_, _, _, _, rfl, rfl⟩

/-- A listing that is handled alone asks the store that it found. -/
theorem Service.handled_listing_asks {service : Service} {memory : Memory} {visit : Visit}
    {cache : String} (routed : visit.route? = some ⟨.keys, cache, none⟩)
    (succeeds : (service.handle memory visit).2.status = .ok) :
    ∃ exchanges, (service.dispatch visit.request).Yields exchanges (service.handle memory visit).2 ∧
      ⟨.keys visit.request.subject cache,
        World.answer ⟨memory, visit.now⟩ (.keys visit.request.subject cache)⟩ ∈ exchanges := by
  obtain ⟨calls, -, run⟩ := service.handle_calls memory visit
  refine ⟨_, run, ?_⟩
  obtain ⟨_, _, _, listed, exchanged, -⟩ := listed_of_ok routed run succeeds
  obtain ⟨later, -, -, rest⟩ := World.exchanges_own_eq_cons exchanged
  obtain ⟨_, -, answered, -⟩ := World.exchanges_own_eq_cons rest
  have found : World.perform ⟨memory, visit.now⟩ (.configuration service.context cache) =
      ⟨memory, visit.now⟩ :=
    congrArg (World.mk · visit.now) Memory.memory_configuration
  rw [found] at answered
  rw [exchanged, answered]
  exact List.mem_cons_of_mem _ List.mem_cons_self

/-- Key listings are complete and lossless. Requests lead from new caches to a
store and a time at which a GET of a cache asks for the keys; other requests
may be under way before and after that call. If the listing is answered 200 in
JSON or XML, then what is read from its body, by the character set and format
that it announces, are the live keys of the cache at that time, each once and
as the character set can show it. -/
theorem Service.key_listing_is_lossless (service : Service) (cluster : ClusterView)
    (definitions : List CacheDefinition) (met : World) (request : Request) (cache : String)
    (exchanges : List Exchange) (response : Response)
    (reached : service.Reaches (.create cluster definitions) met)
    (routed : Visit.route? ⟨met.now, request⟩ = some ⟨.keys, cache, none⟩)
    (run : (service.dispatch request).Yields exchanges response)
    (asked : ⟨.keys request.subject cache, met.answer (.keys request.subject cache)⟩ ∈ exchanges)
    (succeeds : response.status = .ok)
    (structured : response.keysFormat? = some .json ∨ response.keysFormat? = some .xml) :
    ∃ (charset : Charset) (names : List String), response.charset? = some charset ∧
      response.listedNames? = some (names.map charset.shown) ∧ names.Nodup ∧
      ∀ content, content ∈ names.map Utf8.encode ↔ (met.live? cache content).isSome := by
  obtain ⟨_, format, charset, listed, rfl, rfl⟩ := listed_of_ok routed run succeeds
  have answered : met.answer (.keys request.subject cache) = .ok listed := by
    simpa using asked
  obtain ⟨configuration, known⟩ : ∃ configuration,
      met.memory.configuration? cache = some configuration := World.known_of_answered answered
  obtain ⟨found, same, distinct, complete⟩ := Memory.answer_keys known met.now request.subject
  obtain rfl : listed = found := Except.ok.inj (answered.symm.trans same)
  have texts : listed.map (Utf8.encode ∘ Key.displayText) = listed.map Key.content := by
    refine List.map_congr_left fun key member => ?_
    obtain ⟨stored, live⟩ :=
      Option.isSome_iff_exists.1 ((complete key.content).1 (List.mem_map_of_mem member))
    obtain ⟨text, content⟩ := reached.textKeys (Memory.textKeys_create cluster definitions) cache
      key.content stored (Memory.live?_eq_some_iff.1 live).1
    exact Key.encode_displayText content
  rw [keysFormat?_listing, Option.some_inj, Option.some_inj] at structured
  refine ⟨charset, listed.map Key.displayText, charset?_listing .., ?_, ?_, ?_⟩
  · rw [List.map_map]
    exact listedNames?_listing format charset structured listed
  · rw [← texts, ← List.map_map] at distinct
    exact distinct.of_map
  · rw [List.map_map, texts]
    exact complete

/-! ## A run -/

/-- Keys that look like parts of a listing, and one that Latin-1 cannot carry. -/
def oddKeys : List String := ["a\",\"b", "</key><key>", "\x01&\n", "漢/é"]

/-- A PUT for each of the odd keys. -/
def oddPuts : List Visit :=
  oddKeys.map fun key =>
    ⟨.epoch, { Request.of .put ("c/" ++ key) with body := some (Utf8.encode "v") }⟩

def latinListing : Visit :=
  ⟨.epoch, (Request.of .get "c").withHeader Field.accept "application/xml;charset=latin1"⟩

/-- The XML listing that the PUTs lead to. -/
def oddListing : Response :=
  (plainService.handle (plainService.handleAll emptyWorld.memory oddPuts).1 latinListing).2

/-- All of them are read from the listing, the last one as `?/é`. -/
theorem latin1_listing_keeps_odd_keys_apart :
    oddListing.status = .ok ∧ oddListing.keysFormat? = some .xml ∧
      oddListing.charset? = some .latin1 ∧
      ∃ names : List String, oddListing.listedNames? = some (names.map Charset.latin1.shown) ∧
        names.Nodup ∧ ∀ key ∈ oddKeys, key ∈ names := by
  obtain ⟨succeeds, structured, latin⟩ : oddListing.status = .ok ∧
      oddListing.keysFormat? = some .xml ∧ oddListing.charset? = some .latin1 := by
    decide +kernel
  have routed : latinListing.route? = some ⟨.keys, "c", none⟩ := by decide +kernel
  have live : ∀ key ∈ oddKeys,
      ((plainService.handleAll emptyWorld.memory oddPuts).1.live? .epoch "c"
        (Utf8.encode key)).isSome := by decide +kernel
  obtain ⟨exchanges, run, asked⟩ := Service.handled_listing_asks routed succeeds
  obtain ⟨charset, names, announced, read, distinct, complete⟩ :=
    Service.key_listing_is_lossless plainService ⟨"node", "address", []⟩
      [⟨"c", .unlimited, .unlimited, none⟩]
      ⟨(plainService.handleAll emptyWorld.memory oddPuts).1, .epoch⟩ latinListing.request "c"
      exchanges oddListing (Service.reaches_handleAll ..) routed run asked succeeds
      (Or.inr structured)
  obtain rfl : charset = .latin1 := Option.some.inj (announced.symm.trans latin)
  refine ⟨succeeds, structured, latin, names, read, distinct, fun key member => ?_⟩
  obtain ⟨name, listed, same⟩ := List.mem_map.1 ((complete _).2 (live key member))
  obtain rfl := Utf8.encode_inj.1 same
  exact listed

end CacheGate
