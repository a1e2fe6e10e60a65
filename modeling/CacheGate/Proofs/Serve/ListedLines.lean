import CacheGate.Proofs.Serve.ListedKeys
import CacheGate.Proofs.Text.Cutting

/-!
# What key listings in plain text list

A listing in plain text ends every key with a newline and marks no newline
inside a key, which a path can carry. What its lines tell of the keys is stated
by `Service.text_listing_has_line_per_key_iff`: they are the pieces of the live
keys between newlines, and so the live keys themselves just if no live key has
a newline.
-/

namespace CacheGate

open Time Http

/-! ## Listings and the keys they were made of -/

/-- The lines that a client reads from a response, in the character set that it announces. -/
def Http.Response.lines? (response : Response) : Option (List String) := do
  let charset ← response.charset?
  let document ← charset.decode? response.body
  return Text.lines document

/-- The live keys of a cache are these texts, none of them twice. -/
structure World.HasKeys (world : World) (cache : String) (names : List String) : Prop where
  distinct : names.Nodup
  complete : ∀ content, content ∈ names.map Utf8.encode ↔ (world.live? cache content).isSome

/-- No live key of a cache has a newline. -/
def World.SingleLined (world : World) (cache : String) : Prop :=
  ∀ key, (world.live? cache (Utf8.encode key)).isSome → '\n' ∉ key.toList

/-- A response answers 200 to a GET of a cache whose keys were asked for in a
world that requests lead to. -/
structure Service.Lists (service : Service) (start : Memory) (met : World) (cache : String)
    (response : Response) : Prop where
  reached : service.Reaches start met
  succeeds : response.status = .ok
  asked : ∃ request exchanges, Visit.route? ⟨met.now, request⟩ = some ⟨.keys, cache, none⟩ ∧
    (service.dispatch request).Yields exchanges response ∧
    ⟨.keys request.subject cache, met.answer (.keys request.subject cache)⟩ ∈ exchanges

section

variable {service : Service} {start : Memory} {met : World} {cache : String} {response : Response}
  {names : List String}

/-- Where all keys are texts, a listing is made of the live ones. -/
theorem Service.Lists.listing (lists : service.Lists start met cache response)
    (texts : start.TextKeys) : ∃ format charset keys,
      response = ((Response.ofStatus .ok).setHeader Field.cacheControl "no-cache").entity
        (listingType format charset) (listingBody format charset keys) ∧
      met.HasKeys cache (keys.map Key.displayText) := by
  obtain ⟨request, exchanges, routed, run, asked⟩ := lists.asked
  obtain ⟨_, format, charset, listed, rfl, rfl⟩ :=
    Service.listed_of_ok routed run lists.succeeds
  have answered : met.answer (.keys request.subject cache) = .ok listed := by simpa using asked
  obtain ⟨configuration, known⟩ : ∃ configuration,
      met.memory.configuration? cache = some configuration := World.known_of_answered answered
  obtain ⟨found, same, distinct, complete⟩ := Memory.answer_keys known met.now request.subject
  obtain rfl : listed = found := Except.ok.inj (answered.symm.trans same)
  have shown : (listed.map Key.displayText).map Utf8.encode = listed.map Key.content := by
    rw [List.map_map]
    refine List.map_congr_left fun key member => ?_
    obtain ⟨stored, live⟩ :=
      Option.isSome_iff_exists.1 ((complete key.content).1 (List.mem_map_of_mem member))
    obtain ⟨text, content⟩ :=
      lists.reached.textKeys texts cache key.content stored (Memory.live?_eq_some_iff.1 live).1
    exact Key.encode_displayText content
  refine ⟨format, charset, listed, rfl, ?_, ?_⟩
  · rw [← shown] at distinct
    exact distinct.of_map
  · rw [shown]
    exact complete

namespace World.HasKeys

theorem live_of_mem {name : String} (keys : met.HasKeys cache names) (member : name ∈ names) :
    (met.live? cache (Utf8.encode name)).isSome :=
  (keys.complete _).1 (List.mem_map_of_mem member)

theorem mem_of_live {name : String} (keys : met.HasKeys cache names)
    (live : (met.live? cache (Utf8.encode name)).isSome) : name ∈ names := by
  obtain ⟨listed, member, same⟩ := List.mem_map.1 ((keys.complete _).2 live)
  obtain rfl := Utf8.encode_inj.1 same
  exact member

/-- Keys without newlines are their own pieces. -/
theorem flatMap_pieces (keys : met.HasKeys cache names) (single : met.SingleLined cache) :
    names.flatMap Text.pieces = names := by
  have alone : ∀ name ∈ names, Text.pieces name = [name] := fun name member =>
    Text.pieces_of_not_mem (single name (keys.live_of_mem member))
  rw [List.flatMap_congr alone]
  exact List.flatMap_singleton' names

end World.HasKeys

/-! ## Lines -/

/-- The lines of a listing in plain text are the pieces of the live keys. -/
theorem Service.Lists.lines (lists : service.Lists start met cache response)
    (texts : start.TextKeys) (text : response.keysFormat? = some .text)
    (utf8 : response.charset? = some .utf8) :
    ∃ names, met.HasKeys cache names ∧ response.lines? = some (names.flatMap Text.pieces) := by
  obtain ⟨format, charset, keys, rfl, found⟩ := lists.listing texts
  rw [keysFormat?_listing] at text
  rw [charset?_listing] at utf8
  obtain rfl := Option.some.inj text
  obtain rfl := Option.some.inj utf8
  have read : Charset.utf8.decode? (listingBody .text .utf8 keys) =
      some (KeysFormat.text.render (keys.map Key.displayText)) := by
    rw [← Charset.shown_utf8 (KeysFormat.render ..)]
    exact Charset.decode?_encode ..
  refine ⟨_, found, ?_⟩
  unfold Response.lines?
  rw [charset?_listing]
  change (Charset.utf8.decode? (listingBody .text .utf8 keys)).bind _ = _
  rw [read]
  exact congrArg some (Text.lines_ended _)

/-- Only keys without newlines are lines of a text. -/
theorem World.HasKeys.singleLined {body : String} (keys : met.HasKeys cache (Text.lines body)) :
    met.SingleLined cache :=
  fun _ live => Text.not_mem_of_mem_lines (keys.mem_of_live live)

/-- The lines of a response are the lines of some text. -/
theorem Response.exists_of_lines? {lines : List String} (read : response.lines? = some lines) :
    ∃ text, lines = Text.lines text := by
  simp only [Response.lines?, Option.bind_eq_bind, Option.bind_eq_some_iff, Option.pure_def,
    Option.some.injEq] at read
  obtain ⟨_, -, text, -, rfl⟩ := read
  exact ⟨text, rfl⟩

end

/-- What a key listing in plain text tells of the keys. Requests lead from new
caches to the store and the time that a listing was made of, and the listing is
answered 200 in plain text and UTF-8. Then its lines are the pieces, between
newlines, of the live keys of the cache. They are the live keys, one line
each, if and only if no live key has a newline; and among the listings of such
caches, two with the same body were made of the same live keys. -/
theorem Service.text_listing_has_line_per_key_iff (service : Service) (cluster : ClusterView)
    (definitions : List CacheDefinition) (met : World) (cache : String) (response : Response)
    (lists : service.Lists (.create cluster definitions) met cache response)
    (text : response.keysFormat? = some .text) (utf8 : response.charset? = some .utf8) :
    (∃ names, met.HasKeys cache names ∧ response.lines? = some (names.flatMap Text.pieces)) ∧
    ((∃ lines, response.lines? = some lines ∧ met.HasKeys cache lines) ↔
      met.SingleLined cache) ∧
    ∀ (met' : World) (cache' : String) (response' : Response),
      service.Lists (.create cluster definitions) met' cache' response' →
      response'.keysFormat? = some .text → response'.charset? = some .utf8 →
      met.SingleLined cache → met'.SingleLined cache' → response.body = response'.body →
      ∀ content, (met.live? cache content).isSome ↔ (met'.live? cache' content).isSome := by
  have texts := Memory.textKeys_create cluster definitions
  obtain ⟨names, keys, read⟩ := lists.lines texts text utf8
  refine ⟨⟨names, keys, read⟩, ⟨?_, fun single => ?_⟩, ?_⟩
  · rintro ⟨lines, shown, keys⟩
    obtain ⟨body, rfl⟩ := Response.exists_of_lines? shown
    exact keys.singleLined
  · rw [keys.flatMap_pieces single] at read
    exact ⟨names, read, keys⟩
  · intro met' cache' response' lists' text' utf8' single single' same content
    obtain ⟨names', keys', read'⟩ := lists'.lines texts text' utf8'
    rw [keys.flatMap_pieces single] at read
    rw [keys'.flatMap_pieces single'] at read'
    have again : response.lines? = response'.lines? := by
      unfold Response.lines?
      rw [utf8, utf8', same]
    obtain rfl : names = names' := Option.some.inj (read.symm.trans (again.trans read'))
    rw [← keys.complete, ← keys'.complete]

/-! ## A run -/

/-- A PUT under a key of two lines. -/
def brokenPut : Visit :=
  ⟨.epoch, { Request.of .put "c/a\nb" with body := some (Utf8.encode "v") }⟩

/-- What it leads to. -/
def brokenWorld : World := ⟨(plainService.handleAll emptyWorld.memory [brokenPut]).1, .epoch⟩

def lineListing : Visit := ⟨.epoch, (Request.of .get "c").withHeader Field.accept "text/plain"⟩

/-- The listing in plain text that follows the PUT. -/
def brokenListing : Response := (plainService.handle brokenWorld.memory lineListing).2

/-- The key is listed as two keys that the cache does not have. -/
theorem key_with_newline_is_listed_as_two_lines :
    brokenListing.status = .ok ∧ brokenListing.keysFormat? = some .text ∧
      brokenListing.charset? = some .utf8 ∧
      (brokenWorld.live? "c" (Utf8.encode "a\nb")).isSome ∧
      brokenListing.lines? = some ["a", "b"] ∧
      ¬ ∃ lines, brokenListing.lines? = some lines ∧ brokenWorld.HasKeys "c" lines := by
  obtain ⟨succeeds, text, utf8, live, read⟩ : brokenListing.status = .ok ∧
      brokenListing.keysFormat? = some .text ∧ brokenListing.charset? = some .utf8 ∧
      (brokenWorld.live? "c" (Utf8.encode "a\nb")).isSome ∧
      brokenListing.lines? = some ["a", "b"] := by
    decide +kernel
  have routed : lineListing.route? = some ⟨.keys, "c", none⟩ := by decide +kernel
  obtain ⟨exchanges, run, asked⟩ := Service.handled_listing_asks routed succeeds
  obtain ⟨-, complete, -⟩ := Service.text_listing_has_line_per_key_iff plainService
    ⟨"node", "address", []⟩ [⟨"c", .unlimited, .unlimited, none⟩] brokenWorld "c" brokenListing
    ⟨Service.reaches_handleAll .., succeeds, _, _, routed, run, asked⟩ text utf8
  refine ⟨succeeds, text, utf8, live, read, fun listed => ?_⟩
  exact complete.1 listed "a\nb" live (by decide)

end CacheGate
