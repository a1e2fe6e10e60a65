import CacheGate.Proofs.Serve.Freshness
import CacheGate.Proofs.Serve.RefusedTypes

/-!
# Reading values by the type that they were written with

Whoever asks for the very type that a value was written with is served: the
text of a single type is read alike by both readers of media types, a type
that may be written may be read, and nothing in between changes it. This is
`Service.value_is_read_by_written_type`. A declared type with bytes that
headers are not read with counts as none, on both ways: the value is then sent
as to a client that names no type.
-/

namespace CacheGate

open Time Http

/-! ## Headers with the same bytes -/

theorem Http.Request.header?_eq_of_get?_eq {left right : Request} {name other : String}
    (same : left.headers.get? name = right.headers.get? other) :
    left.header? name = right.header? other := by
  unfold header?
  rw [same]

/-! ## Negotiating one type -/

section Negotiating

variable {text : String} {media : MediaType} {conversion : ValueConversion}

/-- A type that may be written is what a client gets that asks for nothing else. -/
theorem responseFormat_of_accepts (listed : MediaType.parseList text = .ok [media])
    (accepted : conversion.accepts media = true) (value : Bytes) :
    responseFormat (some text) conversion value = .ok media := by
  obtain ⟨concrete, supported⟩ := Bool.and_eq_true_iff.1 accepted
  have first : [media].find? conversion.supports = some media := List.find?_cons_of_pos supported
  refine responseFormat_eq_ok_iff.2 ⟨_, negotiate_eq_ok_iff.2
    ⟨[media], media, candidates_eq_ok_iff.2 listed, first, rfl⟩, ?_⟩
  exact renderingOf_concrete concrete value (some text)

/-- Where a single type without a weight is declared, it is read alike from both headers. -/
theorem parseList_of_accepts (read : MediaType.parse text = .ok media)
    (accepted : conversion.accepts media = true) (single : ',' ∉ text.toList)
    (unweighted : ∀ param ∈ media.params, param.1 ≠ "q") :
    MediaType.parseList text = .ok [media] := by
  refine MediaType.parseList_of_parse read single ?_ fun param member => ?_
  · rintro rfl
    cases (Bool.and_eq_true_iff.1 accepted).1
  · exact beq_eq_false_iff_ne.2 (unweighted param member)

end Negotiating

/-! ## What a write tells -/

namespace Service

variable {service : Service} {request : Request} {cache raw : String} {exchanges : List Exchange}
  {result : Except AccessError Response}

/-- A write that succeeds answers the tag of the value that it wrote. -/
theorem write_etag? (run : (service.write request cache raw).run.Yields exchanges result)
    (found : (answerOf result).status.Succeeds) :
    ∃ body, writtenBody request = .ok body ∧
      (answerOf result).etag? = some (EntityTag.of body).text := by
  cases result with
  | error error => exact (error.not_succeeds_response found).elim
  | ok response =>
    cases write_answer run with
    | conflict => rcases found with same | same <;> cases same
    | refused refuses => exact (refuses found).elim
    | written filled => exact ⟨_, filled, Response.get?_setHeader_self (isFieldText_tag _)⟩

end Service

/-- Each request of a run was answered over the store that some requests had left. -/
theorem Service.exists_answerAfter {service : Service} {start : Memory} {visits : List Visit}
    {handled : Handled} (member : handled ∈ service.history start visits) :
    ∃ before, handled.response = service.answerAfter start before handled.toVisit := by
  induction visits with
  | nil => cases member
  | cons visit visits ih =>
    rcases List.mem_cons.1 member with rfl | earlier
    · exact ⟨visits, rfl⟩
    · exact ih earlier

theorem LatestWrite.write_mem {history : List Handled} {cache key : String}
    (latest : LatestWrite history cache key) : latest.write ∈ history := by
  obtain ⟨later, write, earlier, rfl, -, -⟩ := latest
  exact List.mem_append_right later List.mem_cons_self

/-- What the answer to a write of a run tells of its settings. -/
theorem Handled.Writes.told {service : Service} {start : Memory} {visits : List Visit}
    {handled : Handled} {cache key : String} (writes : handled.Writes cache key)
    (member : handled ∈ service.history start visits) :
    ∃ configuration body media, start.configuration? cache = some configuration ∧
      handled.request.body = some body ∧
      writtenType handled.request configuration.conversion = .ok media ∧
      handled.response.etag? = some (EntityTag.of body).text := by
  obtain ⟨before, answered⟩ := Service.exists_answerAfter member
  obtain ⟨routed, succeeds⟩ := writes
  obtain ⟨calls, result, -, run, answer⟩ :=
    service.handle_routed (service.handleAll start before).1 routed
  rw [answered, show service.answerAfter start before handled.toVisit = _ from answer] at succeeds ⊢
  obtain ⟨configuration, added, known, filled, typed, -, -⟩ :=
    (Service.write_course run).writes rfl succeeds
  obtain ⟨body, filledToo, tagged⟩ := Service.write_etag? run succeeds
  obtain rfl : body = added.value := Except.ok.inj (filledToo.symm.trans filled)
  have settings : start.configuration? cache = some configuration :=
    (service.configuration?_handleAll start before cache).symm.trans known
  exact ⟨configuration, added.value, added.mediaType, settings, writtenBody_eq_ok filled, typed,
    tagged⟩

/-- A declared type that a write went through with could be read, and may be written. -/
theorem parse_of_writtenType {request : Request} {conversion : ValueConversion} {media : MediaType}
    {text : String} (typed : writtenType request conversion = .ok media)
    (declared : request.header? Field.contentType = some text) :
    MediaType.parse text = .ok media ∧ conversion.accepts media = true := by
  unfold writtenType Request.contentType Request.mediaType? at typed
  rw [declared] at typed
  dsimp only at typed
  cases read : MediaType.parse text with
  | error error =>
    rw [read] at typed
    cases typed
  | ok found =>
    rw [read] at typed
    simp only [bind, Except.bind, Option.getD_some] at typed
    split at typed
    case isTrue accepted =>
      obtain rfl := Except.ok.inj typed
      exact ⟨rfl, accepted⟩
    case isFalse => cases typed

/-! ## Reading it back -/

/-- A declared type as lists of acceptable types can name it: one type without a weight. -/
def Http.Request.DeclaresOneType (request : Request) : Prop :=
  ∀ text, request.header? Field.contentType = some text → ',' ∉ text.toList ∧
    ∀ media, MediaType.parse text = .ok media → ∀ param ∈ media.params, param.1 ≠ "q"

section Declared

variable {write read : Request} {conversion : ValueConversion} {storage : Option MediaType}
  {media : MediaType} {text : String}

/-- A client that accepts the declared type of a write is answered in that type. -/
theorem responseFormat_of_declared (typed : writtenType write conversion = .ok media)
    (one : write.DeclaresOneType) (declared : write.header? Field.contentType = some text) :
    MediaType.parse text = .ok media ∧ conversion.supports media = true ∧
      ∀ value, responseFormat (some text) conversion value = .ok media := by
  obtain ⟨parsed, accepted⟩ := parse_of_writtenType typed declared
  obtain ⟨single, unweighted⟩ := one text declared
  have listed := parseList_of_accepts parsed accepted single (unweighted media parsed)
  exact ⟨parsed, (Bool.and_eq_true_iff.1 accepted).2, responseFormat_of_accepts listed accepted⟩

/-- Whether or not the declaration can be read, such a client can read the value. -/
theorem offered_of_declared (concrete : ∀ format, storage = some format → format.isConcrete = true)
    (typed : writtenType write (.ofStorage storage) = .ok media) (one : write.DeclaresOneType)
    (same : read.accept? = write.header? Field.contentType) (value : Bytes) :
    ∃ offered, responseFormat read.accept? (.ofStorage storage) value = .ok offered ∧
      (ValueConversion.ofStorage storage).supports offered = true := by
  rw [same]
  cases declared : write.header? Field.contentType with
  | none =>
    obtain ⟨offered, settled, supported⟩ :=
      negotiate_without_accept concrete (negotiate_none _) value
    exact ⟨offered, responseFormat_eq_ok_iff.2 ⟨_, negotiate_none _, settled⟩, supported⟩
  | some text =>
    obtain ⟨-, supported, settled⟩ := responseFormat_of_declared typed one declared
    exact ⟨media, settled value, supported⟩

end Declared

/-- What was written is read back under the same type.

Over a store whose caches declare a concrete storage format or none, and after
any run of requests: while the latest write under a key is in force, a GET
without conditions that accepts what the write declared as its type, byte for
byte, is answered 200 with the value that was written and the tag that the
write was answered with. If the declaration can be read, it names a media type,
and the GET announces the text of that type. Otherwise it announces the text of
the type that is settled for the value when no type is asked for, unless a
header cannot carry that text. -/
theorem Service.value_is_read_by_written_type (service : Service) (cluster : ClusterView)
    (definitions : List CacheDefinition) (formats : ConcreteFormats definitions) (start : Memory)
    (created : start = .create cluster definitions) (visits : List Visit) (get : Visit)
    (ordered : Chronological (get :: visits)) (cache key : String)
    (latest : LatestWrite (service.history start visits) cache key)
    (force : latest.InForce start get.now)
    (routed : get.route? = some ⟨.read, cache, some key⟩) (method : get.request.method = .get)
    (unconditional : Conditions.ofRequest get.request = .unconditional)
    (keyed : ∃ resolved, requestKey get.request key = .ok resolved) (declared : Bytes)
    (declares : latest.write.request.headers.get? Field.contentType = some declared)
    (accepts : get.request.headers.get? Field.accept = some declared)
    (one : latest.write.request.DeclaresOneType) :
    (service.answerAfter start visits get).status = .ok ∧
    (∃ body tag, latest.write.request.body = some body ∧
      (service.answerAfter start visits get).body = body ∧
      latest.write.response.etag? = some tag ∧
      (service.answerAfter start visits get).etag? = some tag) ∧
    (∀ text, latest.write.request.header? Field.contentType = some text →
      ∃ media, MediaType.parse text = .ok media ∧
        (service.answerAfter start visits get).announced? = some media.text) ∧
    (latest.write.request.header? Field.contentType = none →
      ∃ configuration body media, start.configuration? cache = some configuration ∧
        latest.write.request.body = some body ∧
        responseFormat none configuration.conversion body = .ok media ∧
        (service.answerAfter start visits get).announced? =
          if isFieldText media.text then some media.text else none) := by
  obtain ⟨last, earlier⟩ := List.pairwise_cons.1 ordered
  have recalls := service.recalls_run created earlier last
  obtain ⟨configuration, body, media, settings, filled, typed, tagged⟩ :=
    latest.writes.told latest.write_mem
  obtain ⟨stored, live, kept⟩ := (recalls.entries cache key).live?_of_inForce force
  obtain rfl : body = stored.value := Option.some.inj (filled.symm.trans kept)
  have known : (service.handleAll start visits).1.configuration? cache = some configuration :=
    (service.configuration?_handleAll start visits cache).trans settings
  have same : get.request.accept? = latest.write.request.header? Field.contentType :=
    Request.header?_eq_of_get?_eq (accepts.trans declares.symm)
  have offered : ∃ media, responseFormat get.request.accept? configuration.conversion
      stored.value = .ok media ∧ configuration.conversion.supports media = true := by
    obtain ⟨definition, inside, conversion⟩ := Memory.configuration?_create (created ▸ settings)
    rw [conversion] at typed ⊢
    exact offered_of_declared (formats definition inside) typed one same stored.value
  have shows := service.handle_read_served recalls.used routed known live ⟨keyed, offered⟩
    (verdict_of_unconditional unconditional)
  obtain ⟨met, value, response, sent, knownToo, liveToo, settled, fresh, answer⟩ :=
    service.handle_read_freshened recalls.used routed shows.status
  obtain rfl : configuration = met := Option.some.inj (known.symm.trans knownToo)
  obtain rfl : stored = value := Option.some.inj (live.symm.trans liveToo)
  have announced : (service.answerAfter start visits get).announced? =
      if isFieldText sent.text then some sent.text else none :=
    (congrArg Response.announced? answer).trans fresh.announced?_finished
  rw [same] at settled
  refine ⟨shows.status, ⟨stored.value, _, filled, ?_, tagged, shows.etag⟩, fun text read => ?_,
    fun unread => ?_⟩
  · exact shows.body.trans (if_neg (by rw [method]; decide))
  · obtain ⟨parsed, -, wanted⟩ := responseFormat_of_declared typed one read
    rw [read, wanted stored.value] at settled
    obtain rfl := Except.ok.inj settled
    refine ⟨media, parsed, announced.trans (if_pos ?_)⟩
    exact MediaType.isFieldText_text parsed (Request.sendable_of_header? read)
  · rw [unread] at settled
    exact ⟨configuration, stored.value, sent, settings, filled, settled, announced⟩

/-! ## Runs -/

/-- A PUT of `v1` under a declared type. -/
def typedPut (declared : String) : Visit :=
  ⟨.epoch, { (Request.of .put "c/k").withHeader Field.contentType declared with
    body := some (Utf8.encode "v1") }⟩

/-- A GET that accepts that type. -/
def typedGet (declared : String) : Visit :=
  ⟨.epoch, (Request.of .get "c/k").withHeader Field.accept declared⟩

/-- The answer to the GET right after the PUT. -/
def typedAnswer (declared : String) : Response :=
  plainService.answerAfter emptyWorld.memory [typedPut declared] (typedGet declared)

def quotedType : String := "Image/PNG; Q1=\"b c\""

/-- A declared type is announced as it was read. -/
theorem quoted_type_is_announced_as_read :
    (typedAnswer quotedType).status = .ok ∧ (typedAnswer quotedType).body = Utf8.encode "v1" ∧
      (typedAnswer quotedType).announced? = some "image/png; q1=b c" := by
  have ordered : Chronological [typedGet quotedType, typedPut quotedType] :=
    List.pairwise_pair.2 (le_refl Instant.epoch)
  have routed : (typedGet quotedType).route? = some ⟨.read, "c", some "k"⟩ := by decide +kernel
  have written : (Handled.mk (typedPut quotedType)
      (plainService.answerAfter emptyWorld.memory [] (typedPut quotedType))).Writes "c" "k" := by
    decide +kernel
  have declares : (typedPut quotedType).request.headers.get? Field.contentType =
      some (Utf8.encode quotedType) := by decide +kernel
  have declared : (typedPut quotedType).request.header? Field.contentType = some quotedType := by
    decide +kernel
  have read : MediaType.parse quotedType = .ok (.named "image" "png" [("q1", "b c")]) := by
    decide +kernel
  let latest : LatestWrite (plainService.history emptyWorld.memory [typedPut quotedType]) "c" "k" :=
    ⟨[], _, [], rfl, written, by simp⟩
  have force : latest.InForce emptyWorld.memory (typedGet quotedType).now :=
    ⟨⟨.unlimited, .unlimited, .passthrough⟩, ⟨.unlimited, .unlimited⟩, rfl, rfl,
      by rintro count ⟨⟩, by rintro count ⟨⟩⟩
  have one : latest.write.request.DeclaresOneType := by
    intro text found
    obtain rfl : text = quotedType := Option.some.inj (found.symm.trans declared)
    refine ⟨by decide +kernel, fun media parsed => ?_⟩
    obtain rfl := Except.ok.inj (parsed.symm.trans read)
    decide +kernel
  obtain ⟨status, ⟨body, tag, filled, shown, -, -⟩, announced, -⟩ :=
    Service.value_is_read_by_written_type plainService ⟨"node", "address", []⟩ _
      concreteFormats_undeclared emptyWorld.memory rfl _ (typedGet quotedType) ordered "c" "k"
      latest force routed rfl (by decide +kernel) ⟨_, rfl⟩ (Utf8.encode quotedType) declares
      (by decide +kernel) one
  obtain ⟨media, parsed, sent⟩ := announced quotedType declared
  obtain rfl := Except.ok.inj (parsed.symm.trans read)
  exact ⟨status, shown.trans (Option.some.inj filled).symm, sent⟩

def accentedType : String := "image/png; a=\"é\""

/-- A declared type that is no ASCII text is a media type, but headers are not read with it. -/
theorem accented_type_is_not_announced :
    (plainService.answerAfter emptyWorld.memory [] (typedPut accentedType)).status = .created ∧
      MediaType.parse accentedType = .ok (.named "image" "png" [("a", "é")]) ∧
      ',' ∉ accentedType.toList ∧ (typedAnswer accentedType).status = .ok ∧
      (typedAnswer accentedType).announced? = some "text/plain" ∧
      (MediaType.named "image" "png" [("a", "é")]).text ≠ "text/plain" := by
  decide +kernel

end CacheGate
