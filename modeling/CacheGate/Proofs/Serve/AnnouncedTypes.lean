import CacheGate.Proofs.MediaType.Accept
import CacheGate.Proofs.Serve.ListedKeys
import CacheGate.Proofs.Serve.ReadFormat

/-!
# Announced types

A read that is answered 200 announces the text of the format that was settled
for a value (`Service.dispatch_announces_of_ok`), if a header can carry that
text, as it can if the type was read from a header itself
(`MediaType.isFieldText_text`). What a client that reads the announced text
takes it for is stated by `MediaType.text_round_trip`.
-/

namespace CacheGate

open Time Http

/-! ## Texts of types that headers name -/

namespace MediaType

variable {cs essence : List Char} {params : List (String × String)} {param : String × String}
  {media : MediaType} {raw : String}

/-- Names are lowered and trimmed parts of what was sent. -/
theorem sendable_lower_trim (sendable : ∀ c ∈ cs, Text.Sendable c) :
    ∀ c ∈ (String.ofList (Text.lower (Text.trim cs))).toList, Text.Sendable c := by
  intro c member
  rw [String.toList_ofList] at member
  obtain ⟨d, inside, rfl⟩ := List.mem_map.1 member
  exact (sendable d ((Text.strip_sublist _ cs).subset inside)).toLower

theorem sendable_of_parseParam (read : parseParam cs = .ok param)
    (sendable : ∀ c ∈ cs, Text.Sendable c) : ∀ c ∈ written param, Text.Sendable c := by
  obtain ⟨name, value, cut, -, rfl⟩ := parseParam_eq_ok_iff.1 read
  obtain ⟨rfl, -⟩ := Text.cut?_eq_some cut
  obtain ⟨inName, inValue⟩ := List.forall_mem_append.1 sendable
  obtain ⟨equals, inValue⟩ := List.forall_mem_cons.1 inValue
  refine List.forall_mem_cons.2 ⟨by decide, List.forall_mem_append.2
    ⟨sendable_lower_trim inName, List.forall_mem_cons.2 ⟨equals, fun c member => ?_⟩⟩⟩
  rw [String.toList_ofList] at member
  exact inValue c ((Text.strip_sublist _ _).subset ((Text.strip_sublist _ _).subset member))

theorem sendable_of_splitParams (split : splitParams cs = .ok (essence, params))
    (sendable : ∀ c ∈ cs, Text.Sendable c) :
    (∀ c ∈ essence, Text.Sendable c) ∧ ∀ param ∈ params, ∀ c ∈ written param, Text.Sendable c := by
  obtain ⟨first, pieces, cut, rfl, -, read⟩ := splitParams_eq_ok_iff.1 split
  have piecewise : ∀ piece ∈ first :: pieces, ∀ c ∈ Text.trim piece, Text.Sendable c := by
    intro piece member c inside
    rw [← cut] at member
    exact sendable c (Text.mem_of_mem_splitOn member ((Text.strip_sublist _ piece).subset inside)).1
  refine ⟨piecewise first List.mem_cons_self, fun param member => ?_⟩
  obtain ⟨_, kept, found⟩ := exists_of_mem_mapM read member
  obtain ⟨piece, inside, rfl⟩ := List.mem_map.1 (List.mem_filter.1 kept).1
  exact sendable_of_parseParam found (piecewise piece (List.mem_cons_of_mem first inside))

/-- The text of a type can be sent in a header if its parts can. -/
theorem isFieldText_of_build (built : build essence params = .ok media)
    (inEssence : ∀ c ∈ essence, Text.Sendable c)
    (inParams : ∀ param ∈ params, ∀ c ∈ written param, Text.Sendable c) :
    isFieldText media.text = true := by
  by_cases star : IsStar essence
  · obtain rfl := Except.ok.inj ((build_of_isStar star).symm.trans built)
    decide
  · obtain ⟨primary, sub, cut, -, -, rfl⟩ := (build_eq_ok_iff star).1 built
    obtain ⟨rfl, -⟩ := Text.cut?_eq_some cut
    obtain ⟨inPrimary, inSub⟩ := List.forall_mem_append.1 inEssence
    obtain ⟨slash, inSub⟩ := List.forall_mem_cons.1 inSub
    apply Text.isFieldText_of_sendable
    rw [toList_text_named]
    refine List.forall_mem_append.2 ⟨List.forall_mem_append.2 ⟨sendable_lower_trim inPrimary,
      List.forall_mem_cons.2 ⟨slash, sendable_lower_trim inSub⟩⟩, fun c member => ?_⟩
    obtain ⟨param, listed, inside⟩ := List.mem_flatMap.1 member
    exact List.forall_mem_cons.2 ⟨by decide, inParams param listed⟩ c inside

/-- The text of a type that was read from a header can be sent in a header. -/
theorem isFieldText_text (read : parse raw = .ok media)
    (sendable : ∀ c ∈ raw.toList, Text.Sendable c) : isFieldText media.text = true := by
  obtain ⟨essence, params, split, built⟩ := parse_eq_ok_iff.1 read
  obtain ⟨inEssence, inParams⟩ := sendable_of_splitParams split sendable
  exact isFieldText_of_build built inEssence inParams

/-- So can the texts of the types in a list that was read from a header. -/
theorem isFieldText_of_mem_parseList {listed : List MediaType} (read : parseList raw = .ok listed)
    (member : media ∈ listed) (sendable : ∀ c ∈ raw.toList, Text.Sendable c) :
    isFieldText media.text = true := by
  obtain ⟨ranked, ranks, -, rfl⟩ := parseList_eq_ok_iff.1 read
  obtain ⟨element, inside, -, rfl⟩ := mem_preferred_iff.1 member
  obtain ⟨cs, kept, found⟩ := exists_of_mem_mapM ranks inside
  obtain ⟨essence, params, split, -, built⟩ := parseRanked_eq_ok_iff.1 found
  have within : cs ∈ raw.toList.splitOn ',' := (List.mem_filter.1 kept).1
  obtain ⟨inEssence, inParams⟩ := sendable_of_splitParams split fun c member =>
    sendable c (Text.mem_of_mem_splitOn within member).1
  exact isFieldText_of_build built inEssence fun param member =>
    inParams param (List.mem_of_mem_eraseP member)

end MediaType

/-! ## What a read announces -/

/-- The type that a response announces, as it was sent. -/
def Http.Response.announced? (response : Response) : Option String :=
  response.headers.get? Field.contentType

section Announced

variable {response : Response} {entry : Entry} {evaluation : ReadEvaluation} {now : Instant}
  {media : MediaType} {body : Bytes} {method : Method}

theorem freshnessResponse_announced? :
    (freshnessResponse entry evaluation now).announced? = none := by
  unfold freshnessResponse Response.announced?
  simp (disch := decide) only [Response.get?_setHeader_of_ne, get?_setHeader?_of_ne]
  rfl

/-- A finished answer announces the type of its body, if that can be sent. -/
theorem Http.Response.Freshened.announced?_finished
    (fresh : response.Freshened entry evaluation now) :
    (bodyFor method (response.entity media body)).announced? =
      if isFieldText media.text then some media.text else none := by
  have before : response.announced? = none :=
    (fresh.header Field.contentType (by decide)).trans freshnessResponse_announced?
  have attached : (response.entity media body).announced? =
      if isFieldText media.text then some media.text else none := by
    split
    case isTrue sendable => exact get?_setHeader_self sendable
    case isFalse unsendable =>
      have kept : response.setHeader Field.contentType media.text = response := if_neg unsendable
      rw [← before]
      change (response.setHeader Field.contentType media.text).announced? = _
      rw [kept]
  rw [← attached]
  unfold bodyFor
  split <;> rfl

end Announced

namespace ReadPlan

variable {plan : ReadPlan} {service : Service} {remaining : Nat} {snapshot : Option Entry}
  {exchanges : List Exchange} {result : Except AccessError Response}

/-- An evaluation that is answered 200 announces the format that it settled on. -/
theorem Course.announces_of_ok (course : plan.Course service remaining snapshot exchanges result)
    (found : (answerOf result).status = .ok) :
    ∃ entry media, plan.format entry = .ok media ∧ (answerOf result).announced? =
      if isFieldText media.text then some media.text else none := by
  induction course with
  | exhausted => exact (AccessError.not_succeeds_response _ (Or.inl found)).elim
  | absent => cases found
  | refused verdict => exact (Verdict.not_succeeds verdict (Or.inl found)).elim
  | unsettled => exact (AccessError.not_succeeds_response _ (Or.inl found)).elim
  | failed => exact (AccessError.not_succeeds_response _ (Or.inl found)).elim
  | gone => cases found
  | unconfirmed => exact (AccessError.not_succeeds_response _ (Or.inl found)).elim
  | served _ settled _ reply =>
    cases reply with
    | unplaced => exact (AccessError.not_succeeds_response _ (Or.inl found)).elim
    | complete _ fresh => exact ⟨_, _, settled, fresh.announced?_finished⟩
  | moved _ _ _ ih => exact ih found

end ReadPlan

/-- A read that is answered 200 announces the format of some value, if that can be sent. -/
theorem Service.ReadCourse.announces_of_ok {service : Service} {request : Request}
    {cache raw : String} {exchanges : List Exchange} {result : Except AccessError Response}
    (course : service.ReadCourse request cache raw exchanges result)
    (found : (answerOf result).status = .ok) :
    ∃ configuration value media,
      ⟨.configuration service.context cache, .ok configuration⟩ ∈ exchanges ∧
      responseFormat request.accept? configuration.conversion value = .ok media ∧
      (answerOf result).announced? = if isFieldText media.text then some media.text else none := by
  cases course with
  | unkeyed => exact (AccessError.not_succeeds_response _ (Or.inl found)).elim
  | unknown => exact (AccessError.not_succeeds_response _ (Or.inl found)).elim
  | unacceptable => exact (AccessError.not_succeeds_response _ (Or.inl found)).elim
  | unseen => exact (AccessError.not_succeeds_response _ (Or.inl found)).elim
  | evaluated _ negotiated course =>
    obtain ⟨entry, media, settled, announced⟩ := course.announces_of_ok found
    refine ⟨_, entry.value, media, List.mem_cons_self, ?_, announced⟩
    rw [responseFormat_of_negotiate negotiated]
    exact settled

/-- Over the in-memory store, that is the format which the settings of the cache lead to. -/
theorem Service.dispatch_announces_of_ok {service : Service} {request : Request} {now : Instant}
    {cache raw : String} {world : World} {history : List Happening} {response : Response}
    (routed : Visit.route? ⟨now, request⟩ = some ⟨.read, cache, some raw⟩)
    (run : (service.dispatch request).Yields (world.exchanges history) response)
    (found : response.status = .ok) :
    ∃ configuration value media, world.memory.configuration? cache = some configuration ∧
      responseFormat request.accept? configuration.conversion value = .ok media ∧
      response.announced? = if isFieldText media.text then some media.text else none := by
  rcases dispatch_course run with ⟨error, unrouted, -, -⟩ | ⟨route, result, resolved, own, rfl⟩
  · cases routed.symm.trans (congrArg Except.toOption unrouted)
  obtain rfl : route = ⟨.read, cache, some raw⟩ :=
    Option.some.inj ((congrArg Except.toOption resolved).symm.trans routed)
  obtain ⟨configuration, value, media, configured, settled, shown⟩ :=
    (read_course own).announces_of_ok found
  obtain ⟨reached, answered, same⟩ := World.answered_of_mem configured
  have known := (same cache).symm.trans (World.configuration?_of_answered answered)
  exact ⟨configuration, value, media, known, settled, shown⟩

/-! ## What an announced type is taken for -/

/-- The text of a media type stands for that type, but for what quotes protected.

Whatever type is read from a text or from a list of acceptable types, unless it
is the full range with its halves read apart: its own text is read as a media
type again, as the same one with each parameter value stripped of blanks and
then of quotes at its ends. So it is read as the very same type if and only if
no value has blanks at its ends, and so does a client read the type that a
response announces for its body. -/
theorem MediaType.text_round_trip (raw : String) (media : MediaType)
    (accepted : parse raw = .ok media ∨ ∃ listed, parseList raw = .ok listed ∧ media ∈ listed)
    (unpaired : ¬ media.IsStarPair) :
    parse media.text = .ok media.reread ∧
    (parse media.text = .ok media ↔
      ∀ param ∈ media.params, Text.trim param.2.toList = param.2.toList) ∧
    ∀ (response : Response) (body : Bytes), isFieldText media.text = true →
      (response.entity media body).contentType? = some media.reread := by
  have parsed : media.Parsed := by
    rcases accepted with read | ⟨listed, read, member⟩
    · exact parsed_of_parse read
    · exact parsed_of_mem_parseList read member
  have again := parsed.parse_text unpaired
  refine ⟨again, ?_, fun response body sendable => ?_⟩
  · rw [again, Except.ok.injEq]
    exact parsed.reread_eq_iff
  · have sent : (response.entity media body).headers.get? Field.contentType = some media.text :=
      Response.get?_setHeader_self sendable
    unfold Response.contentType?
    rw [sent]
    exact congrArg Except.toOption again

/-- Quotes around a value are not part of it, and are not needed to read it back. -/
theorem quoted_charset_is_read_back :
    MediaType.parse "Text/Plain; charset=\"UTF-8\"" =
        .ok (.named "text" "plain" [("charset", "UTF-8")]) ∧
      MediaType.parse (MediaType.named "text" "plain" [("charset", "UTF-8")]).text =
        .ok (.named "text" "plain" [("charset", "UTF-8")]) := by
  have read : MediaType.parse "Text/Plain; charset=\"UTF-8\"" =
      .ok (.named "text" "plain" [("charset", "UTF-8")]) := by decide +kernel
  have unpaired : ¬ (MediaType.named "text" "plain" [("charset", "UTF-8")]).IsStarPair := by
    rintro ⟨params, same⟩
    exact absurd (MediaType.named.inj same).1 (by decide)
  obtain ⟨-, exact, -⟩ := MediaType.text_round_trip _ _ (Or.inl read) unpaired
  exact ⟨read, exact.2 (by decide)⟩

/-- A blank that quotes protect is lost on the way, and a pair of stars becomes the full range. -/
theorem some_texts_are_read_back_otherwise :
    (∃ media, MediaType.parse "text/plain; a=\" x\"" = .ok media ∧
      MediaType.parse media.text ≠ .ok media) ∧
    ∃ media, MediaType.parse "* /*" = .ok media ∧ MediaType.parse media.text ≠ .ok media := by
  refine ⟨⟨.named "text" "plain" [("a", " x")], ?_, ?_⟩, ⟨.named "*" "*" [], ?_, ?_⟩⟩ <;>
    decide +kernel

end CacheGate
