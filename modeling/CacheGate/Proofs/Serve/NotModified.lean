import CacheGate.Proofs.Serve.Validators

/-!
# What a 304 says

The tag and the date of a read are conditions of their own: a read that states
both is not modified as soon as one of them says so. Dates are whole seconds,
so a value that was written over in the second of its date has the date of the
value before it. `Service.unmodified_for_validators` says that this is the only
way in which a 304 can stand for a value that its client does not have.
-/

namespace CacheGate

open Time Http

/-! ## Both validators together -/

section Verdicts

variable {stored : StoredEntry} {request : Request} {tag : EntityTag} {since now : Instant}

/-- A read that states both validators is not modified by the one or by the other. -/
theorem StoredEntry.validators_of_notModified
    (tagged : request.header? Field.ifNoneMatch = some tag.text)
    (dated : request.header? Field.ifModifiedSince = some (HttpDate.format since))
    (unmodified : stored.verdict request now = .notModified) :
    EntityTag.of stored.value = tag ∨ stored.created.wholeSecond ≤ since.wholeSecond := by
  rcases readVerdict_notModified unmodified with excluded | ⟨stated, read, order⟩
  · obtain ⟨header, present, names⟩ := (Option.any_eq_true _ _).1 excluded
    obtain rfl := Option.some.inj (present.symm.trans tagged)
    exact Or.inl (EntityTag.matchesHeader_text.1 names).symm
  · change (request.header? Field.ifModifiedSince).bind HttpDate.parse? = some stated at read
    rw [dated, Option.bind_some, HttpDate.parse?_format] at read
    obtain rfl := Option.some.inj read
    exact Or.inr order

end Verdicts

/-! ## Whole runs -/

namespace Service

variable {service : Service} {start : Memory} {definitions : List CacheDefinition}
  {cluster : ClusterView} {earlier between : List Visit} {first again : Visit}
  {cache key : String} {former current : StoredEntry}

/-- A read that finds an entry after a run finds it created in the past. -/
theorem created_le (created : start = .create cluster definitions)
    (ordered : Chronological (first :: earlier))
    (shown : (service.handleAll start earlier).1.live? first.now cache (Utf8.encode key) =
      some former) : former.created ≤ first.now := by
  obtain ⟨past, order⟩ := List.pairwise_cons.1 ordered
  obtain ⟨standing, found, leaves, -⟩ :=
    ((service.recalls_run created order past).entries cache key).leaves_of_live? shown
  rw [leaves.created]
  exact past _ (mem_of_mem_handleAll (mem_of_standing? found))

/-- While the clock does not run backwards, an entry that carries an earlier
date with another tag was written since, in the second of that date. -/
theorem written_in_second (created : start = .create cluster definitions)
    (ordered : Chronological (again :: (between ++ first :: earlier)))
    (routed : first.route? = some ⟨.read, cache, some key⟩)
    (shown : (service.handleAll start earlier).1.live? first.now cache (Utf8.encode key) =
      some former)
    (shownAfter : (service.handleAll start (between ++ first :: earlier)).1.live? again.now cache
      (Utf8.encode key) = some current)
    (early : current.created.wholeSecond ≤ former.created.wholeSecond) :
    EntityTag.of current.value = EntityTag.of former.value ∨
      ∃ handled ∈ service.history (service.handleAll start (first :: earlier)).1 between,
        handled.Writes cache key ∧ current.created = handled.now ∧
          former.created.wholeSecond = handled.now.wholeSecond := by
  obtain ⟨last, ordered⟩ := List.pairwise_cons.1 ordered
  obtain ⟨-, past, order⟩ := List.pairwise_append.1 ordered
  rcases written_or_same created ordered last routed shown shownAfter with
    ⟨handled, member, writes, creation⟩ | ⟨value, -⟩
  · have since : former.created ≤ handled.now :=
      le_trans (created_le created past shown)
        (order _ (mem_of_mem_handleAll member) first List.mem_cons_self)
    rw [creation] at early
    exact Or.inr ⟨handled, member, writes, creation,
      le_antisymm (Instant.wholeSecond_mono since) early⟩
  · exact Or.inl (congrArg EntityTag.of value.symm)

/-- What a 304 says to a client that sent the tag and the date of an earlier
answer: the current value has that tag, or it was created no later than in the
second of that date. While the clock does not run backwards, the second case
takes a write between the two requests that fell in that very second. -/
theorem unmodified_for_validators (service : Service) (cluster : ClusterView)
    (definitions : List CacheDefinition) (start : Memory)
    (created : start = .create cluster definitions)
    (earlier between visits : List Visit) (first again : Visit)
    (split : visits = between ++ first :: earlier) (cache key : String)
    (routed : first.route? = some ⟨.read, cache, some key⟩)
    (routedAgain : again.route? = some ⟨.read, cache, some key⟩)
    (answer : Response) (answered : service.answerAfter start earlier first = answer)
    (found : answer.status = .ok) (etag lastModified : String)
    (tagged : answer.etag? = some etag) (dated : answer.lastModified? = some lastModified)
    (ifNoneMatch : again.request.header? Field.ifNoneMatch = some etag)
    (ifModifiedSince : again.request.header? Field.ifModifiedSince = some lastModified)
    (unmodified : (service.answerAfter start visits again).status = .notModified) :
    ∃ current since, (service.handleAll start visits).1.live? again.now cache (Utf8.encode key) =
        some current ∧
      HttpDate.parse? lastModified = some since ∧
      ((EntityTag.of current.value).text = etag ∨ current.created.wholeSecond ≤ since) ∧
      (Chronological (again :: visits) → (EntityTag.of current.value).text = etag ∨
        ∃ handled ∈ service.history (service.handleAll start (first :: earlier)).1 between,
          handled.Writes cache key ∧ current.created = handled.now ∧
            handled.now.wholeSecond = since) := by
  subst split answered
  obtain ⟨-, former, -, live, -, shows⟩ := handle_read_ok routed found
  obtain ⟨current, now, liveNow, verdict⟩ := handle_read_notModified routedAgain unmodified
  obtain rfl := Option.some.inj (shows.etag.symm.trans tagged)
  obtain rfl := Option.some.inj (shows.lastModified.symm.trans dated)
  have told := StoredEntry.validators_of_notModified ifNoneMatch ifModifiedSince verdict
  rw [Instant.wholeSecond_wholeSecond] at told
  have read : HttpDate.parse? (HttpDate.format former.created.wholeSecond) =
      some former.created.wholeSecond := by
    rw [HttpDate.parse?_format, Instant.wholeSecond_wholeSecond]
  refine ⟨current, former.created.wholeSecond, liveNow, read,
    told.imp (congrArg EntityTag.text) id, fun ordered => ?_⟩
  rcases told with same | early
  · exact Or.inl (congrArg EntityTag.text same)
  · rcases written_in_second created ordered routed live liveNow early with
      same | ⟨handled, member, writes, creation, second⟩
    · exact Or.inl (congrArg EntityTag.text same)
    · exact Or.inr ⟨handled, member, writes, creation, second.symm⟩

end Service

/-! ## A value that was written over at once -/

/-- A PUT of `v2` in the same second as `halfPastPut`. -/
def secondPut : Visit := ⟨halfPast, plainPut "v2"⟩

/-- The GET again, with the validators of `v1`. -/
def halfPastGetAgain : Visit :=
  ⟨halfPast, (halfPastGet.request.withHeader Field.ifNoneMatch "\"1282175466896328754\"").withHeader
    Field.ifModifiedSince "Thu, 01 Jan 1970 00:00:01 GMT"⟩

/-- `v1` is put and read, and `v2` is put in the same second. With both
validators of `v1`, a second read is answered 304, and there is `v2`. -/
theorem not_modified_hides_value_of_same_second :
    (plainService.answerAfter emptyWorld.memory [halfPastPut] halfPastGet).status = .ok ∧
    (plainService.answerAfter emptyWorld.memory [halfPastPut] halfPastGet).etag? =
      some "\"1282175466896328754\"" ∧
    (plainService.answerAfter emptyWorld.memory [halfPastPut] halfPastGet).lastModified? =
      some "Thu, 01 Jan 1970 00:00:01 GMT" ∧
    (plainService.answerAfter emptyWorld.memory [secondPut, halfPastGet, halfPastPut]
      halfPastGetAgain).status = .notModified ∧
    ((plainService.handleAll emptyWorld.memory [secondPut, halfPastGet, halfPastPut]).1.live?
      halfPast "c" (Utf8.encode "k")).map (fun current => (EntityTag.of current.value).text) =
        some "\"9805930805235187024\"" := by
  decide +kernel

/-- What made that 304 possible is a write in the second of the date. -/
theorem hidden_value_was_written_in_same_second :
    ∃ handled ∈ plainService.history
        (plainService.handleAll emptyWorld.memory [halfPastGet, halfPastPut]).1 [secondPut],
      handled.Writes "c" "k" ∧
        HttpDate.parse? "Thu, 01 Jan 1970 00:00:01 GMT" = some handled.now.wholeSecond := by
  have routedAgain : halfPastGetAgain.route? = some ⟨.read, "c", some "k"⟩ := by decide +kernel
  obtain ⟨found, -, tagged, dated⟩ := answer_halfPastGet
  have unmodified : (plainService.answerAfter emptyWorld.memory
      [secondPut, halfPastGet, halfPastPut] halfPastGetAgain).status = .notModified := by
    decide +kernel
  have other : ((plainService.handleAll emptyWorld.memory
      [secondPut, halfPastGet, halfPastPut]).1.live? halfPast "c" (Utf8.encode "k")).all
        (fun current => (EntityTag.of current.value).text ≠ "\"1282175466896328754\"") = true := by
    decide +kernel
  have ordered : Chronological [halfPastGetAgain, secondPut, halfPastGet, halfPastPut] := by
    unfold Chronological
    decide +kernel
  obtain ⟨current, since, live, read, -, cause⟩ := Service.unmodified_for_validators plainService
    ⟨"node", "address", []⟩ [⟨"c", .unlimited, .unlimited, none⟩] emptyWorld.memory rfl
    [halfPastPut] [secondPut] [secondPut, halfPastGet, halfPastPut] halfPastGet halfPastGetAgain
    rfl "c" "k" route?_halfPastGet routedAgain _ rfl found _ _ tagged dated (by decide +kernel)
    (by decide +kernel) unmodified
  have differs : (EntityTag.of current.value).text ≠ "\"1282175466896328754\"" :=
    of_decide_eq_true ((Option.all_eq_true _ _).1 other current live)
  obtain ⟨handled, member, writes, -, second⟩ := (cause ordered).resolve_left differs
  exact ⟨handled, member, writes, second ▸ read⟩

end CacheGate
