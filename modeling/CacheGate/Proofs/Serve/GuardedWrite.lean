import CacheGate.Proofs.Serve.Validators

/-!
# Guarded writes

A PUT with `If-Match` states the tags of the values that its client is ready
to replace. `Service.guarded_put_updates_named_entry` says what that is good
for: over a live entry it is carried out only if the header names the tag of
that entry, so no update is lost that the client has not seen. The header is
checked against an existing entry only. A PUT that finds none, because the
entry was deleted, cleared or has expired, creates it anew.
-/

namespace CacheGate

open Time Http

/-! ## Headers that list tags -/

/-- A header without stars among its elements. -/
def ListsTags (header : String) : Prop :=
  ∀ element ∈ header.toList.splitOn ',', Text.trim element ≠ ['*']

/-- Some element of a header states the tag: its digits, with or without a
weak mark and quotes. -/
def EntityTag.Listed (tag : EntityTag) (header : String) : Prop :=
  ∃ element ∈ header.toList.splitOn ',',
    Text.unquote (EntityTag.dropWeak (Text.trim element)) = tag.digits

theorem EntityTag.matchesHeader_iff_listed {tag : EntityTag} {header : String}
    (lists : ListsTags header) : tag.matchesHeader header = true ↔ tag.Listed header := by
  unfold matchesHeader named Listed
  simp only [List.any_eq_true, Bool.or_eq_true, beq_iff_eq]
  constructor
  · rintro ⟨element, member, star | states⟩
    · exact (lists element member star).elim
    · exact ⟨element, member, states⟩
  · rintro ⟨element, member, states⟩
    exact ⟨element, member, Or.inr states⟩

/-! ## A guarded PUT after a run -/

namespace Service

/-- What a run shows under a key at some time after it. -/
def entryAfter (service : Service) (start : Memory) (visits : List Visit) (now : Instant)
    (cache key : String) : Option StoredEntry :=
  (service.handleAll start visits).1.live? now cache (Utf8.encode key)

section Guarded

variable {service : Service} {memory start : Memory} {definitions : List CacheDefinition}
  {cluster : ClusterView} {visits : List Visit} {put : Visit} {cache key header : String}
  {stored : StoredEntry} {configuration : CacheConfiguration} {now : Instant}

/-- A PUT that is carried out over a live entry names the tag of that entry. -/
theorem listed_of_succeeds (routed : put.route? = some ⟨.write, cache, some key⟩)
    (conditional : put.request.header? Field.ifMatch = some header) (lists : ListsTags header)
    (live : memory.live? put.now cache (Utf8.encode key) = some stored)
    (found : (service.handle memory put).2.status.Succeeds) :
    (EntityTag.of stored.value).Listed header := by
  obtain ⟨serves, -⟩ := service.handle_write_succeeds routed found
  rw [live, Option.map_some] at serves
  have fits : (EntityTag.of stored.snapshot.value).matchesHeader header = true :=
    matches_of_evaluateWrite serves conditional
  exact (EntityTag.matchesHeader_iff_listed lists).1 fits

/-- A write that is answered 200 replaces a live entry. -/
theorem exists_live_of_ok (routed : put.route? = some ⟨.write, cache, some key⟩)
    (found : (service.handle memory put).2.status = .ok) :
    ∃ stored, memory.live? put.now cache (Utf8.encode key) = some stored := by
  obtain ⟨-, status⟩ := service.handle_write_succeeds routed (Or.inl found)
  cases live : memory.live? put.now cache (Utf8.encode key) with
  | none =>
    rw [live, found] at status
    cases status
  | some stored => exact ⟨stored, rfl⟩

/-- A write that is answered 201 found nothing. -/
theorem live?_eq_none_of_created (routed : put.route? = some ⟨.write, cache, some key⟩)
    (found : (service.handle memory put).2.status = .created) :
    memory.live? put.now cache (Utf8.encode key) = none := by
  obtain ⟨-, status⟩ := service.handle_write_succeeds routed (Or.inr found)
  cases live : memory.live? put.now cache (Utf8.encode key) with
  | none => rfl
  | some stored =>
    rw [live, found] at status
    cases status

/-- What a run shows is its latest write, which is in force. -/
theorem exists_latest_of_live (created : start = .create cluster definitions)
    (ordered : Chronological visits) (last : ∀ visit ∈ visits, visit.now ≤ now)
    (shown : service.entryAfter start visits now cache key = some stored) :
    ∃ latest : LatestWrite (service.history start visits) cache key,
      latest.InForce start now ∧ latest.write.request.body = some stored.value := by
  have recalls := (service.recalls_run created ordered last).entries cache key
  obtain ⟨latest, force⟩ := recalls.inForce_of_live? shown
  obtain ⟨met, live, body⟩ := recalls.live?_of_inForce force
  obtain rfl : stored = met := Option.some.inj (shown.symm.trans live)
  exact ⟨latest, force, body⟩

/-- No lost updates through `If-Match`. A PUT that lists tags is answered 200
only over a live entry whose tag it lists, and 201 only where there is no live
entry. Over a live entry whose tag it does not list, it is refused and leaves
every live entry; where there is none, and nothing else is wrong with it, it
creates one. While the clock does not run backwards, the live entry is the
latest write in force, so 200 says that the tag of that write was listed, and
201 that whatever was written was removed since or has expired. -/
theorem guarded_put_updates_named_entry (service : Service) (cluster : ClusterView)
    (definitions : List CacheDefinition) (start : Memory)
    (created : start = .create cluster definitions) (visits : List Visit) (put : Visit)
    (cache key header : String) (routed : put.route? = some ⟨.write, cache, some key⟩)
    (method : put.request.method = .put)
    (conditional : put.request.header? Field.ifMatch = some header) (lists : ListsTags header)
    (answer : Response) (answered : service.answerAfter start visits put = answer) :
    (answer.status = .ok → ∃ stored, service.entryAfter start visits put.now cache key =
      some stored ∧ (EntityTag.of stored.value).Listed header) ∧
    (answer.status = .created → service.entryAfter start visits put.now cache key = none) ∧
    (∀ stored, service.entryAfter start visits put.now cache key = some stored →
      ¬ (EntityTag.of stored.value).Listed header →
        ¬ answer.status.Succeeds ∧ ∀ later, put.now ≤ later → ∀ name content,
          (service.handleAll start (put :: visits)).1.live? later name content =
            (service.handleAll start visits).1.live? later name content) ∧
    (service.entryAfter start visits put.now cache key = none →
      ∀ configuration, start.configuration? cache = some configuration →
        Writable put.request key configuration → answer.status = .created) ∧
    (Chronological (put :: visits) →
      (answer.status = .ok → ∃ latest : LatestWrite (service.history start visits) cache key,
        latest.InForce start put.now ∧ ∃ body, latest.write.request.body = some body ∧
          (EntityTag.of body).Listed header) ∧
      (answer.status = .created →
        ∀ latest : LatestWrite (service.history start visits) cache key,
          ¬ latest.InForce start put.now)) := by
  subst answered
  have replaces (found : (service.answerAfter start visits put).status = .ok) :
      ∃ stored, service.entryAfter start visits put.now cache key = some stored ∧
        (EntityTag.of stored.value).Listed header := by
    obtain ⟨stored, live⟩ := exists_live_of_ok routed found
    exact ⟨stored, live, listed_of_succeeds routed conditional lists live (Or.inl found)⟩
  refine ⟨replaces, live?_eq_none_of_created routed, fun stored live unlisted => ?_,
    fun absent configuration known writable => ?_, fun ordered => ⟨fun found => ?_,
    fun found latest force => ?_⟩⟩
  · have refused : ¬ (service.answerAfter start visits put).status.Succeeds :=
      fun found => unlisted (listed_of_succeeds routed conditional lists live found)
    exact ⟨refused, fun later order => service.handle_write_refused routed refused order⟩
  · have status := service.handle_put routed method
      ((service.configuration?_handleAll start visits cache).trans known) writable
    unfold entryAfter at absent
    rw [absent] at status
    exact status
  · obtain ⟨last, past⟩ := List.pairwise_cons.1 ordered
    obtain ⟨stored, live, listed⟩ := replaces found
    obtain ⟨latest, force, body⟩ := exists_latest_of_live created past last live
    exact ⟨latest, force, stored.value, body, listed⟩
  · obtain ⟨last, past⟩ := List.pairwise_cons.1 ordered
    obtain ⟨stored, live, -⟩ :=
      ((service.recalls_run created past last).entries cache key).live?_of_inForce force
    cases live.symm.trans (live?_eq_none_of_created routed found)

end Guarded

end Service

/-! ## Guarded by the tag of `v1` -/

/-- A PUT of `v2` that is to replace `v1`. -/
def guardedSecondPut : Visit :=
  ⟨threeLater, (plainPut "v2").withHeader Field.ifMatch "\"1282175466896328754\""⟩

/-- After `v1` was put and read, the guarded PUT replaces it. -/
theorem guarded_put_replaces_value_of_its_tag :
    ∃ latest : LatestWrite (plainService.history emptyWorld.memory [halfPastGet, halfPastPut])
        "c" "k",
      latest.InForce emptyWorld.memory threeLater ∧
      ∃ body, latest.write.request.body = some body ∧
        (EntityTag.of body).Listed "\"1282175466896328754\"" := by
  have routed : guardedSecondPut.route? = some ⟨.write, "c", some "k"⟩ := by decide +kernel
  have conditional : guardedSecondPut.request.header? Field.ifMatch =
      some "\"1282175466896328754\"" := by
    decide +kernel
  have lists : ListsTags "\"1282175466896328754\"" := by
    unfold ListsTags
    decide +kernel
  have ordered : Chronological [guardedSecondPut, halfPastGet, halfPastPut] := by
    unfold Chronological
    decide +kernel
  have found : (plainService.answerAfter emptyWorld.memory [halfPastGet, halfPastPut]
      guardedSecondPut).status = .ok := by
    decide +kernel
  obtain ⟨-, -, -, -, told⟩ := Service.guarded_put_updates_named_entry plainService
    ⟨"node", "address", []⟩ [⟨"c", .unlimited, .unlimited, none⟩] emptyWorld.memory rfl
    [halfPastGet, halfPastPut] guardedSecondPut "c" "k" _ routed rfl conditional lists _ rfl
  exact (told ordered).1 found

/-- A DELETE of the entry a second and a half after the epoch. -/
def halfPastDelete : Visit := ⟨halfPast, .of .delete "c/k"⟩

/-- After `v1` was put and deleted, the guarded PUT finds no live entry and is
answered 201. -/
theorem guarded_put_recreates_deleted_entry :
    (plainService.answerAfter emptyWorld.memory [halfPastDelete, halfPastPut]
      guardedSecondPut).status = .created ∧
    plainService.entryAfter emptyWorld.memory [halfPastDelete, halfPastPut] threeLater "c" "k" =
      none := by
  decide +kernel

end CacheGate
