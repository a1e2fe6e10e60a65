import CacheGate.Proofs.Handler.Race
import CacheGate.Proofs.Serve.Validators

/-!
# Requests on different entries

A request on an entry makes store calls on that entry only, with its own
subject where they are public and under the identity of the service where they
are internal (`Service.EntryCall`, `Service.dispatch_entryCalls`). So two
requests on different entries do not interfere, in whatever order their calls
are made: `Service.different_entries_do_not_interfere`.
-/

namespace CacheGate

open Time Http

/-! ## The calls of a request on an entry -/

/-- The store calls that a request on an entry may make. -/
inductive Service.EntryCall (service : Service) (request : Request) (cache raw : String) :
    Call → Prop
  | configuration : service.EntryCall request cache raw (.configuration service.context cache)
  | entry {key : Key} : key.content = Utf8.encode raw →
    service.EntryCall request cache raw (.entry service.context cache key)
  | distribution {key : Key} : key.content = Utf8.encode raw →
    service.EntryCall request cache raw (.distribution service.context cache key)
  | get {key : Key} {format : MediaType} : key.content = Utf8.encode raw →
    service.EntryCall request cache raw (.get request.subject cache key format)
  | put {added : NewEntry} : added.key.content = Utf8.encode raw →
    service.EntryCall request cache raw (.put request.subject cache added)
  | remove {key : Key} : key.content = Utf8.encode raw →
    service.EntryCall request cache raw (.remove request.subject cache key)

section Courses

variable {service : Service} {request : Request} {cache raw : String}
  {exchanges : List Exchange} {result : Except AccessError Response}

theorem ReadPlan.Course.entryCalls {plan : ReadPlan} {remaining : Nat} {snapshot : Option Entry}
    (course : plan.Course service remaining snapshot exchanges result)
    (content : plan.key.content = Utf8.encode raw) :
    ∀ exchange ∈ exchanges, service.EntryCall plan.request plan.cache raw exchange.call := by
  have fetch (media : MediaType) :
      service.EntryCall plan.request plan.cache raw (plan.fetch media) := .get content
  have look : service.EntryCall plan.request plan.cache raw (plan.look service) := .entry content
  induction course with
  | exhausted | absent | refused | unsettled => simp
  | failed | gone => simp [fetch]
  | unconfirmed => simp [fetch, look]
  | served _ _ _ reply =>
    refine List.forall_mem_cons.2 ⟨fetch _, List.forall_mem_cons.2 ⟨look, ?_⟩⟩
    cases reply with
    | unplaced => simpa using .distribution content
    | complete placing =>
      intro exchange member
      obtain ⟨placement, rfl⟩ := placing exchange member
      exact .distribution content
  | moved _ _ _ ih => exact List.forall_mem_cons.2 ⟨fetch _, List.forall_mem_cons.2 ⟨look, ih⟩⟩

namespace Service

theorem ReadCourse.entryCalls (course : service.ReadCourse request cache raw exchanges result) :
    ∀ exchange ∈ exchanges, service.EntryCall request cache raw exchange.call := by
  cases course with
  | unkeyed => simp
  | unknown | unacceptable => simpa using .configuration
  | unseen keyed => simpa using ⟨.configuration, .entry (requestKey_content keyed)⟩
  | evaluated keyed _ course =>
    have content := requestKey_content keyed
    exact List.forall_mem_cons.2 ⟨.configuration, List.forall_mem_cons.2 ⟨.entry content,
      course.entryCalls content⟩⟩

theorem WriteCourse.entryCalls (course : service.WriteCourse request cache raw exchanges result) :
    ∀ exchange ∈ exchanges, service.EntryCall request cache raw exchange.call := by
  cases course with
  | unkeyed | bodiless => simp
  | unknown | unsettled => simpa using .configuration
  | unseen keyed | refused keyed =>
    simpa using ⟨.configuration, .entry (requestKey_content keyed)⟩
  | failed keyed | stored keyed =>
    have content := requestKey_content keyed
    simpa using ⟨.configuration, .entry content, .put content⟩

theorem DeleteCourse.entryCalls (course : service.DeleteCourse request cache raw exchanges result) :
    ∀ exchange ∈ exchanges, service.EntryCall request cache raw exchange.call := by
  cases course with
  | unkeyed => simp
  | unseen keyed | refused keyed => simpa using .entry (requestKey_content keyed)
  | failed keyed | removed keyed =>
    have content := requestKey_content keyed
    simpa using ⟨.entry content, .remove content⟩

/-- The handler of a route that names a key asks about that entry only. -/
theorem dispatch_entryCalls {now : Instant} {operation : Operation} (service : Service)
    (routed : Visit.route? ⟨now, request⟩ = some ⟨operation, cache, some raw⟩) :
    (service.dispatch request).Asks (service.EntryCall request cache raw) := by
  intro exchanges response run
  rcases dispatch_course run with ⟨error, -, rfl, -⟩ | ⟨route, result, resolved, run, -⟩
  · simp
  obtain rfl : route = ⟨operation, cache, some raw⟩ :=
    Option.some.inj ((congrArg Except.toOption resolved).symm.trans routed)
  rcases Route.resolve_shape resolved with ⟨_, -, -, shape⟩ | ⟨absurd, -⟩
  · rcases shape with rfl | rfl | rfl
    · exact (read_course run).entryCalls
    · exact (write_course run).entryCalls
    · exact (delete_course run).entryCalls
  · cases absurd

/-- Such a call is about the place of the entry. -/
theorem EntryCall.on {call : Call} (asked : service.EntryCall request cache raw call) :
    call.On ⟨cache, Utf8.encode raw⟩ := by
  cases asked with
  | configuration => rfl
  | entry content | distribution content | get content | put content | remove content =>
    exact ⟨rfl, content⟩

end Service

end Courses

/-! ## Two requests -/

namespace Service

theorem dispatch_asks {now : Instant} {request : Request} {operation : Operation}
    {cache key : String} (service : Service)
    (routed : Visit.route? ⟨now, request⟩ = some ⟨operation, cache, some key⟩) :
    (service.dispatch request).Asks (Call.On ⟨cache, Utf8.encode key⟩) :=
  fun exchanges response run exchange member =>
    (service.dispatch_entryCalls routed exchanges response run exchange member).on

/-- What two requests leave that are made at the same time, one after the other. -/
theorem handleAll_pair_eq_solo (service : Service) (memory : Memory) (now : Instant)
    (first second : Request) :
    (service.handleAll memory [⟨now, second⟩, ⟨now, first⟩]).1 =
      ((service.dispatch second).solo ((service.dispatch first).solo ⟨memory, now⟩).1).1.memory := by
  have clock := (service.dispatch first).now_solo ⟨memory, now⟩
  change (service.handle (service.handle memory ⟨now, first⟩).1 ⟨now, second⟩).1 = _
  rw [handle_eq_solo, handle_eq_solo]
  generalize (service.dispatch first).solo ⟨memory, now⟩ = ran at clock ⊢
  obtain ⟨⟨reached, later⟩, answer⟩ := ran
  obtain rfl : later = now := clock
  rfl

/-- Requests on different entries do not interfere. However their store calls
are interleaved while the clock stands still, each is answered as if it were
alone, and the same entries are live afterwards as when they are handled one
after the other, in either order. -/
theorem different_entries_do_not_interfere (service : Service) (memory : Memory) (now : Instant)
    (first second : Request) (operation otherOperation : Operation)
    (cache key otherCache otherKey : String)
    (routed : Visit.route? ⟨now, first⟩ = some ⟨operation, cache, some key⟩)
    (otherRouted : Visit.route? ⟨now, second⟩ =
      some ⟨otherOperation, otherCache, some otherKey⟩)
    (differs : ¬ (cache = otherCache ∧ key = otherKey)) (schedule : List Handler.Side)
    (left : World) (answer otherAnswer : Response)
    (ran : Handler.race schedule (service.dispatch first) (service.dispatch second) ⟨memory, now⟩ =
      (left, answer, otherAnswer)) :
    answer = (service.handle memory ⟨now, first⟩).2 ∧
      otherAnswer = (service.handle memory ⟨now, second⟩).2 ∧
      ∀ later, now ≤ later → ∀ name content,
        left.memory.live? later name content =
          (service.handleAll memory [⟨now, second⟩, ⟨now, first⟩]).1.live? later name content ∧
        left.memory.live? later name content =
          (service.handleAll memory [⟨now, first⟩, ⟨now, second⟩]).1.live? later name content := by
  have asks := service.dispatch_asks routed
  have otherAsks := service.dispatch_asks otherRouted
  have apart : (⟨cache, Utf8.encode key⟩ : Place) ≠ ⟨otherCache, Utf8.encode otherKey⟩ := by
    intro same
    obtain ⟨names, contents⟩ := Place.mk.inj same
    exact differs ⟨names, Utf8.encode_inj.1 contents⟩
  obtain ⟨reached, answers⟩ := Handler.race_of_apart asks otherAsks apart schedule ⟨memory, now⟩
  obtain ⟨swapped, -⟩ := Handler.solo_comm asks otherAsks apart ⟨memory, now⟩
  rw [ran] at reached answers
  obtain ⟨rfl, rfl⟩ := Prod.mk.inj answers
  have clock : left.now = now :=
    reached.now_eq.trans ((Handler.now_solo ..).trans (Handler.now_solo ..))
  refine ⟨congrArg Prod.snd (service.handle_eq_solo memory ⟨now, first⟩).symm,
    congrArg Prod.snd (service.handle_eq_solo memory ⟨now, second⟩).symm,
    fun later order name content => ⟨?_, ?_⟩⟩
  · rw [handleAll_pair_eq_solo]
    exact reached.live?_eq (clock ▸ order) name content
  · rw [handleAll_pair_eq_solo]
    exact (reached.trans swapped).live?_eq (clock ▸ order) name content

end Service

/-! ## A race -/

/-- A PUT of the entry `c/j`. -/
def otherPut : Request :=
  { Request.of .put "c/j" with body := some (Utf8.encode "v2") }

/-- A PUT of `c/k` and a PUT of `c/j`, call by call. -/
def entryRace : World × Response × Response :=
  Handler.race [.second, .first, .first, .second, .second, .first]
    (plainService.dispatch (plainPut "v1")) (plainService.dispatch otherPut) emptyWorld

/-- Both are answered as if they were alone, and both entries are there. -/
theorem raced_puts_of_two_entries_both_create :
    entryRace.2.1.status = .created ∧ entryRace.2.2.status = .created ∧
      (entryRace.1.memory.live? .epoch "c" (Utf8.encode "k")).isSome ∧
      (entryRace.1.memory.live? .epoch "c" (Utf8.encode "j")).isSome := by
  have routed : Visit.route? ⟨.epoch, plainPut "v1"⟩ = some ⟨.write, "c", some "k"⟩ := by
    decide +kernel
  have routedOther : Visit.route? ⟨.epoch, otherPut⟩ = some ⟨.write, "c", some "j"⟩ := by
    decide +kernel
  obtain ⟨answer, answerOther, live⟩ := Service.different_entries_do_not_interfere plainService
    emptyWorld.memory .epoch (plainPut "v1") otherPut .write .write "c" "k" "c" "j" routed
    routedOther (by decide) [.second, .first, .first, .second, .second, .first] entryRace.1
    entryRace.2.1 entryRace.2.2 rfl
  refine ⟨?_, ?_, ?_, ?_⟩
  · rw [answer]
    decide +kernel
  · rw [answerOther]
    decide +kernel
  · rw [(live .epoch (le_refl _) "c" (Utf8.encode "k")).1]
    decide +kernel
  · rw [(live .epoch (le_refl _) "c" (Utf8.encode "j")).1]
    decide +kernel

end CacheGate
