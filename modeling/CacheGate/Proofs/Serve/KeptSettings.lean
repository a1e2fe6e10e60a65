import CacheGate.Proofs.Serve.Alone
import CacheGate.Proofs.Serve.CheckedChange
import CacheGate.Proofs.Serve.Intact
import CacheGate.Proofs.Serve.Schedules
import CacheGate.Proofs.Store.Creation
import CacheGate.Proofs.WriteExpiration

/-!
# Settings that survive being read and written

A read states the settings of the entry that it shows, and a client may send
them with a write. In a cache whose defaults have no zeros, no entry has any,
whatever is under way on the store (`Service.isPositive_of_held?`), so what a
read states is never taken for the default, and the write gets settings of the
same length (`Service.settings_survive_read_and_write`).
-/

namespace CacheGate

open Time Http

/-! ## Answers to reads -/

/-- An answer that states the settings of an entry. -/
structure Http.Response.States (response : Response) (metadata : EntryMetadata) : Prop where
  timeToLive : response.headers.get? Field.timeToLive =
    some (Text.intText metadata.lifespan.headerValue)
  maxIdle : response.headers.get? Field.maxIdle =
    some (Text.intText metadata.maxIdle.headerValue)

theorem freshnessResponse_states {entry : Entry} {evaluation : ReadEvaluation} {now : Instant} :
    (freshnessResponse entry evaluation now).States entry.metadata where
  timeToLive := by
    unfold freshnessResponse
    simp (disch := decide) only [Response.get?_setHeader_of_ne]
    exact Response.get?_setHeader_self (isFieldText_int _)
  maxIdle := by
    unfold freshnessResponse
    simp (disch := decide) only [Response.get?_setHeader_of_ne]
    exact Response.get?_setHeader_self (isFieldText_int _)

/-- A read that is answered 200 states the settings of a snapshot, the one
that it was given or one that it took later. -/
theorem ReadPlan.Course.states_of_ok {plan : ReadPlan} {service : Service} {remaining : Nat}
    {snapshot : Option Entry} {exchanges : List Exchange} {result : Except AccessError Response}
    (course : plan.Course service remaining snapshot exchanges result)
    (found : (answerOf result).status = .ok) :
    ∃ entry, (snapshot = some entry ∨ ⟨plan.look service, .ok (some entry)⟩ ∈ exchanges) ∧
      (answerOf result).States entry.metadata := by
  induction course with
  | exhausted | unsettled | failed | unconfirmed =>
    exact (AccessError.not_succeeds_response _ (Or.inl found)).elim
  | absent | gone => cases found
  | refused verdict => exact (Verdict.not_succeeds verdict (Or.inl found)).elim
  | served _ _ _ reply =>
    cases reply with
    | unplaced => exact (AccessError.not_succeeds_response _ (Or.inl found)).elim
    | complete _ fresh =>
      refine ⟨_, Or.inl rfl, ?_, ?_⟩
      · exact (fresh.header_finished (by decide) (by decide)).trans
          freshnessResponse_states.timeToLive
      · exact (fresh.header_finished (by decide) (by decide)).trans
          freshnessResponse_states.maxIdle
  | moved _ _ _ ih =>
    obtain ⟨entry, rfl | member, states⟩ := ih found
    · exact ⟨entry, Or.inr (by simp), states⟩
    · exact ⟨entry, Or.inr (by simp [member]), states⟩

namespace Service

variable {service : Service} {request : Request} {cache other raw : String}
  {exchanges before rest : List Exchange} {result : Except AccessError Response}
  {response : Response} {subject : Subject} {added : NewEntry}

theorem ReadCourse.states_of_ok (course : service.ReadCourse request cache raw exchanges result)
    (found : (answerOf result).status = .ok) :
    ∃ key entry, requestKey request raw = .ok key ∧
      ⟨.entry service.context cache key, .ok (some entry)⟩ ∈ exchanges ∧
      (answerOf result).States entry.metadata := by
  cases course with
  | unkeyed | unknown | unacceptable | unseen =>
    exact (AccessError.not_succeeds_response _ (Or.inl found)).elim
  | @evaluated key _ _ _ _ _ keyed _ course =>
    obtain ⟨entry, rfl | member, states⟩ := course.states_of_ok found
    · exact ⟨key, entry, keyed, by simp, states⟩
    · exact ⟨key, entry, keyed, List.mem_cons_of_mem _ (List.mem_cons_of_mem _ member), states⟩

/-! ## What is put -/

/-- A write puts what it was told, over the defaults that it asked for before. -/
theorem WriteCourse.settled_of_put
    (course : service.WriteCourse request cache raw exchanges result)
    (put : exchanges = before ++ ⟨.put subject other added, .ok ()⟩ :: rest) :
    other = cache ∧ ∃ configuration,
      ⟨.configuration service.context cache, .ok configuration⟩ ∈ before ∧
        resolveMetadata request configuration = .ok added.metadata := by
  have member : ⟨.put subject other added, .ok ()⟩ ∈ exchanges := by simp [put]
  cases course with
  | unkeyed | bodiless | unknown | unsettled | unseen | refused | failed => simp at member
  | @stored key body configuration existing media metadata response keyed filled typed settled =>
    -- The put is the last of three calls, so both others are in front of it.
    rcases before with _ | ⟨first, _ | ⟨second, before⟩⟩
    · cases congrArg Exchange.call (List.cons.inj put).1
    · cases congrArg Exchange.call (List.cons.inj (List.cons.inj put).2).1
    · obtain ⟨rfl, later⟩ := List.cons.inj put
      obtain ⟨rfl, last⟩ := List.cons.inj later
      rcases List.append_eq_singleton_iff.1 last.symm with ⟨rfl, same⟩ | ⟨-, absurd⟩
      · cases congrArg Exchange.call (List.cons.inj same).1
        exact ⟨rfl, configuration, List.mem_cons_self, settled⟩
      · cases absurd

/-- A request that puts something is a write. -/
theorem settled_of_dispatch (run : (service.dispatch request).Yields exchanges response)
    (put : exchanges = before ++ ⟨.put subject cache added, .ok ()⟩ :: rest) :
    ∃ configuration, ⟨.configuration service.context cache, .ok configuration⟩ ∈ before ∧
      resolveMetadata request configuration = .ok added.metadata := by
  have member : ⟨.put subject cache added, .ok ()⟩ ∈ exchanges := by simp [put]
  rcases dispatch_course run with ⟨error, -, rfl, -⟩ | ⟨route, result, -, handled, -⟩
  · cases member
  · cases operation : route.operation <;> rw [operation] at handled
    case read => cases (read_course handled).not_mutates _ member
    case keys => cases (keys_course handled).not_mutates _ member
    case write =>
      obtain ⟨rfl, settled⟩ := (write_course handled).settled_of_put put
      exact settled
    case delete =>
      clear put
      cases delete_course handled <;> simp at member
    case clear =>
      clear put
      cases clear_course handled <;> simp at member
    case search =>
      obtain ⟨rfl, -⟩ := Answering.yields_ofExcept_iff.1 handled
      cases member

/-! ## Requests under way -/

section Runs

variable {ι : Type} [DecidableEq ι] {start : World} {requests : ι → Request} {who : ι}
  {configuration : CacheConfiguration} {schedule : List (Turn ι)} {content : Bytes}
  {stored : StoredEntry}

/-- What a request is about to put was settled over the defaults of the cache. -/
theorem settled_of_call? (known : start.memory.configuration? cache = some configuration)
    (asks : (((service.traffic start requests).after schedule).handlers who).call? =
      some (.put subject cache added)) :
    resolveMetadata (requests who) configuration = .ok added.metadata := by
  have knownNow :=
    ((service.traffic start requests).configuration?_after schedule cache).trans known
  have makes : ((service.traffic start requests).after schedule).Makes who
      ⟨.put subject cache added, .ok ()⟩ := ⟨asks, Memory.answer_put knownNow⟩
  obtain ⟨rest, response, run⟩ := makes.yields
  obtain ⟨settings, asked, settled⟩ := settled_of_dispatch run rfl
  obtain ⟨before, later, -, met⟩ := Traffic.mem_exchanges asked
  have answered := World.configuration?_of_answered met.answer
  rw [Traffic.configuration?_after] at answered
  obtain rfl := Option.some.inj (answered.symm.trans known)
  exact settled

/-- Where the defaults have no zeros, no entry ever has. -/
theorem isPositive_of_held? (known : start.memory.configuration? cache = some configuration)
    (defaults : configuration.defaults.IsPositive)
    (initial : ∀ content stored, start.memory.held? cache content = some stored →
      stored.metadata.IsPositive)
    (held : ((service.traffic start requests).after schedule).world.memory.held? cache content =
      some stored) : stored.metadata.IsPositive := by
  induction schedule using List.reverseRecOn generalizing content stored with
  | nil => exact initial content stored held
  | append_singleton schedule turn ih =>
    rw [Traffic.after_concat] at held
    rcases Traffic.next_cases ((service.traffic start requests).after schedule) turn with
      same | ⟨who, call, asks, performed⟩
    · rw [same] at held
      exact ih held
    · rw [performed] at held
      rcases Memory.held?_perform held with
        kept | ⟨earlier, live, rfl⟩ | ⟨subject, added, rfl, -, rfl⟩
      · exact ih kept
      · -- a touched entry keeps its settings
        have before := ih (Memory.live?_eq_some_iff.1 live).1
        exact before
      · exact isPositive_of_resolveMetadata defaults (settled_of_call? known asks)

/-- A read that is answered 200 states the settings of an entry that was there. -/
theorem states_of_answer? (traffic : Traffic ι)
    (begins : traffic.handlers who = service.dispatch request)
    (routed : Route.resolve request.method request.path request.action? =
      .ok ⟨.read, cache, some raw⟩)
    (answered : (traffic.after schedule).answer? who = some response)
    (found : response.status = .ok) :
    ∃ before later stored, schedule = before ++ later ∧
      (traffic.after before).world.live? cache (Utf8.encode raw) = some stored ∧
      response.States stored.metadata := by
  obtain ⟨reply, rfl, run⟩ := Traffic.yields_of_answer? answered
  rw [begins] at run
  rcases dispatch_course run with ⟨error, unrouted, -⟩ | ⟨route, result, routing, handled, rfl⟩
  · cases unrouted.symm.trans routed
  obtain rfl := Except.ok.inj (routing.symm.trans routed)
  obtain ⟨key, entry, keyed, member, states⟩ := (read_course handled).states_of_ok found
  obtain ⟨before, later, rfl, met⟩ := Traffic.mem_exchanges member
  obtain ⟨-, shown⟩ := Memory.answer_entry_eq_ok_iff.1 met.answer
  obtain ⟨stored, live, rfl⟩ := Option.map_eq_some_iff.1 shown
  rw [requestKey_content keyed] at live
  exact ⟨before, _, stored, rfl, live, states.timeToLive, states.maxIdle⟩

/-- A write that was accepted stored its value in one of its turns, with
settings of its own over the defaults. -/
theorem stored_of_answer? (known : start.memory.configuration? cache = some configuration)
    (routed : Route.resolve (requests who).method (requests who).path (requests who).action? =
      .ok ⟨.write, cache, some raw⟩)
    (answered : ((service.traffic start requests).after schedule).answer? who = some response)
    (accepted : response.status.Succeeds) :
    ∃ before later stored, schedule = before ++ .request who :: later ∧
      ((service.traffic start requests).after (before ++ [.request who])).world.memory.held? cache
        (Utf8.encode raw) = some stored ∧
      writtenBody (requests who) = .ok stored.value ∧
      resolveMetadata (requests who) configuration = .ok stored.metadata := by
  obtain ⟨reply, rfl, run⟩ := Traffic.yields_of_answer? answered
  rcases dispatch_course run with ⟨error, unrouted, -⟩ | ⟨route, result, routing, handled, rfl⟩
  · cases unrouted.symm.trans routed
  obtain rfl := Except.ok.inj (routing.symm.trans routed)
  obtain ⟨_, _, added, keyed, filled, -, -, -, -, exchanged⟩ :=
    (write_course handled).stored_of_succeeds accepted
  have member : ⟨.put (requests who).subject cache added, .ok ()⟩ ∈
      (service.traffic start requests).exchanges who schedule := by simp [exchanged]
  obtain ⟨before, later, rfl, met⟩ := Traffic.mem_exchanges member
  have knownThen := ((service.traffic start requests).configuration?_after before cache).trans known
  refine ⟨before, later, Memory.fresh added
    ((service.traffic start requests).after before).world.now, rfl, ?_, filled,
    settled_of_call? known met.call⟩
  rw [Traffic.after_concat, met.world]
  exact (Memory.held?_put knownThen).trans (if_pos ⟨rfl, requestKey_content keyed⟩)

end Runs

/-- Settings survive being read and written. Take a cache of a new store whose
defaults have no zeros, any requests on the store, and any order of their steps
and of changes of the clock. No entry of the cache ever has a setting of zero.
What a read that is answered 200 states are the settings of an entry that was
live at some time. Whenever a write to the cache sends just these two numbers
and is accepted, the entry that it stored in one of its turns has settings of
the same length, which are stated as the same numbers. So it is with settings
without a limit, and with defaults above the greatest signed 64-bit number. -/
theorem settings_survive_read_and_write {ι : Type} [DecidableEq ι] (service : Service)
    (cluster : ClusterView) (definitions : List CacheDefinition) (now : Instant)
    (requests : ι → Request) (cache : String) (configuration : CacheConfiguration)
    (known : (Memory.create cluster definitions).configuration? cache = some configuration)
    (defaults : configuration.defaults.IsPositive) (schedule : List (Turn ι)) :
    let traffic := service.traffic ⟨.create cluster definitions, now⟩ requests
    let ran := traffic.after schedule
    (∀ content stored, ran.world.memory.held? cache content = some stored →
      stored.metadata.IsPositive) ∧
    ∀ reader raw response,
      Route.resolve (requests reader).method (requests reader).path (requests reader).action? =
        .ok ⟨.read, cache, some raw⟩ →
      ran.answer? reader = some response → response.status = .ok →
      ∃ before later shown, schedule = before ++ later ∧
        (traffic.after before).world.live? cache (Utf8.encode raw) = some shown ∧
        response.States shown.metadata ∧
        ∀ writer target answer,
          Route.resolve (requests writer).method (requests writer).path (requests writer).action? =
            .ok ⟨.write, cache, some target⟩ →
          (requests writer).headers.get? Field.timeToLive =
            (response.headers.get? Field.timeToLive).map Utf8.encode →
          (requests writer).headers.get? Field.maxIdle =
            (response.headers.get? Field.maxIdle).map Utf8.encode →
          ran.answer? writer = some answer → answer.status.Succeeds →
          ∃ before later stored, schedule = before ++ .request writer :: later ∧
            (traffic.after (before ++ [.request writer])).world.memory.held? cache
              (Utf8.encode target) = some stored ∧
            writtenBody (requests writer) = .ok stored.value ∧
            stored.metadata.SameLength shown.metadata := by
  intro traffic ran
  have initial : ∀ content stored, (Memory.create cluster definitions).held? cache content =
      some stored → stored.metadata.IsPositive := by
    intro content stored held
    rw [Memory.held?_create] at held
    cases held
  refine ⟨fun content stored => isPositive_of_held? known defaults initial, ?_⟩
  intro reader raw response reads answered found
  obtain ⟨before, later, shown, split, live, states⟩ :=
    states_of_answer? traffic rfl reads answered found
  refine ⟨before, later, shown, split, live, states, ?_⟩
  intro writer target answer writes timeToLive maxIdle replied accepted
  obtain ⟨front, rest, stored, cut, held, filled, settled⟩ :=
    stored_of_answer? known writes replied accepted
  have positive : shown.metadata.IsPositive :=
    isPositive_of_held? known defaults initial (Memory.live?_eq_some_iff.1 live).1
  rw [states.timeToLive] at timeToLive
  rw [states.maxIdle] at maxIdle
  exact ⟨front, rest, stored, cut, held, filled,
    resolveMetadata_of_restated positive timeToLive maxIdle settled⟩

end Service

/-! ## A run -/

/-- A cache whose entries last longer than a signed 64-bit number of seconds can say. -/
def lastingCache : CacheDefinition := ⟨"c", .seconds Text.greatestNat64, .unlimited, none⟩

/-- The three requests of a client that changes a value and keeps its settings. -/
inductive Errand where
  | write
  | read
  | rewrite
  deriving DecidableEq

/-- A PUT that states no settings, a GET, and a PUT that sends back what the
GET was answered. -/
def sendingBack : Errand → Request
  | .write => { Request.of .put "c/k" with body := some (Utf8.encode "v1") }
  | .read => Request.of .get "c/k"
  | .rewrite => { Request.of .put "c/k" with
      headers := ⟨[(Text.lowered Field.timeToLive, Utf8.encode "9223372036854775807"),
        (Text.lowered Field.maxIdle, Utf8.encode "-1")]⟩
      body := some (Utf8.encode "v2") }

/-- Each of the requests ends before the next one begins. -/
def oneByOne : List (Turn Errand) :=
  List.replicate 3 (.request .write) ++ List.replicate 5 (.request .read) ++
    List.replicate 3 (.request .rewrite)

/-- The second value has the settings that the GET stated of the first. -/
theorem longest_settings_are_sent_back :
    let traffic := plainService.traffic
      ⟨.create ⟨"node", "address", []⟩ [lastingCache], .epoch⟩ sendingBack
    let ran := traffic.after oneByOne
    ∃ answer reply : Response, ran.answer? .read = some answer ∧ ran.answer? .rewrite = some reply ∧
      answer.status = .ok ∧ reply.status = .ok ∧
      answer.headers.get? Field.timeToLive = some "9223372036854775807" ∧
      answer.headers.get? Field.maxIdle = some "-1" ∧
      ∃ shown stored : StoredEntry, answer.States shown.metadata ∧
        (∃ before, (traffic.after (before ++ [.request .rewrite])).world.memory.held? "c"
          (Utf8.encode "k") = some stored) ∧
        stored.value = Utf8.encode "v2" ∧ stored.metadata.SameLength shown.metadata := by
  intro traffic ran
  have read : (ran.answer? .read).map (fun answer => (answer.status,
      answer.headers.get? Field.timeToLive, answer.headers.get? Field.maxIdle)) =
        some (.ok, some "9223372036854775807", some "-1") := by decide +kernel
  have written : (ran.answer? .rewrite).map Response.status = some .ok := by decide +kernel
  obtain ⟨answer, answered, parts⟩ := Option.map_eq_some_iff.1 read
  obtain ⟨reply, replied, accepted⟩ := Option.map_eq_some_iff.1 written
  obtain ⟨found, timeToLive, maxIdle⟩ : answer.status = .ok ∧
      answer.headers.get? Field.timeToLive = some "9223372036854775807" ∧
      answer.headers.get? Field.maxIdle = some "-1" := by simpa using parts
  obtain ⟨-, kept⟩ := Service.settings_survive_read_and_write plainService
    ⟨"node", "address", []⟩ [lastingCache] .epoch sendingBack "c"
    ⟨lastingCache.lifespan, lastingCache.maxIdle, .ofStorage none⟩ (by decide +kernel)
    ⟨by decide, by decide⟩ oneByOne
  obtain ⟨-, -, shown, -, -, states, sent⟩ := kept .read "k" answer (by decide) answered found
  obtain ⟨before, -, stored, -, held, filled, same⟩ := sent .rewrite "k" reply (by decide)
    (by rw [timeToLive]; decide) (by rw [maxIdle]; decide) replied (Or.inl accepted)
  have value : Except.ok (Utf8.encode "v2") = Except.ok stored.value := filled
  exact ⟨answer, reply, answered, replied, found, accepted, timeToLive, maxIdle, shown, stored,
    states, ⟨before, held⟩, (Except.ok.inj value).symm, same⟩

end CacheGate
