import CacheGate.Proofs.Handler.EntryEvents
import CacheGate.Proofs.Serve.Alone
import CacheGate.Proofs.Serve.ReadFormat
import CacheGate.Proofs.Serve.VanishedEntry

/-!
# Reads that are given up

A read is given up when the entry has changed on each of three attempts. An
attempt starts from a snapshot and ends with another one, and a snapshot that
shows another value or none was preceded by an event: the attempts that fail
are charged to different events (`ReadPlan.Course.charged`).

`Service.read_outlasts_two_events`: a read makes at most three audited reads
and looks at most four times for its entry, and it takes three events to make
it fail where no call of the store does.
-/

namespace CacheGate

open Time Http

/-! ## How often a read asks -/

/-- Whether a call is an audited read of a value. -/
def Call.fetches : Call → Bool
  | .get .. => true
  | _ => false

/-- Whether a call is an internal read of an entry. -/
def Call.looks : Call → Bool
  | .entry .. => true
  | _ => false

/-- A verdict that ends a request is no failure of the service. -/
theorem Verdict.ne_internalServerError {verdict : Verdict} {status : Status}
    (ends : verdict.status? = some status) : status ≠ .internalServerError := by
  cases verdict <;> cases ends <;> decide

namespace ReadPlan

variable {plan : ReadPlan} {service : Service} {entry : Entry} {now : Instant}
  {media : MediaType} {value : Bytes} {exchanges : List Exchange} {remaining : Nat}
  {snapshot : Option Entry} {result : Except AccessError Response}

/-- The placement is neither of the two. -/
theorem Reply.not_asks (reply : plan.Reply service entry now media value exchanges result) :
    ∀ exchange ∈ exchanges,
      ¬ exchange.call.fetches = true ∧ ¬ exchange.call.looks = true := by
  intro exchange member
  cases reply with
  | unplaced =>
    rw [List.mem_singleton.1 member]
    exact ⟨nofun, nofun⟩
  | complete placing =>
    obtain ⟨placement, rfl⟩ := placing exchange member
    exact ⟨nofun, nofun⟩

/-- Each attempt fetches the value at most once, and looks for the entry at most once after that. -/
theorem Course.countP_le (course : plan.Course service remaining snapshot exchanges result) :
    exchanges.countP (·.call.fetches) ≤ remaining ∧
      exchanges.countP (·.call.looks) ≤ remaining := by
  induction course with
  | exhausted | absent | refused | unsettled => simp
  | failed | gone | unconfirmed => simp [fetch, look, Call.fetches, Call.looks]
  | served _ _ _ reply =>
    have fetches := List.countP_eq_zero.2 fun exchange member => (reply.not_asks exchange member).1
    have looks := List.countP_eq_zero.2 fun exchange member => (reply.not_asks exchange member).2
    rw [List.countP_cons, List.countP_cons, List.countP_cons, List.countP_cons, fetches, looks]
    simp [fetch, look, Call.fetches, Call.looks]
  | moved _ _ _ ih => simpa [fetch, look, Call.fetches, Call.looks] using ih

/-! ## What a failed attempt is charged to -/

variable {world : World} {history : List Happening}

/-- Where no call of the store fails, only a read that is given up fails with
500; then each of the attempts that it had left met an event. -/
theorem Course.charged (course : plan.Course service remaining snapshot exchanges result)
    (made : world.exchanges history = exchanges)
    (succeeded : ∀ exchange ∈ exchanges, exchange.Succeeded)
    (failed : (answerOf result).status = .internalServerError)
    (met : (world.live? plan.cache plan.key.content).map StoredEntry.snapshot = snapshot) :
    remaining ≤ (world.events plan.cache plan.key.content (untilLastOwn history)).length := by
  induction course generalizing world history with
  | exhausted => exact Nat.zero_le _
  | absent | gone => cases failed
  | refused verdict => exact (Verdict.ne_internalServerError verdict failed).elim
  | unsettled unsettled =>
    rw [settle_error unsettled] at failed
    cases failed
  | failed => cases succeeded _ List.mem_cons_self
  | unconfirmed => cases succeeded _ (List.mem_cons_of_mem _ List.mem_cons_self)
  | served _ _ _ reply =>
    cases reply with
    | unplaced =>
      cases succeeded _ (List.mem_cons_of_mem _ (List.mem_cons_of_mem _ List.mem_cons_self))
    | complete _ fresh => cases fresh.status_finished.symm.trans failed
  | @moved remaining entry media value snapshot rest result _ differs _ ih =>
    obtain ⟨calls, -, -, answered, laterMade⟩ :=
      World.exchanges_eq_pair (made.trans (List.nil_append _).symm)
    have shown := (Memory.answer_entry_eq_ok_iff.1 answered).2
    have others := ih laterMade
      (List.forall_mem_cons.1 (List.forall_mem_cons.1 succeeded).2).2 failed
      ((congrArg _ World.live?_perform_entry).trans shown)
    -- the snapshots that this attempt starts and ends with do not show the same value
    have met' : ((world.after (calls.earlier ++ calls.since)).live? plan.cache
        plan.key.content).map StoredEntry.snapshot = snapshot := by
      rw [World.after_append]
      exact shown
    have own : 0 < (world.events plan.cache plan.key.content
        (calls.earlier ++ calls.since)).length := by
      refine List.length_pos_iff.2 (World.events_ne_nil_of_differ met met' ?_)
      exact fun current seen same => differs current seen (congrArg EntityTag.of same)
    have all := calls.length_events_le world plan.cache plan.key.content
    omega

end ReadPlan

/-! ## The whole read -/

namespace Service

variable {service : Service} {request : Request} {cache raw : String} {exchanges : List Exchange}
  {result : Except AccessError Response} {world : World} {history : List Happening}

theorem ReadCourse.countP_le (course : service.ReadCourse request cache raw exchanges result) :
    exchanges.countP (·.call.fetches) ≤ 3 ∧ exchanges.countP (·.call.looks) ≤ 4 := by
  cases course with
  | unkeyed | unknown | unacceptable | unseen => simp [Call.fetches, Call.looks]
  | evaluated _ _ course =>
    obtain ⟨fetches, looks⟩ := course.countP_le
    simp only [List.countP_cons, Call.fetches, Call.looks]
    exact ⟨fetches, Nat.succ_le_succ looks⟩

theorem ReadCourse.charged (course : service.ReadCourse request cache raw exchanges result)
    (made : world.exchanges history = exchanges)
    (succeeded : ∀ exchange ∈ exchanges, exchange.Succeeded)
    (failed : (answerOf result).status = .internalServerError) :
    3 ≤ (world.eventsDuring cache (Utf8.encode raw) history).length := by
  cases course with
  | unkeyed unkeyed =>
    change AccessError.status _ = _ at failed
    rw [requestKey_badRequest unkeyed] at failed
    cases failed
  | unknown => cases succeeded _ List.mem_cons_self
  | unacceptable _ unacceptable =>
    rw [negotiate_error unacceptable] at failed
    cases failed
  | unseen => cases succeeded _ (List.mem_cons_of_mem _ List.mem_cons_self)
  | @evaluated key configuration negotiated snapshot rest _ keyed _ course =>
    obtain ⟨moves, tail, rfl, -, tailMade⟩ := World.exchanges_eq_cons made
    obtain ⟨between, later, rfl, answered, laterMade⟩ := World.exchanges_eq_cons tailMade
    have content : key.content = Utf8.encode raw := requestKey_content keyed
    have shown := (Memory.answer_entry_eq_ok_iff.1 answered).2
    have charged := course.charged laterMade
      (List.forall_mem_cons.1 (List.forall_mem_cons.1 succeeded).2).2 failed
      ((congrArg _ World.live?_perform_entry).trans shown)
    rw [World.eventsDuring_eq, untilLastOwn_append_own, ← content]
    refine charged.trans (Nat.le_trans ?_ (World.length_events_own_le ..))
    refine Nat.le_trans ?_ (World.length_events_after_le ..)
    exact World.length_events_own_le ..

end Service

/-- A read stops after three attempts, and needs all of them only if the entry
does not rest.

However a store answers, one read makes at most three audited reads and at most
four internal ones. Over the in-memory store in any state and among any other
clients, if none of its calls fails, and no more than two events hit the entry
under its key from its first call to its last (another client puts it, or a
live entry is removed, cleared away or expires), the read is not answered 500. -/
theorem Service.read_outlasts_two_events (service : Service) (request : Request)
    (cache raw : String) :
    (∀ exchanges result, (service.read request cache raw).run.Yields exchanges result →
      exchanges.countP (·.call.fetches) ≤ 3 ∧ exchanges.countP (·.call.looks) ≤ 4) ∧
    ∀ (world : World) (schedule : List (List Move × List Move))
      (ran : Handler.Ran Interleaved (Except AccessError Response)),
      (service.read request cache raw).run.among world schedule = ran →
      (∀ exchange ∈ world.exchanges ran.state.history, exchange.Succeeded) →
      (world.eventsDuring cache (Utf8.encode raw) ran.state.history).length ≤ 2 →
      (answerOf ran.value).status ≠ .internalServerError := by
  refine ⟨fun exchanges result run => (read_course run).countP_le, ?_⟩
  rintro world schedule ran rfl succeeded few failed
  have course := read_course
    ((service.read request cache raw).run.among_yields world schedule)
  exact absurd (course.charged rfl succeeded failed) (by omega)

/-! ## Two events and three -/

/-- A read of an entry that is put anew before the first and the second fetch. -/
def twiceRacedRead : Handler.Ran Interleaved (Except AccessError Response) :=
  (plainService.read (.of .get "c/k") "c" "k").run.among (emptyWorld.perform (rivalPut "v1"))
    [([], []), ([], []), ([.call (rivalPut "v2")], []), ([], []), ([.call (rivalPut "v3")], [])]

/-- The store calls of that read. -/
def twiceRacedReadCalls : List Exchange :=
  (emptyWorld.perform (rivalPut "v1")).exchanges twiceRacedRead.state.history

/-- The third attempt serves the value, and asks as often as a read may. -/
theorem twice_raced_read_is_served :
    (emptyWorld.perform (rivalPut "v1")).eventsDuring "c" (Utf8.encode "k")
        twiceRacedRead.state.history = [.put, .put] ∧
      twiceRacedReadCalls.countP (·.call.fetches) = 3 ∧
      twiceRacedReadCalls.countP (·.call.looks) = 4 ∧
      (answerOf twiceRacedRead.value).body = Utf8.encode "v3" ∧
      (answerOf twiceRacedRead.value).status ≠ .internalServerError := by
  obtain ⟨bounded, outlasts⟩ :=
    Service.read_outlasts_two_events plainService (.of .get "c/k") "c" "k"
  obtain ⟨fetches, looks⟩ := bounded twiceRacedReadCalls twiceRacedRead.value
    (Handler.among_yields _ _ _)
  have events : (emptyWorld.perform (rivalPut "v1")).eventsDuring "c" (Utf8.encode "k")
      twiceRacedRead.state.history = [.put, .put] := by decide +kernel
  refine ⟨events, le_antisymm fetches (by decide +kernel), le_antisymm looks (by decide +kernel),
    by decide +kernel, ?_⟩
  exact outlasts _ _ twiceRacedRead rfl (by decide +kernel) (by rw [events]; decide)

/-- A third event, here the removal before the last look, can make a read fail. -/
example : (emptyWorld.perform (rivalPut "v1")).eventsDuring "c" (Utf8.encode "k")
      vanishedRead.state.history = [.put, .put, .removed] ∧
    (answerOf vanishedRead.value).status = .internalServerError := by
  decide +kernel

end CacheGate
