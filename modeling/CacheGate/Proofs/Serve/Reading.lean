import CacheGate.Proofs.Handler.Exchange
import CacheGate.Proofs.Http.FieldText
import CacheGate.Serve.Dispatch

/-!
# The courses of a read

`Service.ReadCourse` lists every way in which a read can go, with the store
calls that it makes, the answers that lead there and the result, and
`ReadPlan.Course` does so for the evaluation of one snapshot. The handlers
are taken apart here once; what a read does under whatever store is then a
case analysis or an induction on its course.

* `ReadPlan.attempt_course` and `Service.read_course`: every read takes one of
  these courses.
* `ReadPlan.Course.served_of_ok`: a read that is answered 200 ends with a
  value, a snapshot whose tag is the one announced, and perhaps a placement.
* `Service.ReadCourse.ok_or_refused`: any other read that does not fail is
  answered with a status alone.
-/

namespace CacheGate

open Time Http

/-! ## Parts of the answer -/

namespace Answering

variable {exchanges : List Exchange} {response : Response} {name value : String}
  {media : MediaType} {body : Bytes} {result : Except AccessError Response}

theorem yields_setHeader (run : (setHeader response name value).run.Yields exchanges result) :
    exchanges = [] ∧ result = .ok (response.setHeader name value) := by
  unfold setHeader at run
  split at run
  · exact yields_pure_iff.1 run
  · exact yields_pure_iff.1 (yields_log_bind_iff.1 run)

theorem yields_setHeader_bind {next : Response → Answering Response}
    (run : (setHeader response name value >>= next).run.Yields exchanges result) :
    (next (response.setHeader name value)).run.Yields exchanges result := by
  rcases yields_bind_iff.1 run with ⟨error, own, rfl⟩ | ⟨_, _, _, own, rest, rfl⟩
  · cases (yields_setHeader own).2
  · obtain ⟨rfl, same⟩ := yields_setHeader own
    cases same
    exact rest

theorem yields_setEntity (run : (setEntity response media body).run.Yields exchanges result) :
    exchanges = [] ∧ result = .ok (response.entity media body) := by
  unfold setEntity at run
  exact yields_pure_iff.1 (yields_setHeader_bind run)

end Answering

/-- What the tag header of an answer says. -/
def Http.Response.etag? (response : Response) : Option String := response.headers.get? Field.etag

/-- When an answer says that the value was last changed. -/
def Http.Response.lastModified? (response : Response) : Option String :=
  response.headers.get? Field.lastModified

theorem get?_setHeader?_of_ne {response : Response} {name other : String} {value : Option String}
    (differs : Text.lowered other ≠ Text.lowered name) :
    (setHeader? response name value).headers.get? other = response.headers.get? other := by
  cases value with
  | none => rfl
  | some value => exact Response.get?_setHeader_of_ne differs

theorem setHeader?_status {response : Response} {name : String} {value : Option String} :
    (setHeader? response name value).status = response.status := by
  cases value with
  | none => rfl
  | some value => exact Response.setHeader_status

section Freshness

variable {entry : Entry} {evaluation : ReadEvaluation} {now : Instant}

theorem freshnessResponse_status : (freshnessResponse entry evaluation now).status = .ok := by
  simp only [freshnessResponse, Response.setHeader_status, setHeader?_status]
  rfl

/-- The tag is among the headers that the snapshot decides. -/
theorem freshnessResponse_etag? :
    (freshnessResponse entry evaluation now).etag? = some evaluation.etag.text := by
  unfold freshnessResponse Response.etag?
  simp (disch := decide) only [Response.get?_setHeader_of_ne, get?_setHeader?_of_ne]
  exact Response.get?_setHeader_self (isFieldText_tag _)

/-- So is the time of the last change. -/
theorem freshnessResponse_lastModified? :
    (freshnessResponse entry evaluation now).lastModified? =
      some (HttpDate.format evaluation.lastModified) := by
  unfold freshnessResponse Response.lastModified?
  simp (disch := decide) only [Response.get?_setHeader_of_ne, get?_setHeader?_of_ne]
  exact Response.get?_setHeader_self (isFieldText_date _)

end Freshness

/-! ## Finished answers -/

/-- The headers that only the placement decides. -/
def placementFields : List String := [Field.primaryOwner, Field.nodeName, Field.serverAddress]

/-- A header that says the same with and without placement. -/
def FreeOfPlacement (name : String) : Prop :=
  ∀ field ∈ placementFields, Text.lowered name ≠ Text.lowered field

instance (name : String) : Decidable (FreeOfPlacement name) :=
  inferInstanceAs (Decidable (∀ field ∈ placementFields, _))

/-- An answer with the headers that a snapshot decides, to which placement may have been added. -/
structure Http.Response.Freshened (response : Response) (entry : Entry)
    (evaluation : ReadEvaluation) (now : Instant) : Prop where
  status : response.status = .ok
  header (name : String) : FreeOfPlacement name →
    response.headers.get? name = (freshnessResponse entry evaluation now).headers.get? name

section Freshened

variable {response : Response} {entry : Entry} {evaluation : ReadEvaluation} {now : Instant}
  {name value : String} {media : MediaType} {body : Bytes} {method : Method}

theorem freshened_freshnessResponse :
    (freshnessResponse entry evaluation now).Freshened entry evaluation now :=
  ⟨freshnessResponse_status, fun _ _ => rfl⟩

namespace Http.Response.Freshened

theorem setHeader (fresh : response.Freshened entry evaluation now)
    (placement : name ∈ placementFields) :
    (response.setHeader name value).Freshened entry evaluation now where
  status := setHeader_status.trans fresh.status
  header other free := (get?_setHeader_of_ne (free name placement)).trans (fresh.header other free)

/-- The body and its type leave the other headers as they are. -/
theorem header_finished (fresh : response.Freshened entry evaluation now)
    (free : FreeOfPlacement name) (differs : Text.lowered name ≠ Text.lowered Field.contentType) :
    (bodyFor method (response.entity media body)).headers.get? name =
      (freshnessResponse entry evaluation now).headers.get? name := by
  rw [← fresh.header name free]
  unfold bodyFor
  split <;> exact get?_setHeader_of_ne differs

theorem status_finished (fresh : response.Freshened entry evaluation now) :
    (bodyFor method (response.entity media body)).status = .ok := by
  unfold bodyFor
  split <;> exact setHeader_status.trans fresh.status

theorem etag?_finished (fresh : response.Freshened entry evaluation now) :
    (bodyFor method (response.entity media body)).etag? = some evaluation.etag.text :=
  (fresh.header_finished (by decide) (by decide)).trans freshnessResponse_etag?

theorem lastModified?_finished (fresh : response.Freshened entry evaluation now) :
    (bodyFor method (response.entity media body)).lastModified? =
      some (HttpDate.format evaluation.lastModified) :=
  (fresh.header_finished (by decide) (by decide)).trans freshnessResponse_lastModified?

end Http.Response.Freshened

theorem body_bodyFor_entity :
    (bodyFor method (response.entity media body)).body = if method = .head then [] else body := by
  unfold bodyFor
  split <;> rfl

theorem yields_withPlacement_bind {placement : Distribution} {next : Response → Answering Response}
    {exchanges : List Exchange} {result : Except AccessError Response}
    (fresh : response.Freshened entry evaluation now)
    (run : (withPlacement response placement >>= next).run.Yields exchanges result) :
    ∃ placed : Response, (next placed).run.Yields exchanges result ∧
      placed.Freshened entry evaluation now := by
  rcases Answering.yields_bind_iff.1 run with ⟨error, own, rfl⟩ | ⟨placed, _, _, own, rest, rfl⟩
  · cases (Answering.yields_setHeader (Answering.yields_setHeader_bind
      (Answering.yields_setHeader_bind own))).2
  obtain ⟨rfl, same⟩ := Answering.yields_setHeader (Answering.yields_setHeader_bind
    (Answering.yields_setHeader_bind own))
  obtain rfl := Except.ok.inj same
  exact ⟨_, rest, ((fresh.setHeader (by simp [placementFields])).setHeader
    (by simp [placementFields])).setHeader (by simp [placementFields])⟩

end Freshened

/-! ## Evaluating a snapshot -/

/-- A verdict that ends a request refuses it. -/
theorem Verdict.not_succeeds {verdict : Verdict} {status : Status}
    (ends : verdict.status? = some status) : ¬ status.Succeeds := by
  cases verdict <;> cases ends <;> decide

theorem Verdict.eq_serve {verdict : Verdict} (proceeds : verdict.status? = none) :
    verdict = .serve := by
  cases verdict <;> cases proceeds
  rfl

theorem Service.yields_internalEntry_bind_iff {α : Type} {service : Service} {cache : String}
    {key : Key} {next : Option Entry → Answering α} {exchanges : List Exchange}
    {result : Except AccessError α} :
    (service.internalEntry cache key >>= next).run.Yields exchanges result ↔
      (∃ failure, exchanges = [⟨.entry service.context cache key, .error failure⟩] ∧
        result = .error (.store failure)) ∨
      ∃ found rest, exchanges = ⟨.entry service.context cache key, .ok found⟩ :: rest ∧
        (next found).run.Yields rest result :=
  Handler.yields_log_iff.trans Answering.yields_ask_bind_iff

namespace ReadPlan

/-- The audited read of the value. -/
def fetch (plan : ReadPlan) (media : MediaType) : Call :=
  .get plan.request.subject plan.cache plan.key media

/-- The internal read of the entry. -/
def look (plan : ReadPlan) (service : Service) : Call :=
  .entry service.context plan.cache plan.key

/-- The format that the value of an entry is read in. -/
def format (plan : ReadPlan) (entry : Entry) : Except AccessError MediaType :=
  settle plan.negotiated plan.storage entry.value plan.request.accept?

/-- How the answer for a value is made up: the placement may be asked for, and
that may fail. -/
inductive Reply (plan : ReadPlan) (service : Service) (entry : Entry) (now : Instant)
    (media : MediaType) (value : Bytes) : List Exchange → Except AccessError Response → Prop
  | unplaced {failure : StoreError} :
    plan.Reply service entry now media value
      [⟨.distribution service.context plan.cache plan.key, .error failure⟩] (.error (.store failure))
  | complete {placed : List Exchange} {response : Response} :
    (∀ exchange ∈ placed, ∃ placement, exchange =
      ⟨.distribution service.context plan.cache plan.key, .ok placement⟩) →
    response.Freshened entry (evaluateRead entry plan.conditions now) now →
    plan.Reply service entry now media value placed
      (.ok (bodyFor plan.request.method (response.entity media value)))

/-- How the evaluation of a snapshot can go, with so many attempts left. -/
inductive Course (plan : ReadPlan) (service : Service) :
    Nat → Option Entry → List Exchange → Except AccessError Response → Prop
  | exhausted {snapshot : Option Entry} {detail : String} :
    plan.Course service 0 snapshot [] (.error (.store (.backend detail)))
  | absent {remaining : Nat} :
    plan.Course service (remaining + 1) none [] (.ok (.ofStatus .notFound))
  | refused {remaining : Nat} {entry : Entry} {now : Instant} {status : Status} :
    (evaluateRead entry plan.conditions now).verdict.status? = some status →
    plan.Course service (remaining + 1) (some entry) [] (.ok (.ofStatus status))
  | unsettled {remaining : Nat} {entry : Entry} {error : AccessError} :
    plan.format entry = .error error →
    plan.Course service (remaining + 1) (some entry) [] (.error error)
  | failed {remaining : Nat} {entry : Entry} {media : MediaType} {failure : StoreError} :
    plan.format entry = .ok media →
    plan.Course service (remaining + 1) (some entry) [⟨plan.fetch media, .error failure⟩]
      (.error (.store failure))
  | gone {remaining : Nat} {entry : Entry} {media : MediaType} :
    plan.format entry = .ok media →
    plan.Course service (remaining + 1) (some entry) [⟨plan.fetch media, .ok none⟩]
      (.ok (.ofStatus .notFound))
  | unconfirmed {remaining : Nat} {entry : Entry} {media : MediaType} {value : Bytes}
    {failure : StoreError} :
    plan.format entry = .ok media →
    plan.Course service (remaining + 1) (some entry)
      [⟨plan.fetch media, .ok (some value)⟩, ⟨plan.look service, .error failure⟩]
      (.error (.store failure))
  | served {remaining : Nat} {entry current : Entry} {now : Instant} {media : MediaType}
    {value : Bytes} {placed : List Exchange} {result : Except AccessError Response} :
    (evaluateRead entry plan.conditions now).verdict = .serve →
    plan.format entry = .ok media →
    EntityTag.of current.value = EntityTag.of entry.value →
    plan.Reply service entry now media value placed result →
    plan.Course service (remaining + 1) (some entry)
      (⟨plan.fetch media, .ok (some value)⟩ :: ⟨plan.look service, .ok (some current)⟩ :: placed)
      result
  | moved {remaining : Nat} {entry : Entry} {media : MediaType} {value : Bytes}
    {snapshot : Option Entry} {rest : List Exchange}
    {result : Except AccessError Response} :
    plan.format entry = .ok media →
    (∀ current, snapshot = some current →
      EntityTag.of current.value ≠ EntityTag.of entry.value) →
    plan.Course service remaining snapshot rest result →
    plan.Course service (remaining + 1) (some entry)
      (⟨plan.fetch media, .ok (some value)⟩ :: ⟨plan.look service, .ok snapshot⟩ :: rest) result

variable {plan : ReadPlan} {service : Service} {entry : Entry} {now : Instant}
  {media : MediaType} {value : Bytes} {exchanges : List Exchange}
  {result : Except AccessError Response}

/-- The last part of every answer: the body with its type. -/
theorem complete_of_entity {response : Response} {placed : List Exchange}
    (placing : ∀ exchange ∈ placed, ∃ placement, exchange =
      ⟨.distribution service.context plan.cache plan.key, .ok placement⟩)
    (fresh : response.Freshened entry (evaluateRead entry plan.conditions now) now)
    (run : (do
      let response ← Answering.setEntity response media value
      return bodyFor plan.request.method response : Answering Response).run.Yields
        exchanges result) :
    exchanges = [] ∧ plan.Reply service entry now media value placed result := by
  rcases Answering.yields_bind_iff.1 run with ⟨error, own, rfl⟩ | ⟨_, _, _, own, rest, rfl⟩
  · cases (Answering.yields_setEntity own).2
  obtain ⟨rfl, same⟩ := Answering.yields_setEntity own
  obtain rfl := Except.ok.inj same
  obtain ⟨rfl, rfl⟩ := Answering.yields_pure_iff.1 rest
  exact ⟨rfl, .complete placing fresh⟩

theorem respond_course
    (run : (plan.respond service entry (evaluateRead entry plan.conditions now) now media
      value).run.Yields exchanges result) :
    plan.Reply service entry now media value exchanges result := by
  unfold respond at run
  simp only at run
  split at run
  case isTrue =>
    rcases Answering.yields_ask_bind_iff.1 run with
      ⟨failure, rfl, rfl⟩ | ⟨placement, rest, rfl, placing⟩
    · exact .unplaced
    obtain ⟨placed, last, fresh⟩ := yields_withPlacement_bind freshened_freshnessResponse placing
    have asked : ∀ exchange ∈ [(⟨.distribution service.context plan.cache plan.key,
        .ok placement⟩ : Exchange)], ∃ placement, exchange =
          ⟨.distribution service.context plan.cache plan.key, .ok placement⟩ :=
      fun exchange member => ⟨placement, List.mem_singleton.1 member⟩
    obtain ⟨rfl, reply⟩ := complete_of_entity asked fresh last
    exact reply
  case isFalse =>
    have unasked : ∀ exchange ∈ ([] : List Exchange), ∃ placement, exchange =
        ⟨.distribution service.context plan.cache plan.key, .ok placement⟩ :=
      fun exchange member => (List.not_mem_nil member).elim
    obtain ⟨rfl, reply⟩ := complete_of_entity unasked freshened_freshnessResponse run
    exact reply

theorem attempt_course {number remaining : Nat} {snapshot : Option Entry}
    (run : (plan.attempt service number remaining snapshot).run.Yields exchanges result) :
    plan.Course service remaining snapshot exchanges result := by
  induction remaining generalizing number snapshot exchanges with
  | zero =>
    obtain ⟨rfl, rfl⟩ := Answering.yields_throw_iff.1 run
    exact .exhausted
  | succ remaining ih =>
    cases snapshot with
    | none =>
      obtain ⟨rfl, rfl⟩ := Answering.yields_pure_iff.1 run
      exact .absent
    | some entry =>
      unfold attempt at run
      obtain ⟨now, logged⟩ := Answering.yields_clock_bind_iff.1 run
      have judged := Answering.yields_log_bind_iff.1 logged
      clear run logged
      split at judged
      case h_1 status verdict =>
        obtain ⟨rfl, rfl⟩ := Answering.yields_pure_iff.1 judged
        exact .refused verdict
      case h_2 verdict =>
        rcases Answering.yields_ofExcept_bind_iff.1 judged with
          ⟨error, unsettled, rfl, rfl⟩ | ⟨media, settled, chosen⟩
        · exact .unsettled unsettled
        rcases Answering.yields_ask_bind_iff.1 chosen with
          ⟨failure, rfl, rfl⟩ | ⟨found, _, rfl, fetched⟩
        · exact .failed settled
        cases found with
        | none =>
          obtain ⟨rfl, rfl⟩ := Answering.yields_pure_iff.1 fetched
          exact .gone settled
        | some value =>
          rcases Service.yields_internalEntry_bind_iff.1 fetched with
            ⟨failure, rfl, rfl⟩ | ⟨snapshot, _, rfl, seen⟩
          · exact .unconfirmed settled
          split at seen
          case isTrue same =>
            cases snapshot with
            | none => cases same
            | some current =>
              exact .served (Verdict.eq_serve verdict) settled (of_decide_eq_true same)
                (respond_course seen)
          case isFalse differs =>
            refine .moved settled (fun current seen same => differs ?_)
              (ih (Answering.yields_log_bind_iff.1 seen))
            rw [seen]
            exact decide_eq_true same

/-! ## What a course tells -/

theorem Reply.not_mutates {placed : List Exchange}
    (course : plan.Reply service entry now media value placed result) :
    ∀ exchange ∈ placed, exchange.call.mutates = false := by
  intro exchange member
  cases course with
  | unplaced =>
    rw [List.mem_singleton.1 member]
    rfl
  | complete placing =>
    obtain ⟨placement, rfl⟩ := placing exchange member
    rfl

/-- A read never writes, removes or clears. -/
theorem Course.not_mutates {remaining : Nat} {snapshot : Option Entry}
    (course : plan.Course service remaining snapshot exchanges result) :
    ∀ exchange ∈ exchanges, exchange.call.mutates = false := by
  induction course with
  | exhausted | absent | refused | unsettled => simp
  | failed | gone | unconfirmed => simp [fetch, look, Call.mutates]
  | served _ _ _ response => simpa [fetch, look, Call.mutates] using response.not_mutates
  | moved _ _ _ ih => simpa [fetch, look, Call.mutates] using ih

/-- A read that is answered 200 ends with a value that was fetched, then an
entry whose tag is the one that the answer states. -/
theorem Course.served_of_ok {remaining : Nat} {snapshot : Option Entry}
    (course : plan.Course service remaining snapshot exchanges result)
    (found : (answerOf result).status = .ok) :
    ∃ response before media value current placed, result = .ok response ∧
      exchanges = before ++ ⟨plan.fetch media, .ok (some value)⟩ ::
        ⟨plan.look service, .ok (some current)⟩ :: placed ∧
      response.etag? = some (EntityTag.of current.value).text ∧
      response.body = (if plan.request.method = .head then [] else value) := by
  induction course with
  | exhausted => exact (AccessError.not_succeeds_response _ (Or.inl found)).elim
  | absent => cases found
  | refused verdict => exact (Verdict.not_succeeds verdict (Or.inl found)).elim
  | unsettled => exact (AccessError.not_succeeds_response _ (Or.inl found)).elim
  | failed => exact (AccessError.not_succeeds_response _ (Or.inl found)).elim
  | gone => cases found
  | unconfirmed => exact (AccessError.not_succeeds_response _ (Or.inl found)).elim
  | served _ _ same course =>
    cases course with
    | unplaced => exact (AccessError.not_succeeds_response _ (Or.inl found)).elim
    | complete _ fresh =>
      refine ⟨_, [], _, _, _, _, rfl, rfl, ?_, body_bodyFor_entity⟩
      rw [same]
      exact fresh.etag?_finished
  | moved _ _ _ ih =>
    obtain ⟨response, before, media, value, current, placed, answered, rfl, tagged, body⟩ :=
      ih found
    exact ⟨response, _ :: _ :: before, media, value, current, placed, answered, rfl, tagged, body⟩

/-- A read that does not fail is answered 200 or with a status alone, which refuses it. -/
theorem Course.ok_or_refused {remaining : Nat} {snapshot : Option Entry} {response : Response}
    (course : plan.Course service remaining snapshot exchanges result)
    (answered : result = .ok response) :
    response.status = .ok ∨ ∃ status : Status, ¬ status.Succeeds ∧ response = .ofStatus status := by
  have missing : ¬ Status.notFound.Succeeds := by decide
  induction course with
  | exhausted | unsettled | failed | unconfirmed => cases answered
  | absent | gone => exact Or.inr ⟨_, missing, (Except.ok.inj answered).symm⟩
  | refused verdict =>
    exact Or.inr ⟨_, Verdict.not_succeeds verdict, (Except.ok.inj answered).symm⟩
  | served _ _ _ reply =>
    cases reply with
    | unplaced => cases answered
    | complete _ fresh =>
      obtain rfl := Except.ok.inj answered
      exact Or.inl fresh.status_finished
  | moved _ _ _ ih => exact ih answered

end ReadPlan

/-! ## The whole read -/

/-- The plan of a read once key, settings and format are known. -/
def ReadPlan.of (request : Request) (cache : String) (key : Key)
    (configuration : CacheConfiguration) (negotiated : MediaType) : ReadPlan :=
  ⟨request, cache, key, configuration.conversion.storage, negotiated, .ofRequest request⟩

/-- How a read can go. -/
inductive Service.ReadCourse (service : Service) (request : Request) (cache raw : String) :
    List Exchange → Except AccessError Response → Prop
  | unkeyed {error : AccessError} :
    requestKey request raw = .error error → service.ReadCourse request cache raw [] (.error error)
  | unknown {key : Key} {failure : StoreError} :
    requestKey request raw = .ok key →
    service.ReadCourse request cache raw [⟨.configuration service.context cache, .error failure⟩]
      (.error (.store failure))
  | unacceptable {key : Key} {configuration : CacheConfiguration} {error : AccessError} :
    requestKey request raw = .ok key →
    negotiate request.accept? configuration.conversion = .error error →
    service.ReadCourse request cache raw
      [⟨.configuration service.context cache, .ok configuration⟩] (.error error)
  | unseen {key : Key} {configuration : CacheConfiguration} {negotiated : MediaType}
    {failure : StoreError} :
    requestKey request raw = .ok key →
    negotiate request.accept? configuration.conversion = .ok negotiated →
    service.ReadCourse request cache raw
      [⟨.configuration service.context cache, .ok configuration⟩,
        ⟨.entry service.context cache key, .error failure⟩]
      (.error (.store failure))
  | evaluated {key : Key} {configuration : CacheConfiguration} {negotiated : MediaType}
    {snapshot : Option Entry} {rest : List Exchange} {result : Except AccessError Response} :
    requestKey request raw = .ok key →
    negotiate request.accept? configuration.conversion = .ok negotiated →
    (ReadPlan.of request cache key configuration negotiated).Course service readAttempts snapshot
      rest result →
    service.ReadCourse request cache raw
      (⟨.configuration service.context cache, .ok configuration⟩ ::
        ⟨.entry service.context cache key, .ok snapshot⟩ :: rest)
      result

theorem Service.read_course {service : Service} {request : Request} {cache raw : String}
    {exchanges : List Exchange} {result : Except AccessError Response}
    (run : (service.read request cache raw).run.Yields exchanges result) :
    service.ReadCourse request cache raw exchanges result := by
  rcases Answering.yields_ofExcept_bind_iff.1 run with
    ⟨error, unkeyed, rfl, rfl⟩ | ⟨key, keyed, known⟩
  · exact .unkeyed unkeyed
  rcases Answering.yields_ask_bind_iff.1 known with
    ⟨failure, rfl, rfl⟩ | ⟨configuration, _, rfl, chosen⟩
  · exact .unknown keyed
  rcases Answering.yields_ofExcept_bind_iff.1 chosen with
    ⟨error, unacceptable, rfl, rfl⟩ | ⟨negotiated, acceptable, seen⟩
  · exact .unacceptable keyed unacceptable
  rcases Service.yields_internalEntry_bind_iff.1 seen with
    ⟨failure, rfl, rfl⟩ | ⟨snapshot, _, rfl, evaluated⟩
  · exact .unseen keyed acceptable
  exact .evaluated keyed acceptable (ReadPlan.attempt_course evaluated)

theorem Service.ReadCourse.ok_or_refused {service : Service} {request : Request}
    {cache raw : String} {exchanges : List Exchange} {response : Response}
    (course : service.ReadCourse request cache raw exchanges (.ok response)) :
    response.status = .ok ∨ ∃ status : Status, ¬ status.Succeeds ∧ response = .ofStatus status := by
  cases course with
  | evaluated _ _ course => exact course.ok_or_refused rfl

end CacheGate
