import CacheGate.Proofs.Handler.Counting
import CacheGate.Proofs.Http.Response
import CacheGate.Proofs.Serve.Reading
import CacheGate.Serve.Dispatch

/-!
# Metrics of requests

Every request is counted once, as the last thing that happens to it
(`Service.counts_dispatch`): the handlers record nothing but the time of a
listing that is answered. A failure is labelled by its kind and an answer by
its status; statuses under 400 that have no label of their own fall to the last
one, so `server_error` does not always mean a server error
(`labels_statusOutcome`). Only searches are answered with such a status
(`Service.counts_perform`).
-/

namespace CacheGate

open Http

/-! ## Labels -/

/-- The labels that blame the server. -/
def serverFailureLabels : List String :=
  ["server_error", "store_failure", "worker_pool", "not_implemented"]

/-- A status that is no error and has no outcome label of its own. -/
def Http.Status.Unlabelled (status : Status) : Prop :=
  status.code < 400 ∧ status ≠ .ok ∧ status ≠ .created ∧ status ≠ .notModified

instance (status : Status) : Decidable status.Unlabelled := inferInstanceAs (Decidable (_ ∧ _))

/-- What an outcome label tells about the status of the answer. -/
structure Labels (outcome : String) (status : Status) : Prop where
  ok_iff : outcome = "ok" ↔ status = .ok ∨ status = .created
  failure_iff : outcome ∈ serverFailureLabels ↔ 500 ≤ status.code ∨ status.Unlabelled

instance (outcome : String) (status : Status) : Decidable (Labels outcome status) :=
  decidable_of_iff (_ ∧ _) ⟨fun both => ⟨both.1, both.2⟩, fun labels => ⟨labels.1, labels.2⟩⟩

/-- The statuses that have an outcome label of their own. -/
def labelledStatuses : List Status :=
  [.ok, .created, .notModified, .notFound, .conflict, .preconditionFailed, .methodNotAllowed,
    .notImplemented]

/-- Any other status is only looked at for whether it blames the client. -/
theorem statusOutcome_of_not_mem {status : Status} (unlisted : status ∉ labelledStatuses) :
    statusOutcome status = if status.isClientError then "client_error" else "server_error" := by
  simp only [labelledStatuses, List.mem_cons, List.not_mem_nil, or_false, not_or] at unlisted
  unfold statusOutcome
  simp [unlisted]

theorem labels_statusOutcome (status : Status) : Labels (statusOutcome status) status := by
  by_cases listed : status ∈ labelledStatuses
  · have table : ∀ status ∈ labelledStatuses, Labels (statusOutcome status) status := by decide
    exact table status listed
  · rw [statusOutcome_of_not_mem listed]
    simp only [labelledStatuses, List.mem_cons, List.not_mem_nil, or_false, not_or] at listed
    obtain ⟨notOk, notCreated, notNotModified, -⟩ := listed
    have unserved : ¬ (status = .ok ∨ status = .created) := not_or.2 ⟨notOk, notCreated⟩
    unfold Status.isClientError
    split
    case isTrue client =>
      simp only [Bool.and_eq_true, decide_eq_true_eq] at client
      refine ⟨iff_of_false (by decide) unserved, iff_of_false (by decide) ?_⟩
      intro blamed
      rcases blamed with server | ⟨early, -⟩
      · omega
      · omega
    case isFalse other =>
      simp only [Bool.and_eq_true, decide_eq_true_eq, not_and, Nat.not_lt] at other
      refine ⟨iff_of_false (by decide) unserved, iff_of_true (by decide) ?_⟩
      by_cases early : status.code < 400
      · exact Or.inr ⟨early, notOk, notCreated, notNotModified⟩
      · exact Or.inl (other (Nat.le_of_not_lt early))

theorem AccessError.status_response (error : AccessError) :
    error.response.status = error.status := by
  unfold response
  dsimp only
  rw [Response.diagnostic_status]
  rfl

/-- The label of a failure fits its status. -/
theorem AccessError.labels_outcome (error : AccessError) : Labels error.outcome error.status := by
  cases error with
  | noKey => exact (by decide : Labels "no_key" .badRequest)
  | noBody => exact (by decide : Labels "no_body" .badRequest)
  | invalidHeader => exact (by decide : Labels "invalid_header" .badRequest)
  | unacceptableFormat => exact (by decide : Labels "unacceptable" .notAcceptable)
  | unsupportedContentType =>
    exact (by decide : Labels "unsupported_content_type" .unsupportedMediaType)
  | unsupportedCharset => exact (by decide : Labels "unsupported_charset" .notAcceptable)
  | unknownAction => exact (by decide : Labels "unknown_action" .badRequest)
  | store failure =>
    cases failure with
    | unknownCache => exact (by decide : Labels "unknown_cache" .notFound)
    | encoding => exact (by decide : Labels "encoding" .notAcceptable)
    | backend => exact (by decide : Labels "store_failure" .internalServerError)
  | workerPool => exact (by decide : Labels "worker_pool" .internalServerError)

theorem labels_outcomeOf (result : Except AccessError Response) :
    Labels (outcomeOf result) (answerOf result).status := by
  cases result with
  | ok response => exact labels_statusOutcome response.status
  | error error =>
    change Labels error.outcome error.response.status
    rw [error.status_response]
    exact error.labels_outcome

/-! ## What the handlers answer -/

/-- The answer has a status with an outcome label of its own. -/
def Http.Response.Labelled (response : Response) : Prop := response.status ∈ labelledStatuses

theorem Http.Response.Labelled.not_unlabelled {response : Response} (labelled : response.Labelled) :
    ¬ response.status.Unlabelled := by
  have table : ∀ status ∈ labelledStatuses, ¬ status.Unlabelled := by decide
  exact table response.status labelled

theorem Http.Response.Labelled.of_status {response : Response} {status : Status}
    (same : response.status = status) (listed : status ∈ labelledStatuses) : response.Labelled := by
  unfold Labelled
  rw [same]
  exact listed

/-- A search handler that answers only with statuses that have a label. -/
def QueryHandler.AnswersLabelled (queries : QueryHandler) : Prop :=
  ∀ cache request response, queries cache request = .ok response → response.Labelled

theorem QueryHandler.answersLabelled_unsupported : unsupported.AnswersLabelled := by
  intro cache request response answered
  obtain rfl := Except.ok.inj answered
  exact .of_status Response.diagnostic_status (by decide)

/-- A verdict that ends a request has a label. -/
theorem Verdict.labelled_of_status? {verdict : Verdict} {status : Status}
    (ended : verdict.status? = some status) : (Response.ofStatus status).Labelled := by
  change status ∈ labelledStatuses
  cases verdict <;> cases ended <;> decide

/-- A failure is an error by its status. -/
theorem AccessError.not_unlabelled_response (error : AccessError) :
    ¬ error.response.status.Unlabelled := by
  rw [error.status_response]
  unfold status
  split <;> decide

theorem RouteError.not_unlabelled_response (error : RouteError) :
    ¬ error.response.status.Unlabelled := by
  cases error with
  | notFound => exact Response.Labelled.not_unlabelled (by decide : Status.notFound ∈ labelledStatuses)
  | methodNotAllowed allowed =>
    exact Response.Labelled.not_unlabelled <|
      .of_status Response.setHeader_status (by decide : Status.methodNotAllowed ∈ labelledStatuses)
  | noKey => exact AccessError.noKey.not_unlabelled_response
  | unknownAction action => exact (AccessError.unknownAction action).not_unlabelled_response

namespace Answering

/-- Headers do not change the status. -/
theorem Gives.setHeader (response : Response) (name value : String) :
    Gives (setHeader response name value) fun given => given.status = response.status := by
  unfold Answering.setHeader
  split
  · exact .pure Response.setHeader_status
  · exact .bind (.log _) fun _ _ => .pure Response.setHeader_status

theorem Gives.setEntity (response : Response) (media : MediaType) (body : Bytes) :
    Gives (setEntity response media body) fun given => given.status = response.status :=
  .bind (.setHeader ..) fun _ same => .pure same

end Answering

open Answering

theorem gives_withPlacement (response : Response) (placement : Distribution) :
    Gives (withPlacement response placement) fun given => given.status = response.status :=
  .bind (.setHeader ..) fun _ first =>
    .bind (.setHeader ..) fun _ second =>
      .mono (.setHeader ..) fun _ third => third.trans (second.trans first)

theorem bodyFor_status {method : Method} {response : Response} :
    (bodyFor method response).status = response.status := by
  unfold bodyFor
  split <;> rfl

theorem Service.gives_internalEntry {service : Service} {cache : String} (key : Key) :
    Gives (service.internalEntry cache key) fun _ => True :=
  .bind (.log _) fun _ _ => .ask _

namespace ReadPlan

variable {plan : ReadPlan} {service : Service}

theorem gives_respond (entry : Entry) (evaluation : ReadEvaluation) (now : Time.Instant)
    (media : MediaType) (value : Bytes) :
    Gives (plan.respond service entry evaluation now media value) Response.Labelled := by
  have complete (response : Response) (served : response.status = .ok) :
      Gives (do
        let response ← Answering.setEntity response media value
        return bodyFor plan.request.method response) Response.Labelled := by
    refine .bind (.setEntity ..) fun full same => .pure ?_
    exact .of_status (bodyFor_status.trans (same.trans served)) (by decide)
  unfold respond
  dsimp only
  split
  · refine .bind (.ask _) fun placement _ => .bind (gives_withPlacement ..) fun placed same => ?_
    exact complete placed (same.trans freshnessResponse_status)
  · exact complete _ freshnessResponse_status

/-- However often a read is evaluated, it records nothing and its answer has a label. -/
theorem gives_attempt (number remaining : Nat) (snapshot : Option Entry) :
    Gives (plan.attempt service number remaining snapshot) Response.Labelled := by
  have absent : (Response.ofStatus .notFound).Labelled := .of_status rfl (by decide)
  induction remaining generalizing number snapshot with
  | zero => exact .throw _
  | succ remaining ih =>
    cases snapshot with
    | none => exact .pure absent
    | some entry =>
      unfold attempt
      refine .bind .clock fun now _ => .bind (.log _) fun _ _ => ?_
      cases ended : (evaluateRead entry plan.conditions now).verdict.status? with
      | some status => exact .pure (Verdict.labelled_of_status? ended)
      | none =>
        refine .bind (.given _) fun media _ => .bind (.ask _) fun found _ => ?_
        cases found with
        | none => exact .pure absent
        | some value =>
          refine .bind (Service.gives_internalEntry _) fun seen _ => ?_
          split
          · exact gives_respond ..
          · exact .bind (.log _) fun _ _ => ih (number + 1) seen

end ReadPlan

namespace Service

variable {service : Service} {request : Request} {cache raw : String} {pool : WorkerPool}

theorem gives_read : Gives (service.read request cache raw) Response.Labelled :=
  .bind (.given _) fun _ _ => .bind (.ask _) fun _ _ => .bind (.given _) fun _ _ =>
    .bind (gives_internalEntry _) fun _ _ => ReadPlan.gives_attempt ..

theorem gives_store (replacing : Bool) (added : NewEntry) :
    Gives (Service.store request cache replacing added) Response.Labelled := by
  refine .bind (.ask _) fun _ _ => .pure (.of_status Response.setHeader_status ?_)
  cases replacing <;> decide

theorem gives_write : Gives (service.write request cache raw) Response.Labelled := by
  refine .bind (.given _) fun key _ => .bind (.given _) fun body _ => .bind (.ask _)
    fun configuration _ => .bind (.given _) fun media _ => .bind (.given _) fun metadata _ =>
      .bind (gives_internalEntry _) fun existing _ => .bind (.log _) fun _ _ => ?_
  split
  · exact .pure (.of_status Response.diagnostic_status (by decide))
  case h_2 status ended _ => exact .pure (Verdict.labelled_of_status? ended)
  case h_3 => exact gives_store _ _

theorem gives_delete : Gives (service.delete request cache raw) Response.Labelled := by
  refine .bind (.given _) fun key _ => .bind (gives_internalEntry _) fun existing _ =>
    .bind (.log _) fun _ _ => ?_
  cases ended : (evaluateDelete existing (.ofRequest request)).status? with
  | some status => exact .pure (Verdict.labelled_of_status? ended)
  | none =>
    refine .bind (.ask _) fun removed _ => .pure (.of_status rfl ?_)
    cases removed <;> decide

theorem gives_clear : Gives (Service.clear request cache) Response.Labelled :=
  .bind (.ask _) fun _ _ => .pure (.of_status rfl (by decide))

/-! ## Listings -/

/-- What is recorded in front of the count of a request. -/
def Timed (metrics : List Metric) : Prop := metrics = [] ∨ metrics = [.listingTime]

/-- A listing records its time at most once, when there is one. -/
theorem counts_keys :
    (service.keys request cache pool).run.Counts fun metrics result =>
      Timed metrics ∧ ∀ response, result = .ok response → response.Labelled := by
  have failed (error : AccessError) : Timed [] ∧
      ∀ response, Except.error error = .ok response → Response.Labelled response :=
    ⟨Or.inl rfl, fun _ different => nomatch different⟩
  refine Gives.counts_bind (.ask _) failed fun configuration _ => ?_
  refine Gives.counts_bind (.given _) failed fun negotiated _ => ?_
  refine Gives.counts_bind (.ask _) failed fun keys _ => ?_
  refine Gives.counts_bind (.given _) failed fun _ _ => ?_
  refine Gives.counts_bind (.log _) failed fun _ _ => ?_
  refine Gives.counts_bind (.given _) failed fun body _ => ?_
  refine ⟨Or.inr rfl, fun response same => ?_⟩
  cases same
  exact .of_status (Response.setHeader_status.trans Response.setHeader_status) (by decide)

/-! ## Dispatching -/

/-- The operation that a request is counted under. -/
def operationLabel (request : Request) : String :=
  match Route.resolve request.method request.path request.action? with
  | .ok route => route.operation.label
  | .error _ => unroutedLabel

/-- The answer is the one that the search handler gave to a search. -/
def SearchAnswers (service : Service) (request : Request) (response : Response) : Prop :=
  ∃ route, Route.resolve request.method request.path request.action? = .ok route ∧
    route.operation = .search ∧ service.queries route.cache request = .ok response

/-- Every handler of this library answers with a label; only a search goes elsewhere. -/
theorem counts_perform (operation : Operation) :
    (service.perform request operation cache raw pool).run.Counts fun metrics result =>
      Timed metrics ∧ ∀ response, result = .ok response →
        response.Labelled ∨ operation = .search ∧ service.queries cache request = .ok response := by
  have untimed {step : Answering Response} (gives : Gives step Response.Labelled) :
      step.run.Counts fun metrics result => Timed metrics ∧ ∀ response, result = .ok response →
        response.Labelled ∨
          operation = .search ∧ service.queries cache request = .ok response :=
    Handler.Counts.mono gives fun _ _ given =>
      ⟨Or.inl given.1, fun response same => Or.inl (given.2 response same)⟩
  cases operation with
  | read => exact untimed gives_read
  | write => exact untimed gives_write
  | delete => exact untimed gives_delete
  | clear => exact untimed gives_clear
  | keys => exact counts_keys.mono fun _ _ given =>
      ⟨given.1, fun response same => Or.inl (given.2 response same)⟩
  | search => exact ⟨Or.inl rfl, fun _ same => Or.inr ⟨rfl, same⟩⟩

/-- A request is counted once, when everything else has been recorded, and with
a label that fits the answer. -/
theorem counts_dispatch (service : Service) (request : Request) (pool : WorkerPool) :
    (service.dispatch request pool).Counts fun metrics response =>
      ∃ before outcome, Timed before ∧
        metrics = before ++ [.request (operationLabel request) outcome] ∧
        Labels outcome response.status ∧
        (response.status.Unlabelled → service.SearchAnswers request response) := by
  unfold dispatch operationLabel SearchAnswers
  cases Route.resolve request.method request.path request.action? with
  | error error =>
    refine ⟨[], _, Or.inl rfl, rfl, labels_statusOutcome _, fun unlabelled => ?_⟩
    exact absurd unlabelled error.not_unlabelled_response
  | ok route =>
    refine Handler.Counts.bind (counts_perform route.operation) fun before result given => ?_
    obtain ⟨timed, answers⟩ := given
    refine ⟨before, _, timed, rfl, labels_outcomeOf result, fun unlabelled => ?_⟩
    cases result with
    | error error => exact absurd unlabelled error.not_unlabelled_response
    | ok response =>
      rcases answers response rfl with labelled | ⟨search, answered⟩
      · exact absurd unlabelled labelled.not_unlabelled
      · exact ⟨route, rfl, search, answered⟩

/-- With search handlers whose answers have labels, a label tells the truth: it
blames the server just when the status does. -/
theorem counts_dispatch_of_answersLabelled (labelled : service.queries.AnswersLabelled)
    (request : Request) (pool : WorkerPool) :
    (service.dispatch request pool).Counts fun metrics response =>
      ∃ before outcome, metrics = before ++ [.request (operationLabel request) outcome] ∧
        (outcome ∈ serverFailureLabels ↔ 500 ≤ response.status.code) := by
  refine (counts_dispatch service request pool).mono fun metrics response counted => ?_
  obtain ⟨before, outcome, -, same, labels, searched⟩ := counted
  have known : ¬ response.status.Unlabelled := by
    intro unlabelled
    obtain ⟨route, -, -, answered⟩ := searched unlabelled
    exact (labelled _ _ _ answered).not_unlabelled unlabelled
  exact ⟨before, outcome, same, labels.failure_iff.trans (or_iff_left known)⟩

/-- The label of a request blames the server just when the status of the answer
does, or when the search handler answers with a status that is no error and has
no label of its own.

Whatever the store and the search handler do, a request is counted exactly once,
behind the time of a listing if one was recorded, under its operation, and as
`ok` just when it is answered 200 or 201. -/
theorem server_failures_are_counted_iff (service : Service) (request : Request)
    (pool : WorkerPool) {σ : Type} (backend : Handler.Backend σ) (state : σ) :
    ∃ before outcome,
      ((service.dispatch request pool).run backend state).metrics =
        before ++ [.request (operationLabel request) outcome] ∧
      (before = [] ∨ before = [.listingTime]) ∧
      (outcome = "ok" ↔
        ((service.dispatch request pool).run backend state).value.status = .ok ∨
        ((service.dispatch request pool).run backend state).value.status = .created) ∧
      (outcome ∈ serverFailureLabels ↔
        500 ≤ ((service.dispatch request pool).run backend state).value.status.code ∨
        service.SearchAnswers request ((service.dispatch request pool).run backend state).value ∧
          ((service.dispatch request pool).run backend state).value.status.Unlabelled) := by
  obtain ⟨before, outcome, timed, counted, labels, searched⟩ :=
    (counts_dispatch service request pool).run backend state
  refine ⟨before, outcome, counted, timed, labels.ok_iff, labels.failure_iff.trans ?_⟩
  refine or_congr_right ?_
  constructor
  · intro unlabelled
    exact ⟨searched unlabelled, unlabelled⟩
  · intro both
    exact both.2

/-- A service whose searches have nothing to say, and are answered 204. -/
def contentless : Service := ⟨.service, 1, .never, fun _ _ => .ok (.ofStatus ⟨204⟩)⟩

/-- A search on that service, in front of a store that is down. -/
def contentlessSearch : Handler.Ran Unit Response :=
  (contentless.dispatch { Request.of .get "c" with query := [("action", "search")] } .working).run
    ⟨fun _ => .epoch, fun _ state => (.error (.backend "down"), state, [])⟩ ()

/-- It is no error, and is counted as a failure of the server. -/
theorem contentless_search_blames_server :
    contentlessSearch.value.status = ⟨204⟩ ∧
      ∃ before outcome, contentlessSearch.metrics = before ++ [.request "search" outcome] ∧
        outcome ∈ serverFailureLabels := by
  have unlabelled : contentlessSearch.value.status.Unlabelled := by decide
  obtain ⟨before, outcome, counted, -, -, blames⟩ :=
    server_failures_are_counted_iff contentless
      { Request.of .get "c" with query := [("action", "search")] } .working
      ⟨fun _ => .epoch, fun _ state => (.error (.backend "down"), state, [])⟩ ()
  exact ⟨rfl, before, outcome, counted,
    blames.2 (Or.inr ⟨⟨⟨.search, "c", none⟩, rfl, rfl, rfl⟩, unlabelled⟩)⟩

end Service

end CacheGate
