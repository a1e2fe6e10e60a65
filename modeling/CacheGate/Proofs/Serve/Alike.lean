import CacheGate.Proofs.Handler.Lockstep
import CacheGate.Proofs.Serve.Reading

/-!
# Requests that are handled alike

`Http.Request.Alike` relates two requests that differ at most in their
methods, in paths and in how they declare their keys. The handlers are walked
through here once for two such requests, side by side; what a request depends
on is then a choice of the relation of keys.

* `Service.read_lockstep`: reads by different methods are answered alike but
  for the body.
* `Service.dispatch_lockstep`: requests with one method and path are answered
  alike, and counted alike.
-/

namespace CacheGate

open Time Http

/-! ## Requests -/

/-- Two requests that say the same, up to their methods and paths and up to
the keys that they address, which are related. -/
structure Http.Request.Alike (keys : Key → Key → Prop) (left right : Request) : Prop where
  query : left.query = right.query
  body : left.body = right.body
  subject : left.subject = right.subject
  header? (name : String) : Text.lowered name ≠ Text.lowered Field.keyContentType →
    left.header? name = right.header? name
  key (raw : String) :
    Corresponds AccessError.Alike keys (requestKey left raw) (requestKey right raw)

/-- Two services that differ at most in their workers and in the handlers of searches. -/
structure Service.Alike (left right : Service) : Prop where
  context : left.context = right.context
  extendedHeaders : left.extendedHeaders = right.extendedHeaders

variable {keys : Key → Key → Prop}

namespace Http.Request.Alike

variable {left right : Request}

theorem param?_eq (alike : left.Alike keys right) (name : String) :
    left.param? name = right.param? name := by
  unfold param?
  rw [alike.query]

theorem accept?_eq (alike : left.Alike keys right) : left.accept? = right.accept? :=
  alike.header? Field.accept (by decide)

theorem conditions_eq (alike : left.Alike keys right) :
    Conditions.ofRequest left = .ofRequest right := by
  unfold Conditions.ofRequest
  simp (disch := decide) only [alike.header?]

theorem writtenBody_eq (alike : left.Alike keys right) : writtenBody left = writtenBody right := by
  unfold writtenBody
  rw [alike.body]

theorem writtenType_eq (alike : left.Alike keys right) (conversion : ValueConversion) :
    writtenType left conversion = writtenType right conversion := by
  unfold writtenType contentType mediaType?
  rw [alike.header? Field.contentType (by decide)]

theorem resolveMetadata_eq (alike : left.Alike keys right) (configuration : CacheConfiguration) :
    resolveMetadata left configuration = resolveMetadata right configuration := by
  unfold resolveMetadata
  rw [alike.header? Field.timeToLive (by decide), alike.header? Field.maxIdle (by decide)]

theorem showsPlacement_eq {service other : Service} (services : service.Alike other)
    (alike : left.Alike keys right) :
    service.showsPlacement left = other.showsPlacement right := by
  unfold Service.showsPlacement extended?
  rw [services.extendedHeaders, alike.param?_eq]

end Http.Request.Alike

/-! ## Internal reads -/

namespace Service.Alike

variable {service other : Service} {cache : String} {key related : Key}

theorem configuration_lockstep (services : service.Alike other) :
    Answering.Lockstep keys Eq (service.configuration cache) (other.configuration cache) := by
  unfold configuration
  rw [services.context]
  exact .ask .configuration

theorem internalEntry_lockstep (services : service.Alike other) (same : keys key related) :
    Answering.Lockstep keys Eq (service.internalEntry cache key)
      (other.internalEntry cache related) := by
  unfold internalEntry
  rw [services.context]
  exact .bind_eq (.log _ _) fun _ => .ask (.entry same)

theorem distribution_lockstep (services : service.Alike other) (same : keys key related) :
    Answering.Lockstep keys Eq (service.distribution cache key)
      (other.distribution cache related) := by
  unfold distribution
  rw [services.context]
  exact .ask (.distribution same)

end Service.Alike

/-! ## Reading -/

/-- Two answers that are one answer, with or without its body as the methods want it. -/
def Renders (method other : Method) (left right : Response) : Prop :=
  ∃ full : Response, full.headers.get? Field.contentLength = none ∧
    (full.status ≠ .ok → full.body = []) ∧
    left = bodyFor method full ∧ right = bodyFor other full

namespace Renders

variable {method other : Method} {left right : Response}

/-- An answer without a body is the same for all methods. -/
theorem ofStatus (status : Status) : Renders method other (.ofStatus status) (.ofStatus status) := by
  have bodiless (method : Method) : Response.ofStatus status = bodyFor method (.ofStatus status) := by
    unfold bodyFor
    split <;> rfl
  exact ⟨.ofStatus status, rfl, fun _ => rfl, bodiless method, bodiless other⟩

theorem eq (renders : Renders method method left right) : left = right := by
  obtain ⟨full, -, -, rfl, rfl⟩ := renders
  rfl

end Renders

section Parts

variable {response : Response} {name value : String}

theorem setHeader_lockstep (response : Response) (name value : String) :
    Answering.Lockstep keys (Both (response.setHeader name value))
      (Answering.setHeader response name value) (Answering.setHeader response name value) := by
  unfold Answering.setHeader
  split
  · exact .pure ⟨rfl, rfl⟩
  · exact .bind_eq (.log _ _) fun _ => .pure ⟨rfl, rfl⟩

theorem setEntity_lockstep (response : Response) (media : MediaType) (body : Bytes) :
    Answering.Lockstep keys (Both (response.entity media body))
      (Answering.setEntity response media body) (Answering.setEntity response media body) :=
  .bind_both (setHeader_lockstep ..) (.pure ⟨rfl, rfl⟩)

/-- Placement is added in the same way, and leaves the other headers as they are. -/
theorem withPlacement_lockstep {entry : Entry} {evaluation : ReadEvaluation} {now : Instant}
    (fresh : response.Freshened entry evaluation now) (placement : Distribution) :
    Answering.Lockstep keys
      (fun left right => left = right ∧ left.Freshened entry evaluation now)
      (withPlacement response placement) (withPlacement response placement) := by
  have placed : Answering.Lockstep keys (Both _) (withPlacement response placement)
      (withPlacement response placement) :=
    .bind_both (setHeader_lockstep ..) (.bind_both (setHeader_lockstep ..) (setHeader_lockstep ..))
  refine placed.mono fun _ _ corresponds => corresponds.mono fun left right same => ?_
  obtain ⟨rfl, rfl⟩ := same
  exact ⟨rfl, ((fresh.setHeader (by simp [placementFields])).setHeader
    (by simp [placementFields])).setHeader (by simp [placementFields])⟩

end Parts

/-- No snapshot decides how long the answer is. -/
theorem freshnessResponse_contentLength? {entry : Entry} {evaluation : ReadEvaluation}
    {now : Instant} :
    (freshnessResponse entry evaluation now).headers.get? Field.contentLength = none := by
  unfold freshnessResponse
  simp (disch := decide) only [Response.get?_setHeader_of_ne, get?_setHeader?_of_ne]
  rfl

/-- Two plans of reads that are alike. -/
structure ReadPlan.Alike (keys : Key → Key → Prop) (plan other : ReadPlan) : Prop where
  request : plan.request.Alike keys other.request
  cache : plan.cache = other.cache
  key : keys plan.key other.key
  storage : plan.storage = other.storage
  negotiated : plan.negotiated = other.negotiated
  conditions : plan.conditions = other.conditions

namespace ReadPlan

variable {plan other : ReadPlan} {service related : Service}

/-- The last part of every answer: the body with its type. -/
theorem complete_lockstep {response : Response} {entry : Entry} {evaluation : ReadEvaluation}
    {now : Instant} {method reply : Method} (fresh : response.Freshened entry evaluation now)
    (media : MediaType) (value : Bytes) :
    Answering.Lockstep keys (Renders method reply)
      (do
        let response ← Answering.setEntity response media value
        return bodyFor method response)
      (do
        let response ← Answering.setEntity response media value
        return bodyFor reply response) := by
  refine .bind_both (setEntity_lockstep ..) (.pure ⟨response.entity media value, ?_, ?_, rfl, rfl⟩)
  · have unmeasured : (bodyFor .get (response.entity media value)).headers.get?
        Field.contentLength = _ := fresh.header_finished (by decide) (by decide)
    exact unmeasured.trans freshnessResponse_contentLength?
  · exact fun refused => (refused (Response.setHeader_status.trans fresh.status)).elim

theorem respond_lockstep (services : service.Alike related) (plans : plan.Alike keys other)
    (entry : Entry) (evaluation : ReadEvaluation) (now : Instant) (media : MediaType)
    (value : Bytes) :
    Answering.Lockstep keys (Renders plan.request.method other.request.method)
      (plan.respond service entry evaluation now media value)
      (other.respond related entry evaluation now media value) := by
  unfold respond
  simp only [plans.request.showsPlacement_eq services, plans.cache]
  split
  · refine .bind_eq (services.distribution_lockstep plans.key) fun placement => ?_
    refine .bind (withPlacement_lockstep freshened_freshnessResponse placement)
      fun response _ same => ?_
    obtain ⟨rfl, fresh⟩ := same
    exact complete_lockstep fresh media value
  · exact complete_lockstep freshened_freshnessResponse media value

/-- The evaluations of a snapshot go alike, attempt by attempt. -/
theorem attempt_lockstep (services : service.Alike related) (plans : plan.Alike keys other)
    (number remaining : Nat) (snapshot : Option Entry) :
    Answering.Lockstep keys (Renders plan.request.method other.request.method)
      (plan.attempt service number remaining snapshot)
      (other.attempt related number remaining snapshot) := by
  -- for every snapshot: an attempt that fails goes on with what it has seen last
  induction remaining generalizing number snapshot with
  | zero => exact .throw rfl
  | succ remaining ih =>
    cases snapshot with
    | none => exact .pure (.ofStatus _)
    | some entry =>
      unfold attempt
      rw [← plans.request.accept?_eq, ← plans.request.subject, ← plans.cache, ← plans.storage,
        ← plans.negotiated, ← plans.conditions]
      refine .bind_eq .clock fun now => .bind_eq (.log _ _) fun _ => ?_
      cases (evaluateRead entry plan.conditions now).verdict.status? with
      | some status => exact .pure (.ofStatus status)
      | none =>
        refine .bind_eq (.ofExcept_refl _) fun media => ?_
        refine .bind_eq (.ask (.get plans.key)) fun found => ?_
        cases found with
        | none => exact .pure (.ofStatus _)
        | some value =>
          refine .bind_eq (services.internalEntry_lockstep plans.key) fun seen => ?_
          split
          · exact respond_lockstep services plans entry _ now media value
          · exact .bind_eq (.log _ _) fun _ => ih (number + 1) seen

end ReadPlan

namespace Service

variable {service other : Service} {left right : Request} {cache raw : String}

/-- Reads by whatever methods are answered alike but for the body. -/
theorem read_lockstep (services : service.Alike other) (alike : left.Alike keys right) :
    Answering.Lockstep keys (Renders left.method right.method) (service.read left cache raw)
      (other.read right cache raw) := by
  refine .bind (.ofExcept (alike.key raw)) fun key related same => ?_
  refine .bind_eq services.configuration_lockstep fun configuration => ?_
  rw [alike.accept?_eq]
  refine .bind_eq (.ofExcept_refl _) fun negotiated => ?_
  refine .bind_eq (services.internalEntry_lockstep same) fun snapshot => ?_
  have plans : (ReadPlan.of left cache key configuration negotiated).Alike keys
      (.of right cache related configuration negotiated) :=
    ⟨alike, rfl, same, rfl, rfl, alike.conditions_eq⟩
  exact ReadPlan.attempt_lockstep services plans 1 readAttempts snapshot

/-! ## Changing -/

theorem store_lockstep {key related : Key} {value : Bytes} {mediaType : MediaType}
    {metadata : EntryMetadata} (alike : left.Alike keys right) (same : keys key related)
    (replacing : Bool) :
    Answering.Lockstep keys Eq
      (Service.store left cache replacing ⟨key, value, mediaType, metadata⟩)
      (Service.store right cache replacing ⟨related, value, mediaType, metadata⟩) := by
  unfold Service.store
  rw [alike.subject]
  exact .bind (.ask (.put same)) fun _ _ _ => .pure rfl

theorem write_lockstep (services : service.Alike other) (alike : left.Alike keys right)
    (methods : left.method = right.method) :
    Answering.Lockstep keys Eq (service.write left cache raw) (other.write right cache raw) := by
  refine .bind (.ofExcept (alike.key raw)) fun key related same => ?_
  rw [alike.writtenBody_eq]
  refine .bind_eq (.ofExcept_refl _) fun body => ?_
  refine .bind_eq services.configuration_lockstep fun configuration => ?_
  rw [alike.writtenType_eq]
  refine .bind_eq (.ofExcept_refl _) fun media => ?_
  rw [alike.resolveMetadata_eq]
  refine .bind_eq (.ofExcept_refl _) fun metadata => ?_
  refine .bind_eq (services.internalEntry_lockstep same) fun existing => ?_
  rw [alike.conditions_eq, methods]
  refine .bind_eq (.log _ _) fun _ => ?_
  split
  · exact .pure rfl
  · exact .pure rfl
  · exact store_lockstep alike same _

theorem delete_lockstep (services : service.Alike other) (alike : left.Alike keys right) :
    Answering.Lockstep keys Eq (service.delete left cache raw) (other.delete right cache raw) := by
  refine .bind (.ofExcept (alike.key raw)) fun key related same => ?_
  refine .bind_eq (services.internalEntry_lockstep same) fun existing => ?_
  rw [alike.conditions_eq, alike.subject]
  refine .bind_eq (.log _ _) fun _ => ?_
  split
  · exact .pure rfl
  · exact .bind_eq (.ask (.remove same)) fun _ => .pure rfl

theorem clear_lockstep (alike : left.Alike keys right) :
    Answering.Lockstep keys Eq (Service.clear left cache) (Service.clear right cache) := by
  unfold Service.clear
  rw [alike.subject]
  exact .bind (.ask .clear) fun _ _ _ => .pure rfl

/-! ## Listing -/

/-- Listings of related keys have the same contents in the same order. -/
theorem map_content_eq {listed others : List Key}
    (contents : ∀ key other, keys key other → key.content = other.content)
    (related : List.Forall₂ keys listed others) :
    listed.map Key.content = others.map Key.content := by
  induction related with
  | nil => rfl
  | cons same _ ih => rw [List.map_cons, List.map_cons, contents _ _ same, ih]

theorem map_displayText_eq (listed : List Key) :
    listed.map Key.displayText = (listed.map Key.content).map Utf8.decodeLossy :=
  List.map_map.symm

/-- Listings go alike when both jobs come back, or both are refused or lost. -/
theorem keys_lockstep {pool place : WorkerPool} (services : service.Alike other)
    (alike : left.Alike keys right)
    (contents : ∀ key related, keys key related → key.content = related.content)
    (pools : pool = .working ↔ place = .working) :
    Answering.Lockstep keys Eq (service.keys left cache pool) (other.keys right cache place) := by
  refine .bind_eq services.configuration_lockstep fun configuration => ?_
  rw [alike.accept?_eq, alike.subject]
  refine .bind_eq (.ofExcept_refl _) fun negotiated => ?_
  refine .bind (.ask .keys) fun listed others related => ?_
  have texts : listed.map Key.displayText = others.map Key.displayText := by
    rw [map_displayText_eq, map_displayText_eq, map_content_eq contents related]
  have lengths : listed.length = others.length := related.length_eq
  cases pool with
  | working =>
    obtain rfl := pools.1 rfl
    refine .bind_eq (.ofExcept_refl _) fun _ => .bind_eq (.log _ _) fun _ => ?_
    unfold listingBody
    rw [texts, lengths]
    refine .bind_eq (.ofExcept_refl _) fun body => ?_
    exact .bind_eq (.count _) fun _ => .bind_eq (.log _ _) fun _ => .pure rfl
  -- a job is logged once it has a place, so the logs differ where one pool is closed
  | closed =>
    cases place with
    | working => cases pools.2 rfl
    | closed => exact .throw (.workerPool _ _)
    | losing => exact Handler.Lockstep.logRight (.done (.error (.workerPool _ _)))
  | losing =>
    cases place with
    | working => cases pools.2 rfl
    | closed => exact Handler.Lockstep.logLeft (.done (.error (.workerPool _ _)))
    | losing => exact Handler.Lockstep.log (.done (.error (.workerPool _ _)))

/-! ## Dispatching -/

/-- A result is counted by its status, and a failure by its kind, so results
that correspond are counted alike. -/
theorem finish_lockstep {values answers : Response → Response → Prop} {operation : Operation}
    {result outcome : Except AccessError Response}
    (served : ∀ answer reply, values answer reply →
      answer.status = reply.status ∧ answers answer reply)
    (refused : ∀ error failure : AccessError, error.Alike failure →
      answers error.response failure.response)
    (corresponds : Corresponds AccessError.Alike values result outcome) :
    Handler.Lockstep keys answers
      (.count (.request operation.label (outcomeOf result)) (.done (answerOf result)))
      (.count (.request operation.label (outcomeOf outcome)) (.done (answerOf outcome))) := by
  cases corresponds with
  | @ok answer reply related =>
    obtain ⟨status, answered⟩ := served answer reply related
    have labels : outcomeOf (.ok answer) = outcomeOf (.ok reply) := congrArg statusOutcome status
    rw [labels]
    exact .count (.done answered)
  | @error error failure alike =>
    have labels : outcomeOf (.error error) = outcomeOf (.error failure) := alike.outcome_eq
    rw [labels]
    exact .count (.done (refused error failure alike))

section Dispatch

variable {pool place : WorkerPool}

theorem perform_lockstep {operation : Operation} (services : service.Alike other)
    (alike : left.Alike keys right) (methods : left.method = right.method)
    (contents : ∀ key related, keys key related → key.content = related.content)
    (searches : Corresponds AccessError.Alike Eq (service.queries cache left)
      (other.queries cache right))
    (pools : pool = .working ↔ place = .working) :
    Answering.Lockstep keys Eq (service.perform left operation cache raw pool)
      (other.perform right operation cache raw place) := by
  cases operation with
  | read =>
    refine (read_lockstep services alike).mono fun _ _ corresponds => ?_
    rw [methods] at corresponds
    exact corresponds.mono fun _ _ renders => renders.eq
  | write => exact write_lockstep services alike methods
  | delete => exact delete_lockstep services alike
  | clear => exact clear_lockstep alike
  | keys => exact keys_lockstep services alike contents pools
  | search => exact .ofExcept searches

/-- Requests that are alike, and have one method and one path, are answered
alike, as far as answers are sent, and are counted alike. -/
theorem dispatch_lockstep (services : service.Alike other) (alike : left.Alike keys right)
    (methods : left.method = right.method) (paths : left.path = right.path)
    (contents : ∀ key related, keys key related → key.content = related.content)
    (searches : ∀ cache, Corresponds AccessError.Alike Eq (service.queries cache left)
      (other.queries cache right))
    (pools : pool = .working ↔ place = .working) :
    Handler.Lockstep keys (fun answer reply : Response => answer.sent = reply.sent)
      (service.dispatch left pool) (other.dispatch right place) := by
  have actions : left.action? = right.action? := alike.param?_eq "action"
  unfold dispatch
  rw [methods, paths, actions]
  split
  · exact .count (.done rfl)
  · exact .log (.bind (perform_lockstep services alike methods contents (searches _) pools)
      fun _ _ => finish_lockstep (fun _ _ same => same ▸ ⟨rfl, rfl⟩)
        fun _ _ alike => alike.sent_response_eq)

end Dispatch

end Service

end CacheGate
