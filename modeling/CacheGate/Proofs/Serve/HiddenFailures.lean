import CacheGate.Proofs.Serve.Alike
import CacheGate.Proofs.Serve.ReadTag
import CacheGate.Serve.Web

/-!
# Failures whose details stay inside

A store, a search or the worker pool may fail with a text that says what went
wrong inside. `Handler.Backend.reworded` and `Service.reworded` fail at the
same points with other texts. Neither a client nor the metrics can tell the
two apart, at whatever points of a request the failures occur:
`Service.failure_details_are_hidden`.
-/

namespace CacheGate

open Time Http

/-! ## The same failures in other words -/

/-- The same failure, with other details. -/
def StoreError.reworded (reword : String → String) : StoreError → StoreError
  | .backend detail => .backend (reword detail)
  | error => error

/-- The same failure, with other details. -/
def AccessError.reworded (reword : String → String) : AccessError → AccessError
  | .store error => .store (error.reworded reword)
  | .workerPool detail => .workerPool (reword detail)
  | error => error

/-- A backend that answers as another one does, and fails with other details.
The new text may depend on the call, on the state and on the old text. -/
def Handler.Backend.reworded {σ : Type} (backend : Backend σ)
    (reword : Call → σ → String → String) : Backend σ where
  now := backend.now
  answer call state :=
    ((backend.answer call state).1.mapError (StoreError.reworded (reword call state)),
      (backend.answer call state).2)

/-- A service whose searches fail with other details. -/
def Service.reworded (service : Service) (reword : String → Request → String → String) : Service :=
  { service with
    queries := fun cache request =>
      (service.queries cache request).mapError (AccessError.reworded (reword cache request)) }

theorem StoreError.alike_reworded (reword : String → String) (error : StoreError) :
    error.Alike (error.reworded reword) := by
  cases error <;> rfl

theorem AccessError.alike_reworded (reword : String → String) (error : AccessError) :
    error.Alike (error.reworded reword) := by
  cases error with
  | store error => exact .store (error.alike_reworded reword)
  | _ => rfl

theorem Corresponds.mapError {ε α : Type} {failures : ε → ε → Prop} {change : ε → ε}
    {values : α → α → Prop} (changed : ∀ error, failures error (change error))
    (same : ∀ value, values value value) (result : Except ε α) :
    Corresponds failures values result (result.mapError change) := by
  cases result with
  | ok value => exact .ok (same value)
  | error error => exact .error (changed error)

/-! ## Runs on both backends -/

namespace Handler

variable {σ : Type}

/-- A backend answers in step with itself in other words. -/
theorem simulation_reworded (backend : Backend σ) (reword : Call → σ → String → String) :
    Simulation Eq backend (backend.reworded reword) Eq where
  now same := congrArg backend.now same
  answer := by
    rintro state _ call _ rfl alike
    obtain rfl := alike.eq
    exact .mapError (StoreError.alike_reworded _) (Call.AnswersAlike.refl call) _
  after := by
    rintro state _ call _ rfl alike
    obtain rfl := alike.eq
    rfl

end Handler

/-! ## Serving -/

theorem Http.Response.sent_headers (response : Response) :
    response.sent.headers = response.headers := rfl

theorem Http.Response.sent_setHeader (response : Response) (name value : String) :
    (response.setHeader name value).sent = response.sent.setHeader name value := by
  unfold setHeader
  split <;> rfl

theorem sent_withLength (response : Response) :
    (withLength response).sent = withLength response.sent := by
  unfold withLength
  rw [response.sent_headers]
  cases response.headers.get? Field.contentLength with
  | none => exact response.sent_setHeader ..
  | some stated => rfl

/-- What is encoded is what is sent. -/
theorem encodeResponse_sent (method : Method) (requestId : String) (response : Response) :
    encodeResponse method requestId response.sent = encodeResponse method requestId response := by
  unfold encodeResponse
  rw [← response.sent_setHeader]
  unfold bodyFor
  split <;> rfl

namespace Service

variable {keys : Key → Key → Prop} {service other : Service} {pool place : WorkerPool}

/-- Requests over the wire go alike if the handlers do. -/
theorem serve_lockstep
    (dispatched : ∀ request, Handler.Lockstep keys
      (fun answer reply : Response => answer.sent = reply.sent)
      (service.dispatch request pool) (other.dispatch request place))
    (contextPath fresh : String) (wire : WireRequest) :
    Handler.Lockstep keys Eq (service.serve contextPath fresh wire pool)
      (other.serve contextPath fresh wire place) := by
  have routed : Handler.Lockstep keys (fun answer reply : Response => answer.sent = reply.sent)
      (service.route contextPath wire pool) (other.route contextPath wire place) := by
    unfold route
    dsimp only
    split
    · exact .done rfl
    · exact .done rfl
    · exact .done rfl
    · exact .done rfl
    · refine (dispatched _).bind fun answer reply same => .done ?_
      rw [sent_withLength, same, sent_withLength]
  refine routed.bind fun answer reply same => .log (.done ?_)
  rw [← encodeResponse_sent, same, encodeResponse_sent]

/-- The details of failures are hidden. If a store, a search or the worker
pool fails with other texts, at whatever points of a request, then its answer
differs at most in the error report, the metrics are the same, and what goes
over the wire is the same. -/
theorem failure_details_are_hidden {σ : Type} (service : Service) (backend : Handler.Backend σ)
    (state : σ) (reword : Call → σ → String → String)
    (rewordSearch : String → Request → String → String) (pool place : WorkerPool)
    (pools : pool = .working ↔ place = .working) :
    (∀ request : Request,
      let ran := (service.dispatch request pool).run backend state
      let reran := ((service.reworded rewordSearch).dispatch request place).run
        (backend.reworded reword) state
      reran.value.status = ran.value.status ∧ reran.value.headers = ran.value.headers ∧
        reran.value.body = ran.value.body ∧ reran.metrics = ran.metrics ∧
        reran.state = ran.state) ∧
    ∀ (contextPath fresh : String) (wire : WireRequest),
      let ran := (service.serve contextPath fresh wire pool).run backend state
      let reran := ((service.reworded rewordSearch).serve contextPath fresh wire place).run
        (backend.reworded reword) state
      reran.value = ran.value ∧ reran.metrics = ran.metrics ∧ reran.state = ran.state := by
  have simulation := Handler.simulation_reworded backend reword
  have services : service.Alike (service.reworded rewordSearch) := ⟨rfl, rfl⟩
  have keyed (request : Request) (raw : String) : Corresponds AccessError.Alike Eq
      (requestKey request raw) (requestKey request raw) := .refl .refl _
  have searches (request : Request) (cache : String) : Corresponds AccessError.Alike Eq
      (service.queries cache request) ((service.reworded rewordSearch).queries cache request) :=
    .mapError (AccessError.alike_reworded _) (fun _ => rfl) _
  have dispatched (request : Request) := dispatch_lockstep services
    (⟨rfl, rfl, rfl, fun _ _ => rfl, keyed request⟩ : request.Alike Eq request) rfl rfl
    (fun _ _ => congrArg Key.content) (searches request) pools
  constructor
  · intro request
    obtain ⟨sent, left, counted⟩ := (dispatched request).run simulation rfl
    obtain ⟨status, headers, body⟩ := Response.sent_eq_iff.1 sent
    exact ⟨status.symm, headers.symm, body.symm, counted.symm, left.symm⟩
  · intro contextPath fresh wire
    obtain ⟨answered, left, counted⟩ :=
      (serve_lockstep dispatched contextPath fresh wire).run simulation rfl
    exact ⟨answered.symm, counted.symm, left.symm⟩

end Service

/-! ## A store that cannot write -/

/-- The in-memory store on a full disk: it reads, and fails to change anything. -/
def fullDisk : Handler.Backend World where
  now := World.now
  answer call world :=
    if call.mutates then (.error (.backend "disk full"), world, [])
    else (world.answer call, world.perform call, [])

/-- A listing that the pool refuses is answered as one whose job is lost, and
a write is refused in the same way whatever is wrong with the disk. -/
theorem failed_listing_and_write_hide_details :
    let listing := (plainService.dispatch (.of .get "c") .closed).run fullDisk emptyWorld
    let relisting := ((plainService.reworded fun _ _ text => text).dispatch (.of .get "c")
      (.losing "job panicked")).run (fullDisk.reworded fun _ _ _ => "no such volume") emptyWorld
    let put := { Request.of .put "c/k" with body := some (Utf8.encode "v1") }
    let write := (plainService.dispatch put .closed).run fullDisk emptyWorld
    let rewrite := ((plainService.reworded fun _ _ text => text).dispatch put
      (.losing "job panicked")).run (fullDisk.reworded fun _ _ _ => "no such volume") emptyWorld
    listing.value.status = .internalServerError ∧ relisting.value.body = listing.value.body ∧
      relisting.value.report ≠ listing.value.report ∧
      write.value.status = .internalServerError ∧ rewrite.value.body = write.value.body ∧
      rewrite.value.report ≠ write.value.report := by
  have hidden := Service.failure_details_are_hidden plainService fullDisk emptyWorld
    (fun _ _ _ => "no such volume") (fun _ _ text => text) .closed (.losing "job panicked")
    (by decide)
  refine ⟨by decide +kernel, (hidden.1 _).2.2.1, by decide +kernel, by decide +kernel,
    (hidden.1 _).2.2.1, by decide +kernel⟩

end CacheGate
