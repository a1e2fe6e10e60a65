import CacheGate.Proofs.Route
import CacheGate.Proofs.Serve.Alike
import CacheGate.Proofs.Serve.ReadTag
import CacheGate.Serve.Web

/-!
# HEAD next to GET

A HEAD and a GET of one entry are handled in lockstep, whatever store is
behind them: they leave the same state and the same metrics, and their answers
have one status and the same headers, apart from the stated length. A read that
is served has given up its body by the time its length is stated, while other
answers give it up later, so the lengths of the two answers agree if and only
if no body was served: `Service.head_mirrors_get_iff`.
-/

namespace CacheGate

open Http

/-! ## Handled answers -/

/-- How the handled answer to HEAD compares to that to GET. -/
structure Http.Response.Mirrors (head get : Response) : Prop where
  status : head.status = get.status
  headers : head.headers = get.headers
  unmeasured : get.headers.get? Field.contentLength = none
  body : head.body = if get.status = .ok then [] else get.body

namespace Http.Response

variable {response head get : Response} {error failure : AccessError}

theorem Mirrors.of_refused (refused : response.status ≠ .ok)
    (unmeasured : response.headers.get? Field.contentLength = none) :
    response.Mirrors response :=
  ⟨rfl, rfl, unmeasured, (if_neg refused).symm⟩

/-- Failures that are alike are answered in the same way. -/
theorem Mirrors.of_alike (alike : error.Alike failure) :
    error.response.Mirrors failure.response := by
  obtain ⟨status, headers, body⟩ := sent_eq_iff.1 alike.sent_response_eq
  have refused : failure.response.status ≠ .ok := fun served =>
    failure.not_succeeds_response (Or.inl served)
  refine ⟨status, headers, ?_, body.trans (if_neg refused).symm⟩
  unfold AccessError.response diagnostic entity
  exact get?_setHeader_of_ne (by decide)

theorem Mirrors.of_renders (renders : Renders .head .get head get) : head.Mirrors get := by
  obtain ⟨full, unmeasured, bodiless, rfl, same⟩ := renders
  obtain rfl : get = full := same
  refine ⟨rfl, rfl, unmeasured, ?_⟩
  change [] = if get.status = .ok then [] else get.body
  split
  · rfl
  case isFalse refused => exact (bodiless refused).symm

end Http.Response

theorem RouteError.mirrors (error : RouteError) : error.response.Mirrors error.response := by
  cases error with
  | notFound => exact .of_refused (by decide) rfl
  | methodNotAllowed allowed =>
    refine .of_refused ?_ (Response.get?_setHeader_of_ne (by decide))
    unfold RouteError.response
    rw [Response.setHeader_status]
    decide
  | noKey | unknownAction => exact .of_alike rfl

/-! ## Dispatching -/

namespace Route

variable {path cache key : String} {action : Option String} {route : Route}

/-- An entry path has one route for both methods. -/
theorem resolve_head (entry : segments path = (cache, some key)) :
    resolve .head path action = resolve .get path action := by
  unfold resolve
  rw [entry]
  rfl

theorem operation_of_get (entry : segments path = (cache, some key))
    (resolved : resolve .get path action = .ok route) : route.operation = .read := by
  obtain ⟨-, -, parts, asked⟩ := resolve_eq_ok_iff.1 resolved
  rw [← (Prod.mk.inj (entry.symm.trans parts)).2] at asked
  exact (Except.ok.inj asked).symm

end Route

namespace Service

variable {service : Service} {head get : Request} {cache key : String} {pool : WorkerPool}

/-- A HEAD and a GET of one entry are handled in lockstep. -/
theorem dispatch_head_lockstep (alike : head.Alike Eq get) (heads : head.method = .head)
    (gets : get.method = .get) (paths : head.path = get.path)
    (entry : Route.segments get.path = (cache, some key)) :
    Handler.Lockstep Eq Response.Mirrors (service.dispatch head pool)
      (service.dispatch get pool) := by
  have actions : head.action? = get.action? := alike.param?_eq "action"
  unfold dispatch
  rw [heads, gets, paths, actions, Route.resolve_head entry]
  cases resolved : Route.resolve .get get.path get.action? with
  | error error => exact .count (.done error.mirrors)
  | ok route =>
    dsimp only
    rw [Route.operation_of_get entry resolved]
    refine .log (.bind (read_lockstep ⟨rfl, rfl⟩ alike) fun result outcome corresponds => ?_)
    rw [heads, gets] at corresponds
    refine finish_lockstep (fun answer reply renders => ?_) (fun _ _ => .of_alike) corresponds
    have mirrors := Response.Mirrors.of_renders renders
    exact ⟨mirrors.status, mirrors⟩

end Service

/-! ## Answers on the wire -/

/-- How the answer to HEAD compares to that to GET. A read that is served
states the length of no body; all else is the same. -/
structure WireResponse.Mirrors (head get : WireResponse) : Prop where
  status : head.status = get.status
  body : head.body = []
  others : head.headers.erase Field.contentLength = get.headers.erase Field.contentLength
  length : get.headers.get? Field.contentLength = some (Text.natText get.body.length)
  stated : head.headers.get? Field.contentLength =
    some (Text.natText (if get.status = .ok then 0 else get.body.length))
  equal : (get.status = .ok → get.body = []) → head.headers = get.headers

/-- All headers agree unless a read was served with a body. -/
theorem WireResponse.Mirrors.headers_eq_iff {head get : WireResponse}
    (mirrors : head.Mirrors get) :
    head.headers = get.headers ↔ (get.status = .ok → get.body = []) := by
  refine ⟨fun same served => ?_, mirrors.equal⟩
  have lengths := mirrors.stated
  rw [same, mirrors.length, if_pos served, Option.some_inj, Text.natText_inj] at lengths
  exact List.length_eq_zero_iff.1 lengths

/-- The stated length does not depend on the id of the request. -/
theorem encodeResponse_contentLength? (method : Method) (requestId : String)
    (response : Response) :
    (encodeResponse method requestId response).headers.get? Field.contentLength =
      response.headers.get? Field.contentLength :=
  Response.get?_setHeader_of_ne (by decide)

theorem encodeResponse_headers_congr {left right : Response} {requestId : String}
    (method other : Method) (same : left.headers = right.headers) :
    (encodeResponse method requestId left).headers =
      (encodeResponse other requestId right).headers := by
  change (left.setHeader Field.requestId requestId).headers =
    (right.setHeader Field.requestId requestId).headers
  unfold Response.setHeader
  split
  · exact congrArg (Headers.insert · Field.requestId requestId) same
  · exact same

/-- Nor do the other headers depend on the stated length. -/
theorem erase_encodeResponse_congr {left right : Response} {requestId : String}
    (method other : Method)
    (same : left.headers.erase Field.contentLength = right.headers.erase Field.contentLength) :
    (encodeResponse method requestId left).headers.erase Field.contentLength =
      (encodeResponse other requestId right).headers.erase Field.contentLength := by
  change (left.setHeader Field.requestId requestId).headers.erase _ =
    (right.setHeader Field.requestId requestId).headers.erase _
  unfold Response.setHeader
  split
  · dsimp only
    rw [Headers.erase_insert_of_ne (by decide), Headers.erase_insert_of_ne (by decide), same]
  · exact same

theorem withLength_headers {response : Response}
    (unmeasured : response.headers.get? Field.contentLength = none) :
    (withLength response).headers =
      response.headers.insert Field.contentLength (Text.natText response.body.length) := by
  unfold withLength Response.setHeader
  rw [unmeasured, Text.isFieldText_natText]
  rfl

theorem withLength_status (response : Response) : (withLength response).status = response.status := by
  unfold withLength
  split
  · rfl
  · exact Response.setHeader_status

theorem withLength_body (response : Response) : (withLength response).body = response.body := by
  unfold withLength Response.setHeader
  split
  · rfl
  · split <;> rfl

/-- What is stated and encoded compares as what was handled. -/
theorem Http.Response.Mirrors.encoded {head get : Response} (mirrors : head.Mirrors get)
    (requestId : String) :
    (encodeResponse .head requestId (withLength head)).Mirrors
      (encodeResponse .get requestId (withLength get)) := by
  have unmeasured : head.headers.get? Field.contentLength = none := by
    rw [mirrors.headers]
    exact mirrors.unmeasured
  have status (method : Method) (response : Response) :
      (encodeResponse method requestId (withLength response)).status = response.status :=
    Response.setHeader_status.trans (withLength_status response)
  have body : (encodeResponse .get requestId (withLength get)).body = get.body :=
    Response.setHeader_body.trans (withLength_body get)
  refine ⟨?_, rfl, erase_encodeResponse_congr .head .get ?_, ?_, ?_, fun bodiless => ?_⟩
  · rw [status, status, mirrors.status]
  · rw [withLength_headers unmeasured, withLength_headers mirrors.unmeasured,
      Headers.erase_insert_self, Headers.erase_insert_self, mirrors.headers]
  · rw [encodeResponse_contentLength?, withLength_headers mirrors.unmeasured,
      Headers.get?_insert_self, body]
  · rw [encodeResponse_contentLength?, withLength_headers unmeasured, Headers.get?_insert_self,
      status, body, mirrors.body]
    split <;> rfl
  · -- nothing was served, so both lengths are taken of one body
    rw [status, body] at bodiless
    have bodies : head.body = get.body := by
      rw [mirrors.body]
      split
      case isTrue served => exact (bodiless served).symm
      case isFalse => rfl
    refine encodeResponse_headers_congr .head .get ?_
    rw [withLength_headers unmeasured, withLength_headers mirrors.unmeasured, mirrors.headers,
      bodies]

namespace Service

/-- The same request for an entry is served in lockstep as HEAD and as GET. -/
theorem serve_head_lockstep (service : Service) {contextPath : String} {wire : WireRequest}
    {pool : WorkerPool} {path cache key : String} (fresh : String)
    (inside : Mounted.of contextPath (Uri.parse wire.target).path = .inside path)
    (entry : Route.segments path = (cache, some key)) :
    Handler.Lockstep Eq WireResponse.Mirrors
      (service.serve contextPath fresh { wire with method := .head } pool)
      (service.serve contextPath fresh { wire with method := .get } pool) := by
  have alike : (WireRequest.decode { wire with method := .head } path
      (Uri.parse wire.target).query).Alike Eq
        (WireRequest.decode { wire with method := .get } path (Uri.parse wire.target).query) :=
    ⟨rfl, rfl, rfl, fun _ _ => rfl, fun _ => .refl .refl _⟩
  have routed : Handler.Lockstep Eq
      (fun answer reply => ∃ head get : Response, head.Mirrors get ∧
        answer = withLength head ∧ reply = withLength get)
      (service.route contextPath { wire with method := .head } pool)
      (service.route contextPath { wire with method := .get } pool) := by
    unfold route
    dsimp only
    rw [inside]
    exact (dispatch_head_lockstep alike rfl rfl rfl entry).bind fun head get mirrors =>
      .done ⟨head, get, mirrors, rfl, rfl⟩
  refine routed.bind fun answer reply answered => .log (.done ?_)
  obtain ⟨head, get, mirrors, rfl, rfl⟩ := answered
  exact mirrors.encoded (wire.id fresh)

/-- HEAD mirrors GET on the wire, apart from the length of a body that is
served. Whatever the store, sending the same request for an entry as HEAD and
as GET from one state leaves the same state and the same metrics. The answers
have the same status and the same headers but for the stated length, and the
one to HEAD has no body. GET states the length of its body. HEAD states the
same length unless it is answered 200, and then states 0; so all headers agree
if and only if no body was served. -/
theorem head_mirrors_get_iff {σ : Type} (service : Service) (backend : Handler.Backend σ)
    (state : σ) (contextPath fresh : String) (wire : WireRequest) (pool : WorkerPool)
    (path cache key : String)
    (inside : Mounted.of contextPath (Uri.parse wire.target).path = .inside path)
    (entry : Route.segments path = (cache, some key)) :
    let head := (service.serve contextPath fresh { wire with method := .head } pool).run
      backend state
    let get := (service.serve contextPath fresh { wire with method := .get } pool).run
      backend state
    head.state = get.state ∧ head.metrics = get.metrics ∧
      head.value.status = get.value.status ∧ head.value.body = [] ∧
      head.value.headers.erase Field.contentLength =
        get.value.headers.erase Field.contentLength ∧
      get.value.headers.get? Field.contentLength =
        some (Text.natText get.value.body.length) ∧
      head.value.headers.get? Field.contentLength =
        some (Text.natText (if get.value.status = .ok then 0 else get.value.body.length)) ∧
      (head.value.headers = get.value.headers ↔
        (get.value.status = .ok → get.value.body = [])) := by
  obtain ⟨mirrors, left, counted⟩ :=
    (service.serve_head_lockstep fresh inside entry).run (.refl backend) rfl
  exact ⟨left, counted, mirrors.status, mirrors.body, mirrors.others, mirrors.length,
    mirrors.stated, mirrors.headers_eq_iff⟩

end Service

/-! ## An entry with a body -/

/-- A request for the entry `c/k` over the wire. -/
def entryWire (method : Method) : WireRequest :=
  ⟨method, "/rest/v2/caches/c/k", .empty, [], none⟩

/-- The in-memory store as a backend, with the clock standing still. -/
def worldBackend : Handler.Backend World :=
  ⟨World.now, fun call world => (world.answer call, world.perform call, [])⟩

/-- A value of two bytes: GET states the length 2, and HEAD states 0. -/
theorem head_of_entry_states_no_length :
    let world := emptyWorld.perform (rivalPut "v1")
    let head := (plainService.serve "/rest/v2/caches" "id" (entryWire .head)).run
      worldBackend world
    let get := (plainService.serve "/rest/v2/caches" "id" (entryWire .get)).run
      worldBackend world
    get.value.status = .ok ∧ get.value.headers.get? Field.contentLength = some "2" ∧
      head.value.headers.get? Field.contentLength = some "0" ∧
      head.value.headers ≠ get.value.headers := by
  have inside : Mounted.of "/rest/v2/caches" (Uri.parse (entryWire .get).target).path =
      .inside "c/k" := by decide +kernel
  have entry : Route.segments "c/k" = ("c", some "k") := by decide +kernel
  obtain ⟨-, -, -, -, -, length, stated, agree⟩ := Service.head_mirrors_get_iff plainService
    worldBackend (emptyWorld.perform (rivalPut "v1")) "/rest/v2/caches" "id" (entryWire .get)
    .working "c/k" "c" "k" inside entry
  have served : ((plainService.serve "/rest/v2/caches" "id" (entryWire .get)).run worldBackend
      (emptyWorld.perform (rivalPut "v1"))).value.status = .ok := by decide +kernel
  have body : ((plainService.serve "/rest/v2/caches" "id" (entryWire .get)).run worldBackend
      (emptyWorld.perform (rivalPut "v1"))).value.body = Utf8.encode "v1" := by decide +kernel
  refine ⟨served, length.trans ?_, stated.trans ?_, fun same => ?_⟩
  · exact congrArg (fun body => some (Text.natText (List.length body))) body
  · exact congrArg (some ∘ Text.natText) (if_pos served)
  · have empty := agree.1 same served
    exact absurd (body.symm.trans empty) (by decide)

end CacheGate
