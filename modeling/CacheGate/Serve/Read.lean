import CacheGate.Conditions
import CacheGate.Negotiation
import CacheGate.Serve.Service

/-!
# Reading an entry

The freshness headers of a read come from an internal snapshot of the entry,
its body from an audited read. The snapshot is taken again once the body is
there; when the tag has moved, the read is evaluated anew on the newer
snapshot, so that the tag always describes the body that is sent. After three
attempts the read is given up.
-/

namespace CacheGate

open Time Http

/-- How often a read is evaluated while the entry keeps changing. -/
def readAttempts : Nat := 3

/-- A time stamp in milliseconds; `-1` for one that is not tracked. -/
def stampText (stamp : Option Instant) : String :=
  Text.intText ((stamp.map Instant.millis).getD (-1))

/-- Sets a header if there is a value for it. -/
def setHeader? (response : Response) (name : String) : Option String → Response
  | none => response
  | some value => response.setHeader name value

/-- The answer to a read with the headers that the snapshot decides. -/
def freshnessResponse (entry : Entry) (evaluation : ReadEvaluation) (now : Instant) : Response :=
  let response := (Response.ofStatus .ok).setHeader Field.etag evaluation.etag.text
  let response := response.setHeader Field.lastModified (HttpDate.format evaluation.lastModified)
  let response := setHeader? response Field.expires (evaluation.expiresAt.map HttpDate.format)
  let response := setHeader? response Field.cacheControl (cacheControl evaluation.expiresAt now)
  let response := response.setHeader Field.timeToLive
    (Text.intText entry.metadata.lifespan.headerValue)
  let response := response.setHeader Field.maxIdle
    (Text.intText entry.metadata.maxIdle.headerValue)
  let response := response.setHeader Field.created (stampText entry.created)
  response.setHeader Field.lastUsed (stampText entry.lastUsed)

/-- Adds the placement headers. -/
def withPlacement (response : Response) (placement : Distribution) : Answering Response := do
  let response ← Answering.setHeader response Field.primaryOwner placement.primaryOwner
  let response ← Answering.setHeader response Field.nodeName placement.nodeName
  Answering.setHeader response Field.serverAddress placement.serverAddress

/-- An answer without its body, for requests that only want the headers. -/
def bodyFor (method : Method) (response : Response) : Response :=
  if method = .head then { response with body := [] } else response

/-- What all attempts of one read share. -/
structure ReadPlan where
  request : Request
  cache : String
  key : Key
  storage : Option MediaType
  negotiated : MediaType
  conditions : Conditions

namespace ReadPlan

/-- The answer once snapshot and body fit together. -/
def respond (plan : ReadPlan) (service : Service) (entry : Entry) (evaluation : ReadEvaluation)
    (now : Instant) (media : MediaType) (value : Bytes) : Answering Response := do
  let response := freshnessResponse entry evaluation now
  let response ←
    if service.showsPlacement plan.request then do
      withPlacement response (← service.distribution plan.cache plan.key)
    else pure response
  let response ← Answering.setEntity response media value
  return bodyFor plan.request.method response

/-- Whether a newer snapshot still has the value that was evaluated. -/
def unchanged (evaluation : ReadEvaluation) (snapshot : Option Entry) : Bool :=
  snapshot.any fun current => EntityTag.of current.value = evaluation.etag

/-- Evaluates a snapshot, with `remaining` attempts left; `attempt` counts from 1. -/
def attempt (plan : ReadPlan) (service : Service) (attempt : Nat) :
    (remaining : Nat) → Option Entry → Answering Response
  | 0, _ =>
    throw (.store (.backend
      ("entry in cache `" ++ plan.cache ++ "` changed on each of " ++
        Text.natText readAttempts ++ " read attempts")))
  | _ + 1, none => return .ofStatus .notFound
  | remaining + 1, some entry => do
    let now ← Answering.clock
    let evaluation := evaluateRead entry plan.conditions now
    Answering.log (.evaluatedRead plan.cache attempt evaluation.verdict.label)
    match evaluation.verdict.status? with
    | some status => return .ofStatus status
    | none =>
      let media ← Answering.ofExcept
        (settle plan.negotiated plan.storage entry.value plan.request.accept?)
      match ← Answering.ask (.get plan.request.subject plan.cache plan.key media) with
      | none => return .ofStatus .notFound
      | some value =>
        let snapshot ← service.internalEntry plan.cache plan.key
        if unchanged evaluation snapshot then
          plan.respond service entry evaluation now media value
        else
          Answering.log (.entryChanged plan.cache attempt)
          plan.attempt service (attempt + 1) remaining snapshot

end ReadPlan

/-- Handles GET and HEAD on an entry. -/
def Service.read (service : Service) (request : Request) (cache raw : String) :
    Answering Response := do
  let key ← Answering.ofExcept (requestKey request raw)
  let configuration ← service.configuration cache
  let negotiated ← Answering.ofExcept (negotiate request.accept? configuration.conversion)
  let snapshot ← service.internalEntry cache key
  ReadPlan.attempt
    ⟨request, cache, key, configuration.conversion.storage, negotiated, .ofRequest request⟩
    service 1 readAttempts snapshot

end CacheGate
