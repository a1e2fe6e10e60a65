import CacheGate.Http.Request
import CacheGate.Serve.Handler

/-!
# The service

What stays the same for all requests: the identity of internal reads, the
size of the worker pool, whether placement headers may be shown, and the
handler of searches. Query languages live outside this library, so a search
handler is any function of the cache and the request.
-/

namespace CacheGate

open Http

/-- Answers the searches on a cache. -/
abbrev QueryHandler := String → Request → Except AccessError Response

namespace QueryHandler

/-- Answers every search with 501. -/
def unsupported : QueryHandler := fun cache _ =>
  .ok ((Response.ofStatus .notImplemented).diagnostic
    s!"search is not available for cache `{cache}`")

end QueryHandler

/-- Whether reads may show placement headers. -/
inductive ExtendedHeaders where
  | never
  /-- Only when the request asks for them. -/
  | onDemand
  deriving DecidableEq, Repr, Inhabited

/-- The fixed parts of the service. -/
structure Service where
  context : ExecutionContext
  workers : Nat
  extendedHeaders : ExtendedHeaders
  queries : QueryHandler

namespace Service

/-- Reads an entry with its metadata under the identity of the service. -/
def internalEntry (service : Service) (cache : String) (key : Key) : Answering (Option Entry) := do
  Answering.log (.internalRead cache service.context)
  Answering.ask (.entry service.context cache key)

/-- Reads the configuration of a cache under the identity of the service. -/
def configuration (service : Service) (cache : String) : Answering CacheConfiguration :=
  Answering.ask (.configuration service.context cache)

/-- Reads the placement of a key under the identity of the service. -/
def distribution (service : Service) (cache : String) (key : Key) : Answering Distribution :=
  Answering.ask (.distribution service.context cache key)

/-- Whether a request gets placement headers: it has to ask with `true`. -/
def showsPlacement (service : Service) (request : Request) : Bool :=
  service.extendedHeaders == .onDemand &&
    request.extended?.any fun value => Text.sameName (Text.trimmed value) "true"

end Service

/-- The key that a request addresses. -/
def requestKey (request : Request) (raw : String) : Except AccessError Key :=
  if raw.isEmpty then .error .noKey
  else (request.keyContentType).map fun media => ⟨Utf8.encode raw, media⟩

/-- Sets a header, and logs a value that no header can carry. -/
def Answering.setHeader (response : Response) (name value : String) : Answering Response := do
  unless isFieldText value do
    Answering.log (.droppedHeader name value)
  return response.setHeader name value

/-- Attaches a body with its type, and logs a type that no header can carry. -/
def Answering.setEntity (response : Response) (media : MediaType) (body : Bytes) :
    Answering Response := do
  let response ← Answering.setHeader response Field.contentType media.text
  return { response with body }

end CacheGate
