import CacheGate.Conditions
import CacheGate.Serve.Service
import CacheGate.WriteExpiration

/-!
# Writing, deleting and clearing

Each of these makes at most one changing store call, and makes it last:
whatever is wrong with a request is found before the store is touched.
-/

namespace CacheGate

open Http

/-- The content of a write; an empty one counts as none. -/
def writtenBody (request : Request) : Except AccessError Bytes :=
  match request.body.filter (!·.isEmpty) with
  | some body => .ok body
  | none => .error .noBody

/-- The type of a written value: as declared, else the storage format, else raw bytes. -/
def writtenType (request : Request) (conversion : ValueConversion) :
    Except AccessError MediaType := do
  let media := (← request.contentType).getD (conversion.storage.getD .octetStream)
  if conversion.accepts media then return media
  else throw (.unsupportedContentType media.text)

/-- Puts a written value into the store. -/
def Service.store (request : Request) (cache : String) (replacing : Bool) (added : NewEntry) :
    Answering Response := do
  Answering.ask (.put request.subject cache added)
  return (Response.ofStatus (if replacing then .ok else .created)).setHeader Field.etag
    (EntityTag.of added.value).text

/-- Handles PUT and POST on an entry. -/
def Service.write (service : Service) (request : Request) (cache raw : String) :
    Answering Response := do
  let key ← Answering.ofExcept (requestKey request raw)
  let body ← Answering.ofExcept (writtenBody request)
  let configuration ← service.configuration cache
  let media ← Answering.ofExcept (writtenType request configuration.conversion)
  let metadata ← Answering.ofExcept (resolveMetadata request configuration)
  let existing ← service.internalEntry cache key
  let verdict := evaluateWrite existing (.ofRequest request) (request.method == .post)
  Answering.log (.evaluatedWrite cache key.mediaType.text verdict.label)
  match verdict, verdict.status? with
  | .conflict, _ => return (Response.ofStatus .conflict).diagnostic "An entry already exists"
  | _, some status => return .ofStatus status
  | _, none => Service.store request cache existing.isSome ⟨key, body, media, metadata⟩

/-- Handles DELETE on an entry. -/
def Service.delete (service : Service) (request : Request) (cache raw : String) :
    Answering Response := do
  let key ← Answering.ofExcept (requestKey request raw)
  let existing ← service.internalEntry cache key
  let verdict := evaluateDelete existing (.ofRequest request)
  Answering.log (.evaluatedDelete cache verdict.label)
  match verdict.status? with
  | some status => return .ofStatus status
  | none =>
    let removed ← Answering.ask (.remove request.subject cache key)
    return .ofStatus (if removed then .ok else .notFound)

/-- Handles DELETE on a cache. -/
def Service.clear (request : Request) (cache : String) : Answering Response := do
  Answering.ask (.clear request.subject cache)
  return .ofStatus .ok

end CacheGate
