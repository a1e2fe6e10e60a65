import CacheGate.KeyListing
import CacheGate.Serve.Service

/-!
# Listing keys

A listing is written by a job of the worker pool. What the pool does with the
job is not up to this library, so it is a parameter of the request, as the
store behind it is. How many places of the pool other requests hold at the time
is left out: the log of a job counts its own place only.
-/

namespace CacheGate

open Http

/-- What becomes of the job of a request. -/
inductive WorkerPool where
  | working
  /-- The pool takes no more jobs. -/
  | closed
  /-- The pool takes the job, and the job is lost. -/
  | losing (reason : String)
  deriving DecidableEq, Repr

namespace WorkerPool

/-- Waits for a place in the pool. -/
def enter : WorkerPool → Except AccessError Unit
  | .closed => .error (.workerPool "worker pool closed")
  | .working | .losing _ => .ok ()

/-- Waits for the result of a job that has a place. -/
def finish {α : Type} (pool : WorkerPool) (result : α) : Except AccessError α :=
  match pool with
  | .losing reason => .error (.workerPool ("worker job failed: " ++ reason))
  | .working | .closed => .ok result

end WorkerPool

/-- The content type that a listing announces. -/
def listingType (format : KeysFormat) (charset : Charset) : MediaType :=
  format.mediaType.withParam "charset" charset.name

/-- The body of a listing. -/
def listingBody (format : KeysFormat) (charset : Charset) (keys : List Key) : Bytes :=
  charset.encode (format.render (keys.map Key.displayText))

/-- Handles GET on a cache. The listing is written by a worker, which holds
one place of the pool. -/
def Service.keys (service : Service) (request : Request) (cache : String)
    (pool : WorkerPool := .working) : Answering Response := do
  let configuration ← service.configuration cache
  let (format, charset) ← Answering.ofExcept
    (negotiateListing request.accept? configuration.conversion)
  let keys ← Answering.ask (.keys request.subject cache)
  Answering.ofExcept pool.enter
  Answering.log (.startedJob (service.workers - 1))
  let body ← Answering.ofExcept (pool.finish (listingBody format charset keys))
  Answering.count .listingTime
  Answering.log (.listedKeys cache keys.length format.label)
  return ((Response.ofStatus .ok).setHeader Field.cacheControl "no-cache").entity
    (listingType format charset) body

end CacheGate
