import CacheGate.Http.Response
import CacheGate.Store.Error

/-!
# Failures of a request

`AccessError` lists why a request fails. Each failure has a status, a label
for the request metrics, a message for the request log and a message for the
client; the latter hides what went wrong inside the store or the worker pool.
The answers of conditional requests (304, 409, 412) are not failures.
-/

namespace CacheGate

open Http

/-- Why a request failed. -/
inductive AccessError where
  | noKey
  | noBody
  | invalidHeader (header reason : String)
  | unacceptableFormat (requested : String)
  | unsupportedContentType (contentType : String)
  | unsupportedCharset (charset : String)
  | unknownAction (action : String)
  | store (error : StoreError)
  | workerPool (detail : String)
  deriving DecidableEq, Repr

namespace AccessError

/-- The failure to find an acceptable format; no header accepts anything. -/
def unacceptable (accept : Option String) : AccessError :=
  .unacceptableFormat (accept.getD "*/*")

/-- The full text of a failure. -/
def message : AccessError → String
  | .noKey => "no key specified"
  | .noBody => "no data sent"
  | .invalidHeader header reason => s!"invalid `{header}` header: {reason}"
  | .unacceptableFormat requested => s!"unacceptable data format `{requested}`"
  | .unsupportedContentType contentType => s!"unsupported content type `{contentType}`"
  | .unsupportedCharset charset => s!"unsupported charset `{charset}`"
  | .unknownAction action => s!"unknown action `{action}`"
  | .store error => error.message
  | .workerPool detail => s!"worker pool failure: {detail}"

/-- The status of the answer to a failed request. -/
def status : AccessError → Status
  | .noKey | .noBody | .invalidHeader .. | .unknownAction _ => .badRequest
  | .unacceptableFormat _ | .unsupportedCharset _ | .store (.encoding ..) => .notAcceptable
  | .unsupportedContentType _ => .unsupportedMediaType
  | .store (.unknownCache _) => .notFound
  | .store (.backend _) | .workerPool _ => .internalServerError

/-- The label of a failure in the request metrics. -/
def outcome : AccessError → String
  | .noKey => "no_key"
  | .noBody => "no_body"
  | .invalidHeader .. => "invalid_header"
  | .unacceptableFormat _ => "unacceptable"
  | .unsupportedContentType _ => "unsupported_content_type"
  | .unsupportedCharset _ => "unsupported_charset"
  | .unknownAction _ => "unknown_action"
  | .store (.unknownCache _) => "unknown_cache"
  | .store (.encoding ..) => "encoding"
  | .store (.backend _) => "store_failure"
  | .workerPool _ => "worker_pool"

/-- What the client is told. -/
def presentation : AccessError → String
  | .store (.backend _) | .workerPool _ => "Unexpected error occurred"
  | error => error.message

/-- The source that reports of request failures name. -/
def reportSource : String := "application::error::AccessError"

/-- The answer to a failed request. -/
def response (error : AccessError) : Response :=
  { (Response.ofStatus error.status).diagnostic error.presentation with
    report := some ⟨reportSource, error.status, [error.message]⟩ }

end AccessError

end CacheGate
