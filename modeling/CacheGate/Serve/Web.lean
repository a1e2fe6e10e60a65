import CacheGate.Http.Uri
import CacheGate.Serve.Dispatch
import CacheGate.Serve.Mount

/-!
# Serving over HTTP

The caches are mounted under a context path. Every answer carries the id of
its request, the client's own if it sent one. `Service.serve` decodes a
request, dispatches it and logs the outcome; the error report of a failed
request goes to that log and not to the client.

An answer states the length of its body, unless its path starts with a slash
and lies outside the context path. The body of an answer to HEAD is left out.
-/

namespace CacheGate

open Http

/-- A request as it came over the wire. -/
structure WireRequest where
  method : Method
  target : String
  headers : Headers Bytes
  body : Bytes
  subject : Option Subject
  deriving DecidableEq, Repr

/-- An answer as it goes over the wire. -/
structure WireResponse where
  status : Status
  headers : Headers String
  body : Bytes
  deriving DecidableEq, Repr

/-- The request that handlers see. -/
def WireRequest.decode (wire : WireRequest) (path : String) (query : Option String) : Request where
  method := wire.method
  path
  query := Query.parse (query.getD "")
  headers := wire.headers
  body := if wire.body.isEmpty then none else some wire.body
  subject := wire.subject.getD .anonymous

/-- The id of a request: the client's if it is readable and not empty, else a fresh one. -/
def WireRequest.id (wire : WireRequest) (fresh : String) : String :=
  match (wire.headers.get? Field.requestId).bind visibleText? with
  | some id => if id.isEmpty then fresh else id
  | none => fresh

/-! ## Answering -/

/-- States the length of the body, unless the answer does already. -/
def withLength (response : Response) : Response :=
  match response.headers.get? Field.contentLength with
  | some _ => response
  | none => response.setHeader Field.contentLength (Text.natText response.body.length)

/-- An answer that explains why a path cannot be used. -/
def pathRefusal (status : Status) (explanation : String) : Response :=
  { (Response.ofStatus status).setHeader Field.contentType "text/plain; charset=utf-8" with
    body := Utf8.encode explanation }

/-- The answer to a path with a part that is not UTF-8. -/
def unreadablePath (name : String) : Response :=
  pathRefusal .badRequest ("Invalid URL: Invalid UTF-8 in `" ++ name ++ "`")

/-- The answer to a path of which more than the remainder was captured. -/
def dividedPath (parts : Nat) : Response :=
  pathRefusal .internalServerError
    ("Wrong number of path arguments for `Path`. Expected 1 but got " ++ Text.natText parts ++
      ". Note that multiple parameters must be extracted with a tuple `Path<(_, _)>` " ++
      "or a struct `Path<YourParams>`")

/-- Routes a request that came over the wire. -/
def Service.route (service : Service) (contextPath : String) (wire : WireRequest)
    (pool : WorkerPool := .working) : Handler Response :=
  let uri := Uri.parse wire.target
  match Mounted.of contextPath uri.path with
  | .rootless => .done (withLength (.ofStatus .notFound))
  | .outside => .done (.ofStatus .notFound)
  | .unreadable name => .done (withLength (unreadablePath name))
  | .divided parts => .done (withLength (dividedPath parts))
  | .inside path => do return withLength (← service.dispatch (wire.decode path uri.query) pool)

/-- The source that is logged for an answer without an error report. -/
def unknownSource : String := "unknown"

/-- The log event for an answer. -/
def outcomeEvent (line : RequestLine) (report : Option ErrorReport) : Event :=
  let source := (report.map ErrorReport.source).getD unknownSource
  let messages := (report.map ErrorReport.messages).getD []
  let detail := messages.headD "no diagnostic available"
  if line.status.isServerError then .requestFailed line source detail messages
  else if line.status.isClientError then .requestRefused line source detail
  else .requestCompleted line

/-- What is logged about a request. -/
def WireRequest.line (wire : WireRequest) (requestId : String) (status : Status) : RequestLine where
  status
  method := wire.method
  path := (Uri.parse wire.target).path
  query := (Uri.parse wire.target).query.getD ""
  requestId
  subject := wire.subject.getD .anonymous

/-- The encoded form of an answer. -/
def encodeResponse (method : Method) (requestId : String) (response : Response) : WireResponse :=
  let tagged := response.setHeader Field.requestId requestId
  ⟨tagged.status, tagged.headers, (bodyFor method tagged).body⟩

/-- Serves one request; `fresh` is the id it gets if it brings none. -/
def Service.serve (service : Service) (contextPath fresh : String) (wire : WireRequest)
    (pool : WorkerPool := .working) : Handler WireResponse := do
  let requestId := wire.id fresh
  let response ← service.route contextPath wire pool
  Handler.log (outcomeEvent (wire.line requestId response.status) response.report) (pure ())
  return encodeResponse wire.method requestId response

end CacheGate
