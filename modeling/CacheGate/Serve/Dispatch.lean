import CacheGate.Route
import CacheGate.Serve.Change
import CacheGate.Serve.Listing
import CacheGate.Serve.Read

/-!
# Dispatching requests

`Service.dispatch` resolves the route of a request, runs the handler and
counts the request exactly once, under the operation and a label for its
outcome. Failures become answers here.
-/

namespace CacheGate

open Http

/-- The outcome label of an answer that is no failure. -/
def statusOutcome (status : Status) : String :=
  if status = .ok || status = .created then "ok"
  else if status = .notModified then "not_modified"
  else if status = .notFound then "not_found"
  else if status = .conflict then "conflict"
  else if status = .preconditionFailed then "precondition_failed"
  else if status = .methodNotAllowed then "method_not_allowed"
  else if status = .notImplemented then "not_implemented"
  else if status.isClientError then "client_error"
  else "server_error"

/-- The value of an `Allow` header. -/
def allowValue (allowed : List Method) : String :=
  String.intercalate ", " (allowed.map Method.token)

/-- The answer to a request without a route. -/
def RouteError.response : RouteError → Response
  | .notFound => .ofStatus .notFound
  | .methodNotAllowed allowed =>
    (Response.ofStatus .methodNotAllowed).setHeader Field.allow (allowValue allowed)
  | .noKey => AccessError.noKey.response
  | .unknownAction action => (AccessError.unknownAction action).response

/-- The operation label of requests without a route. -/
def unroutedLabel : String := "unrouted"

/-- Runs the handler of an operation. -/
def Service.perform (service : Service) (request : Request) (operation : Operation)
    (cache key : String) (pool : WorkerPool := .working) : Answering Response :=
  match operation with
  | .read => service.read request cache key
  | .write => service.write request cache key
  | .delete => service.delete request cache key
  | .clear => Service.clear request cache
  | .keys => service.keys request cache pool
  | .search => Answering.ofExcept (service.queries cache request)

/-- The outcome label of a result. -/
def outcomeOf : Except AccessError Response → String
  | .ok response => statusOutcome response.status
  | .error error => error.outcome

/-- The answer that a result becomes. -/
def answerOf : Except AccessError Response → Response
  | .ok response => response
  | .error error => error.response

/-- Answers a request and counts it. -/
def Service.dispatch (service : Service) (request : Request) (pool : WorkerPool := .working) :
    Handler Response :=
  match Route.resolve request.method request.path request.action? with
  | .error error =>
    let response := error.response
    .count (.request unroutedLabel (statusOutcome response.status)) (.done response)
  | .ok route =>
    .log (.dispatched request.method route.cache route.operation.label) do
      let result ← ExceptT.run <|
        service.perform request route.operation route.cache (route.key.getD "") pool
      .count (.request route.operation.label (outcomeOf result)) (.done (answerOf result))

end CacheGate
