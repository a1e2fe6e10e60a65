import CacheGate.Http.Method
import CacheGate.Log.Quoted
import CacheGate.Store.Caller

/-!
# Log events and metrics

What the service reports about its work. An `Event` says what happened;
`Event.record` is the line that a log shows for it, with level, target,
message and fields. A `Metric` is one count or measurement.
-/

namespace CacheGate

open Http

/-- The weight of a log line. -/
inductive Level where
  | trace
  | debug
  | warn
  | error
  deriving DecidableEq, Repr

/-- The name of a level. -/
def Level.label : Level → String
  | .trace => "TRACE"
  | .debug => "DEBUG"
  | .warn => "WARN"
  | .error => "ERROR"

/-- The value of a log field. -/
inductive FieldValue where
  | text (value : String)
  | number (value : Nat)
  | flag (value : Bool)
  deriving DecidableEq, Repr

/-- One line of the log. -/
structure LogRecord where
  level : Level
  target : String
  message : String
  fields : List (String × FieldValue)
  deriving DecidableEq, Repr

/-- What a request log line says about the request. -/
structure RequestLine where
  status : Status
  method : Method
  path : String
  query : String
  requestId : String
  subject : Subject
  deriving DecidableEq, Repr

/-- What happened while the service was set up or handled a request. -/
inductive Event where
  /-- A cache was defined. -/
  | definedCache (cache : String) (storage : Option String)
  /-- An expired entry was dropped when it was looked at. -/
  | evicted (key : String)
  | storeGet (cache : String) (subject : Subject)
  | storePut (cache : String) (subject : Subject) (bytes : Nat)
  | storeClear (cache : String) (subject : Subject) (entries : Nat)
  | storeEntry (cache : String) (context : ExecutionContext)
  /-- An internal read of an entry is about to happen. -/
  | internalRead (cache : String) (context : ExecutionContext)
  | dispatched (method : Method) (cache operation : String)
  | evaluatedRead (cache : String) (attempt : Nat) (verdict : String)
  | entryChanged (cache : String) (attempt : Nat)
  | evaluatedWrite (cache keyType verdict : String)
  | evaluatedDelete (cache verdict : String)
  /-- A job was given to the worker pool, which has `available` places left. -/
  | startedJob (available : Nat)
  | listedKeys (cache : String) (count : Nat) (format : String)
  /-- A header was left out because no header can carry its value. -/
  | droppedHeader (header value : String)
  | requestCompleted (line : RequestLine)
  | requestRefused (line : RequestLine) (source detail : String)
  | requestFailed (line : RequestLine) (source detail : String) (chain : List String)
  deriving DecidableEq, Repr

namespace Subject

/-- The caller as the store logs it. -/
def logName (subject : Subject) : String := subject.name.getD "anonymous"

end Subject

namespace RequestLine

/-- The fields that every request log line has. -/
def fields (line : RequestLine) : List (String × FieldValue) :=
  [("status", .number line.status.code), ("method", .text line.method.token),
    ("path", .text line.path), ("request_id", .text line.requestId)]

/-- The further fields of an unsuccessful request. -/
def failureFields (line : RequestLine) (source detail : String) : List (String × FieldValue) :=
  line.fields ++
    [("query", .text line.query), ("source", .text source), ("detail", .text detail),
      ("subject", .text (line.subject.name.getD ""))]

end RequestLine

namespace Event

/-! ## Targets -/

def memoryTarget : String := "infra::memory"

def resourceTarget : String := "restcache::resource"

def responseTarget : String := "restcache::http::response"

/-- The log line of an event. -/
def record : Event → LogRecord
  | .definedCache cache storage =>
    ⟨.debug, memoryTarget, "defining cache",
      [("cache", .text cache), ("storage", .text (Log.optional storage))]⟩
  | .evicted key => ⟨.trace, memoryTarget, "evicted expired entry", [("key", .text key)]⟩
  | .storeGet cache subject =>
    ⟨.trace, memoryTarget, "get", [("cache", .text cache), ("subject", .text subject.logName)]⟩
  | .storePut cache subject bytes =>
    ⟨.trace, memoryTarget, "put",
      [("cache", .text cache), ("subject", .text subject.logName), ("bytes", .number bytes)]⟩
  | .storeClear cache subject entries =>
    ⟨.debug, memoryTarget, "clearing cache",
      [("cache", .text cache), ("subject", .text subject.logName), ("entries", .number entries)]⟩
  | .storeEntry cache context =>
    ⟨.trace, memoryTarget, "internal entry",
      [("cache", .text cache), ("principal", .text (context.principal?.getD "service"))]⟩
  | .internalRead cache context =>
    ⟨.trace, "restcache::privileged", "internal entry read",
      [("cache", .text cache), ("elevated", .flag context.isElevated)]⟩
  | .dispatched method cache operation =>
    ⟨.debug, "restcache::router", "dispatching cache request",
      [("method", .text method.token), ("cache", .text cache), ("operation", .text operation)]⟩
  | .evaluatedRead cache attempt verdict =>
    ⟨.debug, resourceTarget, "evaluated read",
      [("cache", .text cache), ("attempt", .number attempt), ("verdict", .text verdict)]⟩
  | .entryChanged cache attempt =>
    ⟨.debug, resourceTarget, "entry changed during read",
      [("cache", .text cache), ("attempt", .number attempt)]⟩
  | .evaluatedWrite cache keyType verdict =>
    ⟨.debug, resourceTarget, "evaluated write",
      [("cache", .text cache), ("key_type", .text keyType), ("verdict", .text verdict)]⟩
  | .evaluatedDelete cache verdict =>
    ⟨.debug, resourceTarget, "evaluated delete",
      [("cache", .text cache), ("verdict", .text verdict)]⟩
  | .startedJob available =>
    ⟨.debug, "restcache::coordinator", "dispatching job", [("available", .number available)]⟩
  | .listedKeys cache count format =>
    ⟨.debug, resourceTarget, "listed keys",
      [("cache", .text cache), ("count", .number count), ("format", .text format)]⟩
  | .droppedHeader header value =>
    ⟨.warn, "restcache::exchange", "dropping header with non-visible characters",
      [("header", .text header), ("value", .text value)]⟩
  | .requestCompleted line => ⟨.debug, responseTarget, "request completed", line.fields⟩
  | .requestRefused line source detail =>
    ⟨.warn, responseTarget, "client request error", line.failureFields source detail⟩
  | .requestFailed line source detail chain =>
    ⟨.error, responseTarget, "request failed",
      line.failureFields source detail ++ [("chain", .text (Log.listed chain))]⟩

end Event

/-! ## Metrics -/

/-- One count or measurement. -/
inductive Metric where
  /-- A request was answered. -/
  | request (operation outcome : String)
  /-- A key listing was written; the value is the time it took. -/
  | listingTime
  deriving DecidableEq, Repr

/-- The name of a metric. -/
def Metric.name : Metric → String
  | .request .. => "restcache_requests_total"
  | .listingTime => "restcache_keys_serialize_ms"

/-- The labels of a metric. -/
def Metric.labels : Metric → List (String × String)
  | .request operation outcome => [("operation", operation), ("outcome", outcome)]
  | .listingTime => []

end CacheGate
