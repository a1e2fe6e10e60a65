import CacheGate.AccessError
import CacheGate.MediaType.Parser
import CacheGate.Store.Caller

/-!
# Requests

A request as handlers see it, whatever transport it came over. The path is
relative to the caches, such as `c1/k`.
-/

namespace CacheGate.Http

/-- One request. No body at all differs from an empty one. -/
structure Request where
  method : Method
  path : String
  query : List (String × String)
  headers : Headers Bytes
  body : Option Bytes
  subject : Subject
  deriving DecidableEq, Repr

namespace Request

/-- A request without query, headers, body and identity. -/
def of (method : Method) (path : String) : Request :=
  ⟨method, path, [], .empty, none, .anonymous⟩

/-- Sets a header; a text that no header can carry is ignored. -/
def withHeader (request : Request) (name value : String) : Request :=
  if isFieldText value then
    { request with headers := request.headers.insert name (Utf8.encode value) }
  else request

/-- The text of a header, trimmed. A blank value and one with other bytes
than visible ASCII, spaces and tabs read as absent. -/
def header? (request : Request) (name : String) : Option String := do
  let value ← request.headers.get? name
  let text ← visibleText? value
  Text.nonBlank? text

/-- The value of a query parameter; the last of several counts. -/
def param? (request : Request) (name : String) : Option String :=
  request.query.reverse.lookup name

/-- The formats the client accepts. -/
def accept? (request : Request) : Option String := request.header? Field.accept

/-- The action asked for on a cache path. -/
def action? (request : Request) : Option String := request.param? "action"

/-- The wish for placement headers. -/
def extended? (request : Request) : Option String := request.param? "extended"

/-- Reads a media type from a header, if the header is there. `label` names
the header in the failure. -/
def mediaType? (request : Request) (name label : String) :
    Except AccessError (Option MediaType) :=
  match request.header? name with
  | none => .ok none
  | some raw =>
    match MediaType.parse raw with
    | .ok media => .ok (some media)
    | .error error => .error (.invalidHeader label error.message)

/-- The declared type of the body. -/
def contentType (request : Request) : Except AccessError (Option MediaType) :=
  request.mediaType? Field.contentType "Content-Type"

/-- The declared type of the key; keys are plain text unless declared otherwise. -/
def keyContentType (request : Request) : Except AccessError MediaType :=
  (request.mediaType? Field.keyContentType "Key-Content-Type").map (·.getD .textPlain)

end Request

end CacheGate.Http
