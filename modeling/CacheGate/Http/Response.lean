import CacheGate.Http.Headers
import CacheGate.Http.Method
import CacheGate.MediaType.Basic

/-!
# Responses

A response as handlers build it, before it is encoded for the wire. The error
report that may come with it is for the request log only; the encoded answer
does not contain it.
-/

namespace CacheGate.Http

/-- What the request log says about a failed request. -/
structure ErrorReport where
  source : String
  status : Status
  messages : List String
  deriving DecidableEq, Repr

/-- The answer to one request. -/
structure Response where
  status : Status
  headers : Headers String
  body : Bytes
  report : Option ErrorReport
  deriving DecidableEq, Repr

namespace Response

/-- A response with a status alone. -/
def ofStatus (status : Status) : Response := ⟨status, .empty, [], none⟩

/-- Sets a header. A value that no header can carry is left out, and an
earlier value is then kept. -/
def setHeader (response : Response) (name value : String) : Response :=
  if isFieldText value then { response with headers := response.headers.insert name value }
  else response

/-- Attaches a body with its type. -/
def entity (response : Response) (contentType : MediaType) (body : Bytes) : Response :=
  { response.setHeader Field.contentType contentType.text with body }

/-- Attaches a short message in plain text. -/
def diagnostic (response : Response) (message : String) : Response :=
  response.entity .textPlain (Utf8.encode message)

end Response

end CacheGate.Http
