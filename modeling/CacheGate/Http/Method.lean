/-!
# Request methods and response statuses
-/

namespace CacheGate.Http

/-- A request method. Tokens are case-sensitive; any other token than the
five that are served is kept as it is. -/
inductive Method where
  | get
  | head
  | put
  | post
  | delete
  | other (token : String)
  deriving DecidableEq, Repr

namespace Method

/-- The method a token names. -/
def ofToken : String → Method
  | "GET" => .get
  | "HEAD" => .head
  | "PUT" => .put
  | "POST" => .post
  | "DELETE" => .delete
  | token => .other token

/-- The token of a method. -/
def token : Method → String
  | .get => "GET"
  | .head => "HEAD"
  | .put => "PUT"
  | .post => "POST"
  | .delete => "DELETE"
  | .other token => token

end Method

/-- A response status. -/
structure Status where
  code : Nat
  deriving DecidableEq, Repr

namespace Status

def ok : Status := ⟨200⟩

def created : Status := ⟨201⟩

def notModified : Status := ⟨304⟩

def badRequest : Status := ⟨400⟩

def notFound : Status := ⟨404⟩

def methodNotAllowed : Status := ⟨405⟩

def notAcceptable : Status := ⟨406⟩

def conflict : Status := ⟨409⟩

def preconditionFailed : Status := ⟨412⟩

def unsupportedMediaType : Status := ⟨415⟩

def internalServerError : Status := ⟨500⟩

def notImplemented : Status := ⟨501⟩

/-- Whether the status blames the client. -/
def isClientError (status : Status) : Bool := 400 ≤ status.code && status.code < 500

/-- Whether the status blames the server. -/
def isServerError (status : Status) : Bool := 500 ≤ status.code && status.code < 600

end Status

end CacheGate.Http
