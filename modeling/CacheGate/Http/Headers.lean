import CacheGate.Text.Trim
import CacheGate.Text.Utf8

/-!
# Header fields

Header fields are kept in order under lower-case names. Request values are
raw bytes, since clients may send anything; response values are texts, since
this library writes them. Of a repeated field the first one counts.
-/

namespace CacheGate.Http

/-- Header fields in order, with names in lower case. -/
structure Headers (α : Type) where
  fields : List (String × α)
  deriving DecidableEq, Repr

namespace Headers

variable {α : Type}

/-- No fields. -/
def empty : Headers α := ⟨[]⟩

/-- The first value of a field. -/
def get? (headers : Headers α) (name : String) : Option α :=
  headers.fields.lookup (Text.lowered name)

/-- Sets a field, in place of all earlier values of it. -/
def insert (headers : Headers α) (name : String) (value : α) : Headers α :=
  let name := Text.lowered name
  ⟨headers.fields.filter (fun field => field.1 != name) ++ [(name, value)]⟩

/-- Adds a value behind earlier values of the field. -/
def append (headers : Headers α) (name : String) (value : α) : Headers α :=
  ⟨headers.fields ++ [(Text.lowered name, value)]⟩

end Headers

/-! ## Values -/

/-- Whether a byte may stand in a header value: no control byte but the tab. -/
def isFieldByte (b : UInt8) : Bool := (0x20 ≤ b && b != 0x7F) || b == 0x09

/-- Whether a text may be sent as a header value. -/
def isFieldText (value : String) : Bool := (Utf8.encode value).all isFieldByte

/-- The text of a value of visible ASCII characters, spaces and tabs. -/
def visibleText? (value : Bytes) : Option String :=
  if value.all fun b => (0x20 ≤ b && b ≤ 0x7E) || b == 0x09 then
    some (String.ofList (value.map fun b => Char.ofNat b.toNat))
  else none

/-! ## Names -/

namespace Field

def accept : String := "accept"

def allow : String := "allow"

def cacheControl : String := "cache-control"

def contentLength : String := "content-length"

def contentType : String := "content-type"

def etag : String := "etag"

def expires : String := "expires"

def ifMatch : String := "if-match"

def ifModifiedSince : String := "if-modified-since"

def ifNoneMatch : String := "if-none-match"

def ifUnmodifiedSince : String := "if-unmodified-since"

def lastModified : String := "last-modified"

def requestId : String := "x-request-id"

/-- The media type that a key is declared with. -/
def keyContentType : String := "key-content-type"

/-- The lifespan of an entry in seconds. -/
def timeToLive : String := "timetoliveseconds"

/-- The idle time of an entry in seconds. -/
def maxIdle : String := "maxidletimeseconds"

/-- Creation in milliseconds since 1970. -/
def created : String := "created"

/-- Last use in milliseconds since 1970. -/
def lastUsed : String := "last-used"

def primaryOwner : String := "cluster-primary-owner"

def nodeName : String := "cluster-node-name"

def serverAddress : String := "cluster-server-address"

end Field

end CacheGate.Http
