import CacheGate.Text.Trim

/-!
# Media types

Media types as `Accept`, `Content-Type` and `Key-Content-Type` carry them. The
range that matches everything is a constructor of its own, so decisions on it
are matches and not text comparisons. Names are kept in lower case and
parameter values as they were written.
-/

namespace CacheGate

/-- A media type or a range of media types, with its parameters in order. -/
inductive MediaType where
  /-- The range that matches every media type. -/
  | any
  | named (primary sub : String) (params : List (String × String))
  deriving DecidableEq, Repr

namespace MediaType

/-- A media type without parameters. -/
def plain (primary sub : String) : MediaType :=
  .named (Text.lowered primary) (Text.lowered sub) []

/-! ## Well-known types -/

def textPlain : MediaType := .named "text" "plain" []

def json : MediaType := .named "application" "json" []

def xml : MediaType := .named "application" "xml" []

def octetStream : MediaType := .named "application" "octet-stream" []

/-- Objects in their in-memory form. -/
def object : MediaType := .named "application" "x-java-object" []

/-- Objects in the binary exchange format. -/
def protostream : MediaType := .named "application" "x-protostream" []

/-! ## Parameters -/

/-- The value of the first parameter with the given name. -/
def param? : MediaType → String → Option String
  | .any, _ => none
  | .named _ _ params, name => (params.find? fun param => Text.sameName param.1 name).map (·.2)

/-- Replaces every parameter of the given name by one at the end. -/
def withParam : MediaType → String → String → MediaType
  | .any, _, _ => .any
  | .named primary sub params, name, value =>
    .named primary sub
      (params.filter (fun param => !Text.sameName param.1 name) ++ [(Text.lowered name, value)])

/-- The character set parameter. -/
def charset? (media : MediaType) : Option String := media.param? "charset"

/-- All parameters in order. -/
def params : MediaType → List (String × String)
  | .any => []
  | .named _ _ params => params

/-- The type without its parameters. -/
def essence : MediaType → MediaType
  | .any => .any
  | .named primary sub _ => .plain primary sub

/-! ## Ranges -/

/-- Whether this is the range that matches everything. -/
def isAny : MediaType → Bool
  | .any => true
  | .named .. => false

/-- Whether neither half is a star, so that a body can be of this type. -/
def isConcrete : MediaType → Bool
  | .any => false
  | .named primary sub _ => primary != "*" && sub != "*"

/-- Whether two types or ranges overlap, parameters aside. A star as subtype
matches every subtype of the same primary type; the relation is symmetric. -/
def overlaps : MediaType → MediaType → Bool
  | .named primary sub _, .named primary' sub' _ =>
    primary == primary' && (sub == "*" || sub' == "*" || sub == sub')
  | _, _ => true

/-! ## Writing -/

/-- One parameter as it follows the type. -/
def paramText (param : String × String) : String := "; " ++ param.1 ++ "=" ++ param.2

/-- The text of a media type. -/
def text : MediaType → String
  | .any => "*/*"
  | .named primary sub params => primary ++ "/" ++ sub ++ String.join (params.map paramText)

end MediaType

end CacheGate
