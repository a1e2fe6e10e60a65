import CacheGate.MediaType.Basic

/-!
# Reading media types

`MediaType.parse` reads one media type: the type in front of the first
semicolon, then parameters of the form `name=value`, blank ones skipped,
names in lower case, quotes around values removed.
-/

namespace CacheGate.MediaType

/-- Why a text is not a media type or a list of them. -/
inductive ParseError where
  | empty
  | missingSubtype (essence : String)
  | invalidParameter (param : String)
  | invalidQuality (value : String)
  deriving DecidableEq, Repr

/-- The text of an error. -/
def ParseError.message : ParseError → String
  | .empty => "empty media type"
  | .missingSubtype essence => s!"media type `{essence}` is missing a subtype"
  | .invalidParameter param => s!"invalid media type parameter `{param}`"
  | .invalidQuality value => s!"invalid quality value `{value}`"

/-- Reads one parameter, already trimmed. -/
def parseParam (cs : List Char) : Except ParseError (String × String) :=
  match Text.cut? '=' cs with
  | none => .error (.invalidParameter (String.ofList cs))
  | some (name, value) =>
    let name := Text.trim name
    if name.isEmpty then .error (.invalidParameter (String.ofList cs))
    else .ok (String.ofList (Text.lower name), String.ofList (Text.unquote (Text.trim value)))

/-- The parameters among the pieces behind the type; blank pieces are skipped. -/
def parseParams (pieces : List (List Char)) : Except ParseError (List (String × String)) :=
  ((pieces.map Text.trim).filter (!·.isEmpty)).mapM parseParam

/-- Splits a text into the trimmed type and the parameters. -/
def splitParams (cs : List Char) : Except ParseError (List Char × List (String × String)) :=
  match cs.splitOn ';' with
  | [] => .error .empty
  | first :: pieces =>
    let essence := Text.trim first
    if essence.isEmpty then .error .empty
    else (parseParams pieces).map fun params => (essence, params)

/-- The media type with the given type text and parameters. A star alone or
on both sides is the full range, whatever its parameters. -/
def build (essence : List Char) (params : List (String × String)) : Except ParseError MediaType :=
  if essence = ['*'] || essence = ['*', '/', '*'] then .ok .any
  else match Text.cut? '/' essence with
    | none => .error (.missingSubtype (String.ofList essence))
    | some (primary, sub) =>
      let primary := Text.trim primary
      let sub := Text.trim sub
      if primary.isEmpty || sub.isEmpty then .error (.missingSubtype (String.ofList essence))
      else
        .ok (.named (String.ofList (Text.lower primary)) (String.ofList (Text.lower sub)) params)

/-- Reads a media type. -/
def parse (raw : String) : Except ParseError MediaType := do
  let (essence, params) ← splitParams raw.toList
  build essence params

end CacheGate.MediaType
