import CacheGate.AccessError
import CacheGate.MediaType.Accept
import CacheGate.Store.Conversion

/-!
# Content negotiation

`negotiate` picks the response format of an entry read from what the client
accepts and what the cache can produce. The choice may stay a range, when the
client takes anything and the storage has no preferred rendering, or when the
cache converts nothing; `settle` replaces a range once the value is known.
-/

namespace CacheGate

/-- The formats the client accepts, the preferred ones first. No header
accepts anything; a header that cannot be read accepts nothing. -/
def candidates : Option String → Except AccessError (List MediaType)
  | none => .ok [.any]
  | some header =>
    match MediaType.parseList header with
    | .ok found => .ok found
    | .error _ => .error (.unacceptable (some header))

/-- Replaces the full range by the natural rendering of the two storage
formats for objects. -/
def narrow (chosen : MediaType) (storage : Option MediaType) : MediaType :=
  match chosen with
  | .named .. => chosen
  | .any =>
    let essence := storage.map MediaType.essence
    if essence = some .object then .textPlain
    else if essence = some .protostream then .json
    else .any

/-- Replaces a range within one primary type by the first readable format in it. -/
def firstReadable (chosen : MediaType) (conversion : ValueConversion) : MediaType :=
  if chosen.isAny || chosen.isConcrete then chosen
  else (conversion.readable.find? fun readable => readable.overlaps chosen).getD chosen

/-- Picks the response format of an entry read: the first candidate that the
cache can produce, narrowed. -/
def negotiate (accept : Option String) (conversion : ValueConversion) :
    Except AccessError MediaType := do
  match (← candidates accept).find? conversion.supports with
  | none => throw (.unacceptable accept)
  | some chosen => return firstReadable (narrow chosen conversion.storage) conversion

/-- The rendering of a value that no client preference decides: the storage
format, else plain text for UTF-8 and raw bytes for anything else. -/
def defaultRendering (storage : Option MediaType) (value : Bytes) : MediaType :=
  match storage.filter MediaType.isConcrete with
  | some format => format
  | none => if (Utf8.decode? value).isSome then .textPlain else .octetStream

/-- The concrete response format for a value. A range takes the default
rendering if that falls inside it. -/
def settle (negotiated : MediaType) (storage : Option MediaType) (value : Bytes)
    (accept : Option String) : Except AccessError MediaType :=
  if negotiated.isConcrete then .ok negotiated
  else if negotiated.overlaps (defaultRendering storage value) then
    .ok (defaultRendering storage value)
  else .error (.unacceptable accept)

end CacheGate
