import CacheGate.Json.Quoted
import CacheGate.Negotiation
import CacheGate.Xml

/-!
# Key listings

The keys of a cache are listed as a JSON array, as lines of text or as an XML
document, in UTF-8 or Latin-1. `negotiateListing` picks format and character
set, `KeysFormat.render` writes the names and `Charset.encode` the bytes.
-/

namespace CacheGate

/-! ## Character sets -/

/-- The character sets a listing can be sent in. -/
inductive Charset where
  | utf8
  | latin1
  deriving DecidableEq, Repr

namespace Charset

/-- The character set a parameter names; without one it is UTF-8. -/
def ofParam? : Option String → Except AccessError Charset
  | none => .ok .utf8
  | some name =>
    match Text.lowered name with
    | "utf-8" | "utf8" => .ok .utf8
    | "iso-8859-1" | "latin1" | "iso_8859_1" => .ok .latin1
    | _ => .error (.unsupportedCharset name)

/-- The name that responses announce. -/
def name : Charset → String
  | .utf8 => "utf-8"
  | .latin1 => "iso-8859-1"

/-- The Latin-1 byte of a character; characters outside become question marks. -/
def latin1Byte (c : Char) : UInt8 := if c.toNat ≤ 0xFF then UInt8.ofNat c.toNat else 0x3F

/-- The bytes of a text. -/
def encode (charset : Charset) (text : String) : Bytes :=
  match charset with
  | .utf8 => Utf8.encode text
  | .latin1 => text.toList.map latin1Byte

end Charset

/-! ## Formats -/

/-- The renderings of a key listing. -/
inductive KeysFormat where
  | json
  | text
  | xml
  deriving DecidableEq, Repr

namespace KeysFormat

/-- All renderings, the preferred ones first. -/
def all : List KeysFormat := [.json, .text, .xml]

/-- The media type of a rendering. -/
def mediaType : KeysFormat → MediaType
  | .json => .json
  | .text => .textPlain
  | .xml => .xml

/-- The name of a rendering in the log. -/
def label : KeysFormat → String
  | .json => "Json"
  | .text => "Text"
  | .xml => "Xml"

/-- One line per name. -/
def line (name : String) : List Char := name.toList ++ ['\n']

/-- One element per name. -/
def element (name : String) : List Char :=
  "<key>".toList ++ Xml.escape name.toList ++ "</key>".toList

/-- Writes the names of keys. -/
def render (format : KeysFormat) (names : List String) : String :=
  String.ofList <|
    match format with
    | .json => Json.quoteAll (names.map String.toList)
    | .text => names.flatMap line
    | .xml => "<?xml version=\"1.0\"?><keys>".toList ++ names.flatMap element ++ "</keys>".toList

/-- The rendering that a narrowed candidate asks for. -/
def ofCandidate? (candidate : MediaType) : Option KeysFormat :=
  if candidate.isAny then some .json
  else all.find? fun format => format.mediaType.overlaps candidate

end KeysFormat

/-! ## Negotiation -/

/-- Picks rendering and character set from the first candidate that the cache
supports and that some rendering fits. -/
def chooseListing (accept : Option String) (conversion : ValueConversion) :
    List MediaType → Except AccessError (KeysFormat × Charset)
  | [] => .error (.unacceptable accept)
  | candidate :: rest =>
    if conversion.supports candidate then
      let candidate := narrow candidate conversion.storage
      match KeysFormat.ofCandidate? candidate with
      | some format => (Charset.ofParam? candidate.charset?).map fun charset => (format, charset)
      | none => chooseListing accept conversion rest
    else chooseListing accept conversion rest

/-- Picks rendering and character set of a key listing. -/
def negotiateListing (accept : Option String) (conversion : ValueConversion) :
    Except AccessError (KeysFormat × Charset) := do
  chooseListing accept conversion (← candidates accept)

end CacheGate
