/-!
# Escaping in XML text

The five predefined entities of XML, so that any text can stand inside an
element.
-/

namespace CacheGate.Xml

/-- A character inside an element. -/
def escapeChar : Char → List Char
  | '&' => "&amp;".toList
  | '<' => "&lt;".toList
  | '>' => "&gt;".toList
  | '"' => "&quot;".toList
  | '\'' => "&apos;".toList
  | c => [c]

/-- A text inside an element. -/
def escape (cs : List Char) : List Char := cs.flatMap escapeChar

end CacheGate.Xml
