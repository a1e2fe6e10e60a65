import CacheGate.Number.Double

/-!
# JSON values

Settings files are JSON texts. A whole number that 64 bits can hold is kept
exactly; any other number is a double. Objects hold each name once.
-/

namespace CacheGate

/-- A JSON value. -/
inductive Json where
  | null
  | bool (value : Bool)
  | integer (value : Int)
  | float (value : Number.Double)
  | string (value : String)
  | array (items : List Json)
  | object (fields : List (String × Json))
  deriving Repr, Inhabited

namespace Json

/-- The value of a field of an object. -/
def field? : Json → String → Option Json
  | .object fields, name => fields.lookup name
  | _, _ => none

/-- Sets a field among others, in place of an earlier value. -/
def setField (fields : List (String × Json)) (name : String) (value : Json) :
    List (String × Json) :=
  if fields.any fun field => field.1 == name then
    fields.map fun field => if field.1 == name then (name, value) else field
  else fields ++ [(name, value)]

end Json

end CacheGate
