import CacheGate.MediaType.Parser
import CacheGate.Number.FloatText
import CacheGate.Number.Rounding

/-!
# Lists of acceptable media types

`MediaType.parseList` reads an `Accept` header into candidates, the preferred
ones first. The first parameter `q` of an element is its weight, a number from
0 to 1 in 32-bit precision; without one the weight is 1. Elements of equal
weight keep their order, elements of weight 0 are dropped.
-/

namespace CacheGate.MediaType

/-- A weight, as a multiple of the least positive 32-bit value. -/
abbrev Weight := Nat

/-- The weight of an element that states none. -/
def fullWeight : Weight := Number.twoTo Number.binary32.scale

/-- Reads a weight from 0 to 1. A negative number that rounds to zero is one. -/
def parseWeight? (value : String) : Option Weight :=
  match Number.FloatText.parse? value.toList with
  | some (.finite negative significand exponent) =>
    (Number.binary32.roundDecimal significand exponent).filter fun weight =>
      weight ≤ fullWeight && (!negative || weight == 0)
  | _ => none

/-- One element of a list with its weight. -/
structure Ranked where
  weight : Weight
  media : MediaType
  deriving DecidableEq, Repr

/-- Whether a parameter is a weight. -/
def isWeightParam (param : String × String) : Bool := param.1 == "q"

/-- The weight among the parameters of an element. -/
def weightOf (params : List (String × String)) : Except ParseError Weight :=
  match params.find? isWeightParam with
  | none => .ok fullWeight
  | some (_, value) =>
    match parseWeight? value with
    | some weight => .ok weight
    | none => .error (.invalidQuality value)

/-- Reads one element; only its first weight is taken out of the parameters. -/
def parseRanked (cs : List Char) : Except ParseError Ranked := do
  let (essence, params) ← splitParams cs
  let weight ← weightOf params
  let media ← build essence (params.eraseP isWeightParam)
  return ⟨weight, media⟩

/-- The non-blank elements of a list. -/
def elements (header : String) : List (List Char) :=
  (header.toList.splitOn ',').filter fun cs => !(Text.trim cs).isEmpty

/-- Reads a list of acceptable types, in order of preference. -/
def parseList (header : String) : Except ParseError (List MediaType) := do
  let ranked ← (elements header).mapM parseRanked
  let accepted := ranked.filter fun element => 0 < element.weight
  if accepted.isEmpty then throw .empty
  return (accepted.mergeSort fun left right => right.weight ≤ left.weight).map (·.media)

end CacheGate.MediaType
