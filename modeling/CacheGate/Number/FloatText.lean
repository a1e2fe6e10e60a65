import CacheGate.Text.Decimal
import CacheGate.Text.Trim

/-!
# Floating-point numerals

The numerals that weights and settings are written in: an optional sign, then
digits with at most one point and at least one digit, then an optional
exponent with at least one digit; or one of the words `inf`, `infinity` and
`nan` in any case.
-/

namespace CacheGate.Number

/-- What a numeral denotes, before any rounding. A finite one stands for
`significand * 10 ^ exponent`. -/
inductive FloatText where
  | finite (negative : Bool) (significand : Nat) (exponent : Int)
  | infinite (negative : Bool)
  | nan
  deriving DecidableEq, Repr

namespace FloatText

/-- The exponent after the digits: nothing, or `e` with an integer. -/
def exponent? : List Char → Option Int
  | [] => some 0
  | c :: rest => if c = 'e' || c = 'E' then Text.integer? rest else none

/-- A numeral without its sign. -/
def unsigned? (negative : Bool) (cs : List Char) : Option FloatText := do
  let whole := cs.takeWhile Char.isDigit
  let (fraction, rest) := match cs.dropWhile Char.isDigit with
    | '.' :: after => (after.takeWhile Char.isDigit, after.dropWhile Char.isDigit)
    | rest => ([], rest)
  let significand ← Text.natural? (whole ++ fraction)
  let exponent ← exponent? rest
  return .finite negative significand (exponent - fraction.length)

/-- The three words of the grammar. -/
def word? (negative : Bool) (cs : List Char) : Option FloatText :=
  match String.ofList (Text.lower cs) with
  | "inf" | "infinity" => some (.infinite negative)
  | "nan" => some .nan
  | _ => none

/-- Reads a numeral; the whole text has to be one. -/
def parse? (cs : List Char) : Option FloatText :=
  let (negative, rest) := match cs with
    | '-' :: rest => (true, rest)
    | '+' :: rest => (false, rest)
    | _ => (false, cs)
  unsigned? negative rest <|> word? negative rest

end FloatText

end CacheGate.Number
