import CacheGate.Json.Basic
import CacheGate.Json.Quoted

/-!
# Writing JSON

`Json.text` writes a value without blanks, so that it can be read back. Whole
numbers are written in full. Doubles are written with the fewest digits that
determine them, and with a point or an exponent that tells them from whole
numbers.
-/

namespace CacheGate.Json

/-! ## Numbers -/

/-- A decimal `significand * 10 ^ exponent` without zeros at its end, as the
digits of the significand and the exponent. -/
def withoutZeros (significand : Nat) (exponent : Int) : List Char × Int :=
  let digits := Text.digits significand
  let zeros := (digits.reverse.takeWhile (· == '0')).length
  (digits.take (digits.length - zeros), exponent + zeros)

/-- A decimal with the point in its place. It is written out if the point
stands up to sixteen places behind the first digit or up to four in front of
it; otherwise one digit is followed by an exponent. -/
def decimalChars (digits : List Char) (exponent : Int) : List Char :=
  let point := digits.length + exponent
  if 0 ≤ exponent ∧ point ≤ 16 then
    digits ++ List.replicate exponent.toNat '0' ++ ['.', '0']
  else if 0 < point ∧ point ≤ 16 then
    digits.take point.toNat ++ '.' :: digits.drop point.toNat
  else if -5 < point ∧ point ≤ 0 then
    '0' :: '.' :: List.replicate point.natAbs '0' ++ digits
  else
    let fraction := if digits.length ≤ 1 then [] else '.' :: digits.drop 1
    digits.take 1 ++ fraction ++ 'e' :: (Text.intText (point - 1)).toList

/-- A double; what is not finite has no JSON form but `null`. -/
def doubleChars : Number.Double → List Char
  | .finite negative units =>
    let (significand, shift) := Number.Double.shortest units
    let (digits, exponent) := withoutZeros significand (shift - Number.Double.headroom)
    let magnitude := if units = 0 then ['0', '.', '0'] else decimalChars digits exponent
    if negative then '-' :: magnitude else magnitude
  | _ => ['n', 'u', 'l', 'l']

/-! ## Values -/

mutual

/-- The characters of a value. -/
def chars : Json → List Char
  | .null => ['n', 'u', 'l', 'l']
  | .bool true => ['t', 'r', 'u', 'e']
  | .bool false => ['f', 'a', 'l', 's', 'e']
  | .integer n => (Text.intText n).toList
  | .float number => doubleChars number
  | .string s => quote s.toList
  | .array items => '[' :: itemChars items ++ [']']
  | .object fields => '\x7b' :: fieldChars fields ++ ['\x7d']

/-- The characters of items with commas between them. -/
def itemChars : List Json → List Char
  | [] => []
  | [item] => chars item
  | item :: rest => chars item ++ ',' :: itemChars rest

/-- The characters of fields with commas between them. -/
def fieldChars : List (String × Json) → List Char
  | [] => []
  | [(name, value)] => quote name.toList ++ ':' :: chars value
  | (name, value) :: rest =>
    quote name.toList ++ ':' :: chars value ++ ',' :: fieldChars rest

end

/-- The text of a value. -/
def text (value : Json) : String := String.ofList (chars value)

end CacheGate.Json
