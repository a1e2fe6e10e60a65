import CacheGate.Number.FloatText
import CacheGate.Number.Rounding

/-!
# Double precision numbers

Settings may hold numbers with a fraction, in the 64-bit binary format. A
finite one is kept as a multiple of the least positive value, so reading,
scaling, rounding to whole numbers and printing are exact arithmetic.
`Double.text` prints the fewest digits that still determine the number, in
positional notation.
-/

namespace CacheGate.Number

/-- A 64-bit binary number; `units` counts multiples of `2 ^ -1074`. -/
inductive Double where
  | finite (negative : Bool) (units : Nat)
  | infinite (negative : Bool)
  | nan
  deriving DecidableEq, Repr

namespace Double

/-! ## Reading -/

/-- The number nearest to what a numeral denotes. -/
def ofFloatText : FloatText → Double
  | .finite negative significand exponent =>
    match binary64.roundDecimal significand exponent with
    | some units => .finite negative units
    | none => .infinite negative
  | .infinite negative => .infinite negative
  | .nan => .nan

/-- Reads a numeral. -/
def parse? (cs : List Char) : Option Double := (FloatText.parse? cs).map ofFloatText

/-- Multiplies units by `10 ^ exponent`, where the power itself is first
rounded to the format; `none` when the product overflows. -/
def timesPower (units exponent : Nat) : Option Nat :=
  (binary64.round (tenTo exponent) 1).bind fun power =>
    binary64.round (units * power) (twoTo (2 * binary64.scale))

/-- Divides units by `10 ^ exponent`, with the power rounded first. -/
def overPower (units exponent : Nat) : Option Nat :=
  (binary64.round (tenTo exponent) 1).bind fun power => binary64.round units power

/-- Scales a significand by a power of ten in rounded steps: the significand
is rounded, then divided by `10 ^ 308` as long as the exponent lies below
`-308`, then multiplied or divided once. `none` means that the number is too
large. The steps are at most `fuel`, which the exponent bounds. -/
def scaleUnits : Nat → Nat → Int → Option Nat
  | 0, units, _ => some units
  | fuel + 1, units, exponent =>
    if exponent < -308 then
      if units = 0 then some 0
      else (overPower units 308).bind fun quotient => scaleUnits fuel quotient (exponent + 308)
    else if exponent < 0 then overPower units exponent.natAbs
    else if 308 < exponent then (if units = 0 then some 0 else none)
    else timesPower units exponent.toNat

/-- The number that a significand and a power of ten give when every step is
rounded; `none` when it overflows. A significand of 64 bits has vanished
after seven divisions. -/
def scaled? (negative : Bool) (significand : Nat) (exponent : Int) : Option Double :=
  (binary64.round significand 1).bind fun units =>
    (scaleUnits 8 units exponent).map (.finite negative)

/-! ## Whole numbers -/

/-- Whether the number is not a zero. -/
def isNonzero : Double → Bool
  | .finite _ units => units != 0
  | _ => true

/-- The nearest natural number of 64 bits, a half going up; negative numbers
and NaN give zero, large ones the greatest. -/
def toNat64 : Double → Nat
  | .finite false units =>
    min ((2 * units + twoTo binary64.scale) / twoTo (binary64.scale + 1)) Text.greatestNat64
  | .infinite false => Text.greatestNat64
  | _ => 0

/-! ## Printing -/

/-- The scaling exponent of the digit search: every positive number times
`10 ^ 400` is above one. -/
def headroom : Nat := 400

/-- Looks for a decimal with `places` digits after the leading position
`lead` (counted with `headroom`) that lies between `low` and `high`. All
bounds are multiples of `2 ^ -1076 * 10 ^ -headroom`. Of the two neighbours
of the number on the decimal grid the nearer one is taken, and the upper one
when both are equally near. -/
def onGrid? (low value high : Nat) (closed : Bool) (lead places : Nat) : Option (Nat × Nat) :=
  let shift := lead + 1 - places
  let step := tenTo shift * twoTo (binary64.scale + 2)
  let below := value / step
  let inside (n : Nat) : Bool :=
    let point := n * step
    if closed then low ≤ point && point ≤ high else low < point && point < high
  match inside below, inside (below + 1) with
  | true, true =>
    if value - below * step < (below + 1) * step - value then some (below, shift)
    else some (below + 1, shift)
  | true, false => some (below, shift)
  | false, true => some (below + 1, shift)
  | false, false => none

/-- The shortest decimal `significand * 10 ^ (shift - headroom)` that rounds
to the given multiple of the least value, the nearest of those. Seventeen
digits always suffice. -/
def shortest (units : Nat) : Nat × Nat :=
  let drop := binary64.excess units
  let ulp := twoTo drop
  let narrow := decide (1 < ulp) && units == twoTo (bitLength units - 1)
  let scaleUp := tenTo headroom
  let value := 4 * units * scaleUp
  let low := (4 * units - (if narrow then ulp else 2 * ulp)) * scaleUp
  let high := (4 * units + 2 * ulp) * scaleUp
  let closed := (units / ulp) % 2 == 0
  let lead := (Text.digits (units * scaleUp / twoTo binary64.scale)).length - 1
  ((List.range 17).findSome? fun index => onGrid? low value high closed lead (index + 1)).getD
    (0, headroom)

/-- Removes zeros at the end of a fraction, and the point when none is left. -/
def fractionText (fraction : List Char) : List Char :=
  match (fraction.reverse.dropWhile (· == '0')).reverse with
  | [] => []
  | kept => '.' :: kept

/-- Positional text of `significand * 10 ^ (shift - headroom)`. -/
def positional (significand shift : Nat) : List Char :=
  if headroom ≤ shift then
    Text.digits (significand * tenTo (shift - headroom))
  else
    let places := headroom - shift
    Text.digits (significand / tenTo places) ++
      fractionText (Text.padded places (significand % tenTo places))

/-- The text of a number: the fewest digits that determine it, without an
exponent. -/
def text : Double → String
  | .nan => "NaN"
  | .infinite negative => if negative then "-inf" else "inf"
  | .finite negative units =>
    let magnitude :=
      if units = 0 then ['0'] else positional (shortest units).1 (shortest units).2
    String.ofList (if negative then '-' :: magnitude else magnitude)

end Double

end CacheGate.Number
