/-!
# Rounding to binary precision

A binary format keeps a fixed number of significant bits above a least
positive value. A number of a format is held exactly, as a natural multiple of
that least value, so two numbers compare as their multiples do.
`BinaryFormat.round` takes any fraction to the nearest number of the format,
a tie to the one with an even last bit.
-/

namespace CacheGate.Number

/-- A power of two. -/
def twoTo (exponent : Nat) : Nat := Nat.pow 2 exponent

/-- A power of ten. -/
def tenTo (exponent : Nat) : Nat := Nat.pow 10 exponent

/-- A binary format: `precision` significant bits, least positive value
`2 ^ -scale`, and every finite value below `2 ^ top`. -/
structure BinaryFormat where
  precision : Nat
  scale : Nat
  top : Nat

/-- The 32-bit interchange format. -/
def binary32 : BinaryFormat := ⟨24, 149, 128⟩

/-- The 64-bit interchange format. -/
def binary64 : BinaryFormat := ⟨53, 1074, 1024⟩

/-- The natural number nearest to `num / den`; of two equally near ones, the even one. -/
def divNearestEven (num den : Nat) : Nat :=
  let quotient := num / den
  let remainder := num % den
  if 2 * remainder < den then quotient
  else if den < 2 * remainder then quotient + 1
  else quotient + quotient % 2

/-- The number of binary digits of `n`. -/
def bitLength (n : Nat) : Nat := if n = 0 then 0 else n.log2 + 1

namespace BinaryFormat

/-- The bits of a multiple of the least value that lie beyond the precision. -/
def excess (format : BinaryFormat) (units : Nat) : Nat := bitLength units - format.precision

/-- The multiple of the least value nearest to `num / den` that the format
holds, or `none` above its greatest finite value. -/
def round (format : BinaryFormat) (num den : Nat) : Option Nat :=
  let scaled := num * twoTo format.scale
  let drop := format.excess (scaled / den)
  let units := divNearestEven scaled (den * twoTo drop) * twoTo drop
  if units < twoTo (format.top + format.scale) then some units else none

/-- `round` of `significand * 10 ^ exponent`. Values beyond `10 ^ 400` and
below `10 ^ -400` are out of reach of both interchange formats, so they are
decided without computing the power. -/
def roundDecimal (format : BinaryFormat) (significand : Nat) (exponent : Int) : Option Nat :=
  let magnitude := ((Nat.toDigits 10 significand).length : Int) + exponent
  if significand = 0 then some 0
  else if 400 < magnitude then none
  else if magnitude < -400 then some 0
  else if 0 ≤ exponent then format.round (significand * tenTo exponent.toNat) 1
  else format.round significand (tenTo exponent.natAbs)

end BinaryFormat

end CacheGate.Number
