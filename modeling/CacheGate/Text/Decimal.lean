/-!
# Decimal integers in text

Readers for the integers that headers, settings and dates carry: ASCII digits
only, an optional sign where the field allows one, and a range outside which
the text is refused. Numbers are printed without leading zeros, or padded to
a fixed width.
-/

namespace CacheGate.Text

/-- The number written by a non-empty run of ASCII digits. -/
def natural? (cs : List Char) : Option Nat :=
  if !cs.isEmpty && cs.all Char.isDigit then some (Nat.ofDigitChars 10 cs 0) else none

/-- A natural number up to `high`, with an optional plus sign. -/
def naturalUpTo? (high : Nat) (cs : List Char) : Option Nat :=
  let digits := match cs with
    | '+' :: rest => rest
    | _ => cs
  (natural? digits).filter (· ≤ high)

/-- An integer with an optional sign. -/
def integer? : List Char → Option Int
  | '+' :: digits => (natural? digits).map Int.ofNat
  | '-' :: digits => (natural? digits).map fun n => -(n : Int)
  | digits => (natural? digits).map Int.ofNat

/-- The greatest integer of 64 bits with a sign. -/
def greatestInt64 : Nat := 9223372036854775807

/-- The least integer of 64 bits with a sign. -/
def leastInt64 : Int := -9223372036854775808

/-- The greatest integer of 64 bits without a sign. -/
def greatestNat64 : Nat := 18446744073709551615

/-- An integer that fits into 64 bits with a sign. -/
def int64? (cs : List Char) : Option Int :=
  (integer? cs).filter fun n => leastInt64 ≤ n && n ≤ greatestInt64

/-- The decimal digits of `n`, without leading zeros. -/
def digits (n : Nat) : List Char := Nat.toDigits 10 n

/-- The decimal digits of `n`, filled up with zeros on the left to `width`. -/
def padded (width n : Nat) : List Char :=
  List.replicate (width - (digits n).length) '0' ++ digits n

/-- The decimal text of a natural number. -/
def natText (n : Nat) : String := String.ofList (digits n)

/-- The decimal text of an integer, with a minus sign where it is negative. -/
def intText (n : Int) : String :=
  if n < 0 then String.ofList ('-' :: digits n.natAbs) else natText n.natAbs

end CacheGate.Text
