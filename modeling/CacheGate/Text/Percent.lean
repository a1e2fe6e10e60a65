import CacheGate.Text.Utf8

/-!
# Percent-encoding and query strings

`Percent.decode` undoes percent-encoding; an escape without two hexadecimal
digits stays as it is. `Query.parse` reads `application/x-www-form-urlencoded`
pairs: pieces between ampersands, a plus sign for a space, invalid UTF-8
replaced, empty pieces skipped.
-/

namespace CacheGate

namespace Percent

/-- The value of a hexadecimal digit of either case. -/
def hexDigit? (b : UInt8) : Option UInt8 :=
  if 0x30 ≤ b && b ≤ 0x39 then some (b - 0x30)
  else if 0x41 ≤ b && b ≤ 0x46 then some (b - 0x41 + 10)
  else if 0x61 ≤ b && b ≤ 0x66 then some (b - 0x61 + 10)
  else none

/-- The byte written by two hexadecimal digits. -/
def escape? (high low : UInt8) : Option UInt8 := do
  return (← hexDigit? high) * 16 + (← hexDigit? low)

/-- Replaces every well-formed escape by its byte. -/
def decode : Bytes → Bytes
  | 0x25 :: high :: low :: rest =>
    match escape? high low with
    | some b => b :: decode rest
    | none => 0x25 :: decode (high :: low :: rest)
  | b :: rest => b :: decode rest
  | [] => []

end Percent

namespace Query

/-- One name or value of a query: plus signs are spaces, escapes are undone. -/
def component (bytes : Bytes) : String :=
  Utf8.decodeLossy (Percent.decode (bytes.map fun b => if b = 0x2B then 0x20 else b))

/-- One piece of a query: the name up to the first `=`, the value after it. -/
def pair (piece : Bytes) : String × String :=
  (component (piece.takeWhile (· != 0x3D)), component ((piece.dropWhile (· != 0x3D)).drop 1))

/-- The pairs of a query string in order. -/
def parse (query : String) : List (String × String) :=
  (((Utf8.encode query).splitOn 0x26).filter (!·.isEmpty)).map pair

end Query

end CacheGate
