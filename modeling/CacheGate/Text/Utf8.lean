/-!
# UTF-8

Bodies, keys and header values are byte sequences; texts are sequences of
characters. `encode` writes a text as UTF-8. `decode?` reads bytes back and
refuses bytes that are not UTF-8, while `decodeLossy` puts one replacement
character for every maximal part that cannot start or continue a character.
-/

namespace CacheGate

/-- Raw content of a body, a key or a header value. -/
abbrev Bytes := List UInt8

namespace Utf8

/-- The UTF-8 form of a text. -/
def encode (s : String) : Bytes := s.toList.flatMap String.utf8EncodeChar

/-! ## Reading one character -/

/-- Reads `count` continuation bytes, the first of them between `low` and
`high`, and adds six bits to `code` for each. It stops in front of the first
byte that does not fit. -/
def continuation (low high : UInt8) (code : Nat) : Nat → Bytes → Option Nat × Bytes
  | 0, rest => (some code, rest)
  | _ + 1, [] => (none, [])
  | count + 1, b :: rest =>
    if low ≤ b && b ≤ high then
      continuation 0x80 0xBF (code * 64 + b.toNat % 64) count rest
    else
      (none, b :: rest)

/-- Reads the character that starts with byte `b`, or skips one maximal
invalid part. The second byte is bounded so that no code point has two forms,
none is a surrogate and none lies above U+10FFFF. -/
def next (b : UInt8) (rest : Bytes) : Option Nat × Bytes :=
  if b ≤ 0x7F then (some b.toNat, rest)
  else if b < 0xC2 then (none, rest)
  else if b ≤ 0xDF then continuation 0x80 0xBF (b.toNat % 32) 1 rest
  else if b == 0xE0 then continuation 0xA0 0xBF 0 2 rest
  else if b == 0xED then continuation 0x80 0x9F 0xD 2 rest
  else if b ≤ 0xEF then continuation 0x80 0xBF (b.toNat % 16) 2 rest
  else if b == 0xF0 then continuation 0x90 0xBF 0 3 rest
  else if b ≤ 0xF3 then continuation 0x80 0xBF (b.toNat % 8) 3 rest
  else if b == 0xF4 then continuation 0x80 0x8F 4 3 rest
  else (none, rest)

theorem length_continuation_le (low high : UInt8) (code count : Nat) (bytes : Bytes) :
    (continuation low high code count bytes).2.length ≤ bytes.length := by
  induction count generalizing low high code bytes with
  | zero => simp [continuation]
  | succ count ih =>
    cases bytes with
    | nil => simp [continuation]
    | cons b rest =>
      rw [continuation]
      split
      · exact Nat.le_trans (ih ..) (by simp)
      · exact Nat.le_refl _

/-- A step never gives bytes back, so reading ends. -/
theorem length_next_le (b : UInt8) (rest : Bytes) : (next b rest).2.length ≤ rest.length := by
  unfold next
  repeat' split
  all_goals first
    | exact Nat.le_refl _
    | exact length_continuation_le ..

/-! ## Reading a text -/

/-- The code points of a byte sequence, `none` standing for an invalid part. -/
def codes : Bytes → List (Option Nat)
  | [] => []
  | b :: rest => (next b rest).1 :: codes (next b rest).2
termination_by bytes => bytes.length
decreasing_by exact Nat.lt_succ_of_le (length_next_le b rest)

/-- The text that the bytes encode, if they are UTF-8. -/
def decode? (bytes : Bytes) : Option String :=
  ((codes bytes).mapM id).map fun found => String.ofList (found.map Char.ofNat)

/-- The text that the bytes encode, with U+FFFD for every invalid part. -/
def decodeLossy (bytes : Bytes) : String :=
  String.ofList ((codes bytes).map fun code => Char.ofNat (code.getD 0xFFFD))

end Utf8

end CacheGate
