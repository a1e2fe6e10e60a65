import CacheGate.Text.Utf8

/-!
# SipHash-1-3

The keyed hash with one compression round for every eight bytes and three
finishing rounds, here with both key words zero. Entity tags and the placement
of keys are computed with it. The last block carries the length of the input
in its top byte.
-/

namespace CacheGate.SipHash

/-- The four words of the hash state. -/
structure State where
  v0 : UInt64
  v1 : UInt64
  v2 : UInt64
  v3 : UInt64
  deriving DecidableEq, Repr

/-- The state before any input, for the zero key. -/
def initial : State :=
  ⟨0x736f6d6570736575, 0x646f72616e646f6d, 0x6c7967656e657261, 0x7465646279746573⟩

/-- Rotation to the left by `n` bits. -/
def rotl (x n : UInt64) : UInt64 := x <<< n ||| x >>> (64 - n)

/-- One round of additions, rotations and exclusive ors. -/
def State.round (s : State) : State :=
  let a0 := s.v0 + s.v1
  let a1 := rotl s.v1 13 ^^^ a0
  let b0 := rotl a0 32
  let a2 := s.v2 + s.v3
  let a3 := rotl s.v3 16 ^^^ a2
  let c0 := b0 + a3
  let c3 := rotl a3 21 ^^^ c0
  let c2 := a2 + a1
  let c1 := rotl a1 17 ^^^ c2
  ⟨c0, c1, rotl c2 32, c3⟩

/-- Takes in one block of eight bytes. -/
def State.absorb (s : State) (block : UInt64) : State :=
  let mixed := State.round { s with v3 := s.v3 ^^^ block }
  { mixed with v0 := mixed.v0 ^^^ block }

/-- The word whose bytes are given, least significant first. -/
def word (bytes : Bytes) : UInt64 :=
  bytes.foldr (fun b acc => acc <<< 8 ||| b.toUInt64) 0

/-- The last block: the remaining bytes, with the total length above them. -/
def lastBlock (length : Nat) (rest : Bytes) : UInt64 :=
  UInt64.ofNat length <<< 56 ||| word rest

/-- Takes in all bytes; fewer than eight end the input. -/
def absorbAll (length : Nat) (s : State) : Bytes → State
  | b0 :: b1 :: b2 :: b3 :: b4 :: b5 :: b6 :: b7 :: rest =>
    absorbAll length (s.absorb (word [b0, b1, b2, b3, b4, b5, b6, b7])) rest
  | rest => s.absorb (lastBlock length rest)

/-- The finishing rounds. -/
def State.finish (s : State) : UInt64 :=
  let t := State.round (State.round (State.round { s with v2 := s.v2 ^^^ 0xff }))
  t.v0 ^^^ t.v1 ^^^ t.v2 ^^^ t.v3

/-- The hash of a byte sequence. -/
def hash (bytes : Bytes) : UInt64 :=
  (absorbAll bytes.length initial bytes).finish

/-- The eight bytes of a number, least significant first. -/
def lengthBytes (n : Nat) : Bytes :=
  (List.range 8).map fun index => UInt8.ofNat (n >>> (8 * index))

/-- The hash of a byte sequence behind its length, so that sequences placed
one after the other hash apart. -/
def hashWithLength (bytes : Bytes) : UInt64 :=
  hash (lengthBytes bytes.length ++ bytes)

end CacheGate.SipHash
