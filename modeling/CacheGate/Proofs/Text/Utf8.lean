import CacheGate.Text.Utf8
import Mathlib.Data.List.Basic

/-!
# Reading UTF-8 back

`Utf8.next` reads the bytes of one character, whatever follows them
(`Utf8.next_encodeChar`), so a text that was written as UTF-8 is read back,
strictly (`Utf8.decode?_encode`) and with replacements (`Utf8.decodeLossy_encode`).
-/

namespace CacheGate.Utf8

variable {low high : UInt8} {code count n : Nat} {rest : Bytes}

/-! ## One character -/

/-- The byte that carries the last six bits of a number behind the first byte. -/
def tailByte (n : Nat) : UInt8 := UInt8.ofNat (n % 64 + 128)

theorem toNat_tailByte (n : Nat) : (tailByte n).toNat = n % 64 + 128 := by
  unfold tailByte
  rw [UInt8.toNat_ofNat']
  omega

/-- A byte that fits adds its six bits. -/
theorem continuation_tailByte (atLeast : low.toNat ≤ n % 64 + 128)
    (atMost : n % 64 + 128 ≤ high.toNat) :
    continuation low high code (count + 1) (tailByte n :: rest) =
      continuation 0x80 0xBF (code * 64 + n % 64) count rest := by
  have fits : (low ≤ tailByte n && tailByte n ≤ high) = true := by
    rw [Bool.and_eq_true, decide_eq_true_iff, decide_eq_true_iff, UInt8.le_iff_toNat_le,
      UInt8.le_iff_toNat_le, toNat_tailByte]
    exact ⟨atLeast, atMost⟩
  have bits : (tailByte n).toNat % 64 = n % 64 := by
    rw [toNat_tailByte]
    omega
  rw [continuation, if_pos fits, bits]

theorem continuation_tail :
    continuation 0x80 0xBF code (count + 1) (tailByte n :: rest) =
      continuation 0x80 0xBF (code * 64 + n % 64) count rest :=
  continuation_tailByte (Nat.le_add_left ..) (by
    change n % 64 + 128 ≤ 191
    omega)

theorem continuation_last : continuation low high code 0 rest = (some code, rest) := by
  rw [continuation]

/-- What the first byte says, in terms of its number. -/
theorem next_eq (b : UInt8) (rest : Bytes) :
    next b rest =
      if b.toNat ≤ 0x7F then (some b.toNat, rest)
      else if b.toNat < 0xC2 then (none, rest)
      else if b.toNat ≤ 0xDF then continuation 0x80 0xBF (b.toNat % 32) 1 rest
      else if b.toNat = 0xE0 then continuation 0xA0 0xBF 0 2 rest
      else if b.toNat = 0xED then continuation 0x80 0x9F 0xD 2 rest
      else if b.toNat ≤ 0xEF then continuation 0x80 0xBF (b.toNat % 16) 2 rest
      else if b.toNat = 0xF0 then continuation 0x90 0xBF 0 3 rest
      else if b.toNat ≤ 0xF3 then continuation 0x80 0xBF (b.toNat % 8) 3 rest
      else if b.toNat = 0xF4 then continuation 0x80 0x8F 4 3 rest
      else (none, rest) := by
  unfold next
  simp only [UInt8.le_iff_toNat_le, UInt8.lt_iff_toNat_lt, beq_iff_eq, ← UInt8.toNat_inj]
  rfl

section Leads

variable {v : Nat}

theorem next_one (small : v ≤ 0x7F) : next (UInt8.ofNat v) rest = (some v, rest) := by
  have lead : (UInt8.ofNat v).toNat = v := by
    rw [UInt8.toNat_ofNat']
    omega
  rw [next_eq, lead, if_pos small]

theorem next_two (atLeast : 0x80 ≤ v) (atMost : v ≤ 0x7FF) :
    next (UInt8.ofNat (v / 64 % 32 + 192)) (tailByte v :: rest) = (some v, rest) := by
  have lead : (UInt8.ofNat (v / 64 % 32 + 192)).toNat = v / 64 % 32 + 192 := by
    rw [UInt8.toNat_ofNat']
    omega
  rw [next_eq, lead, if_neg (by omega), if_neg (by omega), if_pos (by omega), continuation_tail,
    continuation_last]
  congr 2
  omega

/-- Three bytes; the numbers of surrogates have no such form. -/
theorem next_three (atLeast : 0x800 ≤ v) (atMost : v ≤ 0xFFFF)
    (scalar : v < 0xD800 ∨ 0xDFFF < v) :
    next (UInt8.ofNat (v / 4096 % 16 + 224)) (tailByte (v / 64) :: tailByte v :: rest) =
      (some v, rest) := by
  have lead : (UInt8.ofNat (v / 4096 % 16 + 224)).toNat = v / 4096 % 16 + 224 := by
    rw [UInt8.toNat_ofNat']
    omega
  rw [next_eq, lead, if_neg (by omega), if_neg (by omega), if_neg (by omega)]
  split_ifs with first surrogates
  · rw [continuation_tailByte (by change 160 ≤ _; omega) (by change _ ≤ 191; omega),
      continuation_tail, continuation_last]
    congr 2
    omega
  · rw [continuation_tailByte (by change 128 ≤ _; omega) (by change _ ≤ 159; omega),
      continuation_tail, continuation_last]
    congr 2
    omega
  · rw [continuation_tail, continuation_tail, continuation_last]
    congr 2
    omega
  all_goals omega

theorem next_four (atLeast : 0x10000 ≤ v) (atMost : v ≤ 0x10FFFF) :
    next (UInt8.ofNat (v / 262144 % 8 + 240))
        (tailByte (v / 4096) :: tailByte (v / 64) :: tailByte v :: rest) = (some v, rest) := by
  have lead : (UInt8.ofNat (v / 262144 % 8 + 240)).toNat = v / 262144 % 8 + 240 := by
    rw [UInt8.toNat_ofNat']
    omega
  rw [next_eq, lead, if_neg (by omega), if_neg (by omega), if_neg (by omega), if_neg (by omega),
    if_neg (by omega), if_neg (by omega)]
  split_ifs with first middle last
  · rw [continuation_tailByte (by change 144 ≤ _; omega) (by change _ ≤ 191; omega),
      continuation_tail, continuation_tail, continuation_last]
    congr 2
    omega
  · rw [continuation_tail, continuation_tail, continuation_tail, continuation_last]
    congr 2
    omega
  · rw [continuation_tailByte (by change 128 ≤ _; omega) (by change _ ≤ 143; omega),
      continuation_tail, continuation_tail, continuation_last]
    congr 2
    omega
  · omega

end Leads

/-- The bytes of a character, in terms of its number. -/
theorem encodeChar_eq (c : Char) :
    String.utf8EncodeChar c =
      if c.toNat ≤ 0x7F then [UInt8.ofNat c.toNat]
      else if c.toNat ≤ 0x7FF then [UInt8.ofNat (c.toNat / 64 % 32 + 192), tailByte c.toNat]
      else if c.toNat ≤ 0xFFFF then
        [UInt8.ofNat (c.toNat / 4096 % 16 + 224), tailByte (c.toNat / 64), tailByte c.toNat]
      else
        [UInt8.ofNat (c.toNat / 262144 % 8 + 240), tailByte (c.toNat / 4096),
          tailByte (c.toNat / 64), tailByte c.toNat] := rfl

/-- A byte of a character is the number of that character, or no ASCII character. -/
theorem toNat_of_mem_encodeChar {c : Char} {b : UInt8} (member : b ∈ String.utf8EncodeChar c) :
    b.toNat = c.toNat ∨ 0x80 ≤ b.toNat := by
  have tail (n : Nat) : 0x80 ≤ (tailByte n).toNat := by
    rw [toNat_tailByte]
    omega
  rw [encodeChar_eq] at member
  split_ifs at member with one two three
  · rw [List.mem_singleton.1 member, UInt8.toNat_ofNat']
    omega
  · rcases List.mem_cons.1 member with rfl | rest
    · rw [UInt8.toNat_ofNat']
      omega
    · rw [List.mem_singleton.1 rest]
      exact Or.inr (tail _)
  · rcases List.mem_cons.1 member with rfl | rest
    · rw [UInt8.toNat_ofNat']
      omega
    · simp only [List.mem_cons, List.not_mem_nil, or_false] at rest
      rcases rest with rfl | rfl <;> exact Or.inr (tail _)
  · rcases List.mem_cons.1 member with rfl | rest
    · rw [UInt8.toNat_ofNat']
      omega
    · simp only [List.mem_cons, List.not_mem_nil, or_false] at rest
      rcases rest with rfl | rfl | rfl <;> exact Or.inr (tail _)

theorem next_encodeChar (c : Char) (rest : Bytes) :
    ∃ b more, String.utf8EncodeChar c = b :: more ∧ next b (more ++ rest) = (some c.toNat, rest) := by
  have scalar : c.toNat < 0xD800 ∨ 0xDFFF < c.toNat ∧ c.toNat < 0x110000 := c.valid
  rw [encodeChar_eq]
  split_ifs with one two three
  · exact ⟨_, [], rfl, next_one one⟩
  · exact ⟨_, [_], rfl, next_two (by omega) two⟩
  · exact ⟨_, [_, _], rfl, next_three (by omega) three (by omega)⟩
  · exact ⟨_, [_, _, _], rfl, next_four (by omega) (by omega)⟩

/-! ## Texts -/

theorem codes_flatMap (cs : List Char) :
    codes (cs.flatMap String.utf8EncodeChar) = cs.map fun c => some c.toNat := by
  induction cs with
  | nil => rw [List.flatMap_nil, codes, List.map_nil]
  | cons c cs ih =>
    obtain ⟨b, more, bytes, read⟩ := next_encodeChar c (cs.flatMap String.utf8EncodeChar)
    rw [List.flatMap_cons, bytes, List.cons_append, codes, read, ih, List.map_cons]

theorem decode?_encode (s : String) : decode? (encode s) = some s := by
  have found : (s.toList.map fun c => some c.toNat).mapM id = some (s.toList.map Char.toNat) := by
    rw [List.mapM_map]
    exact List.mapM_pure
  unfold decode? encode
  rw [codes_flatMap, found, Option.map_some, List.map_map]
  simp [Function.comp_def]

theorem decodeLossy_encode (s : String) : decodeLossy (encode s) = s := by
  unfold decodeLossy encode
  rw [codes_flatMap, List.map_map]
  simp [Function.comp_def]

end CacheGate.Utf8
