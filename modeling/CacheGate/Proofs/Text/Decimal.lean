import CacheGate.Text.Decimal
import Mathlib.Algebra.Group.Nat.Defs

/-!
# Numbers in text

A number is determined by its digits, and its text reads back as the number:
one that is padded to a width, which it has if the number fits, and one with a
sign (`integer?_intText`).
-/

namespace CacheGate.Text

variable {cs : List Char} {c : Char} {width n : Nat}

theorem isDigit_of_mem_digits (member : c ∈ digits n) : c.isDigit = true :=
  Nat.isDigit_of_mem_toDigits (by decide) (by decide) member

/-- The code points of the digits. -/
theorem toNat_of_isDigit (digit : c.isDigit = true) : 48 ≤ c.toNat ∧ c.toNat ≤ 57 := by
  simpa [Char.isDigit, UInt32.le_iff_toNat_le] using digit

theorem digits_ne_nil : digits n ≠ [] := Nat.toDigits_ne_nil

theorem digits_inj {left right : Nat} : digits left = digits right ↔ left = right := by
  constructor
  · intro same
    have read := congrArg (Nat.ofDigitChars 10 · 0) same
    unfold digits at read
    rwa [Nat.ofDigitChars_toDigits (by decide) (Nat.le_refl 10),
      Nat.ofDigitChars_toDigits (by decide) (Nat.le_refl 10)] at read
  · rintro rfl
    rfl

theorem natText_inj {left right : Nat} : natText left = natText right ↔ left = right := by
  unfold natText
  rw [String.ofList_inj, digits_inj]

theorem isDigit_of_mem_padded (member : c ∈ padded width n) : c.isDigit = true := by
  rcases List.mem_append.1 member with zero | digit
  · rw [List.eq_of_mem_replicate zero]
    rfl
  · exact isDigit_of_mem_digits digit

theorem padded_ne_nil : padded width n ≠ [] :=
  List.append_ne_nil_of_right_ne_nil _ digits_ne_nil

/-- A number that fits is padded to exactly the width. -/
theorem length_padded (wide : 0 < width) (fits : n < 10 ^ width) :
    (padded width n).length = width := by
  have short : (digits n).length ≤ width :=
    (Nat.length_toDigits_le_iff (by decide) wide).2 fits
  unfold padded
  rw [List.length_append, List.length_replicate]
  omega

theorem natural?_padded : natural? (padded width n) = some n := by
  have filled : (padded width n).isEmpty = false :=
    List.isEmpty_eq_false_iff.2 padded_ne_nil
  have ofDigits : (padded width n).all Char.isDigit = true :=
    List.all_eq_true.2 fun c member => isDigit_of_mem_padded member
  unfold natural?
  rw [filled, ofDigits]
  unfold padded digits
  rw [Nat.ofDigitChars_append, Nat.ofDigitChars_replicate_zero]
  simp [Nat.ofDigitChars_toDigits]

theorem natural?_digits : natural? (digits n) = some n := by
  have whole : padded 0 n = digits n := by
    unfold padded
    rw [Nat.zero_sub, List.replicate_zero, List.nil_append]
  rw [← whole, natural?_padded]

/-! ## Numbers with a sign -/

theorem toList_intText (n : Int) :
    (intText n).toList = if n < 0 then '-' :: digits n.natAbs else digits n.natAbs := by
  unfold intText natText
  split <;> rw [String.toList_ofList]

theorem intText_natCast (n : Nat) : intText n = natText n := if_neg (by omega)

/-- Digits start with no sign. -/
theorem integer?_digits : integer? (digits n) = some (n : Int) := by
  have digit (c : Char) (cs : List Char) (shape : digits n = c :: cs) : c.isDigit = true :=
    isDigit_of_mem_digits (shape ▸ List.mem_cons_self)
  unfold integer?
  split
  case h_1 shape => cases digit _ _ shape
  case h_2 shape => cases digit _ _ shape
  case h_3 => exact congrArg (Option.map Int.ofNat) natural?_digits

theorem integer?_intText (n : Int) : integer? (intText n).toList = some n := by
  rw [toList_intText]
  split
  case isTrue negative =>
    have value : -(n.natAbs : Int) = n := by omega
    rw [integer?, natural?_digits]
    exact congrArg some value
  case isFalse nonneg => rw [integer?_digits, Int.natAbs_of_nonneg (Int.not_lt.1 nonneg)]

theorem intText_inj {left right : Int} : intText left = intText right ↔ left = right := by
  constructor
  · intro same
    have read := congrArg (fun text => integer? text.toList) same
    simpa only [integer?_intText, Option.some.injEq] using read
  · rintro rfl
    rfl

/-- The text of a number of 64 bits is read by whoever expects one. -/
theorem int64?_intText {n : Int} (least : leastInt64 ≤ n) (greatest : n ≤ greatestInt64) :
    int64? (intText n).toList = some n := by
  unfold int64?
  rw [integer?_intText, Option.filter_some, if_pos (by simp [least, greatest])]

theorem mem_intText {n : Int} {c : Char} (member : c ∈ (intText n).toList) :
    c = '-' ∨ c.isDigit = true := by
  rw [toList_intText] at member
  split at member
  · exact (List.mem_cons.1 member).imp_right isDigit_of_mem_digits
  · exact Or.inr (isDigit_of_mem_digits member)

theorem not_mem_intText {n : Int} {c : Char} (sign : c ≠ '-') (other : c.isDigit = false) :
    c ∉ (intText n).toList := by
  intro member
  rcases mem_intText member with same | digit
  · exact sign same
  · cases other.symm.trans digit

theorem intText_ne_nil (n : Int) : (intText n).toList ≠ [] := by
  rw [toList_intText]
  split
  · simp
  · exact digits_ne_nil

end CacheGate.Text
