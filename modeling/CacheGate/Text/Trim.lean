/-!
# Blank characters and trimming

Header and settings texts are handled as lists of characters. This module
says which characters count as blank, removes them at the ends of a text,
cuts a text at the first separator, and compares names without regard to the
case of ASCII letters.
-/

namespace CacheGate.Text

/-! ## Blank characters -/

/-- The code points with the Unicode property White_Space, as closed ranges. -/
def blankRanges : List (Nat × Nat) :=
  [(0x0009, 0x000D), (0x0020, 0x0020), (0x0085, 0x0085), (0x00A0, 0x00A0), (0x1680, 0x1680),
    (0x2000, 0x200A), (0x2028, 0x2029), (0x202F, 0x202F), (0x205F, 0x205F), (0x3000, 0x3000)]

/-- Whether a character lies in one of `blankRanges`. -/
def isBlank (c : Char) : Bool :=
  blankRanges.any fun range => range.1 ≤ c.toNat && c.toNat ≤ range.2

/-! ## Trimming -/

/-- Removes the characters satisfying `p` at both ends, as many as there are. -/
def strip (p : Char → Bool) (cs : List Char) : List Char :=
  ((cs.dropWhile p).reverse.dropWhile p).reverse

/-- Removes blank characters at both ends. -/
def trim (cs : List Char) : List Char := strip isBlank cs

/-- Removes double quotes at both ends, paired or not. -/
def unquote (cs : List Char) : List Char := strip (· == '"') cs

/-! ## Cutting and comparing -/

/-- Splits at the first `sep`; `none` when the text has none. -/
def cut? (sep : Char) (cs : List Char) : Option (List Char × List Char) :=
  match cs.dropWhile (· != sep) with
  | [] => none
  | _ :: rest => some (cs.takeWhile (· != sep), rest)

/-- Lower case for the letters A to Z; every other character is kept. -/
def lower (cs : List Char) : List Char := cs.map Char.toLower

/-- Equality up to the case of ASCII letters. -/
def sameName (left right : String) : Bool := lower left.toList == lower right.toList

/-- `trim` on strings. -/
def trimmed (s : String) : String := String.ofList (trim s.toList)

/-- `lower` on strings. -/
def lowered (s : String) : String := String.ofList (lower s.toList)

/-- The trimmed text, or `none` when nothing is left of it. -/
def nonBlank? (s : String) : Option String :=
  if (trim s.toList).isEmpty then none else some (trimmed s)

end CacheGate.Text
