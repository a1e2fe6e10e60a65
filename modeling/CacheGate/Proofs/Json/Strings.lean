import CacheGate.Json.Parser
import CacheGate.Json.Quoted
import Mathlib.Data.List.Basic
import Mathlib.Tactic.SplitIfs

/-!
# Reading JSON strings back

A quoted text is read back whatever follows it, one character at a time
(`Json.string?_escapeChar`), so an array of quoted texts is read as these
texts: `Json.strings?_quoteAll`.
-/

namespace CacheGate

/-- Parts that are not empty are no more than the characters that they have together. -/
theorem Text.length_le_flatMap {α : Type} {f : α → List Char} (items : List α)
    (filled : ∀ item, f item ≠ []) : items.length ≤ (items.flatMap f).length := by
  induction items with
  | nil => exact Nat.zero_le _
  | cons item items ih =>
    have some := List.length_pos_iff.2 (filled item)
    rw [List.flatMap_cons, List.length_append, List.length_cons]
    omega

namespace Json

/-! ## Characters -/

theorem hexValue?_hexDigit (n : Nat) : hexValue? (hexDigit n) = some (n % 16) := by
  have digits : ∀ d < 16, hexValue? (Nat.digitChar d) = some d := by decide
  exact digits (n % 16) (Nat.mod_lt n (by decide))

/-- The four digits of the escape of a control character. -/
theorem unit?_hexDigits {n : Nat} (control : n < 0x20) :
    unit? '0' '0' (hexDigit (n / 16)) (hexDigit n) = some n := by
  have zero : hexValue? '0' = some 0 := rfl
  unfold unit?
  simp only [List.mapM_cons, List.mapM_nil, hexValue?_hexDigit, zero]
  change some (((0 * 16 + 0) * 16 + n / 16 % 16) * 16 + n % 16) = some n
  congr 1
  omega

/-- An escaped character is read as that character, whatever follows it. -/
theorem string?_escapeChar (c : Char) (rest : List Char) :
    string? (escapeChar c ++ rest) = prepend c (string? rest) := by
  unfold escapeChar
  split
  case h_8 quote backslash _ _ _ _ _ =>
    split_ifs with control
    · have high : isHighSurrogate c.toNat = false := by
        unfold isHighSurrogate
        rw [decide_eq_false (by omega), Bool.false_and]
      have low : isLowSurrogate c.toNat = false := by
        unfold isLowSurrogate
        rw [decide_eq_false (by omega), Bool.false_and]
      change string? ('\\' :: 'u' :: '0' :: '0' :: hexDigit (c.toNat / 16) :: hexDigit c.toNat ::
        rest) = _
      rw [string?, unit?_hexDigits control]
      simp only [high, low, Bool.false_eq_true, if_false, Char.ofNat_toNat]
    · rw [List.singleton_append, string?, if_neg control]
      · exact quote
      · exact fun _ _ _ _ _ same => absurd same backslash
      · exact fun _ _ same => absurd same backslash
  -- the seven characters that have short escapes
  all_goals
    rw [List.cons_append, List.singleton_append, string?]
    · rfl
    all_goals simp

/-! ## Texts -/

theorem string?_escaped (cs rest : List Char) :
    string? (cs.flatMap escapeChar ++ '"' :: rest) = some (cs, rest) := by
  induction cs with
  | nil => rfl
  | cons c cs ih =>
    rw [List.flatMap_cons, List.append_assoc, string?_escapeChar, ih]
    rfl

theorem quote_append (cs rest : List Char) :
    quote cs ++ rest = '"' :: (cs.flatMap escapeChar ++ '"' :: rest) := by
  unfold quote
  simp

theorem value?_quote (fuel depth : Nat) (cs rest : List Char) :
    value? (fuel + 1) depth (quote cs ++ rest) = some (.string (String.ofList cs), rest) := by
  rw [quote_append, value?]
  change (string? (cs.flatMap escapeChar ++ '"' :: rest)).map _ = _
  rw [string?_escaped]
  rfl

/-- The items behind the opening bracket, with a comma in front of each one but the first. -/
theorem items?_quotes (fuel depth : Nat) (cs : List Char) (texts : List (List Char))
    (rest : List Char) :
    items? (fuel + texts.length + 2) depth
        (quote cs ++ (texts.flatMap fun cs => ',' :: quote cs) ++ ']' :: rest) =
      some ((cs :: texts).map fun cs => .string (String.ofList cs), rest) := by
  induction texts generalizing cs with
  | nil =>
    rw [items?, List.flatMap_nil, List.append_nil, value?_quote]
    rfl
  | cons next texts ih =>
    rw [items?, List.flatMap_cons, List.append_assoc, List.length_cons, ← Nat.add_assoc,
      value?_quote]
    change (items? (fuel + texts.length + 2) depth
      (quote next ++ (texts.flatMap fun cs => ',' :: quote cs) ++ ']' :: rest)).map _ = _
    rw [ih]
    rfl

/-- The separators of an array stand in front of all items but the first. -/
theorem intercalate_comma (first : List Char) (others : List (List Char)) :
    List.intercalate [','] (first :: others) = first ++ others.flatMap fun cs => ',' :: cs := by
  induction others generalizing first with
  | nil => simp
  | cons next others ih =>
    rw [List.intercalate_cons_cons, ih, List.flatMap_cons, List.append_assoc]
    rfl

theorem quoteAll_cons (cs : List Char) (texts : List (List Char)) :
    quoteAll (cs :: texts) =
      '[' :: (quote cs ++ (texts.flatMap fun cs => ',' :: quote cs) ++ [']']) := by
  unfold quoteAll
  rw [List.map_cons, intercalate_comma, List.flatMap_map]
  rfl

theorem length_le_quoteAll (texts : List (List Char)) :
    texts.length + 2 ≤ (quoteAll texts).length := by
  cases texts with
  | nil => exact Nat.le_refl 2
  | cons cs texts =>
    have items := Text.length_le_flatMap (f := fun cs => ',' :: quote cs) texts
      fun _ => List.cons_ne_nil _ _
    have opening : 1 ≤ (quote cs).length := by simp [quote]
    rw [quoteAll_cons]
    simp only [List.length_cons, List.length_append, List.length_nil]
    omega

theorem value?_quoteAll {fuel : Nat} (texts : List (List Char)) (enough : texts.length + 1 ≤ fuel) :
    value? (fuel + 1) depthLimit (quoteAll texts) =
      some (.array (texts.map fun cs => .string (String.ofList cs)), []) := by
  cases texts with
  | nil => rfl
  | cons cs texts =>
    obtain ⟨more, rfl⟩ := Nat.exists_eq_add_of_le' enough
    rw [quoteAll_cons, value?, List.append_assoc, quote_append]
    change (items? (more + texts.length + 2) 127
      ('"' :: (cs.flatMap escapeChar ++ '"' :: _))).map _ = _
    rw [← quote_append, ← List.append_assoc, items?_quotes]
    rfl

/-- Texts are read as an array of exactly these strings. -/
theorem parse?_quoteAll (texts : List (List Char)) :
    parse? (String.ofList (quoteAll texts)) =
      some (.array (texts.map fun cs => .string (String.ofList cs))) := by
  have enough := length_le_quoteAll texts
  unfold parse?
  dsimp only
  rw [String.toList_ofList, value?_quoteAll texts (by omega)]
  rfl

/-! ## Arrays of strings -/

/-- The texts of an array that holds nothing else. -/
def strings? : Json → Option (List String)
  | .array items => items.mapM fun
    | .string text => some text
    | _ => none
  | _ => none

theorem strings?_quoteAll (texts : List String) :
    (parse? (String.ofList (quoteAll (texts.map String.toList)))).bind strings? = some texts := by
  have listed : (texts.map fun text => Json.string (String.ofList text.toList)).mapM
      (fun | .string text => some text | _ => none) = some texts := by
    rw [List.mapM_map]
    refine List.mapM_pure.trans ?_
    simp
  rw [parse?_quoteAll, List.map_map]
  exact listed

end Json

end CacheGate
