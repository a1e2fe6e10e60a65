import CacheGate.Proofs.Text.Trim
import CacheGate.Text.Utf8

/-!
# Texts as keys and names

A text is determined by its UTF-8 form, so two keys address the same entry
only if they are the same text. Lowering the letters of a name is done once,
keeps blanks, and makes nothing but small letters, so no star and no separator.
-/

namespace CacheGate

/-- A text is determined by its UTF-8 form. -/
theorem Utf8.encode_inj {left right : String} :
    Utf8.encode left = Utf8.encode right ↔ left = right := by
  constructor
  · intro same
    have bytes : left.toList.utf8Encode = right.toList.utf8Encode :=
      congrArg List.toByteArray same
    rwa [String.utf8Encode_toList, String.utf8Encode_toList, String.toByteArray_inj] at bytes
  · rintro rfl
    rfl

namespace Text

/-- A character is kept, or it is one of the letters A to Z and 32 is added to its code. -/
theorem toLower_cases (c : Char) :
    c.toLower = c ∨ (65 ≤ c.toNat ∧ c.toNat ≤ 90) ∧ c.toLower.toNat = c.toNat + 32 := by
  unfold Char.toLower
  split
  case isTrue upper =>
    have bounds : 65 ≤ c.val.toNat ∧ c.val.toNat ≤ 90 := by
      simpa [UInt32.le_iff_toNat_le] using upper
    have amount : (32 : UInt32).toNat = 32 := rfl
    refine Or.inr ⟨bounds, ?_⟩
    change (c.val + 32).toNat = c.val.toNat + 32
    rw [UInt32.toNat_add, amount]
    omega
  case isFalse => exact Or.inl rfl

theorem toLower_toLower (c : Char) : c.toLower.toLower = c.toLower := by
  rcases toLower_cases c with same | ⟨upper, code⟩
  · rw [same, same]
  · rcases toLower_cases c.toLower with same | ⟨again, -⟩
    · exact same
    · omega

/-- Only a small letter is the lower case of another character. -/
theorem eq_of_toLower {c d : Char} (lower : c.toLower = d)
    (other : ¬ (97 ≤ d.toNat ∧ d.toNat ≤ 122)) : c = d := by
  rcases toLower_cases c with same | ⟨upper, code⟩
  · exact same.symm.trans lower
  · rw [lower] at code
    omega

/-- Only a star is lowered to a star. -/
theorem eq_star_of_toLower {c : Char} (star : c.toLower = '*') : c = '*' :=
  eq_of_toLower star (by decide)

/-- Letters are not blank. -/
theorem isBlank_toLower (c : Char) : isBlank c.toLower = isBlank c := by
  have visible : ∀ d : Char, 65 ≤ d.toNat → d.toNat ≤ 122 → isBlank d = false := by
    intro d least greatest
    simp only [isBlank, blankRanges, List.any_cons, List.any_nil, Bool.or_false,
      Bool.or_eq_false_iff, Bool.and_eq_false_iff, decide_eq_false_iff_not]
    omega
  rcases toLower_cases c with same | ⟨upper, code⟩
  · rw [same]
  · rw [visible c (by omega) (by omega), visible c.toLower (by omega) (by omega)]

theorem trim_lower (cs : List Char) : trim (lower cs) = lower (trim cs) := by
  unfold trim lower
  rw [strip_map]
  congr 2
  funext c
  exact isBlank_toLower c

/-- Lowering brings in no character but small letters. -/
theorem mem_of_mem_lower {cs : List Char} {d : Char}
    (other : ¬ (97 ≤ d.toNat ∧ d.toNat ≤ 122)) (inside : d ∈ lower cs) : d ∈ cs := by
  obtain ⟨c, member, lower⟩ := List.mem_map.1 inside
  rwa [← eq_of_toLower lower other]

theorem lower_lower (cs : List Char) : lower (lower cs) = lower cs := by
  unfold lower
  rw [List.map_map]
  exact List.map_congr_left fun c _ => toLower_toLower c

theorem lowered_lowered (s : String) : lowered (lowered s) = lowered s := by
  unfold lowered
  rw [String.toList_ofList, lower_lower]

theorem eq_star_of_lowered {s : String} (star : lowered s = "*") : s = "*" := by
  have letters : s.toList.map Char.toLower = ['*'] := by
    rw [← String.toList_ofList (l := s.toList.map Char.toLower)]
    exact congrArg String.toList star
  obtain ⟨c, only, lower⟩ := List.map_eq_singleton_iff.1 letters
  rw [eq_star_of_toLower lower] at only
  rw [← String.ofList_toList (s := s), only]

end Text

end CacheGate
