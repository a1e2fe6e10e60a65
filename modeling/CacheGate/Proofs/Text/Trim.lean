import CacheGate.Text.Trim
import Mathlib.Data.List.DropRight

/-!
# The ends of texts

What is between the quotes of a text is what `unquote` leaves of it. A text is
`Legible` if a header can carry it and its reader gets it back unchanged:
trimming does nothing to it.
-/

namespace CacheGate.Text

variable {cs front tail : List Char} {c : Char} {p : Char → Bool}

/-! ## Stripping -/

theorem strip_eq_rdropWhile (p : Char → Bool) (cs : List Char) :
    strip p cs = (cs.dropWhile p).rdropWhile p := rfl

theorem strip_sublist (p : Char → Bool) (cs : List Char) : (strip p cs).Sublist cs :=
  (List.rdropWhile_prefix p _).sublist.trans (List.dropWhile_sublist p)

/-- What is left neither starts nor ends with such characters. -/
theorem head?_strip : ∀ c ∈ (strip p cs).head?, p c = false := by
  intro c first
  obtain ⟨tail, whole⟩ := List.rdropWhile_prefix p (cs.dropWhile p)
  have kept := List.head?_dropWhile_not p cs
  rw [← whole, List.head?_append, ← strip_eq_rdropWhile, Option.mem_def.1 first] at kept
  exact kept

theorem getLast?_strip : ∀ c ∈ (strip p cs).getLast?, p c = false := by
  intro c last
  rw [strip_eq_rdropWhile] at last
  obtain ⟨present, rfl⟩ := List.mem_getLast?_eq_getLast last
  exact Bool.eq_false_iff.2 (List.rdropWhile_last_not p _ present)

/-- Nothing is stripped off a text that neither starts nor ends with such characters. -/
theorem strip_eq_self (first : ∀ c ∈ cs.head?, p c = false)
    (last : ∀ c ∈ cs.getLast?, p c = false) : strip p cs = cs := by
  have front : cs.dropWhile p = cs := by
    cases cs with
    | nil => rfl
    | cons c cs =>
      have kept := first c rfl
      rw [List.dropWhile_cons_of_neg (by simp [kept])]
  have back : cs.reverse.dropWhile p = cs.reverse := by
    rw [← List.head?_reverse] at last
    cases reversed : cs.reverse with
    | nil => rfl
    | cons c rest =>
      rw [reversed] at last
      have kept := last c rfl
      rw [List.dropWhile_cons_of_neg (by simp [kept])]
  unfold strip
  rw [front, back, List.reverse_reverse]

theorem strip_strip : strip p (strip p cs) = strip p cs := strip_eq_self head?_strip getLast?_strip

theorem trimmed_trimmed (text : String) : trimmed (trimmed text) = trimmed text := by
  unfold trimmed trim
  rw [String.toList_ofList, strip_strip]

theorem strip_cons (extra : p c = true) : strip p (c :: cs) = strip p cs := by
  unfold strip
  rw [List.dropWhile_cons_of_pos extra]

theorem strip_append_left (extra : ∀ c ∈ front, p c = true) : strip p (front ++ cs) = strip p cs := by
  unfold strip
  rw [List.dropWhile_append_of_pos extra]

theorem strip_append (extra : ∀ c ∈ tail, p c = true) : strip p (cs ++ tail) = strip p cs := by
  have gone : tail.dropWhile p = [] := List.dropWhile_eq_nil_iff.2 extra
  have back : tail.reverse.dropWhile p = [] :=
    List.dropWhile_eq_nil_iff.2 fun c member => extra c (List.mem_reverse.1 member)
  unfold strip
  rw [List.dropWhile_append]
  split
  case isTrue nothing => rw [gone, List.isEmpty_iff.1 nothing]
  case isFalse => rw [List.reverse_append, List.dropWhile_append, back, List.isEmpty_nil, if_pos rfl]

theorem strip_eq_nil_iff : strip p cs = [] ↔ ∀ c ∈ cs, p c = true := by
  rw [strip_eq_rdropWhile, List.rdropWhile_eq_nil_iff]
  constructor
  · intro extra
    refine List.dropWhile_eq_nil_iff.1 ?_
    cases rest : cs.dropWhile p with
    | nil => rfl
    | cons c rest' =>
      have kept := List.head?_dropWhile_not p cs
      rw [rest] at kept extra
      cases kept.symm.trans (extra c List.mem_cons_self)
  · intro extra c member
    exact extra c ((List.dropWhile_sublist p).subset member)

/-- Where there is a character to keep, what is in front of it stays. -/
theorem strip_append_cons (first : ∀ d ∈ front.head?, p d = false) (kept : p c = false) :
    strip p (front ++ c :: tail) = front ++ c :: tail.rdropWhile p := by
  have start : (front ++ c :: tail).dropWhile p = front ++ c :: tail := by
    cases front with
    | nil => exact List.dropWhile_cons_of_neg (by simp [kept])
    | cons d front => exact List.dropWhile_cons_of_neg (by simp [first d rfl])
  have stop : (c :: front.reverse).dropWhile p = c :: front.reverse :=
    List.dropWhile_cons_of_neg (by simp [kept])
  unfold strip List.rdropWhile
  rw [start, List.reverse_append, List.reverse_cons, List.append_assoc, List.singleton_append,
    List.dropWhile_append, stop]
  split
  case isTrue nothing => simp [List.isEmpty_iff.1 nothing]
  case isFalse => simp

theorem strip_rdropWhile : strip p (cs.rdropWhile p) = strip p cs := by
  have whole : strip p (cs.rdropWhile p ++ cs.rtakeWhile p) = strip p (cs.rdropWhile p) :=
    strip_append fun c member => List.mem_rtakeWhile_imp member
  rw [List.rdropWhile_append_rtakeWhile] at whole
  exact whole.symm

/-- A stripped text has nothing to drop at its end. -/
theorem rdropWhile_eq_self (stripped : strip p cs = cs) : cs.rdropWhile p = cs := by
  refine (List.rdropWhile_prefix p cs).sublist.antisymm ?_
  have within := strip_sublist p (cs.rdropWhile p)
  rwa [strip_rdropWhile, stripped] at within

/-- Stripping comes to the same before and after a change of characters. -/
theorem strip_map (change : Char → Char) :
    strip p (cs.map change) = (strip (p ∘ change) cs).map change := by
  unfold strip
  rw [List.dropWhile_map, ← List.map_reverse, List.dropWhile_map, List.map_reverse]

/-- A text that two strips leave alone is left alone by the first. -/
theorem strip_eq_self_of_strip {q : Char → Bool} (same : strip q (strip p cs) = cs) :
    strip p cs = cs := by
  refine (strip_sublist p cs).antisymm ?_
  have within := strip_sublist q (strip p cs)
  rwa [same] at within

/-- The quotes around a text are removed, and no more than those if it has none itself. -/
theorem unquote_quoted (plain : ∀ c ∈ cs, (c == '"') = false) :
    unquote ('"' :: cs ++ ['"']) = cs := by
  have front : ('"' :: cs ++ ['"']).dropWhile (· == '"') = (cs ++ ['"']).dropWhile (· == '"') := rfl
  cases cs with
  | nil => rfl
  | cons c cs =>
    have start : (c :: cs ++ ['"']).dropWhile (· == '"') = c :: cs ++ ['"'] :=
      List.dropWhile_cons_of_neg (by simp [plain c List.mem_cons_self])
    have stop : ('"' :: (c :: cs).reverse).dropWhile (· == '"') =
        (c :: cs).reverse.dropWhile (· == '"') := rfl
    have back : (c :: cs).reverse.dropWhile (· == '"') = (c :: cs).reverse := by
      rw [List.dropWhile_eq_self_iff]
      intro inside
      rw [plain _ (List.mem_reverse.1 (List.getElem_mem inside))]
      exact Bool.false_ne_true
    unfold unquote strip
    rw [front, start, List.reverse_append, List.reverse_singleton, List.singleton_append, stop,
      back, List.reverse_reverse]

/-- Nothing is removed from a text without quotes. -/
theorem unquote_of_not_mem (absent : '"' ∉ cs) : unquote cs = cs := by
  refine strip_eq_self (fun c first => ?_) (fun c last => ?_)
  · exact beq_eq_false_iff_ne.2 fun same => absent (same ▸ List.mem_of_mem_head? first)
  · exact beq_eq_false_iff_ne.2 fun same => absent (same ▸ List.mem_of_mem_getLast? last)

/-! ## Legible texts -/

/-- Whether a character is a visible ASCII character or a space. -/
def Visible (c : Char) : Prop := 0x20 ≤ c.toNat ∧ c.toNat ≤ 0x7E

instance (c : Char) : Decidable (Visible c) := inferInstanceAs (Decidable (_ ∧ _))

/-- Visible characters, with spaces between them only. -/
structure Legible (cs : List Char) : Prop where
  visible : ∀ c ∈ cs, Visible c
  first : ∃ c ∈ cs.head?, isBlank c = false
  last : ∃ c ∈ cs.getLast?, isBlank c = false

theorem Legible.trim_eq (legible : Legible cs) : trim cs = cs := by
  obtain ⟨first, atFront, firstSeen⟩ := legible.first
  obtain ⟨last, atBack, lastSeen⟩ := legible.last
  refine strip_eq_self (fun c found => ?_) (fun c found => ?_)
  · rw [Option.mem_unique found atFront]
    exact firstSeen
  · rw [Option.mem_unique found atBack]
    exact lastSeen

theorem Legible.ne_nil (legible : Legible cs) : cs ≠ [] := by
  obtain ⟨first, atFront, -⟩ := legible.first
  rintro rfl
  cases atFront

/-- Whether a character is a visible ASCII character other than a space. -/
def Graphic (c : Char) : Prop := 0x21 ≤ c.toNat ∧ c.toNat ≤ 0x7E

instance (c : Char) : Decidable (Graphic c) := inferInstanceAs (Decidable (_ ∧ _))

theorem Graphic.visible (graphic : Graphic c) : Visible c := by
  unfold Graphic at graphic
  unfold Visible
  omega

theorem Graphic.isBlank_eq_false (graphic : Graphic c) : isBlank c = false := by
  have apart : ∀ range ∈ blankRanges, range.2 < 0x21 ∨ 0x7E < range.1 := by decide
  refine List.any_eq_false.2 fun range member inside => ?_
  have beside := apart range member
  unfold Graphic at graphic
  simp only [Bool.and_eq_true, decide_eq_true_eq] at inside
  omega

theorem graphic_of_all (all : (cs.all fun c => Graphic c) = true) : ∀ c ∈ cs, Graphic c :=
  fun c member => of_decide_eq_true (List.all_eq_true.1 all c member)

theorem legible_of_graphic (filled : cs ≠ []) (graphic : ∀ c ∈ cs, Graphic c) : Legible cs where
  visible c member := (graphic c member).visible
  first := ⟨cs.head filled, List.head_mem_head? filled,
    (graphic _ (List.head_mem filled)).isBlank_eq_false⟩
  last := ⟨cs.getLast filled, List.getLast_mem_getLast? filled,
    (graphic _ (List.getLast_mem filled)).isBlank_eq_false⟩

end CacheGate.Text
