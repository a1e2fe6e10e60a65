import CacheGate.Text.Trim
import Mathlib.Data.List.Basic
import Mathlib.Data.List.TakeWhile

/-!
# Cutting texts

The pieces of a text between separators are made of its other characters
(`Text.mem_of_mem_splitOn`), and a text that was put together of such pieces
is cut into them again (`Text.splitOn_flatMap`). The lines of a text are its
pieces between newlines, if each line is ended by one.
-/

namespace CacheGate.Text

variable {sep c : Char} {cs piece front rest : List Char}

/-! ## Pieces between separators -/

/-- A piece is made of characters of the text, none of which is the separator. -/
theorem mem_of_mem_splitOn (member : piece ∈ cs.splitOn sep) (inside : c ∈ piece) :
    c ∈ cs ∧ c ≠ sep := by
  induction cs generalizing piece with
  | nil =>
    rw [List.splitOn_nil, List.mem_singleton] at member
    subst member
    cases inside
  | cons d cs ih =>
    rw [List.splitOn_cons_eq_if_modifyHead] at member
    by_cases same : (d == sep) = true
    · rw [if_pos same] at member
      rcases List.mem_cons.1 member with rfl | later
      · cases inside
      · exact (ih later inside).imp_left (List.mem_cons_of_mem d)
    · rw [if_neg same] at member
      obtain ⟨first, pieces, cut⟩ := List.exists_cons_of_ne_nil (List.splitOn_ne_nil sep cs)
      rw [cut, List.modifyHead_cons] at member
      rw [cut] at ih
      rcases List.mem_cons.1 member with rfl | later
      · rcases List.mem_cons.1 inside with rfl | further
        · exact ⟨List.mem_cons_self, fun equal => same (beq_iff_eq.2 equal)⟩
        · exact (ih List.mem_cons_self further).imp_left (List.mem_cons_of_mem d)
      · exact (ih (List.mem_cons_of_mem _ later) inside).imp_left (List.mem_cons_of_mem d)

/-- Pieces that were put behind each other, with a separator in front of each,
are found again. -/
theorem splitOn_flatMap {α : Type} (write : α → List Char) {items : List α} (first : sep ∉ front)
    (free : ∀ item ∈ items, sep ∉ write item) :
    (front ++ items.flatMap fun item => sep :: write item).splitOn sep =
      front :: items.map write := by
  induction items generalizing front with
  | nil => rw [List.flatMap_nil, List.append_nil, List.splitOn_eq_singleton first, List.map_nil]
  | cons item items ih =>
    obtain ⟨next, later⟩ := List.forall_mem_cons.1 free
    rw [List.flatMap_cons, List.cons_append, List.splitOn_append_cons_self_of_not_mem first,
      ih next later, List.map_cons]

/-- Texts that are each ended by a separator are cut there, and where they
have separators themselves; nothing is behind the last one. -/
theorem splitOn_ended {α : Type} (write : α → List Char) (items : List α) :
    (items.flatMap fun item => write item ++ [sep]).splitOn sep =
      (items.flatMap fun item => (write item).splitOn sep) ++ [[]] := by
  induction items with
  | nil => exact List.splitOn_nil sep
  | cons item items ih =>
    rw [List.flatMap_cons, List.append_assoc, List.singleton_append,
      List.splitOn_append_cons_self, ih, List.flatMap_cons, List.append_assoc]

/-! ## Cutting at the first separator -/

theorem cut?_append (absent : sep ∉ front) :
    cut? sep (front ++ sep :: rest) = some (front, rest) := by
  have other : ∀ c ∈ front, (c != sep) = true := fun c member =>
    bne_iff_ne.2 fun same => absent (same ▸ member)
  unfold cut?
  rw [List.dropWhile_append_of_pos other, List.takeWhile_append_of_pos other,
    List.dropWhile_cons_of_neg (by simp), List.takeWhile_cons_of_neg (by simp), List.append_nil]

/-- A cut gives the text in front of the first separator and the text behind it. -/
theorem cut?_eq_some (cut : cut? sep cs = some (front, rest)) :
    cs = front ++ sep :: rest ∧ sep ∉ front := by
  unfold cut? at cut
  split at cut
  case h_1 => cases cut
  case h_2 d tail behind =>
    obtain ⟨rfl, rfl⟩ := Prod.mk.inj (Option.some.inj cut)
    obtain rfl : d = sep := by
      have kept := List.head?_dropWhile_not (· != sep) cs
      rw [behind] at kept
      simpa using kept
    refine ⟨?_, fun member => ?_⟩
    · rw [← behind, List.takeWhile_append_dropWhile]
    · have passed := List.all_eq_true.1 (List.all_takeWhile (p := (· != d)) (l := cs)) d member
      simp at passed

/-- A text without the separator is not cut. -/
theorem cut?_eq_none_iff : cut? sep cs = none ↔ sep ∉ cs := by
  constructor
  · intro uncut member
    obtain ⟨front, rest, rfl, absent⟩ := List.eq_append_cons_of_mem member
    rw [cut?_append absent] at uncut
    cases uncut
  · intro absent
    have passed : cs.dropWhile (· != sep) = [] := by
      apply List.dropWhile_eq_nil_iff.2
      intro c member
      exact bne_iff_ne.2 fun same => absent (same ▸ member)
    unfold cut?
    rw [passed]

/-! ## Lines -/

/-- The pieces of a text between its newlines. -/
def pieces (text : String) : List String := (text.toList.splitOn '\n').map String.ofList

/-- The lines of a text, each of which is ended by a newline. -/
def lines (text : String) : List String := (pieces text).dropLast

theorem pieces_of_not_mem {text : String} (single : '\n' ∉ text.toList) : pieces text = [text] := by
  unfold pieces
  rw [List.splitOn_eq_singleton single, List.map_singleton, String.ofList_toList]

/-- Each text is written with a newline behind it, and read as its pieces. -/
theorem lines_ended (texts : List String) :
    lines (String.ofList (texts.flatMap fun text => text.toList ++ ['\n'])) =
      texts.flatMap pieces := by
  unfold lines
  rw [pieces, String.toList_ofList, splitOn_ended, List.map_append, List.map_singleton,
    List.dropLast_concat, List.map_flatMap]
  rfl

theorem not_mem_of_mem_lines {text line : String} (member : line ∈ lines text) :
    '\n' ∉ line.toList := by
  obtain ⟨cs, cut, rfl⟩ := List.mem_map.1 ((List.dropLast_sublist _).subset member)
  rw [String.toList_ofList]
  exact fun inside => (mem_of_mem_splitOn cut inside).2 rfl

end CacheGate.Text
