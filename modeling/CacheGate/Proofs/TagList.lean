import CacheGate.Proofs.Http.FieldText
import CacheGate.Proofs.Text.Cutting

/-!
# Lists of tags

An `If-Match` or `If-None-Match` header lists its elements between commas. An
`EntityTag.Element` is a star or a tag in one of its spellings, and a `Piece`
of a header is an element with blank characters around it. Reading a piece
undoes its writing (`named_trim_piece`): nothing that is stripped off a piece,
blanks, weak mark or quotes, occurs in the digits of a tag. So a header names a
tag exactly if one of its elements does.
-/

namespace CacheGate.EntityTag

/-! ## Spellings -/

/-- The ways to write a tag. -/
inductive Spelling where
  | bare
  | quoted
  | weakQuoted
  | weakBare
  deriving DecidableEq, Repr

/-- A tag in one of its spellings. -/
def Spelling.write (tag : EntityTag) : Spelling → List Char
  | .bare => tag.digits
  | .quoted => '"' :: tag.digits ++ ['"']
  | .weakQuoted => 'W' :: '/' :: '"' :: tag.digits ++ ['"']
  | .weakBare => 'W' :: '/' :: tag.digits

/-- What a header may list. -/
inductive Element where
  | star
  | tag (spelling : Spelling) (tag : EntityTag)
  deriving DecidableEq, Repr

namespace Element

/-- The text of an element. -/
def write : Element → List Char
  | star => ['*']
  | tag spelling listed => spelling.write listed

/-- A star names every tag, any other element the one it spells. -/
def Names (element : Element) (named : EntityTag) : Prop :=
  element = star ∨ ∃ spelling, element = tag spelling named

end Element

/-- An element of a header with the blank characters around it. -/
structure Piece where
  front : List Char
  element : Element
  back : List Char
  blankFront : ∀ c ∈ front, Text.isBlank c = true
  blankBack : ∀ c ∈ back, Text.isBlank c = true

/-- An element without blank characters around it. -/
def Element.alone (element : Element) : Piece := ⟨[], element, [], nofun, nofun⟩

/-- The text of a piece. -/
def Piece.write (piece : Piece) : List Char := piece.front ++ piece.element.write ++ piece.back

/-- The header that lists pieces between commas. -/
def header (pieces : List Piece) : String :=
  String.intercalate "," (pieces.map fun piece => String.ofList piece.write)

/-! ## Characters -/

variable {tag other : EntityTag} {c : Char}

theorem isDigit_of_mem_digits (member : c ∈ tag.digits) : c.isDigit = true :=
  Text.isDigit_of_mem_digits member

/-- A character that is no digit is in no tag. -/
theorem not_mem_digits (other : c.isDigit = false) : c ∉ tag.digits := by
  intro member
  cases other.symm.trans (isDigit_of_mem_digits member)

theorem Spelling.mem_write {spelling : Spelling} (member : c ∈ spelling.write tag) :
    c.isDigit = true ∨ c = '"' ∨ c = 'W' ∨ c = '/' := by
  cases spelling <;> simp only [write, List.cons_append, List.mem_cons, List.mem_append,
    List.not_mem_nil, or_false] at member
  case bare => exact Or.inl (isDigit_of_mem_digits member)
  case quoted =>
    rcases member with quote | digit | quote
    · exact Or.inr (Or.inl quote)
    · exact Or.inl (isDigit_of_mem_digits digit)
    · exact Or.inr (Or.inl quote)
  case weakQuoted =>
    rcases member with weak | slash | quote | digit | quote
    · exact Or.inr (Or.inr (Or.inl weak))
    · exact Or.inr (Or.inr (Or.inr slash))
    · exact Or.inr (Or.inl quote)
    · exact Or.inl (isDigit_of_mem_digits digit)
    · exact Or.inr (Or.inl quote)
  case weakBare =>
    rcases member with weak | slash | digit
    · exact Or.inr (Or.inr (Or.inl weak))
    · exact Or.inr (Or.inr (Or.inr slash))
    · exact Or.inl (isDigit_of_mem_digits digit)

/-- Elements are written in visible characters, none of which is a comma. -/
theorem Element.mem_write {element : Element} (member : c ∈ element.write) :
    Text.Graphic c ∧ c ≠ ',' := by
  cases element with
  | star =>
    rw [List.mem_singleton.1 member]
    decide
  | tag spelling listed =>
    rcases Spelling.mem_write member with digit | rfl | rfl | rfl
    · refine ⟨Text.graphic_of_isDigit digit, ?_⟩
      rintro rfl
      cases digit
    all_goals decide

theorem Element.write_ne_nil (element : Element) : element.write ≠ [] := by
  cases element with
  | star => exact List.cons_ne_nil _ _
  | tag spelling listed =>
    cases spelling
    · exact Text.digits_ne_nil
    all_goals exact List.cons_ne_nil _ _

/-! ## Reading an element -/

/-- The mark of a weak tag and its quotes are not part of the tag. -/
theorem Spelling.unquote_dropWeak_write (spelling : Spelling) (tag : EntityTag) :
    Text.unquote (dropWeak (spelling.write tag)) = tag.digits := by
  have unmarked : dropWeak tag.digits = tag.digits := by
    unfold dropWeak
    split
    case h_1 marked => cases isDigit_of_mem_digits (marked ▸ List.mem_cons_self)
    case h_2 => rfl
  have unquoted : Text.unquote tag.digits = tag.digits :=
    Text.unquote_of_not_mem (not_mem_digits rfl)
  have inQuotes : Text.unquote ('"' :: tag.digits ++ ['"']) = tag.digits := by
    apply Text.unquote_quoted
    intro c member
    rw [beq_eq_false_iff_ne]
    rintro rfl
    exact not_mem_digits rfl member
  cases spelling with
  | bare => exact (congrArg Text.unquote unmarked).trans unquoted
  | quoted => exact inQuotes
  | weakQuoted => exact inQuotes
  | weakBare => exact unquoted

theorem Spelling.write_ne_star (spelling : Spelling) (tag : EntityTag) :
    spelling.write tag ≠ ['*'] := by
  intro same
  have member : '*' ∈ spelling.write tag := same ▸ List.mem_cons_self
  rcases mem_write member with digit | quote | weak | slash
  · cases digit
  · cases quote
  · cases weak
  · cases slash

theorem Element.named_write_iff {element : Element} :
    tag.named element.write = true ↔ element.Names tag := by
  cases element with
  | star => exact iff_of_true rfl (Or.inl rfl)
  | tag spelling listed =>
    have unstarred : (spelling.write listed == ['*']) = false :=
      beq_eq_false_iff_ne.2 (spelling.write_ne_star listed)
    unfold named write
    rw [unstarred, Bool.false_or, beq_iff_eq, spelling.unquote_dropWeak_write, digits_inj]
    constructor
    · intro same
      exact Or.inr ⟨spelling, congrArg (Element.tag spelling) same⟩
    · intro names
      rcases names with star | ⟨_, same⟩
      · cases star
      · exact (Element.tag.inj same).2

/-- The blank characters around an element are not part of it. -/
theorem Piece.trim_write (piece : Piece) : Text.trim piece.write = piece.element.write := by
  have legible : Text.Legible piece.element.write :=
    Text.legible_of_graphic piece.element.write_ne_nil fun c member =>
      (Element.mem_write member).1
  unfold Text.trim write
  rw [Text.strip_append piece.blankBack, Text.strip_append_left piece.blankFront]
  exact legible.trim_eq

/-! ## Reading a header -/

/-- A header of at least one piece is cut into its pieces again. -/
theorem splitOn_header {pieces : List Piece} (present : pieces ≠ []) :
    (header pieces).toList.splitOn ',' = pieces.map Piece.write := by
  have whole : (header pieces).toList = [','].intercalate (pieces.map Piece.write) := by
    unfold header
    rw [String.toList_intercalate, List.map_map]
    congr 2
    funext piece
    exact String.toList_ofList
  have unseparated : ∀ text ∈ pieces.map Piece.write, ',' ∉ text := by
    intro text written comma
    obtain ⟨piece, -, rfl⟩ := List.mem_map.1 written
    rcases List.mem_append.1 comma with front | back
    · rcases List.mem_append.1 front with blank | inside
      · cases piece.blankFront _ blank
      · exact (Element.mem_write inside).2 rfl
    · cases piece.blankBack _ back
  rw [whole, List.splitOn_intercalate ',' unseparated (fun none => present (List.map_eq_nil_iff.1 none))]

/-- A header names a tag exactly if one of its elements does. -/
theorem matchesHeader_header {pieces : List Piece} :
    tag.matchesHeader (header pieces) = true ↔ ∃ piece ∈ pieces, piece.element.Names tag := by
  unfold matchesHeader
  cases pieces with
  | nil =>
    have blank : (header []).toList.splitOn ',' = [[]] := List.splitOn_nil ','
    have unnamed : tag.named [] = false :=
      beq_eq_false_iff_ne.2 fun none => Text.digits_ne_nil none.symm
    rw [blank, List.any_cons, List.any_nil, Bool.or_false]
    refine iff_of_false (fun named => ?_) (fun found => ?_)
    · cases unnamed.symm.trans named
    · obtain ⟨_, member, -⟩ := found
      cases member
  | cons first rest =>
    rw [splitOn_header (List.cons_ne_nil _ _), List.any_map, List.any_eq_true]
    simp only [Function.comp_apply, Piece.trim_write, Element.named_write_iff]

/-- The text of a tag is its quoted spelling. -/
theorem intercalate_text (tags : List EntityTag) :
    String.intercalate "," (tags.map text) =
      header (tags.map fun tag => (Element.tag .quoted tag).alone) := by
  unfold header
  rw [List.map_map]
  congr 2
  funext tag
  exact congrArg String.ofList (List.append_nil _).symm

/-- A header made of pieces names the tag of a value exactly if one of its
elements is a star or spells the hash of the value. In particular the tag of
the value is found at any place of any header, and a header of rendered tags
names the tag of the value only if it is one of them. -/
theorem tag_list_is_matched_exactly (value : Bytes) :
    (∀ pieces : List Piece, (of value).matchesHeader (header pieces) = true ↔
      ∃ piece ∈ pieces, piece.element = .star ∨
        ∃ spelling hash, piece.element = .tag spelling ⟨hash⟩ ∧ hash = SipHash.hash value) ∧
    (∀ before after : List Piece,
      (of value).matchesHeader
        (header (before ++ (Element.tag .quoted (of value)).alone :: after)) = true) ∧
    ∀ tags : List EntityTag,
      (of value).matchesHeader (String.intercalate "," (tags.map text)) = true ↔
        of value ∈ tags := by
  refine ⟨fun pieces => ?_, fun before after => ?_, fun tags => ?_⟩
  · rw [matchesHeader_header]
    refine exists_congr fun piece => and_congr_right fun _ => or_congr_right ?_
    constructor
    · intro spelled
      obtain ⟨spelling, same⟩ := spelled
      exact ⟨spelling, _, same, rfl⟩
    · intro spelled
      obtain ⟨spelling, _, same, rfl⟩ := spelled
      exact ⟨spelling, same⟩
  · apply matchesHeader_header.2
    exact ⟨_, List.mem_append_right before List.mem_cons_self, Or.inr ⟨.quoted, rfl⟩⟩
  · rw [intercalate_text, matchesHeader_header]
    constructor
    · intro named
      obtain ⟨piece, member, names⟩ := named
      obtain ⟨tag, listed, rfl⟩ := List.mem_map.1 member
      rcases names with star | ⟨_, same⟩
      · cases star
      · exact (Element.tag.inj same).2 ▸ listed
    · intro listed
      exact ⟨_, List.mem_map_of_mem listed, Or.inr ⟨.quoted, rfl⟩⟩

end CacheGate.EntityTag
