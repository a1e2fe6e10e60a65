import CacheGate.EntityTag
import CacheGate.Http.Request
import CacheGate.Proofs.Http.Response
import CacheGate.Proofs.Text.Letters
import CacheGate.Proofs.Text.Utf8
import CacheGate.Proofs.Time.HttpDate

/-!
# Header values that arrive as they were sent

A legible text can be sent as a header value, and whoever reads the header
gets the same text (`Request.header?_withHeader_self`). Tags, dates and numbers
are legible, so a client can send back those that it got: a date is read as the
second that it was written for, and a tag names itself and no other tag
(`EntityTag.matchesHeader_text`).
-/

namespace CacheGate

open Http Time

/-! ## Sending and reading -/

namespace Text

variable {cs : List Char} {c : Char}

/-- A visible character is one byte. -/
theorem Visible.utf8EncodeChar_eq (visible : Visible c) :
    String.utf8EncodeChar c = [c.toUInt8] := by
  have code : c.val.toNat = c.toNat := rfl
  have greatest : (127 : UInt32).toNat = 127 := rfl
  have bound := visible.2
  have size : c.utf8Size = 1 :=
    Char.utf8Size_eq_one_iff.2 (UInt32.le_iff_toNat_le.2 (by omega))
  exact String.utf8EncodeChar_eq_singleton size

/-- The byte of a visible character is its code point. -/
theorem Visible.toNat_toUInt8 (visible : Visible c) : c.toUInt8.toNat = c.toNat := by
  have code : c.val.toNat = c.toNat := rfl
  have bound := visible.2
  change c.val.toUInt8.toNat = c.toNat
  rw [UInt32.toNat_toUInt8]
  omega

theorem Visible.byte_bounds (visible : Visible c) : 0x20 ≤ c.toUInt8 ∧ c.toUInt8 ≤ 0x7E := by
  rw [UInt8.le_iff_toNat_le, UInt8.le_iff_toNat_le, visible.toNat_toUInt8]
  exact visible

theorem encode_of_visible (visible : ∀ c ∈ cs, Visible c) :
    Utf8.encode (String.ofList cs) = cs.map Char.toUInt8 := by
  unfold Utf8.encode
  rw [String.toList_ofList]
  induction cs with
  | nil => rfl
  | cons c cs ih =>
    obtain ⟨first, rest⟩ := List.forall_mem_cons.1 visible
    rw [List.flatMap_cons, first.utf8EncodeChar_eq, ih rest]
    rfl

/-- A legible text can be sent as a header value. -/
theorem Legible.isFieldText (legible : Legible cs) : isFieldText (String.ofList cs) = true := by
  unfold Http.isFieldText
  rw [encode_of_visible legible.visible, List.all_map, List.all_eq_true]
  intro c member
  obtain ⟨lower, upper⟩ := (legible.visible c member).byte_bounds
  have other : c.toUInt8 ≠ 0x7F := by
    intro same
    rw [same] at upper
    exact absurd upper (by decide)
  simp [isFieldByte, lower, other]

/-- A legible text is read off the bytes that were sent for it. -/
theorem Legible.visibleText?_encode (legible : Legible cs) :
    visibleText? (Utf8.encode (String.ofList cs)) = some (String.ofList cs) := by
  have inside : ((cs.map Char.toUInt8).all fun b =>
      (0x20 ≤ b && b ≤ 0x7E) || b == 0x09) = true := by
    rw [List.all_map, List.all_eq_true]
    intro c member
    obtain ⟨lower, upper⟩ := (legible.visible c member).byte_bounds
    simp [lower, upper]
  have same : ((cs.map Char.toUInt8).map fun b => Char.ofNat b.toNat) = cs := by
    rw [List.map_map]
    refine (List.map_congr_left fun c member => ?_).trans (List.map_id cs)
    change Char.ofNat c.toUInt8.toNat = c
    rw [(legible.visible c member).toNat_toUInt8, Char.ofNat_toNat]
  unfold visibleText?
  rw [encode_of_visible legible.visible, if_pos inside, same]

theorem graphic_of_isDigit (digit : c.isDigit = true) : Graphic c := by
  have code := toNat_of_isDigit digit
  unfold Graphic
  omega

theorem graphic_intText {n : Int} : ∀ c ∈ (intText n).toList, Graphic c := by
  intro c member
  rcases mem_intText member with rfl | digit
  · decide
  · exact graphic_of_isDigit digit

/-- Numbers are legible, with and without a sign. -/
theorem legible_intText (n : Int) : Legible (intText n).toList :=
  legible_of_graphic (intText_ne_nil n) graphic_intText

end Text

namespace Http.Request

variable {request : Request} {name other : String} {cs : List Char}

/-- A header is read as the legible text whose bytes were sent. -/
theorem header?_of_sent (legible : Text.Legible cs)
    (sent : request.headers.get? name = some (Utf8.encode (String.ofList cs))) :
    request.header? name = some (String.ofList cs) := by
  have filled : (Text.trim cs).isEmpty = false := by
    rw [legible.trim_eq]
    exact List.isEmpty_eq_false_iff.2 legible.ne_nil
  unfold header?
  simp only [sent, bind, Option.bind_some, legible.visibleText?_encode]
  unfold Text.nonBlank? Text.trimmed
  rw [String.toList_ofList, filled, legible.trim_eq]
  rfl

/-- A header that was set to a legible text has that text. -/
theorem header?_withHeader_self (legible : Text.Legible cs) :
    (request.withHeader name (String.ofList cs)).header? name = some (String.ofList cs) := by
  refine header?_of_sent legible ?_
  unfold withHeader
  rw [if_pos legible.isFieldText]
  exact Headers.get?_insert_self ..

/-- Other headers are as they were. -/
theorem header?_withHeader_of_ne {value : String}
    (differs : Text.lowered other ≠ Text.lowered name) :
    (request.withHeader name value).header? other = request.header? other := by
  unfold withHeader header?
  split
  · dsimp only
    rw [Headers.get?_insert_of_ne differs]
  · rfl

end Http.Request

/-! ## Tags, dates and numbers -/

namespace EntityTag

variable {tag other : EntityTag}

theorem digits_inj : tag.digits = other.digits ↔ tag = other := by
  constructor
  · intro same
    have hash := UInt64.toNat_inj.1 (Text.digits_inj.1 same)
    cases tag
    cases other
    exact congrArg EntityTag.mk hash
  · rintro rfl
    rfl

/-- A tag is written in digits, with quotes at its ends. -/
theorem legible_text (tag : EntityTag) : Text.Legible ('"' :: tag.digits ++ ['"']) := by
  refine Text.legible_of_graphic (by simp) fun c member => ?_
  rcases List.mem_append.1 member with front | quote
  · rcases List.mem_cons.1 front with rfl | digit
    · decide
    · exact Text.graphic_of_isDigit (Text.isDigit_of_mem_digits digit)
  · rw [List.mem_singleton.1 quote]
    decide

/-- As a header, the text of a tag names that tag and no other. -/
theorem matchesHeader_text : tag.matchesHeader other.text = true ↔ other = tag := by
  have plain : ∀ c ∈ other.digits, (c == '"') = false := by
    intro c member
    have digit := Text.isDigit_of_mem_digits member
    rw [beq_eq_false_iff_ne]
    rintro rfl
    cases digit
  have single : ('"' :: other.digits ++ ['"']).splitOn ',' = ['"' :: other.digits ++ ['"']] := by
    refine List.splitOn_eq_singleton fun comma => ?_
    rcases List.mem_append.1 comma with front | quote
    · rcases List.mem_cons.1 front with same | digit
      · cases same
      · cases Text.isDigit_of_mem_digits digit
    · cases List.mem_singleton.1 quote
  have star : ('"' :: other.digits ++ ['"'] == ['*']) = false := rfl
  have strong : dropWeak ('"' :: other.digits ++ ['"']) = '"' :: other.digits ++ ['"'] := rfl
  unfold matchesHeader named text
  rw [String.toList_ofList, single, List.any_cons, List.any_nil, Bool.or_false,
    other.legible_text.trim_eq, star, strong, Text.unquote_quoted plain, Bool.false_or, beq_iff_eq,
    digits_inj]

end EntityTag

namespace Http.Request

variable {request : Request} {name : String}

theorem header?_withHeader_tag (tag : EntityTag) :
    (request.withHeader name tag.text).header? name = some tag.text :=
  header?_withHeader_self tag.legible_text

theorem header?_withHeader_date (instant : Instant) :
    (request.withHeader name (HttpDate.format instant)).header? name =
      some (HttpDate.format instant) :=
  header?_withHeader_self (HttpDate.legible_formatChars instant)

/-- A number is read off the bytes that were sent for it. -/
theorem header?_of_sent_int {n : Int}
    (sent : request.headers.get? name = some (Utf8.encode (Text.intText n))) :
    request.header? name = some (Text.intText n) := by
  rw [← String.ofList_toList (s := Text.intText n)] at sent ⊢
  exact header?_of_sent (Text.legible_intText n) sent

end Http.Request

theorem Http.isFieldText_tag (tag : EntityTag) : isFieldText tag.text = true :=
  tag.legible_text.isFieldText

theorem Http.isFieldText_int (n : Int) : isFieldText (Text.intText n) = true := by
  rw [← String.ofList_toList (s := Text.intText n)]
  exact (Text.legible_intText n).isFieldText

/-- A tag can be read off its header value. -/
theorem Http.tag_text_inj {left right : EntityTag} : left.text = right.text ↔ left = right := by
  unfold EntityTag.text
  rw [String.ofList_inj, List.append_cancel_right_eq, List.cons.injEq, EntityTag.digits_inj]
  exact and_iff_right rfl

theorem Http.isFieldText_date (instant : Instant) : isFieldText (HttpDate.format instant) = true :=
  (HttpDate.legible_formatChars instant).isFieldText

/-! ## Texts that headers carry -/

namespace Text

/-- Whether headers carry a character: the visible ones, spaces and tabs. -/
def Sendable (c : Char) : Prop := Visible c ∨ c = '\t'

instance (c : Char) : Decidable (Sendable c) := inferInstanceAs (Decidable (_ ∨ _))

theorem isFieldText_of_sendable {text : String} (sendable : ∀ c ∈ text.toList, Sendable c) :
    isFieldText text = true := by
  unfold isFieldText Utf8.encode
  rw [List.all_flatMap, List.all_eq_true]
  intro c member
  rcases sendable c member with visible | rfl
  · obtain ⟨lower, upper⟩ := visible.byte_bounds
    have other : c.toUInt8 ≠ 0x7F := by
      intro same
      rw [same] at upper
      exact absurd upper (by decide)
    rw [visible.utf8EncodeChar_eq]
    simp [isFieldByte, lower, other]
  · rfl

/-- Whether a character is other than the ASCII control characters. -/
def Uncontrolled (c : Char) : Prop := 0x20 ≤ c.toNat ∧ c.toNat ≠ 0x7F

instance (c : Char) : Decidable (Uncontrolled c) := inferInstanceAs (Decidable (_ ∧ _))

/-- Header values may be of any characters but ASCII control characters. -/
theorem isFieldText_of_uncontrolled {text : String}
    (uncontrolled : ∀ c ∈ text.toList, Uncontrolled c) : isFieldText text = true := by
  unfold isFieldText Utf8.encode
  rw [List.all_flatMap, List.all_eq_true]
  intro c member
  rw [List.all_eq_true]
  intro b inside
  have bounds : 0x20 ≤ b.toNat ∧ b.toNat ≠ 0x7F := by
    rcases Utf8.toNat_of_mem_encodeChar inside with same | other
    · rw [same]
      exact uncontrolled c member
    · omega
  have lower : 0x20 ≤ b := UInt8.le_iff_toNat_le.2 bounds.1
  have other : b ≠ 0x7F := fun same => bounds.2 (congrArg UInt8.toNat same)
  simp [isFieldByte, lower, other]

/-- A number can be sent as a header value. -/
theorem isFieldText_natText (n : Nat) : isFieldText (natText n) = true := by
  refine isFieldText_of_sendable fun c member => ?_
  unfold natText at member
  rw [String.toList_ofList] at member
  exact Or.inl (graphic_of_isDigit (isDigit_of_mem_digits member)).visible

theorem Sendable.toLower {c : Char} (sendable : Sendable c) : Sendable c.toLower := by
  rcases toLower_cases c with same | ⟨upper, code⟩
  · rwa [same]
  · refine Or.inl ?_
    unfold Visible
    omega

theorem sendable_of_visibleText? {value : Bytes} {text : String}
    (read : visibleText? value = some text) : ∀ c ∈ text.toList, Sendable c := by
  unfold visibleText? at read
  split at read
  case isFalse => cases read
  case isTrue carried =>
    obtain rfl := Option.some.inj read
    intro c member
    rw [String.toList_ofList] at member
    obtain ⟨b, inside, rfl⟩ := List.mem_map.1 member
    have bounds := List.all_eq_true.1 carried b inside
    simp only [Bool.or_eq_true, Bool.and_eq_true, decide_eq_true_iff, beq_iff_eq,
      UInt8.le_iff_toNat_le] at bounds
    rcases bounds with visible | rfl
    · have valid : b.toNat.isValidChar := Or.inl (Nat.lt_of_le_of_lt visible.2 (by decide))
      have code : (Char.ofNat b.toNat).toNat = b.toNat := by
        unfold Char.ofNat
        rw [dif_pos valid]
        rfl
      refine Or.inl ?_
      unfold Visible
      rwa [code]
    · exact Or.inr rfl

theorem sendable_of_nonBlank? {whole text : String} (read : nonBlank? whole = some text)
    (sendable : ∀ c ∈ whole.toList, Sendable c) : ∀ c ∈ text.toList, Sendable c := by
  unfold nonBlank? at read
  split at read
  case isTrue => cases read
  case isFalse =>
    obtain rfl := Option.some.inj read
    intro c member
    rw [trimmed, String.toList_ofList] at member
    exact sendable c ((strip_sublist _ _).subset member)

end Text

/-- What is read of a header is made of characters that headers carry. -/
theorem Http.Request.sendable_of_header? {request : Request} {name text : String}
    (read : request.header? name = some text) : ∀ c ∈ text.toList, Text.Sendable c := by
  unfold header? at read
  simp only [bind, Option.bind_eq_some_iff] at read
  obtain ⟨value, -, whole, shown, filled⟩ := read
  exact Text.sendable_of_nonBlank? filled (Text.sendable_of_visibleText? shown)

end CacheGate
