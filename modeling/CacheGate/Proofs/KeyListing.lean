import CacheGate.KeyListing
import CacheGate.Proofs.Json.Strings
import CacheGate.Proofs.Text.Utf8
import CacheGate.Proofs.Xml

/-!
# Reading key listings back

What a client gets from the bytes of a listing. `Charset.decode?` gives a text
back as its character set can carry it, which is `Charset.shown`; both
escapings keep apart what that replacement leaves (`Charset.shown_render`), so
the names of a listing are read back one by one, each as it can be shown
(`KeysFormat.names?_decoded`).
-/

namespace CacheGate

/-! ## Character sets -/

namespace Charset

/-- What stands for a character in a character set. -/
def shownChar : Charset → Char → Char
  | .utf8, c => c
  | .latin1, c => if c.toNat ≤ 0xFF then c else '?'

/-- A text as it can be carried: unchanged in UTF-8, and with a question mark
for every character above U+00FF in Latin-1. -/
def shown (charset : Charset) (text : String) : String :=
  String.ofList (text.toList.map charset.shownChar)

/-- The text of a body. -/
def decode? : Charset → Bytes → Option String
  | .utf8, body => Utf8.decode? body
  | .latin1, body => some (String.ofList (body.map fun b => Char.ofNat b.toNat))

variable {charset : Charset} {c : Char}

theorem toList_shown (charset : Charset) (text : String) :
    (charset.shown text).toList = text.toList.map charset.shownChar :=
  String.toList_ofList

theorem shown_utf8 (text : String) : utf8.shown text = text := by
  unfold shown
  rw [show utf8.shownChar = id from rfl, List.map_id, String.ofList_toList]

theorem ofNat_latin1Byte (c : Char) : Char.ofNat (latin1Byte c).toNat = latin1.shownChar c := by
  change _ = if c.toNat ≤ 0xFF then c else '?'
  unfold latin1Byte
  split
  case isTrue small => rw [UInt8.toNat_ofNat', Nat.mod_eq_of_lt (by omega), Char.ofNat_toNat]
  case isFalse => rfl

theorem decode?_encode (charset : Charset) (text : String) :
    charset.decode? (charset.encode text) = some (charset.shown text) := by
  cases charset with
  | utf8 =>
    rw [shown_utf8]
    exact Utf8.decode?_encode text
  | latin1 =>
    change some (String.ofList ((text.toList.map latin1Byte).map _)) = _
    rw [List.map_map]
    congr 3
    funext c
    exact ofNat_latin1Byte c

/-! ### Escaped texts -/

theorem shownChar_of_small (small : c.toNat ≤ 0xFF) : charset.shownChar c = c := by
  cases charset with
  | utf8 => rfl
  | latin1 => exact if_pos small

theorem map_shownChar_of_small {cs : List Char} (small : ∀ c ∈ cs, c.toNat ≤ 0xFF) :
    cs.map charset.shownChar = cs :=
  (List.map_congr_left fun c member => shownChar_of_small (small c member)).trans (List.map_id cs)

/-- An escaping that leaves the characters above U+00FF alone, and writes all
others with such as both sets carry. -/
structure Carries (escape : Char → List Char) : Prop where
  small : ∀ c, c.toNat ≤ 0xFF → ∀ d ∈ escape c, d.toNat ≤ 0xFF
  large : ∀ c, 0xFF < c.toNat → escape c = [c]
  mark : escape '?' = ['?']

theorem Carries.map_shownChar {escape : Char → List Char} (carries : Carries escape)
    (charset : Charset) (c : Char) :
    (escape c).map charset.shownChar = escape (charset.shownChar c) := by
  by_cases small : c.toNat ≤ 0xFF
  · rw [shownChar_of_small small]
    exact map_shownChar_of_small (carries.small c small)
  · have large := carries.large c (by omega)
    rw [large, List.map_singleton]
    cases charset with
    | utf8 => exact large.symm
    | latin1 =>
      change [if c.toNat ≤ 0xFF then c else '?'] = escape (if c.toNat ≤ 0xFF then c else '?')
      rw [if_neg small, carries.mark]

/-- What is shown of an escaped text is what is shown of the text, escaped. -/
theorem Carries.map_flatMap {escape : Char → List Char} (carries : Carries escape)
    (charset : Charset) (cs : List Char) :
    (cs.flatMap escape).map charset.shownChar = (cs.map charset.shownChar).flatMap escape := by
  rw [List.map_flatMap, List.flatMap_map]
  congr 1
  funext c
  exact carries.map_shownChar charset c

/-- The small characters are checked by their codes. -/
theorem carries_of_codes {escape : Char → List Char}
    (small : ∀ n ≤ 0xFF, ((escape (Char.ofNat n)).all fun d => d.toNat ≤ 0xFF) = true)
    (large : ∀ c, 0xFF < c.toNat → escape c = [c]) (mark : escape '?' = ['?']) :
    Carries escape where
  -- a Boolean check, since a bounded `∀ d` over characters is decided by trying all of them
  small c bound := by simpa using small c.toNat bound
  large := large
  mark := mark

theorem carries_json : Carries Json.escapeChar := by
  refine carries_of_codes (by decide +kernel) (fun c large => ?_) rfl
  unfold Json.escapeChar
  split
  case h_8 => exact if_neg (by omega)
  all_goals exact absurd large (by decide)

theorem carries_xml : Carries Xml.escapeChar := by
  refine carries_of_codes (by decide +kernel) (fun c large => ?_) rfl
  unfold Xml.escapeChar
  split
  case h_6 => rfl
  all_goals exact absurd large (by decide)

end Charset

/-! ## Listings as they are shown -/

namespace Charset

variable (charset : Charset)

theorem map_quote (cs : List Char) :
    (Json.quote cs).map charset.shownChar = Json.quote (cs.map charset.shownChar) := by
  have mark : charset.shownChar '"' = '"' := shownChar_of_small (by simp)
  unfold Json.quote
  rw [List.map_append, List.map_cons, carries_json.map_flatMap, List.map_singleton, mark]

theorem map_quoteAll (texts : List (List Char)) :
    (Json.quoteAll texts).map charset.shownChar =
      Json.quoteAll (texts.map (List.map charset.shownChar)) := by
  have opening : charset.shownChar '[' = '[' := shownChar_of_small (by simp)
  have closing : charset.shownChar ']' = ']' := shownChar_of_small (by simp)
  cases texts with
  | nil =>
    change [charset.shownChar '[', charset.shownChar ']'] = ['[', ']']
    rw [opening, closing]
  | cons cs texts =>
    have items : (texts.flatMap fun cs => ',' :: Json.quote cs).map charset.shownChar =
        (texts.map (List.map charset.shownChar)).flatMap fun cs => ',' :: Json.quote cs := by
      rw [List.map_flatMap, List.flatMap_map]
      congr 1
      funext cs
      rw [List.map_cons, map_quote, shownChar_of_small (by simp)]
    rw [List.map_cons, Json.quoteAll_cons, Json.quoteAll_cons, List.map_cons, List.map_append,
      List.map_append, map_quote, items, List.map_singleton, opening, closing]

theorem map_line (name : String) :
    (KeysFormat.line name).map charset.shownChar = KeysFormat.line (charset.shown name) := by
  unfold KeysFormat.line
  rw [List.map_append, toList_shown, List.map_singleton, shownChar_of_small (by simp)]

theorem map_element (name : String) :
    (KeysFormat.element name).map charset.shownChar = KeysFormat.element (charset.shown name) := by
  have opening : "<key>".toList.map charset.shownChar = "<key>".toList :=
    map_shownChar_of_small (by simp)
  have closing : "</key>".toList.map charset.shownChar = "</key>".toList :=
    map_shownChar_of_small (by simp)
  unfold KeysFormat.element Xml.escape
  rw [List.map_append, List.map_append, carries_xml.map_flatMap, toList_shown, opening, closing]

/-- What is shown of a listing is the listing of what is shown of the names:
no replaced character takes part in the layout of any format. -/
theorem shown_render (format : KeysFormat) (names : List String) :
    charset.shown (format.render names) = format.render (names.map charset.shown) := by
  unfold KeysFormat.render
  rw [shown, String.toList_ofList]
  congr 1
  cases format with
  | json =>
    dsimp only
    rw [map_quoteAll, List.map_map, List.map_map]
    congr 2
    funext name
    exact (charset.toList_shown name).symm
  | text =>
    dsimp only
    rw [List.map_flatMap, List.flatMap_map]
    congr 1
    funext name
    exact charset.map_line name
  | xml =>
    have opening : "<?xml version=\"1.0\"?><keys>".toList.map charset.shownChar =
        "<?xml version=\"1.0\"?><keys>".toList := map_shownChar_of_small (by simp)
    have closing : "</keys>".toList.map charset.shownChar = "</keys>".toList :=
      map_shownChar_of_small (by simp)
    dsimp only
    rw [List.map_append, List.map_append, List.map_flatMap, List.flatMap_map, opening, closing]
    congr 3
    funext name
    exact charset.map_element name

end Charset

/-! ## Reading documents -/

namespace Xml

/-- Reads `key` elements that hold text only, as long as there are any. -/
def keyElements? : (fuel : Nat) → List Char → Option (List String × List Char)
  | 0, _ => none
  | fuel + 1, cs =>
    match cs.dropPrefix? "<key>".toList with
    | none => some ([], cs)
    | some inside => do
      let (name, rest) ← text? inside
      let rest ← rest.dropPrefix? "</key>".toList
      let (names, rest) ← keyElements? fuel rest
      return (String.ofList name :: names, rest)

/-- The texts of the `key` elements of a document that has nothing else in its root. -/
def keys? (document : String) : Option (List String) := do
  let inside ← document.toList.dropPrefix? "<?xml version=\"1.0\"?><keys>".toList
  let (names, rest) ← keyElements? (inside.length + 1) inside
  if rest = "</keys>".toList then some names else none

theorem dropPrefix?_append (start rest : List Char) : (start ++ rest).dropPrefix? start = some rest :=
  List.dropPrefix?_eq_some_iff.2 ⟨start, rfl, beq_self_eq_true start⟩

/-- One element is read as its text, whatever the text is and whatever follows. -/
theorem keyElements?_element (fuel : Nat) (name : String) (rest : List Char) :
    keyElements? (fuel + 1) (KeysFormat.element name ++ rest) =
      (keyElements? fuel rest).map fun (names, rest) => (name :: names, rest) := by
  have layout : KeysFormat.element name ++ rest =
      "<key>".toList ++ (escape name.toList ++ '<' :: ("/key>".toList ++ rest)) := by
    unfold KeysFormat.element
    rw [List.append_assoc, List.append_assoc]
    rfl
  have closing : ('<' :: ("/key>".toList ++ rest)).dropPrefix? "</key>".toList = some rest :=
    dropPrefix?_append "</key>".toList rest
  rw [layout, keyElements?, dropPrefix?_append]
  dsimp only
  rw [text?_escape]
  dsimp only [Option.bind_eq_bind, Option.bind_some]
  rw [closing, Option.bind_some, String.ofList_toList]
  cases keyElements? fuel rest <;> rfl

theorem keyElements?_flatMap (fuel : Nat) (names : List String) :
    keyElements? (fuel + names.length + 1)
        (names.flatMap KeysFormat.element ++ "</keys>".toList) =
      some (names, "</keys>".toList) := by
  induction names with
  | nil => rfl
  | cons name names ih =>
    rw [List.flatMap_cons, List.append_assoc, List.length_cons, ← Nat.add_assoc,
      keyElements?_element, ih]
    rfl

theorem keys?_render (names : List String) : keys? (KeysFormat.xml.render names) = some names := by
  let inside := names.flatMap KeysFormat.element ++ "</keys>".toList
  obtain ⟨fuel, enough⟩ : ∃ fuel, inside.length = fuel + names.length := by
    have elements := Text.length_le_flatMap (f := KeysFormat.element) names
      fun name => List.cons_ne_nil _ _
    refine Nat.exists_eq_add_of_le' (Nat.le_trans elements ?_)
    rw [List.length_append]
    exact Nat.le_add_right ..
  have document : (KeysFormat.xml.render names).toList =
      "<?xml version=\"1.0\"?><keys>".toList ++ inside := by
    unfold KeysFormat.render
    rw [String.toList_ofList]
    exact List.append_assoc ..
  unfold keys?
  rw [document, dropPrefix?_append]
  dsimp only [Option.bind_eq_bind, Option.bind_some]
  rw [enough, keyElements?_flatMap, Option.bind_some]
  exact if_pos rfl

end Xml

namespace KeysFormat

/-- The names in a listing, of the formats that tell them apart. -/
def names? : KeysFormat → String → Option (List String)
  | .json, document => (Json.parse? document).bind Json.strings?
  | .xml, document => Xml.keys? document
  | .text, _ => none

variable {format : KeysFormat}

theorem names?_render (structured : format = .json ∨ format = .xml) (names : List String) :
    format.names? (format.render names) = some names := by
  rcases structured with rfl | rfl
  · exact Json.strings?_quoteAll names
  · exact Xml.keys?_render names

/-- The names are read from the bytes of a listing, each as it can be shown. -/
theorem names?_decoded (structured : format = .json ∨ format = .xml) (charset : Charset)
    (names : List String) :
    (charset.decode? (charset.encode (format.render names))).bind format.names? =
      some (names.map charset.shown) := by
  rw [Charset.decode?_encode, Charset.shown_render]
  exact names?_render structured _

end KeysFormat

end CacheGate
