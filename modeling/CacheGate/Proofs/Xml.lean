import CacheGate.Xml

/-!
# Reading XML text back

`Xml.text?` reads the text of an element up to the next tag and resolves the
five predefined entities; all other characters stand for themselves. An
escaped text has no tag in it, so it ends where its element does
(`Xml.text?_escape`).
-/

namespace CacheGate.Xml

/-- Puts a character in front of a text that was read. -/
def prepend (c : Char) : Option (List Char × List Char) → Option (List Char × List Char) :=
  Option.map fun (cs, rest) => (c :: cs, rest)

/-- Reads text up to the next tag. Other entities than the predefined ones are
not known. -/
def text? : List Char → Option (List Char × List Char)
  | [] => some ([], [])
  | '<' :: rest => some ([], '<' :: rest)
  | '&' :: 'a' :: 'm' :: 'p' :: ';' :: rest => prepend '&' (text? rest)
  | '&' :: 'l' :: 't' :: ';' :: rest => prepend '<' (text? rest)
  | '&' :: 'g' :: 't' :: ';' :: rest => prepend '>' (text? rest)
  | '&' :: 'q' :: 'u' :: 'o' :: 't' :: ';' :: rest => prepend '"' (text? rest)
  | '&' :: 'a' :: 'p' :: 'o' :: 's' :: ';' :: rest => prepend '\'' (text? rest)
  | '&' :: _ => none
  | c :: rest => prepend c (text? rest)

theorem text?_escapeChar (c : Char) (rest : List Char) :
    text? (escapeChar c ++ rest) = prepend c (text? rest) := by
  unfold escapeChar
  split
  case h_6 amp less _ _ _ =>
    -- no entity starts here, and no tag
    rw [List.singleton_append, text?]
    · exact less
    case x_7 => exact amp
    all_goals exact fun _ same _ => amp same
  all_goals rfl

theorem text?_escape (cs rest : List Char) :
    text? (escape cs ++ '<' :: rest) = some (cs, '<' :: rest) := by
  unfold escape
  induction cs with
  | nil => rfl
  | cons c cs ih =>
    rw [List.flatMap_cons, List.append_assoc, text?_escapeChar, ih]
    rfl

end CacheGate.Xml
