import CacheGate.Json.Quoted
import CacheGate.Text.Invisible

/-!
# Quoted texts in the log

Some log fields show texts in quotes, so that their ends and their invisible
characters can be told. Quotes, backslashes and the common control characters
have short escapes; other characters without a visible form are shown by
their code point.
-/

namespace CacheGate.Log

/-- A character inside quotes. -/
def escapeChar (c : Char) : List Char :=
  match c with
  | '"' => ['\\', '"']
  | '\\' => ['\\', '\\']
  | '\n' => ['\\', 'n']
  | '\r' => ['\\', 'r']
  | '\t' => ['\\', 't']
  | '\x00' => ['\\', '0']
  | c =>
    if Text.isInvisible c then '\\' :: 'u' :: '\x7b' :: Nat.toDigits 16 c.toNat ++ ['\x7d']
    else [c]

/-- A text in quotes. -/
def quoted (s : String) : String :=
  String.ofList ('"' :: s.toList.flatMap escapeChar ++ ['"'])

/-- A text that may be missing. -/
def optional : Option String → String
  | none => "None"
  | some s => "Some(" ++ quoted s ++ ")"

/-- A list of texts. -/
def listed (texts : List String) : String :=
  "[" ++ String.intercalate ", " (texts.map quoted) ++ "]"

end CacheGate.Log
