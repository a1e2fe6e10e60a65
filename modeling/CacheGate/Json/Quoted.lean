/-!
# JSON strings

How texts are written as JSON strings: quotes, backslashes and control
characters are escaped, every other character stands for itself.
-/

namespace CacheGate.Json

/-- A hexadecimal digit in lower case. -/
def hexDigit (n : Nat) : Char := Nat.digitChar (n % 16)

/-- A character inside a string. Five control characters have short escapes. -/
def escapeChar (c : Char) : List Char :=
  match c with
  | '"' => ['\\', '"']
  | '\\' => ['\\', '\\']
  | '\x08' => ['\\', 'b']
  | '\t' => ['\\', 't']
  | '\n' => ['\\', 'n']
  | '\x0c' => ['\\', 'f']
  | '\r' => ['\\', 'r']
  | c =>
    if c.toNat < 0x20 then ['\\', 'u', '0', '0', hexDigit (c.toNat / 16), hexDigit c.toNat]
    else [c]

/-- A text as a JSON string. -/
def quote (cs : List Char) : List Char := '"' :: cs.flatMap escapeChar ++ ['"']

/-- Texts as a JSON array of strings. -/
def quoteAll (texts : List (List Char)) : List Char :=
  '[' :: List.intercalate [','] (texts.map quote) ++ [']']

end CacheGate.Json
