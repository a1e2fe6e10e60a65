import CacheGate.Json.Basic

/-!
# Reading JSON

`Json.parse?` reads a text that is one JSON value with blanks around it, and
refuses everything else: a lone surrogate escape, a control character inside
a string, a number that is too large, more than 127 levels of nesting. Of a
repeated field the last value counts.

A number keeps as many leading digits as 64 bits can hold and is then scaled
by powers of ten, each step rounded to double precision.
-/

namespace CacheGate.Json

/-! ## Strings -/

/-- The value of a hexadecimal digit of either case. -/
def hexValue? (c : Char) : Option Nat :=
  if c.isDigit then some (c.toNat - 48)
  else if 'a' ≤ c && c ≤ 'f' then some (c.toNat - 87)
  else if 'A' ≤ c && c ≤ 'F' then some (c.toNat - 55)
  else none

/-- The value of four hexadecimal digits. -/
def unit? (a b c d : Char) : Option Nat := do
  let digits ← [a, b, c, d].mapM hexValue?
  return digits.foldl (fun n digit => n * 16 + digit) 0

def isHighSurrogate (unit : Nat) : Bool := 0xD800 ≤ unit && unit < 0xDC00

def isLowSurrogate (unit : Nat) : Bool := 0xDC00 ≤ unit && unit < 0xE000

/-- The character of a surrogate pair. -/
def pairChar (high low : Nat) : Char :=
  Char.ofNat (0x10000 + (high - 0xD800) * 0x400 + (low - 0xDC00))

/-- The character of a one-letter escape. -/
def shortEscape? : Char → Option Char
  | '"' => some '"'
  | '\\' => some '\\'
  | '/' => some '/'
  | 'b' => some '\x08'
  | 'f' => some '\x0c'
  | 'n' => some '\n'
  | 'r' => some '\r'
  | 't' => some '\t'
  | _ => none

/-- Puts a character in front of a string that was read. -/
def prepend (c : Char) : Option (List Char × List Char) → Option (List Char × List Char) :=
  Option.map fun (cs, rest) => (c :: cs, rest)

/-- Reads a string behind its opening quote. -/
def string? : List Char → Option (List Char × List Char)
  | [] => none
  | '"' :: rest => some ([], rest)
  | '\\' :: 'u' :: a :: b :: c :: d :: rest =>
    match unit? a b c d with
    | none => none
    | some unit =>
      if isHighSurrogate unit then
        match rest with
        | '\\' :: 'u' :: e :: f :: g :: h :: rest =>
          match unit? e f g h with
          | none => none
          | some low =>
            if isLowSurrogate low then prepend (pairChar unit low) (string? rest) else none
        | _ => none
      else if isLowSurrogate unit then none
      else prepend (Char.ofNat unit) (string? rest)
  | '\\' :: c :: rest =>
    match shortEscape? c with
    | none => none
    | some escaped => prepend escaped (string? rest)
  | c :: rest => if c.toNat < 0x20 then none else prepend c (string? rest)

/-! ## Numbers -/

/-- Adds digits to a significand as long as 64 bits can hold it, and counts
the digits left over. -/
def absorb (significand : Nat) : List Char → Nat × Nat
  | [] => (significand, 0)
  | c :: rest =>
    let longer := significand * 10 + (c.toNat - 48)
    if longer ≤ Text.greatestNat64 then absorb longer rest else (significand, rest.length + 1)

/-- A fraction behind the whole part, possibly none. -/
def fraction? : List Char → Option (List Char × List Char)
  | '.' :: rest =>
    let digits := rest.takeWhile Char.isDigit
    if digits.isEmpty then none else some (digits, rest.dropWhile Char.isDigit)
  | rest => some ([], rest)

/-- An exponent, possibly none. -/
def exponent? (cs : List Char) : Option (Option Int × List Char) :=
  match cs with
  | [] => some (none, [])
  | c :: rest =>
    if c = 'e' || c = 'E' then
      let (sign, rest) : Int × List Char := match rest with
        | '-' :: rest => (-1, rest)
        | '+' :: rest => (1, rest)
        | _ => (1, rest)
      match Text.natural? (rest.takeWhile Char.isDigit) with
      | none => none
      | some n => some (some (sign * n), rest.dropWhile Char.isDigit)
    else some (none, cs)

/-- The value of a number without fraction and exponent. Negative zero and
what 64 bits cannot hold are doubles. -/
def wholeNumber? (negative : Bool) (digits : List Char) : Option Json :=
  let n := Nat.ofDigitChars 10 digits 0
  let (significand, dropped) := absorb 0 digits
  if !negative && n ≤ Text.greatestNat64 then some (.integer n)
  else if negative && n ≠ 0 && Text.leastInt64 ≤ -(n : Int) then some (.integer (-n))
  else (Number.Double.scaled? negative significand dropped).map .float

/-- The value of any other number. -/
def scaledNumber? (negative : Bool) (whole fraction : List Char) (exponent : Int) : Option Json :=
  let (significand, droppedWhole) := absorb 0 whole
  let (significand, droppedFraction) := absorb significand fraction
  let shift : Int := droppedWhole - (fraction.length - droppedFraction : Nat)
  (Number.Double.scaled? negative significand (shift + exponent)).map .float

/-- Reads a number without its sign. The whole part has no leading zeros. -/
def unsignedNumber? (negative : Bool) (cs : List Char) : Option (Json × List Char) := do
  let whole := cs.takeWhile Char.isDigit
  if whole.isEmpty || (whole.head? == some '0' && whole.length != 1) then none
  else do
    let (fraction, rest) ← fraction? (cs.dropWhile Char.isDigit)
    let (exponent, rest) ← exponent? rest
    let value ←
      if fraction.isEmpty && exponent.isNone then wholeNumber? negative whole
      else scaledNumber? negative whole fraction (exponent.getD 0)
    return (value, rest)

/-- Reads a number. -/
def number? : List Char → Option (Json × List Char)
  | '-' :: rest => unsignedNumber? true rest
  | cs => unsignedNumber? false cs

/-! ## Values -/

/-- Skips blanks between tokens. -/
def skip (cs : List Char) : List Char :=
  cs.dropWhile fun c => c == ' ' || c == '\n' || c == '\t' || c == '\r'

/-- Reads the name of a field and the colon behind it. -/
def name? (cs : List Char) : Option (String × List Char) :=
  match skip cs with
  | '"' :: rest => do
    let (name, rest) ← string? rest
    match skip rest with
    | ':' :: rest => some (String.ofList name, rest)
    | _ => none
  | _ => none

mutual

/-- Reads one value. `depth` is the nesting still allowed; the recursion is
bounded by `fuel`, of which every level and every item takes one. -/
def value? : (fuel depth : Nat) → List Char → Option (Json × List Char)
  | 0, _, _ => none
  | fuel + 1, depth, cs =>
    match skip cs with
    | 'n' :: 'u' :: 'l' :: 'l' :: rest => some (.null, rest)
    | 't' :: 'r' :: 'u' :: 'e' :: rest => some (.bool true, rest)
    | 'f' :: 'a' :: 'l' :: 's' :: 'e' :: rest => some (.bool false, rest)
    | '"' :: rest => (string? rest).map fun (text, rest) => (.string (String.ofList text), rest)
    | '[' :: rest =>
      if depth ≤ 1 then none
      else match skip rest with
        | ']' :: rest => some (.array [], rest)
        | _ => (items? fuel (depth - 1) rest).map fun (items, rest) => (.array items, rest)
    | '\x7b' :: rest =>
      if depth ≤ 1 then none
      else match skip rest with
        | '\x7d' :: rest => some (.object [], rest)
        | _ => (fields? fuel (depth - 1) [] rest).map fun (fields, rest) => (.object fields, rest)
    | cs => number? cs

/-- Reads the items of an array up to its end. -/
def items? : (fuel depth : Nat) → List Char → Option (List Json × List Char)
  | 0, _, _ => none
  | fuel + 1, depth, cs => do
    let (item, rest) ← value? fuel depth cs
    match skip rest with
    | ',' :: rest => (items? fuel depth rest).map fun (items, rest) => (item :: items, rest)
    | ']' :: rest => some ([item], rest)
    | _ => none

/-- Reads the fields of an object up to its end, behind those read before. -/
def fields? : (fuel depth : Nat) → List (String × Json) → List Char →
    Option (List (String × Json) × List Char)
  | 0, _, _, _ => none
  | fuel + 1, depth, earlier, cs => do
    let (name, rest) ← name? cs
    let (value, rest) ← value? fuel depth rest
    let fields := setField earlier name value
    match skip rest with
    | ',' :: rest => fields? fuel depth fields rest
    | '\x7d' :: rest => some (fields, rest)
    | _ => none

end

/-- The nesting that is refused. -/
def depthLimit : Nat := 128

/-- Reads a JSON text. -/
def parse? (text : String) : Option Json := do
  let cs := text.toList
  let (value, rest) ← value? (cs.length + 1) depthLimit cs
  if (skip rest).isEmpty then some value else none

end CacheGate.Json
