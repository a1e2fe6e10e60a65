import CacheGate.Text.Decimal

/-!
# Socket addresses

An address with a port, such as `127.0.0.1:80` or `[fe80::1%3]:80`. Octets
have no leading zeros, groups at most four digits; `::` stands for one or
more groups of zeros. `SocketAddr.text` writes the canonical form: lower case,
the longest run of zero groups left out, an embedded IPv4 address in dots.
-/

namespace CacheGate.Net

/-- An address with a port. -/
inductive SocketAddr where
  | v4 (octets : List Nat) (port : Nat)
  /-- Eight groups of 16 bits and the zone they are meant in. -/
  | v6 (groups : List Nat) (scope port : Nat)
  deriving DecidableEq, Repr

namespace SocketAddr

/-! ## Reading -/

/-- The value of a digit in base `base`, up to 16. -/
def digit? (base : Nat) (c : Char) : Option Nat :=
  let value :=
    if c.isDigit then c.toNat - 48
    else if 'a' ≤ c && c ≤ 'f' then c.toNat - 87
    else if 'A' ≤ c && c ≤ 'F' then c.toNat - 55
    else base
  if value < base then some value else none

/-- Reads a number up to `high`, of at most `width` digits if that is given. -/
def number? (base high : Nat) (width : Option Nat) (leadingZeros : Bool) (cs : List Char) :
    Option (Nat × List Char) :=
  let digits := cs.takeWhile fun c => (digit? base c).isSome
  let value := digits.foldl (fun n c => n * base + (digit? base c).getD 0) 0
  let fits := width.all fun width => digits.length ≤ width
  let zeros := !leadingZeros && 1 < digits.length && digits.head? == some '0'
  if digits.isEmpty || !fits || zeros || high < value then none
  else some (value, cs.drop digits.length)

/-- Reads one given character. -/
def char? (expected : Char) : List Char → Option (List Char)
  | c :: rest => if c = expected then some rest else none
  | [] => none

/-- Reads an octet of an IPv4 address. -/
def octet? (cs : List Char) : Option (Nat × List Char) := number? 10 255 (some 3) false cs

/-- Reads an IPv4 address. -/
def ipv4? (cs : List Char) : Option (List Nat × List Char) := do
  let (a, cs) ← octet? cs
  let (b, cs) ← octet? (← char? '.' cs)
  let (c, cs) ← octet? (← char? '.' cs)
  let (d, cs) ← octet? (← char? '.' cs)
  return ([a, b, c, d], cs)

/-- The two groups of an IPv4 address. -/
def embedded : List Nat → List Nat
  | [a, b, c, d] => [a * 256 + b, c * 256 + d]
  | _ => []

/-- The colon in front of every group but the first. -/
def separator? (first : Bool) (cs : List Char) : Option (List Char) :=
  if first then some cs else char? ':' cs

/-- Reads up to `limit` groups. With room for two, an IPv4 address may end
them; the flag tells whether one did. -/
def groups? (first : Bool) : (limit : Nat) → List Char → List Nat × Bool × List Char
  | 0, cs => ([], false, cs)
  | limit + 1, cs =>
    match if limit = 0 then none else (separator? first cs).bind ipv4? with
    | some (octets, rest) => (embedded octets, true, rest)
    | none =>
      match (separator? first cs).bind (number? 16 0xFFFF (some 4) true) with
      | some (group, rest) =>
        let (groups, dotted, rest) := groups? false limit rest
        (group :: groups, dotted, rest)
      | none => ([], false, cs)

/-- Reads an IPv6 address. -/
def ipv6? (cs : List Char) : Option (List Nat × List Char) := do
  let (head, dotted, cs) := groups? true 8 cs
  if head.length = 8 then return (head, cs)
  if dotted then none
  else do
    let cs ← char? ':' cs
    let cs ← char? ':' cs
    let (tail, _, cs) := groups? true (7 - head.length) cs
    return (head ++ List.replicate (8 - head.length - tail.length) 0 ++ tail, cs)

/-- Reads a port behind its colon. -/
def port? (cs : List Char) : Option (Nat × List Char) := do
  number? 10 0xFFFF none true (← char? ':' cs)

/-- Reads a zone, possibly none. -/
def scope? : List Char → Option (Nat × List Char)
  | '%' :: rest => number? 10 0xFFFFFFFF none true rest
  | cs => some (0, cs)

/-- Reads an IPv4 address with a port. -/
def v4? (cs : List Char) : Option (SocketAddr × List Char) := do
  let (octets, cs) ← ipv4? cs
  let (port, cs) ← port? cs
  return (.v4 octets port, cs)

/-- Reads an IPv6 address in brackets with a port. -/
def v6? (cs : List Char) : Option (SocketAddr × List Char) := do
  let (groups, cs) ← ipv6? (← char? '[' cs)
  let (scope, cs) ← scope? cs
  let (port, cs) ← port? (← char? ']' cs)
  return (.v6 groups scope port, cs)

/-- Reads an address with a port that is the whole text. -/
def parse? (text : String) : Option SocketAddr := do
  let (address, rest) ← v4? text.toList <|> v6? text.toList
  if rest.isEmpty then some address else none

/-! ## Writing -/

/-- The start and length of the first longest run of zeros. -/
def longestZeros (groups : List Nat) : Nat × Nat :=
  let runs := (List.range groups.length).map fun start =>
    (start, ((groups.drop start).takeWhile (· == 0)).length)
  runs.foldl (fun best run => if best.2 < run.2 then run else best) (0, 0)

/-- Groups in hexadecimal between colons. -/
def groupsText (groups : List Nat) : String :=
  String.intercalate ":" (groups.map fun group => String.ofList (Nat.toDigits 16 group))

/-- Octets in decimal between dots. -/
def octetsText (octets : List Nat) : String :=
  String.intercalate "." (octets.map Text.natText)

/-- The canonical text of an IPv6 address. -/
def ipv6Text (groups : List Nat) : String :=
  match groups with
  | [0, 0, 0, 0, 0, 0xFFFF, high, low] =>
    "::ffff:" ++ octetsText [high / 256, high % 256, low / 256, low % 256]
  | _ =>
    let (start, length) := longestZeros groups
    if 1 < length then
      groupsText (groups.take start) ++ "::" ++ groupsText (groups.drop (start + length))
    else groupsText groups

/-- The text of an address with its port. -/
def text : SocketAddr → String
  | .v4 octets port => octetsText octets ++ ":" ++ Text.natText port
  | .v6 groups scope port =>
    let zone := if scope = 0 then "" else "%" ++ Text.natText scope
    "[" ++ ipv6Text groups ++ zone ++ "]:" ++ Text.natText port

end SocketAddr

end CacheGate.Net
