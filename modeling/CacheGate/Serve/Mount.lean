import CacheGate.Text.Percent

/-!
# Mounting under a context path

The caches are reached below a context path, which is a pattern: a name in
braces captures what a request path has up to the next slash, doubled braces
stand for single ones, and all else is repeated literally. `Mounted.of` finds
the path below the context path.
-/

namespace CacheGate

/-! ## Patterns -/

/-- A character of a pattern, with doubled braces told from braces that mark a name. -/
inductive PatternToken where
  | char (c : Char)
  | opening
  | closing
  deriving DecidableEq, Repr

/-- Pairs up braces from left to right. -/
def PatternToken.scan : List Char → List PatternToken
  | '\x7b' :: '\x7b' :: rest => .char '\x7b' :: scan rest
  | '\x7d' :: '\x7d' :: rest => .char '\x7d' :: scan rest
  | '\x7b' :: rest => .opening :: scan rest
  | '\x7d' :: rest => .closing :: scan rest
  | c :: rest => .char c :: scan rest
  | [] => []

/-- A piece of a pattern. -/
inductive PatternPiece where
  | literal (c : Char)
  /-- All up to the next slash, possibly nothing. -/
  | capture (name : List Char)
  deriving DecidableEq, Repr

/-- Reads the pieces of a pattern. `name` is the part of a name read so far,
last character first, if the tokens are inside one; an opening brace there
belongs to the name. -/
def PatternPiece.read (name : Option (List Char)) : List PatternToken → List PatternPiece
  | [] => []
  | .char c :: rest =>
    match name with
    | none => .literal c :: read none rest
    | some earlier => read (some (c :: earlier)) rest
  | .opening :: rest =>
    match name with
    | none => read (some []) rest
    | some earlier => read (some ('\x7b' :: earlier)) rest
  | .closing :: rest =>
    match name with
    | none => .literal '\x7d' :: read none rest
    | some earlier => .capture earlier.reverse :: read none rest

/-- The pattern of a context path, without slashes at its end. -/
def mountPoint (contextPath : String) : List PatternPiece :=
  PatternPiece.read none
    (PatternToken.scan (contextPath.toList.reverse.dropWhile (· == '/')).reverse)

/-! ## Paths below -/

/-- The name of the part of a path that lies below the context path. -/
def remainderName : List Char := ['p', 'a', 't', 'h']

/-- Matches a path with a pattern, and gives all captured parts with their
names. The last one is the remainder behind a slash, which must not be empty. -/
def captured? : List PatternPiece → List Char → Option (List (List Char × List Char))
  | [], '/' :: c :: rest => some [(remainderName, c :: rest)]
  | [], _ => none
  | .literal _ :: _, [] => none
  | .literal c :: pieces, actual :: rest => if c = actual then captured? pieces rest else none
  | .capture name :: pieces, cs =>
    (captured? pieces (cs.dropWhile (· != '/'))).map ((name, cs.takeWhile (· != '/')) :: ·)

/-- Undoes the escapes of a path; `none` when the result is not UTF-8. -/
def decodedPath? (cs : List Char) : Option String :=
  Utf8.decode? (Percent.decode (Utf8.encode (String.ofList cs)))

/-- Where a path lies with regard to a context path. -/
inductive Mounted where
  /-- The path does not start with a slash. -/
  | rootless
  | outside
  /-- The decoded part of this name is not UTF-8. -/
  | unreadable (name : String)
  /-- So many parts were captured, where the remainder alone is expected. -/
  | divided (parts : Nat)
  | inside (path : String)
  deriving DecidableEq, Repr

/-- Finds a path below a context path. -/
def Mounted.of (contextPath path : String) : Mounted :=
  if path.toList.head? ≠ some '/' then .rootless
  else match captured? (mountPoint contextPath) path.toList with
    | none => .outside
    | some parts =>
      match parts.find? fun part => (decodedPath? part.2).isNone, parts with
      | some (name, _), _ => .unreadable (String.ofList name)
      | none, [(_, remainder)] => .inside ((decodedPath? remainder).getD "")
      | none, _ => .divided parts.length

end CacheGate
