import CacheGate.Json.Parser

/-!
# Settings files

Settings files are found by their paths. `findFile` follows a path from the
working directory through the directories that hold files. A path may leave
out the extension of a file, and a file whose name is not marked as JSON
cannot be used.

Of the formats that settings may be written in, only JSON is covered. TOML,
which sample settings come in, is left out with all others: such a file is
passed over, and refused where a path names it in full.
-/

namespace CacheGate.Settings

/-- What a settings file was read as; `none` when it is not JSON, whatever else it is. -/
abbrev FileContent := Option Json

/-- Reads the text of a settings file. A byte order mark in front of it is
skipped, but only one. -/
def FileContent.ofText (text : String) : FileContent :=
  match text.toList with
  | '\ufeff' :: rest => Json.parse? (String.ofList rest)
  | _ => Json.parse? text

/-! ## Places -/

/-- A place in the file system: the names that lead to it from the working
directory, or from the root, which an empty name in front stands for. -/
abbrev Place := List String

namespace Place

/-- The place one segment of a path further on. -/
def step (place : Place) (segment : String) : Place :=
  if segment = "" ∨ segment = "." then place
  else if segment = ".." then
    match place.getLast? with
    | none | some ".." => place ++ [".."]
    | some "" => place
    | some _ => place.dropLast
  else place ++ [segment]

/-- The segments of a path. -/
def segments (path : String) : List String := (path.toList.splitOn '/').map String.ofList

/-- Where a path starts. -/
def origin (path : String) : Place := if path.toList.head? = some '/' then [""] else []

/-- Where a path ends. -/
def destination (path : String) : Place := (segments path).foldl step (origin path)

/-- The places in which the segments of a path are looked up. -/
def trail (place : Place) : List String → List Place
  | [] => []
  | segment :: rest => place :: trail (place.step segment) rest

/-- The places that have to be directories for a path to be followed. -/
def directories (path : String) : List Place := trail (origin path) (segments path)

end Place

/-! ## Finding -/

/-- The extension that marks a file as JSON. -/
def jsonExtension : String := ".json"

/-- Whether the last name on a path is marked as JSON. There has to be
something in front of the extension. -/
def isMarked (path : String) : Bool :=
  let name := ((path.toList.splitOn '/').getLast?).getD []
  jsonExtension.toList.isSuffixOf name && jsonExtension.length < name.length

/-- The path with the extension added to its last name, if it has one. -/
def marked? (path : String) : Option String :=
  match (Place.segments path).reverse.dropWhile fun name => name == "" || name == "." with
  | [] | ".." :: _ => none
  | name :: above =>
    some (String.intercalate "/" (above.reverse ++ [name ++ jsonExtension]))

/-- The file at the end of a path. -/
def fileAt? (files : List (String × FileContent)) (path : String) : Option FileContent :=
  let known := files.flatMap fun file => Place.directories file.1
  if (Place.directories path).all known.contains then
    (files.find? fun file => Place.destination file.1 == Place.destination path).map (·.2)
  else none

/-- Finds a file by its path, or by its path with the extension added. A file
that is there but not marked as JSON hides the other one. -/
def findFile (files : List (String × FileContent)) (path : String) : Option FileContent :=
  match fileAt? files path with
  | some content => if isMarked path then some content else none
  | none => (marked? path).bind (fileAt? files)

end CacheGate.Settings
