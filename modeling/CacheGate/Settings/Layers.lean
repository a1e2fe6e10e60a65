import CacheGate.Settings.Files

/-!
# Layers of settings

Settings come in layers: files first, then environment variables. A later
layer is laid over an earlier one: objects are merged field by field, and any
other value replaces what was there. Field names at the top of a layer may be
paths, such as `cluster.members` or `caches[0].name`.
-/

namespace CacheGate.Settings

/-! ## Merging -/

/-- The fields of an object; any other value counts as an empty object. -/
def fieldsOf : Json → List (String × Json)
  | .object fields => fields
  | _ => []

/-- The items of a list; any other value counts as an empty list. -/
def itemsOf : Json → List Json
  | .array items => items
  | _ => []

/-- The value of a field among others, `null` when there is none. -/
def fieldOr (fields : List (String × Json)) (name : String) : Json :=
  (fields.lookup name).getD .null

mutual

/-- Lays a value over another one. -/
def lay (below : Json) : Json → Json
  | .object fields => .object (layFields (fieldsOf below) fields)
  | value => value

/-- Lays fields over others, one after the other. -/
def layFields (below : List (String × Json)) : List (String × Json) → List (String × Json)
  | [] => below
  | (name, value) :: rest =>
    layFields (Json.setField below name (lay (fieldOr below name) value)) rest

end

/-! ## Paths -/

/-- One step into a value: to a field, or to an item of a list. A negative
index counts from the end. -/
inductive PathStep where
  | field (name : String)
  | item (index : Int)
  deriving DecidableEq, Repr

/-- Whether a character may stand in a name within a path. -/
def isPathChar (c : Char) : Bool := c.isAlphanum || c == '_' || c == '-'

/-- Reads an index and the bracket in front of it. -/
def index? : List Char → Option PathStep
  | '[' :: inside =>
    let digits := Text.strip (fun c => c == ' ' || c == '\t') inside
    if digits.head? = some '+' then none else (Text.int64? digits).map .item
  | _ => none

/-- Reads a name and the indices in brackets behind it. -/
def steps? (part : List Char) : Option (List PathStep) :=
  let name := part.takeWhile isPathChar
  let indices := (part.dropWhile isPathChar).splitOn ']'
  if name.isEmpty || indices.getLast? != some [] then none
  else (indices.dropLast.mapM index?).map (.field (String.ofList name) :: ·)

/-- The steps of a path, whose parts are joined by dots; a text that is no
path is a name by itself. -/
def pathOf (name : String) : List PathStep :=
  match (name.toList.splitOn '.').mapM steps? with
  | some parts => parts.flatten
  | none => [.field name]

/-- Room for an item: the list, filled up with `null` where the index lies
outside, and the position of the item. -/
def room (items : List Json) (index : Int) : List Json × Nat :=
  if 0 ≤ index then
    (items ++ List.replicate (index.toNat + 1 - items.length) .null, index.toNat)
  else
    (List.replicate (index.natAbs - items.length) .null ++ items, items.length - index.natAbs)

/-- Lays a value over the place that a path leads to. -/
def layAt (below : Json) : List PathStep → Json → Json
  | [], value => lay below value
  | .field name :: rest, value =>
    let fields := fieldsOf below
    .object (Json.setField fields name (layAt (fieldOr fields name) rest value))
  | .item index :: rest, value =>
    let (items, position) := room (itemsOf below) index
    .array (items.modify position fun item => layAt item rest value)

/-- Lays a layer over the settings so far. -/
def addLayer (base : Json) (layer : List (String × Json)) : Json :=
  layer.foldl (fun base field => layAt base (pathOf field.1) field.2) base

/-! ## Environment variables -/

/-- What the names of settings variables start with, in lower case. -/
def variableStem : String := "restcache__"

/-- Replaces every double underscore by a dot. -/
def dotted : List Char → List Char
  | '_' :: '_' :: rest => '.' :: dotted rest
  | c :: rest => c :: dotted rest
  | [] => []

/-- A character of a variable's name in lower case. Beside the capital letters
the Kelvin sign has a letter from a to z as its lower case. -/
def lowerNameChar (c : Char) : Char := if c == '\u212a' then 'k' else c.toLower

/-- The settings path that a variable stands for. -/
def variablePath? (name : String) : Option String :=
  let lowered := name.toList.map lowerNameChar
  if variableStem.toList.isPrefixOf lowered then
    some (String.ofList (dotted (lowered.drop variableStem.length)))
  else none

/-- The path whose value is a list of texts between commas. -/
def listPath : String := "cluster.members"

/-- The value of a variable: a truth value, a whole number of 64 bits, a
number, a list where one is expected, or else a text. -/
def variableValue (path value : String) : Json :=
  match Text.lowered value with
  | "true" => .bool true
  | "false" => .bool false
  | _ =>
    match Text.int64? value.toList with
    | some n => .integer n
    | none =>
      match Number.Double.parse? value.toList with
      | some number => .float number
      | none =>
        if path = listPath then
          .array ((value.toList.splitOn ',').map fun piece => .string (String.ofList piece))
        else .string value

/-- The layer of the environment. -/
def environmentLayer (environment : List (String × String)) : List (String × Json) :=
  environment.filterMap fun (name, value) =>
    (variablePath? name).map fun path => (path, variableValue path value)

/-! ## Files -/

/-- The layer of a settings file, which has to hold a JSON object. -/
def fileLayer? : FileContent → Option (List (String × Json))
  | some (.object fields) => some fields
  | _ => none

/-- Adds the layer of a file that need not be found. -/
def addOptionalFile (files : List (String × FileContent)) (name : String) (base : Json) :
    Option Json :=
  match findFile files name with
  | none => some base
  | some content => (fileLayer? content).map (addLayer base)

/-- Adds the layer of a file that has to be found. -/
def addRequiredFile (files : List (String × FileContent)) (name : String) (base : Json) :
    Option Json := do
  let content ← findFile files name
  let layer ← fileLayer? content
  return addLayer base layer

/-- The file with the lowest rank. -/
def defaultFile : String := "config/default"

/-- The file of one installation. -/
def localFile : String := "restcache"

/-- All layers merged: the default file, the local file, the file named by
the caller, then the environment. `none` means that some file is unusable. -/
def merge? (files : List (String × FileContent)) (environment : List (String × String))
    (explicit : Option String) : Option Json := do
  let base ← addOptionalFile files defaultFile (.object [])
  let base ← addOptionalFile files localFile base
  let base ← match explicit with
    | none => some base
    | some name => addRequiredFile files name base
  return addLayer base (environmentLayer environment)

end CacheGate.Settings
