import CacheGate.Settings.Layers

/-!
# Settings as written

The merged layers are read into typed fields before they are checked. A
scalar of another kind is converted where its meaning is plain; where it is
not, the settings cannot be used at all. Unknown fields are ignored, and
`null` leaves an optional field out.
-/

namespace CacheGate.Settings

/-! ## Conversions -/

/-- A text, or the text of a truth value or number. -/
def text? : Json → Option String
  | .string s => some s
  | .bool b => some (if b then "true" else "false")
  | .integer n => some (Text.intText n)
  | .float number => some number.text
  | _ => none

/-- The truth value that a word stands for. -/
def switchWord? (word : String) : Option Bool :=
  match Text.lowered word with
  | "1" | "true" | "on" | "yes" => some true
  | "0" | "false" | "off" | "no" => some false
  | _ => none

/-- A truth value, or what a number or word says about one. -/
def bool? : Json → Option Bool
  | .bool b => some b
  | .integer n => some (n != 0)
  | .float number => some number.isNonzero
  | .string word => switchWord? word
  | _ => none

/-- A natural number of 64 bits, or what a number, word or truth value says. -/
def natural? : Json → Option Nat
  | .bool b => some (if b then 1 else 0)
  | .integer n => if n < 0 then none else some n.toNat
  | .float number => some number.toNat64
  | .string word =>
    match Text.naturalUpTo? Text.greatestNat64 word.toList with
    | some n => some n
    | none => (switchWord? word).map fun b => if b then 1 else 0
  | _ => none

/-- A natural number of 16 bits. -/
def port? (value : Json) : Option Nat := (natural? value).filter (· ≤ 0xFFFF)

/-- An optional field: absent and `null` both leave it out. -/
def optional? {α : Type} (read : Json → Option α) (fields : List (String × Json))
    (name : String) : Option (Option α) :=
  match fields.lookup name with
  | none | some .null => some none
  | some value => (read value).map some

/-- A field with a default that is taken only when the field is absent. -/
def defaulted? {α : Type} (default : α) (read : Json → Option α)
    (fields : List (String × Json)) (name : String) : Option α :=
  match fields.lookup name with
  | none => some default
  | some value => read value

/-- The fields of a record. They are given by name in an object, or in the
order of `names` in a list, which may end early. -/
def record? (names : List String) : Json → Option (List (String × Json))
  | .object fields => some fields
  | .array items => some (names.zip items)
  | _ => none

/-- A list whose items are all readable. -/
def list? {α : Type} (read : Json → Option α) : Json → Option (List α)
  | .array items => items.mapM read
  | _ => none

/-! ## Fields -/

structure RawServer where
  host : Option String
  port : Option Nat
  contextPath : Option String
  nodeName : Option String
  extendedHeaders : Option String
  elevatedPrincipal : Option String
  deriving DecidableEq, Repr, Inhabited

structure RawLogging where
  level : Option String
  json : Option Bool
  deriving DecidableEq, Repr, Inhabited

structure RawCache where
  name : String
  lifespanSeconds : Option Nat
  maxIdleSeconds : Option Nat
  storageMediaType : Option String
  deriving DecidableEq, Repr, Inhabited

/-- All settings as written. -/
structure RawSettings where
  server : RawServer
  logging : RawLogging
  poolSize : Option Nat
  members : List String
  caches : List RawCache
  deriving DecidableEq, Repr, Inhabited

def RawServer.names : List String :=
  ["host", "port", "context_path", "node_name", "extended_headers", "elevated_principal"]

def RawServer.read? (value : Json) : Option RawServer := do
  let fields ← record? RawServer.names value
  return {
    host := ← optional? text? fields "host"
    port := ← optional? port? fields "port"
    contextPath := ← optional? text? fields "context_path"
    nodeName := ← optional? text? fields "node_name"
    extendedHeaders := ← optional? text? fields "extended_headers"
    elevatedPrincipal := ← optional? text? fields "elevated_principal" }

def RawLogging.read? (value : Json) : Option RawLogging := do
  let fields ← record? ["level", "json"] value
  return {
    level := ← optional? text? fields "level"
    json := ← optional? bool? fields "json" }

def RawCache.names : List String :=
  ["name", "lifespan_seconds", "max_idle_seconds", "storage_media_type"]

def RawCache.read? (value : Json) : Option RawCache := do
  let fields ← record? RawCache.names value
  return {
    name := ← (fields.lookup "name").bind text?
    lifespanSeconds := ← optional? natural? fields "lifespan_seconds"
    maxIdleSeconds := ← optional? natural? fields "max_idle_seconds"
    storageMediaType := ← optional? text? fields "storage_media_type" }

/-- The pool size within the settings of the workers. -/
def poolSize? (value : Json) : Option (Option Nat) := do
  optional? natural? (← record? ["pool_size"] value) "pool_size"

/-- The members within the settings of the cluster. -/
def members? (value : Json) : Option (List String) := do
  defaulted? [] (list? text?) (← record? ["members"] value) "members"

def RawSettings.names : List String := ["server", "logging", "workers", "cluster", "caches"]

/-- Reads merged settings. -/
def RawSettings.read? (value : Json) : Option RawSettings := do
  let fields ← record? RawSettings.names value
  return {
    server := ← defaulted? default RawServer.read? fields "server"
    logging := ← defaulted? default RawLogging.read? fields "logging"
    poolSize := ← defaulted? none poolSize? fields "workers"
    members := ← defaulted? [] members? fields "cluster"
    caches := ← defaulted? [] (list? RawCache.read?) fields "caches" }

/-! ## Overrides -/

/-- The settings that a command line may override. -/
structure Overrides where
  serverHost : Option String
  serverPort : Option Nat
  nodeName : Option String
  logLevel : Option String
  logJson : Option Bool
  workers : Option Nat
  extendedHeaders : Option String
  deriving DecidableEq, Repr, Inhabited

/-- Puts overrides in place of what is written. -/
def RawSettings.override (raw : RawSettings) (overrides : Overrides) : RawSettings :=
  { raw with
    server :=
      { raw.server with
        host := overrides.serverHost <|> raw.server.host
        port := overrides.serverPort <|> raw.server.port
        nodeName := overrides.nodeName <|> raw.server.nodeName
        extendedHeaders := overrides.extendedHeaders <|> raw.server.extendedHeaders }
    logging :=
      { level := overrides.logLevel <|> raw.logging.level
        json := overrides.logJson <|> raw.logging.json }
    poolSize := overrides.workers <|> raw.poolSize }

end CacheGate.Settings
