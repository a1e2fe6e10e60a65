import CacheGate.MediaType.Parser
import CacheGate.Net.SocketAddr
import CacheGate.Serve.Service
import CacheGate.Settings.Raw

/-!
# Checked settings

`Settings.ofRaw` fills in defaults and checks settings as written; the first
fault in the order server, logging, workers, cluster, caches is reported.
Accepted settings have a positive port and pool size, cluster members without
repetition that include the node itself, and at least one cache, under
distinct names that can be the first segment of a path.
-/

namespace CacheGate

/-- The least important log line that is shown, or none at all. -/
inductive LevelFilter where
  | off
  | error
  | warn
  | info
  | debug
  | trace
  deriving DecidableEq, Repr

namespace LevelFilter

/-- The name of a level. -/
def label : LevelFilter → String
  | .off => "off"
  | .error => "error"
  | .warn => "warn"
  | .info => "info"
  | .debug => "debug"
  | .trace => "trace"

/-- All levels; the position of a level is its number. -/
def all : List LevelFilter := [.off, .error, .warn, .info, .debug, .trace]

/-- Reads a level: its number, its name in any case, or nothing for errors. -/
def parse? (text : String) : Option LevelFilter :=
  match (Text.naturalUpTo? Text.greatestNat64 text.toList).bind fun n => all[n]? with
  | some level => some level
  | none =>
    if text.isEmpty then some .error
    else all.find? fun level => Text.sameName level.label text

end LevelFilter

/-- How log lines are written. -/
inductive LogFormat where
  | json
  | compact
  deriving DecidableEq, Repr

/-- Checked settings of one cache. -/
structure CacheSettings where
  name : String
  lifespan : Expiration
  maxIdle : Expiration
  storage : Option MediaType
  deriving DecidableEq, Repr

/-- Checked settings of the service. -/
structure Settings where
  address : Net.SocketAddr
  contextPath : String
  nodeName : String
  extendedHeaders : ExtendedHeaders
  elevatedPrincipal : Option String
  level : LevelFilter
  format : LogFormat
  poolSize : Nat
  members : List String
  caches : List CacheSettings
  deriving DecidableEq, Repr

namespace Settings

/-- Why settings cannot be used. -/
inductive LoadError where
  /-- The settings cannot be read. -/
  | build
  /-- A setting has a value that is refused. -/
  | invalid (key reason : String)
  deriving DecidableEq, Repr

/-- The text of a fault. -/
def LoadError.message : LoadError → String
  | .build => "failed to build configuration"
  | .invalid key reason => s!"invalid configuration for `{key}`: {reason}"

/-- Refuses a setting. -/
def refuse {α : Type} (key reason : String) : Except LoadError α := .error (.invalid key reason)

/-- A trimmed text that is not blank. -/
def present? (value : Option String) : Option String := value.bind Text.nonBlank?

/-! ## Server -/

/-- The address to listen on. -/
def checkAddress (server : RawServer) : Except LoadError Net.SocketAddr :=
  let port := server.port.getD 11222
  if port = 0 then refuse "server.port" "port must be greater than zero"
  else
    let candidate := server.host.getD "127.0.0.1" ++ ":" ++ Text.natText port
    match Net.SocketAddr.parse? candidate with
    | some address => .ok address
    | none => refuse "server.addr" s!"failed to parse `{candidate}`: invalid socket address syntax"

/-- The path under which the caches are mounted. -/
def checkContextPath (server : RawServer) : Except LoadError String :=
  let path := (server.contextPath.map Text.trimmed).getD "/rest/v2/caches"
  if path.toList.head? = some '/' then .ok path
  else refuse "server.context_path" "must start with `/`"

/-- Whether placement headers may be shown. -/
def checkExtendedHeaders (server : RawServer) : Except LoadError ExtendedHeaders :=
  match server.extendedHeaders.map Text.trimmed with
  | none => .ok .never
  | some policy =>
    if Text.sameName policy "never" then .ok .never
    else if Text.sameName policy "on_demand" || Text.sameName policy "on-demand" then .ok .onDemand
    else refuse "server.extended_headers" s!"expected `never` or `on_demand`, got `{policy}`"

/-! ## Logging, workers, cluster -/

/-- The log level. -/
def checkLevel (logging : RawLogging) : Except LoadError LevelFilter :=
  match logging.level with
  | none => .ok .info
  | some text =>
    match LevelFilter.parse? text with
    | some level => .ok level
    | none =>
      refuse "logging.level"
        ("failed to parse: error parsing level filter: expected one of \"off\", \"error\", " ++
          "\"warn\", \"info\", \"debug\", \"trace\", or a number 0-5")

/-- The size of the worker pool. -/
def checkPoolSize (poolSize : Option Nat) : Except LoadError Nat :=
  match poolSize.getD 4 with
  | 0 => refuse "workers.pool_size" "must be greater than zero"
  | size => .ok size

/-- Adds a member unless it is there already. -/
def addMember (members : List String) (member : String) : List String :=
  if member ∈ members then members else members ++ [member]

/-- The members of the cluster in order of first occurrence, and the node. -/
def checkMembers (members : List String) (nodeName : String) : Except LoadError (List String) :=
  let trimmed := members.map Text.trimmed
  if trimmed.any String.isEmpty then
    refuse "cluster.members" "member names must not be empty"
  else .ok (addMember (trimmed.foldl addMember []) nodeName)

/-! ## Caches -/

/-- A lifespan or idle time. -/
def checkExpiration (key : String) : Option Nat → Except LoadError Expiration
  | some 0 => refuse key "must be greater than zero; omit for unlimited"
  | seconds => .ok (.ofSeconds? seconds)

/-- The storage format of a cache, which must not be the full range. -/
def checkStorage (storage : Option String) : Except LoadError (Option MediaType) :=
  match present? storage with
  | none => .ok none
  | some text =>
    match MediaType.parse text with
    | .error error => refuse "caches.storage_media_type" error.message
    | .ok .any => refuse "caches.storage_media_type" "storage format must be a concrete media type"
    | .ok media => .ok (some media)

/-- The name of a cache, which must be new and fit for a path segment. -/
def checkName (seen : List String) (name : String) : Except LoadError String :=
  let name := Text.trimmed name
  if name.isEmpty || name.toList.contains '/' then
    refuse "caches.name" s!"`{name}` is not a valid cache name"
  else if name ∈ seen then refuse "caches.name" s!"cache `{name}` is defined twice"
  else .ok name

/-- The settings of one cache, after those of the given names. -/
def checkCache (seen : List String) (raw : RawCache) : Except LoadError CacheSettings := do
  let name ← checkName seen raw.name
  let storage ← checkStorage raw.storageMediaType
  let lifespan ← checkExpiration "caches.lifespan_seconds" raw.lifespanSeconds
  let maxIdle ← checkExpiration "caches.max_idle_seconds" raw.maxIdleSeconds
  return ⟨name, lifespan, maxIdle, storage⟩

/-- The settings of all caches, after those of the given names. -/
def checkEach (seen : List String) : List RawCache → Except LoadError (List CacheSettings)
  | [] => .ok []
  | raw :: rest => do
    let cache ← checkCache seen raw
    return cache :: (← checkEach (seen ++ [cache.name]) rest)

/-- The cache that there is when none is configured. -/
def defaultCache : CacheSettings := ⟨"default", .unlimited, .unlimited, none⟩

/-- The settings of all caches. -/
def checkCaches (caches : List RawCache) : Except LoadError (List CacheSettings) :=
  if caches.isEmpty then .ok [defaultCache] else checkEach [] caches

/-! ## All settings -/

/-- Checks settings as written. -/
def ofRaw (raw : RawSettings) : Except LoadError Settings := do
  let address ← checkAddress raw.server
  let contextPath ← checkContextPath raw.server
  let nodeName := (present? raw.server.nodeName).getD "node-1"
  let extendedHeaders ← checkExtendedHeaders raw.server
  let level ← checkLevel raw.logging
  let poolSize ← checkPoolSize raw.poolSize
  let members ← checkMembers raw.members nodeName
  let caches ← checkCaches raw.caches
  return {
    address, contextPath, nodeName, extendedHeaders
    elevatedPrincipal := present? raw.server.elevatedPrincipal
    level
    format := if raw.logging.json.getD false then .json else .compact
    poolSize, members, caches }

/-- The merged and overridden settings, checked. -/
def load (files : List (String × FileContent)) (environment : List (String × String))
    (explicit : Option String) (overrides : Overrides) : Except LoadError Settings :=
  match (merge? files environment explicit).bind RawSettings.read? with
  | none => .error .build
  | some raw => ofRaw (raw.override overrides)

/-! ## Summary -/

/-- The name of a policy on placement headers. -/
def policyLabel : ExtendedHeaders → String
  | .never => "never"
  | .onDemand => "on_demand"

/-- The summary line of a cache. -/
def cacheLine (cache : CacheSettings) : String :=
  "caches." ++ cache.name ++ " = lifespan " ++ Text.intText cache.lifespan.headerValue ++
    " max_idle " ++ Text.intText cache.maxIdle.headerValue ++ " storage " ++
    ((cache.storage.map MediaType.text).getD "unconfigured")

/-- One line for every setting. -/
def summary (settings : Settings) : List String :=
  ["server.addr = " ++ settings.address.text,
    "server.context_path = " ++ settings.contextPath,
    "server.node_name = " ++ settings.nodeName,
    "server.extended_headers = " ++ policyLabel settings.extendedHeaders,
    "logging.level = " ++ settings.level.label,
    "workers.pool_size = " ++ Text.natText settings.poolSize,
    "cluster.members = " ++ String.intercalate "," settings.members] ++
  settings.caches.map cacheLine

end Settings

end CacheGate
