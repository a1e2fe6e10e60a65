import CacheGate.Http.Request
import CacheGate.Store.Conversion

/-!
# Expiration settings of a write

A write may state a lifespan and an idle time in headers. A positive number
of seconds is taken, a negative one means no limit, and zero or no header at
all leaves the default of the cache.
-/

namespace CacheGate

open Http

/-- What a write says about one expiration setting. -/
inductive ExpirationOverride where
  | useDefault
  | unlimited
  | seconds (count : Nat)
  deriving DecidableEq, Repr

namespace ExpirationOverride

/-- The meaning of a number of seconds. -/
def ofInt (count : Int) : ExpirationOverride :=
  if count = 0 then .useDefault
  else if count < 0 then .unlimited
  else .seconds count.toNat

/-- Reads a header value; `label` names the header in the failure. -/
def parse (label : String) : Option String → Except AccessError ExpirationOverride
  | none => .ok .useDefault
  | some raw =>
    match Text.int64? raw.toList with
    | some count => .ok (.ofInt count)
    | none => .error (.invalidHeader label s!"`{raw}` is not a number")

/-- The setting that results over a default. -/
def resolve (default : Expiration) : ExpirationOverride → Expiration
  | .useDefault => default
  | .unlimited => .unlimited
  | .seconds count => .seconds count

end ExpirationOverride

/-- The expiration settings of a write: what it states, else the defaults. -/
def resolveMetadata (request : Request) (configuration : CacheConfiguration) :
    Except AccessError EntryMetadata := do
  let lifespan ← ExpirationOverride.parse "timeToLiveSeconds" (request.header? Field.timeToLive)
  let maxIdle ← ExpirationOverride.parse "maxIdleTimeSeconds" (request.header? Field.maxIdle)
  return ⟨lifespan.resolve configuration.lifespan, maxIdle.resolve configuration.maxIdle⟩

end CacheGate
