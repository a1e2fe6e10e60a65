import CacheGate.Entry
import CacheGate.EntityTag
import CacheGate.Http.Request
import CacheGate.Time.HttpDate

/-!
# Conditional requests

`Conditions` are the conditional headers of a request; what cannot be read
counts as absent. `evaluateRead`, `evaluateWrite` and `evaluateDelete` decide
on an entry as it was read, and `cacheControl` states how long it stays fresh.
Everything here is a function of the entry, the headers and the time.

In reads and writes a matching `If-None-Match` decides before `If-Match`; a
delete proceeds when every tag header that is present matches.
-/

namespace CacheGate

open Time Http

/-! ## Headers -/

/-- The conditional headers of one request. -/
structure Conditions where
  ifMatch : Option String
  ifNoneMatch : Option String
  ifModifiedSince : Option Instant
  ifUnmodifiedSince : Option Instant
  minFresh : Option Int
  deriving DecidableEq

namespace Conditions

/-- No conditions. -/
def unconditional : Conditions := ⟨none, none, none, none, none⟩

/-- The number of one `min-fresh` directive. -/
def minFreshDirective? (directive : List Char) : Option Int := do
  let (name, value) ← Text.cut? '=' (Text.trim directive)
  if Text.lower (Text.trim name) = "min-fresh".toList then
    Text.int64? (Text.unquote (Text.trim value))
  else none

/-- The first readable `min-fresh` directive of a `Cache-Control` header. -/
def minFresh? (cacheControl : String) : Option Int :=
  (cacheControl.toList.splitOn ',').findSome? minFreshDirective?

/-- The conditional headers of a request. -/
def ofRequest (request : Request) : Conditions where
  ifMatch := request.header? Field.ifMatch
  ifNoneMatch := request.header? Field.ifNoneMatch
  ifModifiedSince := (request.header? Field.ifModifiedSince).bind HttpDate.parse?
  ifUnmodifiedSince := (request.header? Field.ifUnmodifiedSince).bind HttpDate.parse?
  minFresh := (request.header? Field.cacheControl).bind minFresh?

/-- Whether `If-None-Match` is present and names the tag. -/
def excludes (conditions : Conditions) (tag : EntityTag) : Bool :=
  conditions.ifNoneMatch.any tag.matchesHeader

/-- Whether `If-Match` is present and does not name the tag. -/
def mismatches (conditions : Conditions) (tag : EntityTag) : Bool :=
  conditions.ifMatch.any fun header => !tag.matchesHeader header

end Conditions

/-! ## Verdicts -/

/-- The outcome of a conditional evaluation. -/
inductive Verdict where
  | serve
  | notModified
  | preconditionFailed
  | notFound
  | conflict
  deriving DecidableEq, Repr

namespace Verdict

/-- The status of a verdict that ends the request. -/
def status? : Verdict → Option Status
  | .serve => none
  | .notModified => some .notModified
  | .preconditionFailed => some .preconditionFailed
  | .notFound => some .notFound
  | .conflict => some .conflict

/-- The name of a verdict in the log. -/
def label : Verdict → String
  | .serve => "served"
  | .notModified => "not_modified"
  | .preconditionFailed => "precondition_failed"
  | .notFound => "not_found"
  | .conflict => "conflict"

end Verdict

/-! ## Freshness -/

/-- Whether the entry expires in less than the wanted number of whole seconds. -/
def failsMinFresh (expiresAt : Option Instant) (minFresh : Option Int) (now : Instant) : Bool :=
  match expiresAt, minFresh with
  | some deadline, some wanted => now.secondsUntil deadline < wanted
  | _, _ => false

/-- The `Cache-Control` value of an entry: its remaining whole seconds, if any
are left, and nothing for an entry that does not expire. -/
def cacheControl (expiresAt : Option Instant) (now : Instant) : Option String :=
  expiresAt.map fun deadline =>
    let remaining := now.secondsUntil deadline
    if 0 < remaining then "max-age=" ++ Text.intText remaining else "no-cache"

/-! ## Evaluation -/

/-- What a read evaluation found out about the entry. -/
structure ReadEvaluation where
  verdict : Verdict
  etag : EntityTag
  lastModified : Instant
  expiresAt : Option Instant
  deriving DecidableEq

/-- The verdict on a read, from the parts of the entry that it depends on. -/
def readVerdict (tag : EntityTag) (lastModified : Instant) (expiresAt : Option Instant)
    (conditions : Conditions) (now : Instant) : Verdict :=
  if failsMinFresh expiresAt conditions.minFresh now then .notFound
  else if conditions.excludes tag then .notModified
  else if conditions.mismatches tag then .preconditionFailed
  else if conditions.ifUnmodifiedSince.any fun since => since < lastModified then
    .preconditionFailed
  else if conditions.ifModifiedSince.any fun since => lastModified ≤ since then .notModified
  else .serve

/-- Evaluates a read of an entry. -/
def evaluateRead (entry : Entry) (conditions : Conditions) (now : Instant) : ReadEvaluation :=
  let etag := EntityTag.of entry.value
  let lastModified := entry.lastModified now
  let expiresAt := entry.expiresAt
  ⟨readVerdict etag lastModified expiresAt conditions now, etag, lastModified, expiresAt⟩

/-- Evaluates a write over the entry found, if any. `serve` means that the
write may proceed; a creating write conflicts with any entry. -/
def evaluateWrite (existing : Option Entry) (conditions : Conditions) (creating : Bool) : Verdict :=
  match existing with
  | none => .serve
  | some entry =>
    let tag := EntityTag.of entry.value
    if creating then .conflict
    else if conditions.excludes tag then .notModified
    else if conditions.mismatches tag then .preconditionFailed
    else .serve

/-- Evaluates a delete of the entry found, if any. `serve` means that the
entry may be removed. -/
def evaluateDelete (existing : Option Entry) (conditions : Conditions) : Verdict :=
  match existing with
  | none => .notFound
  | some entry =>
    let tag := EntityTag.of entry.value
    if conditions.mismatches tag then .preconditionFailed
    else if conditions.ifNoneMatch.all tag.matchesHeader then .serve
    else .preconditionFailed

end CacheGate
