import CacheGate.MediaType.Basic
import CacheGate.Text.Decimal
import CacheGate.Text.Utf8
import CacheGate.Time.Instant

/-!
# Keys, entries and expiry

A key addresses an entry by its bytes; the media type it was declared with
plays no part in that. An entry expires at the earlier of two deadlines: its
lifespan counted from its creation and its idle time counted from its last
use. A deadline that the calendar does not have never comes.
-/

namespace CacheGate

open Time

/-! ## Keys -/

/-- A key with the media type it was declared with. -/
structure Key where
  content : Bytes
  mediaType : MediaType
  deriving DecidableEq, Repr

namespace Key

/-- Whether two keys address the same entry. -/
def same (left right : Key) : Bool := left.content == right.content

/-- The key as text, for listings and logs. -/
def displayText (key : Key) : String := Utf8.decodeLossy key.content

end Key

/-! ## Expiration settings -/

/-- A lifespan or an idle time. Having no limit is a case of its own and never a zero. -/
inductive Expiration where
  | unlimited
  | seconds (count : Nat)
  deriving DecidableEq, Repr, Inhabited

namespace Expiration

/-- No number stands for no limit. -/
def ofSeconds? : Option Nat → Expiration
  | none => .unlimited
  | some count => .seconds count

/-- The length in seconds, at most the greatest signed 64-bit number. -/
def duration? : Expiration → Option Nat
  | .unlimited => none
  | .seconds count => some (min count Text.greatestInt64)

/-- The setting as the expiry headers state it; `-1` is no limit. -/
def headerValue : Expiration → Int
  | .unlimited => -1
  | .seconds count => min count Text.greatestInt64

end Expiration

/-- The two expiration settings of an entry. -/
structure EntryMetadata where
  lifespan : Expiration
  maxIdle : Expiration
  deriving DecidableEq, Repr, Inhabited

/-- Whether either setting has a limit. -/
def EntryMetadata.canExpire (metadata : EntryMetadata) : Bool :=
  metadata.lifespan != .unlimited || metadata.maxIdle != .unlimited

/-! ## Entries -/

/-- A value with its settings and time stamps, as it is read from a store.
A store that does not track a stamp leaves it out. -/
structure Entry where
  value : Bytes
  mediaType : MediaType
  metadata : EntryMetadata
  created : Option Instant
  lastUsed : Option Instant
  deriving DecidableEq

namespace Entry

/-- The instant at which a setting, counted from a stamp, runs out. -/
def deadline? (stamp : Option Instant) (setting : Expiration) : Option Instant := do
  let start ← stamp
  let length ← setting.duration?
  start.addSeconds? length

/-- The earlier of the two deadlines, of those that exist. -/
def expiresAt (entry : Entry) : Option Instant :=
  match deadline? entry.created entry.metadata.lifespan,
      deadline? entry.lastUsed entry.metadata.maxIdle with
  | some byLifespan, some byIdle => some (byLifespan.earlier byIdle)
  | byLifespan, byIdle => byLifespan <|> byIdle

/-- Whether the entry has expired; it has from the deadline on. -/
def isExpired (entry : Entry) (now : Instant) : Bool :=
  match entry.expiresAt with
  | none => false
  | some deadline => deadline ≤ now

/-- Creation, else last use, else `now`, to the whole second, because HTTP
dates carry no fractions of it. -/
def lastModified (entry : Entry) (now : Instant) : Instant :=
  ((entry.created <|> entry.lastUsed).getD now).wholeSecond

end Entry

end CacheGate
