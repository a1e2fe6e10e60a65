import CacheGate.Store.Caller
import CacheGate.Store.Conversion
import CacheGate.Store.Error

/-!
# Store calls

The operations that a store offers, as data. Public calls carry the subject
of the request; internal reads carry an execution context and must not count
as a use of the entry.
-/

namespace CacheGate

/-- What a write puts into the store. -/
structure NewEntry where
  key : Key
  value : Bytes
  mediaType : MediaType
  metadata : EntryMetadata
  deriving DecidableEq, Repr

/-- One call of a store. -/
inductive Call where
  /-- Reads a value in a format and counts as a use of the entry. -/
  | get (subject : Subject) (cache : String) (key : Key) (format : MediaType)
  | put (subject : Subject) (cache : String) (entry : NewEntry)
  /-- Tells whether there was an entry to remove. -/
  | remove (subject : Subject) (cache : String) (key : Key)
  | clear (subject : Subject) (cache : String)
  | keys (subject : Subject) (cache : String)
  /-- Reads an entry with its metadata, without counting as a use. -/
  | entry (context : ExecutionContext) (cache : String) (key : Key)
  | configuration (context : ExecutionContext) (cache : String)
  | distribution (context : ExecutionContext) (cache : String) (key : Key)
  deriving DecidableEq, Repr

namespace Call

/-- What a successful call answers. -/
abbrev Answer : Call → Type
  | .get .. => Option Bytes
  | .put .. => Unit
  | .remove .. => Bool
  | .clear .. => Unit
  | .keys .. => List Key
  | .entry .. => Option Entry
  | .configuration .. => CacheConfiguration
  | .distribution .. => Distribution

/-- The cache that a call names. -/
def cache : Call → String
  | .get _ cache _ _ | .put _ cache _ | .remove _ cache _ | .clear _ cache | .keys _ cache
  | .entry _ cache _ | .configuration _ cache | .distribution _ cache _ => cache

/-- The key that a call names, if any. -/
def key? : Call → Option Key
  | .get _ _ key _ | .remove _ _ key | .entry _ _ key | .distribution _ _ key => some key
  | .put _ _ added => some added.key
  | .clear .. | .keys .. | .configuration .. => none

end Call

end CacheGate
