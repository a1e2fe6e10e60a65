import CacheGate.Number.SipHash
import CacheGate.Text.Decimal
import CacheGate.Text.Trim

/-!
# Entity tags

An entity tag is the hash of the raw bytes of a value. Equal bytes have equal
tags; the hash does not resist deliberate collisions. `EntityTag.matchesHeader` says
whether an `If-Match` or `If-None-Match` header names a tag.
-/

namespace CacheGate

/-- The fingerprint of a value. -/
structure EntityTag where
  hash : UInt64
  deriving DecidableEq, Repr

namespace EntityTag

/-- The tag of a value. -/
def of (value : Bytes) : EntityTag := ⟨SipHash.hash value⟩

/-- The decimal digits of the hash. -/
def digits (tag : EntityTag) : List Char := Text.digits tag.hash.toNat

/-- The tag as a header value: its digits in quotes. -/
def text (tag : EntityTag) : String := String.ofList ('"' :: tag.digits ++ ['"'])

/-- Removes the mark of a weak tag. -/
def dropWeak : List Char → List Char
  | 'W' :: '/' :: rest => rest
  | cs => cs

/-- Whether one trimmed candidate of a header names the tag: a star, or the
digits with or without a weak mark and quotes. -/
def named (tag : EntityTag) (candidate : List Char) : Bool :=
  candidate == ['*'] || Text.unquote (dropWeak candidate) == tag.digits

/-- Whether some candidate of a comma-separated header names the tag. -/
def matchesHeader (tag : EntityTag) (header : String) : Bool :=
  (header.toList.splitOn ',').any fun candidate => tag.named (Text.trim candidate)

end EntityTag

end CacheGate
