import CacheGate.Entry

/-!
# Formats of stored values

A cache may declare the format it stores values in, and then offers a fixed
list of formats they can be read as. `ValueConversion.ofStorage` is the table
of those lists; a cache without a declared format passes values through and
takes any request for them.
-/

namespace CacheGate

/-- The storage format of a cache and the formats it can be read as. An empty
list means that values pass through unconverted. -/
structure ValueConversion where
  storage : Option MediaType
  readable : List MediaType
  deriving DecidableEq, Repr, Inhabited

namespace ValueConversion

/-- No declared format. -/
def passthrough : ValueConversion := ⟨none, []⟩

/-- Whether values can be had in the requested format or range. -/
def supports (conversion : ValueConversion) (requested : MediaType) : Bool :=
  requested.isAny || conversion.readable.isEmpty ||
    conversion.readable.any fun readable => readable.overlaps requested

/-- Whether a value declared as `contentType` may be written. -/
def accepts (conversion : ValueConversion) (contentType : MediaType) : Bool :=
  contentType.isConcrete && conversion.supports contentType

/-- The formats that values of a storage format can be read as, its own first. -/
def readableFrom (storage : MediaType) : List MediaType :=
  if storage = .object then [.object, .textPlain, .json, .octetStream]
  else if storage = .protostream then [.protostream, .json, .octetStream]
  else if storage = .json then [.json, .textPlain, .octetStream]
  else if storage = .textPlain then [.textPlain, .octetStream]
  else if storage = .octetStream then [.octetStream, .textPlain]
  else [storage, .octetStream]

/-- The conversion of a cache that declares a storage format; parameters of
the format are dropped. -/
def ofStorage : Option MediaType → ValueConversion
  | none => .passthrough
  | some storage => ⟨some storage.essence, readableFrom storage.essence⟩

end ValueConversion

/-- The settings of a cache that requests are handled by. -/
structure CacheConfiguration where
  lifespan : Expiration
  maxIdle : Expiration
  conversion : ValueConversion
  deriving DecidableEq, Repr, Inhabited

/-- Where an entry lives in the cluster. -/
structure Distribution where
  primaryOwner : String
  nodeName : String
  serverAddress : String
  deriving DecidableEq, Repr

end CacheGate
