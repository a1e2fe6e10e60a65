import CacheGate.Proofs.Http.FieldText
import CacheGate.WriteExpiration

/-!
# Settings that are stated and sent back

An entry states its settings in headers as numbers: `-1` is no limit, and a
length is at most the greatest signed 64-bit number. A write that sends such
numbers back gets settings of the same length, whatever the defaults of the
cache are (`resolveMetadata_of_restated`). This needs that no setting is zero,
because a write that states a zero gets the default. Writes keep it so: they
never set a zero of their own (`isPositive_of_resolveMetadata`).
-/

namespace CacheGate

open Http

/-! ## Settings without zeros -/

/-- Whether a setting is without a limit or at least a second. -/
def Expiration.IsPositive (setting : Expiration) : Prop := setting ≠ .seconds 0

instance (setting : Expiration) : Decidable setting.IsPositive :=
  inferInstanceAs (Decidable (_ ≠ _))

/-- Two settings that count the same and are stated as the same number. -/
structure Expiration.SameLength (left right : Expiration) : Prop where
  duration : left.duration? = right.duration?
  header : left.headerValue = right.headerValue

namespace EntryMetadata

structure IsPositive (metadata : EntryMetadata) : Prop where
  lifespan : metadata.lifespan.IsPositive
  maxIdle : metadata.maxIdle.IsPositive

structure SameLength (left right : EntryMetadata) : Prop where
  lifespan : left.lifespan.SameLength right.lifespan
  maxIdle : left.maxIdle.SameLength right.maxIdle

end EntryMetadata

/-- The settings that an entry gets from a write that states none. -/
def CacheConfiguration.defaults (configuration : CacheConfiguration) : EntryMetadata :=
  ⟨configuration.lifespan, configuration.maxIdle⟩

/-! ## One setting -/

namespace ExpirationOverride

variable {stated : ExpirationOverride} {default setting : Expiration} {label : String}
  {raw : Option String}

/-- What is stated is never a length of zero. -/
theorem ofInt_ne_zero (count : Int) : ofInt count ≠ .seconds 0 := by
  unfold ofInt
  split
  · exact nofun
  · split
    · exact nofun
    · intro same
      have zero := ExpirationOverride.seconds.inj same
      omega

theorem parse_ne_zero (read : parse label raw = .ok stated) : stated ≠ .seconds 0 := by
  unfold parse at read
  split at read
  · obtain rfl := Except.ok.inj read
    exact nofun
  · split at read
    · obtain rfl := Except.ok.inj read
      exact ofInt_ne_zero _
    · cases read

theorem resolve_isPositive (positive : default.IsPositive) (given : stated ≠ .seconds 0) :
    (stated.resolve default).IsPositive := by
  cases stated with
  | useDefault => exact positive
  | unlimited => exact nofun
  | seconds count => exact fun same => given (congrArg _ (Expiration.seconds.inj same))

end ExpirationOverride

namespace Expiration

variable {setting : Expiration}

/-- What a setting is stated as has 64 bits. -/
theorem headerValue_bounds :
    Text.leastInt64 ≤ setting.headerValue ∧ setting.headerValue ≤ Text.greatestInt64 := by
  unfold headerValue Text.leastInt64 Text.greatestInt64
  split <;> omega

/-- The number that a setting is stated as gives a setting of the same length
back, and the default has no part in it. -/
theorem resolve_headerValue (positive : setting.IsPositive) (default : Expiration) :
    ((ExpirationOverride.ofInt setting.headerValue).resolve default).SameLength setting := by
  cases setting with
  | unlimited => exact ⟨rfl, rfl⟩
  | seconds count =>
    have long : count ≠ 0 := fun zero => positive (congrArg seconds zero)
    have stated : ExpirationOverride.ofInt (headerValue (.seconds count)) =
        .seconds (min count Text.greatestInt64) := by
      unfold ExpirationOverride.ofInt headerValue Text.greatestInt64
      dsimp only
      rw [if_neg (by omega), if_neg (by omega)]
      exact congrArg _ (by omega)
    rw [stated]
    constructor
    · exact congrArg some (by omega)
    · change min ((min count Text.greatestInt64 : Nat) : Int) _ = min (count : Int) _
      omega

/-- Reading the text of a stated number. -/
theorem parse_headerValue (label : String) :
    ExpirationOverride.parse label (some (Text.intText setting.headerValue)) =
      .ok (.ofInt setting.headerValue) := by
  unfold ExpirationOverride.parse
  dsimp only
  rw [Text.int64?_intText headerValue_bounds.1 headerValue_bounds.2]

end Expiration

/-! ## Both settings -/

section Metadata

variable {request : Request} {configuration : CacheConfiguration} {metadata stated : EntryMetadata}

theorem resolveMetadata_eq_ok_iff :
    resolveMetadata request configuration = .ok metadata ↔
      ∃ lifespan maxIdle,
        ExpirationOverride.parse "timeToLiveSeconds" (request.header? Field.timeToLive) =
          .ok lifespan ∧
        ExpirationOverride.parse "maxIdleTimeSeconds" (request.header? Field.maxIdle) =
          .ok maxIdle ∧
        metadata = ⟨lifespan.resolve configuration.lifespan,
          maxIdle.resolve configuration.maxIdle⟩ := by
  unfold resolveMetadata
  cases ExpirationOverride.parse "timeToLiveSeconds" (request.header? Field.timeToLive) <;>
    cases ExpirationOverride.parse "maxIdleTimeSeconds" (request.header? Field.maxIdle) <;>
    simp [bind, Except.bind, pure, Except.pure, eq_comm]

/-- Where the defaults have no zeros, no write has. -/
theorem isPositive_of_resolveMetadata (defaults : configuration.defaults.IsPositive)
    (settled : resolveMetadata request configuration = .ok metadata) : metadata.IsPositive := by
  obtain ⟨lifespan, maxIdle, lives, idles, rfl⟩ := resolveMetadata_eq_ok_iff.1 settled
  exact ⟨ExpirationOverride.resolve_isPositive defaults.lifespan
      (ExpirationOverride.parse_ne_zero lives),
    ExpirationOverride.resolve_isPositive defaults.maxIdle (ExpirationOverride.parse_ne_zero idles)⟩

/-- A write that sends back what was stated of an entry gets settings of the
same length. -/
theorem resolveMetadata_of_restated (positive : stated.IsPositive)
    (timeToLive : request.headers.get? Field.timeToLive =
      some (Utf8.encode (Text.intText stated.lifespan.headerValue)))
    (maxIdle : request.headers.get? Field.maxIdle =
      some (Utf8.encode (Text.intText stated.maxIdle.headerValue)))
    (settled : resolveMetadata request configuration = .ok metadata) :
    metadata.SameLength stated := by
  obtain ⟨lifespan, idle, lives, idles, rfl⟩ := resolveMetadata_eq_ok_iff.1 settled
  rw [Request.header?_of_sent_int timeToLive, Expiration.parse_headerValue] at lives
  rw [Request.header?_of_sent_int maxIdle, Expiration.parse_headerValue] at idles
  obtain rfl := Except.ok.inj lives
  obtain rfl := Except.ok.inj idles
  exact ⟨Expiration.resolve_headerValue positive.lifespan _,
    Expiration.resolve_headerValue positive.maxIdle _⟩

end Metadata

end CacheGate
