import CacheGate.KeyListing
import CacheGate.Proofs.MediaType.Accept
import CacheGate.Proofs.Negotiation

/-!
# Which renderings key listings take

A listing is rendered for the first candidate that the cache supports and that
some rendering fits (`chooseListing_eq_ok_iff`). A concrete candidate is the
type of its rendering, so the cache can produce that type. A range is compared
with the formats of the cache and with the renderings apart, and these need
not meet inside it:

* `ValueConversion.supports_mediaType_iff`: the storage formats that the type
  of a rendering can be read from.
* `listing_format_unreadable_iff`: the listings in a type that the cache
  refuses when it is asked for by name.
-/

namespace CacheGate

variable {accept : Option String} {conversion : ValueConversion} {storage : Option MediaType}
  {candidate chosen media : MediaType} {listed : List MediaType} {format : KeysFormat}
  {charset : Charset}

/-! ## The candidate that decides -/

/-- A header that is one media type without a weight has this one candidate. -/
theorem candidates_of_parse {header : String} (read : MediaType.parse header = .ok media)
    (single : ',' ∉ header.toList) (named : media ≠ .any)
    (unweighted : ∀ param ∈ media.params, MediaType.isWeightParam param = false) :
    candidates (some header) = .ok [media] := by
  unfold candidates
  dsimp only
  rw [MediaType.parseList_of_parse read single named unweighted]

/-- The candidate that a listing is rendered for. -/
def decisiveCandidate? (conversion : ValueConversion) (listed : List MediaType) :
    Option MediaType :=
  listed.find? fun candidate => conversion.supports candidate &&
    (KeysFormat.ofCandidate? (narrow candidate conversion.storage)).isSome

theorem chooseListing_eq_ok_iff :
    chooseListing accept conversion listed = .ok (format, charset) ↔
      ∃ candidate, decisiveCandidate? conversion listed = some candidate ∧
        KeysFormat.ofCandidate? (narrow candidate conversion.storage) = some format ∧
        Charset.ofParam? (narrow candidate conversion.storage).charset? = .ok charset := by
  unfold decisiveCandidate?
  induction listed with
  | nil => simp [chooseListing]
  | cons first rest ih =>
    unfold chooseListing
    cases supported : conversion.supports first with
    | false =>
      rw [List.find?_cons_of_neg (by simp [supported]), if_neg Bool.false_ne_true]
      exact ih
    | true =>
      rw [if_pos rfl]
      dsimp only
      cases fits : KeysFormat.ofCandidate? (narrow first conversion.storage) with
      | none =>
        rw [List.find?_cons_of_neg (by simp [fits])]
        exact ih
      | some found =>
        rw [List.find?_cons_of_pos (by simp [supported, fits])]
        cases named : Charset.ofParam? (narrow first conversion.storage).charset? <;>
          simp [fits, named, Except.map]

theorem negotiateListing_eq_ok_iff :
    negotiateListing accept conversion = .ok (format, charset) ↔
      ∃ listed candidate, candidates accept = .ok listed ∧
        decisiveCandidate? conversion listed = some candidate ∧
        KeysFormat.ofCandidate? (narrow candidate conversion.storage) = some format ∧
        Charset.ofParam? (narrow candidate conversion.storage).charset? = .ok charset := by
  unfold negotiateListing
  cases candidates accept with
  | error error => simp [bind, Except.bind]
  | ok listed =>
    change chooseListing accept conversion listed = _ ↔ _
    simp [chooseListing_eq_ok_iff]

/-! ## Types of renderings -/

/-- The storage formats and ranges that the type of a rendering can be read from. -/
def KeysFormat.sources : KeysFormat → List MediaType
  | .json => [.any, .object, .protostream, .json, .named "application" "*" []]
  | .text => [.any, .object, .json, .textPlain, .octetStream, .named "text" "*" []]
  | .xml => [.any, .xml, .named "application" "*" []]

namespace MediaType

/-- A type without parameters overlaps a concrete type that it names or has in its range. -/
theorem plain_overlaps_iff {primary sub primary' sub' : String} (concrete : sub' ≠ "*") :
    (named primary sub []).overlaps (named primary' sub' []) = true ↔
      named primary sub [] = named primary' "*" [] ∨
        named primary sub [] = named primary' sub' [] := by
  simp only [overlaps, Bool.and_eq_true, Bool.or_eq_true, beq_iff_eq, concrete, or_false,
    named.injEq, and_true]
  tauto

/-- Nothing tells overlapping concrete types apart. -/
theorem overlaps_eq_of_concrete {other : MediaType} (left : media.isConcrete = true)
    (right : other.isConcrete = true) (overlap : media.overlaps other = true)
    (readable : MediaType) : readable.overlaps media = readable.overlaps other := by
  cases media with
  | any => cases left
  | named primary sub params =>
    cases other with
    | any => cases right
    | named primary' sub' params' =>
      simp only [isConcrete, Bool.and_eq_true, bne_iff_ne] at left right
      simp only [overlaps, Bool.and_eq_true, Bool.or_eq_true, beq_iff_eq, left.2, right.2,
        false_or] at overlap
      obtain ⟨rfl, rfl⟩ := overlap
      cases readable <;> rfl

end MediaType

namespace ValueConversion

/-- What is stored in a format can be had in the type of a rendering exactly
from the sources of that rendering. -/
theorem any_readableFrom_iff {essence : MediaType} (bare : essence.params = [])
    (format : KeysFormat) :
    ((readableFrom essence).any fun readable => readable.overlaps format.mediaType) = true ↔
      essence ∈ format.sources := by
  by_cases known : essence ∈ common
  case pos =>
    have every : ∀ essence ∈ common, ∀ format ∈ KeysFormat.all,
        ((readableFrom essence).any fun readable => readable.overlaps format.mediaType) = true ↔
          essence ∈ format.sources := by decide
    exact every essence known format (by cases format <;> decide)
  case neg =>
    have kept : readableFrom essence = [essence, .octetStream] := by
      simp only [common, List.mem_cons, List.not_mem_nil, or_false, not_or] at known
      obtain ⟨object, text, json, bytes, proto⟩ := known
      unfold readableFrom
      rw [if_neg object, if_neg proto, if_neg json, if_neg text, if_neg bytes]
    have bytes : MediaType.octetStream.overlaps format.mediaType = false := by
      cases format <;> rfl
    rw [kept, List.any_cons, List.any_cons, List.any_nil, bytes, Bool.or_false, Bool.or_false]
    cases essence with
    | any => cases format <;> decide
    | named primary sub params =>
      obtain rfl : params = [] := bare
      simp only [common, List.mem_cons, List.not_mem_nil, or_false, not_or] at known
      cases format
      all_goals
        refine (MediaType.plain_overlaps_iff (by decide)).trans ?_
        simp only [KeysFormat.sources, List.mem_cons, List.not_mem_nil, or_false, known,
          false_or, reduceCtorEq]
      · exact or_iff_left known.2.2.1
      · exact or_iff_left known.2.1
      · exact or_comm

/-- The caches that can produce the type of a rendering. -/
theorem supports_mediaType_iff : (ofStorage storage).supports format.mediaType = true ↔
    ∀ declared, storage = some declared → declared.essence ∈ format.sources := by
  cases storage with
  | none => simp [supports, ofStorage, passthrough]
  | some declared =>
    have bare : declared.essence.params = [] := by cases declared <;> rfl
    have filled : (readableFrom declared.essence).isEmpty = false :=
      List.isEmpty_eq_false_iff.2 (List.ne_nil_of_mem mem_readableFrom_self)
    have named : format.mediaType.isAny = false := by cases format <;> rfl
    unfold supports ofStorage
    rw [named, filled, Bool.false_or, Bool.false_or, any_readableFrom_iff bare]
    simp

/-- A cache supports what it narrows a supported candidate to. -/
theorem supports_narrow (supported : (ofStorage storage).supports candidate = true) :
    (ofStorage storage).supports (narrow candidate (ofStorage storage).storage) = true := by
  cases candidate with
  | named => exact supported
  | any =>
    cases storage with
    | none => rfl
    | some declared =>
      unfold narrow ofStorage
      dsimp only [Option.map_some]
      rw [MediaType.essence_essence]
      split
      case isTrue object =>
        rw [Option.some.inj object]
        decide
      case isFalse =>
        split
        case isTrue protostream =>
          rw [Option.some.inj protostream]
          decide
        case isFalse => rfl

end ValueConversion

/-! ## Listings -/

theorem KeysFormat.overlaps_of_ofCandidate? (range : candidate ≠ .any)
    (fits : KeysFormat.ofCandidate? candidate = some format) :
    format.mediaType.overlaps candidate = true := by
  cases candidate with
  | any => exact absurd rfl range
  | named =>
    exact List.find?_some (p := fun format : KeysFormat => format.mediaType.overlaps _) fits

/-- The rendering for a concrete candidate has the type of the candidate. -/
theorem supports_mediaType_of_concrete (concrete : candidate.isConcrete = true)
    (supported : conversion.supports candidate = true)
    (fits : KeysFormat.ofCandidate? candidate = some format) :
    conversion.supports format.mediaType = true := by
  have named : candidate.isAny = false := by
    cases candidate with
    | any => cases concrete
    | named => rfl
  have type : format.mediaType.isConcrete = true := by cases format <;> rfl
  have other : format.mediaType.isAny = false := by cases format <;> rfl
  have range : candidate ≠ .any := by
    rintro rfl
    cases concrete
  have same := MediaType.overlaps_eq_of_concrete type concrete
    (KeysFormat.overlaps_of_ofCandidate? range fits)
  unfold ValueConversion.supports at supported ⊢
  simpa only [same, named, other] using supported

/-- Asked for the type of a rendering by its name, a cache takes that
rendering if it can produce the type, and refuses otherwise. -/
theorem negotiateListing_mediaType (conversion : ValueConversion) (format : KeysFormat) :
    negotiateListing (some format.mediaType.text) conversion =
      if conversion.supports format.mediaType then .ok (format, .utf8)
      else .error (.unacceptable (some format.mediaType.text)) := by
  have read : MediaType.parse format.mediaType.text = .ok format.mediaType := by
    cases format <;> decide +kernel
  have single : ',' ∉ format.mediaType.text.toList := by
    cases format <;> decide +kernel
  have listed : candidates (some format.mediaType.text) = .ok [format.mediaType] :=
    candidates_of_parse read single (by cases format <;> nofun) (by cases format <;> nofun)
  unfold negotiateListing
  rw [listed]
  change chooseListing _ conversion [format.mediaType] = _
  unfold chooseListing
  cases conversion.supports format.mediaType <;> cases format <;> rfl

theorem supports_of_decisive (decisive : decisiveCandidate? conversion listed = some candidate) :
    conversion.supports candidate = true := by
  unfold decisiveCandidate? at decisive
  have both := List.find?_some decisive
  exact (Bool.and_eq_true_iff.1 both).1

/-- A listing for a candidate that is not narrowed to the full range is in a
type that the cache cannot produce exactly if that candidate is a range and
the storage format is no source of the type. Asked for the type by its name,
the cache then refuses, and otherwise gives the same rendering. -/
theorem listing_format_unreadable_iff
    (chosen : negotiateListing accept (.ofStorage storage) = .ok (format, charset)) :
    ∃ listed candidate narrowed, candidates accept = .ok listed ∧
      decisiveCandidate? (.ofStorage storage) listed = some candidate ∧
      narrow candidate (ValueConversion.ofStorage storage).storage = narrowed ∧
      (narrowed ≠ .any →
        ((ValueConversion.ofStorage storage).supports format.mediaType = false ↔
          narrowed.isConcrete = false ∧
            ∃ declared, storage = some declared ∧ declared.essence ∉ format.sources) ∧
        negotiateListing (some format.mediaType.text) (.ofStorage storage) =
          if (ValueConversion.ofStorage storage).supports format.mediaType then .ok (format, .utf8)
          else .error (.unacceptable (some format.mediaType.text))) := by
  obtain ⟨listed, candidate, accepted, decisive, fits, -⟩ := negotiateListing_eq_ok_iff.1 chosen
  have produced := ValueConversion.supports_narrow (supports_of_decisive decisive)
  have foreign : (ValueConversion.ofStorage storage).supports format.mediaType = false ↔
      ∃ declared, storage = some declared ∧ declared.essence ∉ format.sources := by
    rw [Bool.eq_false_iff, Ne, ValueConversion.supports_mediaType_iff]
    simp only [not_forall, exists_prop]
  refine ⟨listed, candidate, _, accepted, decisive, rfl, fun _ =>
    ⟨⟨fun refused => ⟨?_, foreign.1 refused⟩, fun ranged => foreign.2 ranged.2⟩,
      negotiateListing_mediaType _ format⟩⟩
  rw [Bool.eq_false_iff]
  intro concrete
  cases refused.symm.trans (supports_mediaType_of_concrete concrete produced fits)

/-- A cache of plain texts supports the range of raw bytes, lists its keys as
JSON for it, and refuses JSON by name. -/
theorem listing_of_plain_texts_is_json :
    negotiateListing (some "application/*") (.ofStorage (some .textPlain)) = .ok (.json, .utf8) ∧
    negotiateListing (some "application/json") (.ofStorage (some .textPlain)) =
      .error (.unacceptable (some "application/json")) ∧
    ∃ listed candidate narrowed, candidates (some "application/*") = .ok listed ∧
      decisiveCandidate? (.ofStorage (some .textPlain)) listed = some candidate ∧
      narrow candidate (some .textPlain) = narrowed ∧
      (narrowed ≠ .any →
        ((ValueConversion.ofStorage (some .textPlain)).supports .json = false ↔
          narrowed.isConcrete = false ∧
            ∃ declared, some MediaType.textPlain = some declared ∧
              declared.essence ∉ KeysFormat.json.sources) ∧
        negotiateListing (some "application/json") (.ofStorage (some .textPlain)) =
          if (ValueConversion.ofStorage (some .textPlain)).supports .json then .ok (.json, .utf8)
          else .error (.unacceptable (some "application/json"))) := by
  have listed : candidates (some "application/*") = .ok [.named "application" "*" []] :=
    candidates_of_parse (by decide +kernel) (by decide) nofun nofun
  have chosen : negotiateListing (some "application/*") (.ofStorage (some .textPlain)) =
      .ok (.json, .utf8) := by
    unfold negotiateListing
    rw [listed]
    decide +kernel
  exact ⟨chosen, negotiateListing_mediaType _ .json, listing_format_unreadable_iff chosen⟩

end CacheGate
