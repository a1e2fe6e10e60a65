import CacheGate.Negotiation
import CacheGate.Proofs.Text.Letters
import Mathlib.Tactic.Tauto

/-!
# Negotiated formats

For a cache that stores values in a concrete format, or declares none:

* `responseFormat_preferred`: the format that a value is answered in is
  concrete, the cache offers it, and it is the first candidate of the client
  that the cache supports, or lies inside that candidate if that is a range.
* `responseFormat_refused`: a read is refused only if no candidate is
  supported, or if a range is asked of a cache without a storage format and
  does not cover the rendering of the value.
* `negotiate_without_accept`: without an `Accept` header no read is refused.
-/

namespace CacheGate

namespace MediaType

variable {media : MediaType}

theorem essence_essence : media.essence.essence = media.essence := by
  cases media with
  | any => rfl
  | named primary sub params =>
    simp only [essence, plain, Text.lowered_lowered]

/-- Without its parameters a concrete type is still concrete. -/
theorem isConcrete_essence (concrete : media.isConcrete = true) :
    media.essence.isConcrete = true := by
  cases media with
  | any => cases concrete
  | named primary sub params =>
    simp only [isConcrete, Bool.and_eq_true, bne_iff_ne] at concrete
    simp only [essence, plain, isConcrete, Bool.and_eq_true, bne_iff_ne]
    exact ⟨fun star => concrete.1 (Text.eq_star_of_lowered star),
      fun star => concrete.2 (Text.eq_star_of_lowered star)⟩

theorem overlaps_self : media.overlaps media = true := by
  cases media <;> simp [overlaps]

theorem overlaps_any : media.overlaps .any = true := by
  cases media <;> rfl

theorem overlaps_comm {other : MediaType} : media.overlaps other = other.overlaps media := by
  cases media <;> cases other <;> try rfl
  case named.named primary sub _ primary' sub' _ =>
    simp only [overlaps]
    rw [BEq.comm (a := primary), BEq.comm (a := sub) (b := sub'), Bool.or_comm (sub == "*")]

end MediaType

namespace ValueConversion

variable {conversion : ValueConversion} {storage media : MediaType}

theorem supports_of_mem_readable (offered : media ∈ conversion.readable) :
    conversion.supports media = true := by
  have overlapping : (conversion.readable.any fun readable => readable.overlaps media) = true :=
    List.any_eq_true.2 ⟨media, offered, MediaType.overlaps_self⟩
  unfold supports
  rw [overlapping, Bool.or_true]

/-- Values can be read in the format that they are stored in. -/
theorem mem_readableFrom_self : storage ∈ readableFrom storage := by
  unfold readableFrom
  repeat' split
  all_goals simp_all

/-- Formats that values are converted to, whatever they are stored in. -/
def common : List MediaType := [.object, .textPlain, .json, .octetStream, .protostream]

theorem eq_or_mem_common (offered : media ∈ readableFrom storage) :
    media = storage ∨ media ∈ common := by
  unfold readableFrom at offered
  unfold common
  repeat' split at offered
  all_goals
    simp only [List.mem_cons, List.not_mem_nil, or_false] at offered ⊢
    tauto

/-- What is read from a concrete storage format is concrete. -/
theorem isConcrete_of_mem_readableFrom (concrete : storage.isConcrete = true)
    (offered : media ∈ readableFrom storage) : media.isConcrete = true := by
  rcases eq_or_mem_common offered with rfl | other
  · exact concrete
  · have every : ∀ media ∈ common, media.isConcrete = true := by decide
    exact every media other

end ValueConversion

/-! ## Choosing a candidate -/

section Choosing

variable {accept : Option String} {conversion : ValueConversion} {negotiated media : MediaType}
  {error : AccessError} {value : Bytes}

theorem candidates_error (failed : candidates accept = .error error) :
    error = .unacceptable accept := by
  unfold candidates at failed
  split at failed
  · cases failed
  · split at failed <;> cases failed
    rfl

theorem negotiate_eq_ok_iff :
    negotiate accept conversion = .ok negotiated ↔
      ∃ listed chosen, candidates accept = .ok listed ∧
        listed.find? conversion.supports = some chosen ∧
        firstReadable (narrow chosen conversion.storage) conversion = negotiated := by
  unfold negotiate
  cases accepted : candidates accept with
  | error error => simp [bind, Except.bind]
  | ok listed =>
    cases found : listed.find? conversion.supports with
    | none => simp [bind, Except.bind, found, throw, throwThe, MonadExceptOf.throw]
    | some chosen => simp [bind, Except.bind, found, pure, Except.pure]

theorem negotiate_error (failed : negotiate accept conversion = .error error) :
    error = .unacceptable accept := by
  unfold negotiate at failed
  cases accepted : candidates accept with
  | error other =>
    rw [accepted] at failed
    cases failed
    exact candidates_error accepted
  | ok listed =>
    simp only [accepted, bind, Except.bind] at failed
    split at failed <;> cases failed
    rfl

theorem settle_error {storage : Option MediaType}
    (failed : settle negotiated storage value accept = .error error) :
    error = .unacceptable accept := by
  unfold settle at failed
  repeat' split at failed
  all_goals cases failed
  rfl

end Choosing

/-! ## Settling on a format -/

/-- A concrete format that a cache offers for a candidate: the candidate
itself, or a format inside it if that is a range. -/
structure ValueConversion.Renders (conversion : ValueConversion) (chosen media : MediaType) :
    Prop where
  concrete : media.isConcrete = true
  offered : conversion.supports media = true
  inside : media.overlaps chosen = true
  exact : chosen.isConcrete = true → media = chosen

section Settling

variable {storage : Option MediaType} {format chosen media : MediaType}

/-- The format that a value is answered in once a candidate was chosen. -/
def renderingOf (chosen : MediaType) (conversion : ValueConversion) (value : Bytes)
    (accept : Option String) : Except AccessError MediaType :=
  settle (firstReadable (narrow chosen conversion.storage) conversion) conversion.storage value accept

theorem renderingOf_concrete {conversion : ValueConversion} (concrete : chosen.isConcrete = true)
    (value : Bytes) (accept : Option String) :
    renderingOf chosen conversion value accept = .ok chosen := by
  cases chosen with
  | any => cases concrete
  | named primary sub params =>
    unfold renderingOf firstReadable narrow settle
    simp only [concrete, Bool.or_true, if_true]

theorem renders_self {conversion : ValueConversion} (concrete : chosen.isConcrete = true)
    (supported : conversion.supports chosen = true) : conversion.Renders chosen chosen :=
  ⟨concrete, supported, MediaType.overlaps_self, fun _ => rfl⟩

theorem renders_readable (concrete : format.isConcrete = true) (range : chosen.isConcrete = false)
    (offered : media ∈ ValueConversion.readableFrom format.essence)
    (inside : media.overlaps chosen = true) :
    (ValueConversion.ofStorage (some format)).Renders chosen media where
  concrete := ValueConversion.isConcrete_of_mem_readableFrom
    (MediaType.isConcrete_essence concrete) offered
  offered := ValueConversion.supports_of_mem_readable offered
  inside := inside
  exact exact := by
    rw [range] at exact
    cases exact

/-- A cache without a storage format renders what it holds; a range has to cover that. -/
theorem renderingOf_passthrough (range : chosen.isConcrete = false) (value : Bytes)
    (accept : Option String) :
    (ValueConversion.passthrough.Renders chosen (defaultRendering none value) ∧
      renderingOf chosen .passthrough value accept = .ok (defaultRendering none value)) ∨
    ((defaultRendering none value).overlaps chosen = false ∧
      renderingOf chosen .passthrough value accept = .error (.unacceptable accept)) := by
  have same : firstReadable (narrow chosen none) .passthrough = chosen := by
    cases chosen with
    | any => rfl
    | named =>
      unfold firstReadable narrow
      dsimp only
      split <;> rfl
  have concrete : (defaultRendering none value).isConcrete = true := by
    unfold defaultRendering
    dsimp only [Option.filter_none]
    split <;> rfl
  have settles : renderingOf chosen .passthrough value accept =
      if (defaultRendering none value).overlaps chosen then .ok (defaultRendering none value)
      else .error (.unacceptable accept) := by
    change settle (firstReadable (narrow chosen none) .passthrough) none value accept = _
    unfold settle
    rw [same, range, MediaType.overlaps_comm]
    rfl
  rw [settles]
  cases inside : (defaultRendering none value).overlaps chosen with
  | true =>
    refine Or.inl ⟨⟨concrete, ?_, inside, fun exact => ?_⟩, rfl⟩
    · exact Bool.or_eq_true_iff.2 (Or.inl (Bool.or_eq_true_iff.2 (Or.inr rfl)))
    · rw [range] at exact
      cases exact
  | false => exact Or.inr ⟨rfl, rfl⟩

/-- The full range takes the natural rendering of the storage format. -/
theorem renderingOf_any (concrete : format.isConcrete = true) (value : Bytes)
    (accept : Option String) :
    ∃ media, renderingOf .any (.ofStorage (some format)) value accept = .ok media ∧
      (ValueConversion.ofStorage (some format)).Renders .any media := by
  have kept : format.essence.isConcrete = true := MediaType.isConcrete_essence concrete
  have rendering : defaultRendering (some format.essence) value = format.essence := by
    unfold defaultRendering
    rw [Option.filter_some, if_pos kept]
  have storage : (ValueConversion.ofStorage (some format)).storage = some format.essence := rfl
  unfold renderingOf narrow
  simp only [storage, Option.map_some, MediaType.essence_essence]
  split
  case isTrue object =>
    refine ⟨.textPlain, rfl, renders_readable concrete rfl ?_ MediaType.overlaps_any⟩
    rw [Option.some.inj object]
    decide
  case isFalse =>
    split
    case isTrue protostream =>
      refine ⟨.json, rfl, renders_readable concrete rfl ?_ MediaType.overlaps_any⟩
      rw [Option.some.inj protostream]
      decide
    case isFalse =>
      refine ⟨format.essence, ?_, renders_readable concrete rfl
        ValueConversion.mem_readableFrom_self MediaType.overlaps_any⟩
      -- The full range takes the default rendering.
      change Except.ok (defaultRendering (some format.essence) value) = _
      rw [rendering]

/-- A range within one primary type takes the first readable format in it. -/
theorem renderingOf_range (concrete : format.isConcrete = true) (range : chosen.isConcrete = false)
    (within : chosen.isAny = false)
    (supported : (ValueConversion.ofStorage (some format)).supports chosen = true) (value : Bytes)
    (accept : Option String) :
    ∃ media, renderingOf chosen (.ofStorage (some format)) value accept = .ok media ∧
      (ValueConversion.ofStorage (some format)).Renders chosen media := by
  have filled : (ValueConversion.readableFrom format.essence).isEmpty = false :=
    List.isEmpty_eq_false_iff.2 (List.ne_nil_of_mem ValueConversion.mem_readableFrom_self)
  have covers : ((ValueConversion.readableFrom format.essence).any fun readable =>
      readable.overlaps chosen) = true := by
    unfold ValueConversion.supports ValueConversion.ofStorage at supported
    rwa [within, filled, Bool.or_false, Bool.false_or] at supported
  obtain ⟨media, first⟩ : ∃ media, (ValueConversion.readableFrom format.essence).find?
      (fun readable => readable.overlaps chosen) = some media :=
    Option.isSome_iff_exists.1 (by rwa [List.find?_isSome, ← List.any_eq_true])
  have inside : media.overlaps chosen = true :=
    List.find?_some (p := fun readable => MediaType.overlaps readable chosen) first
  have renders : (ValueConversion.ofStorage (some format)).Renders chosen media :=
    renders_readable concrete range (List.mem_of_find?_eq_some first) inside
  have narrowed : narrow chosen (some format.essence) = chosen := by
    cases chosen with
    | any => cases within
    | named => rfl
  have taken : firstReadable chosen (.ofStorage (some format)) = media := by
    unfold firstReadable ValueConversion.ofStorage
    rw [within, range, Bool.or_false, if_neg Bool.false_ne_true, first, Option.getD_some]
  refine ⟨media, ?_, renders⟩
  change settle (firstReadable (narrow chosen (some format.essence)) (.ofStorage (some format)))
    (some format.essence) value accept = _
  rw [narrowed, taken]
  exact if_pos renders.concrete

/-- What a supported candidate leads to. -/
theorem renderingOf_supported (formats : ∀ format, storage = some format → format.isConcrete = true)
    (supported : (ValueConversion.ofStorage storage).supports chosen = true) (value : Bytes)
    (accept : Option String) :
    (∃ media, renderingOf chosen (.ofStorage storage) value accept = .ok media ∧
      (ValueConversion.ofStorage storage).Renders chosen media) ∨
    (storage = none ∧ chosen.isConcrete = false ∧
      (defaultRendering none value).overlaps chosen = false ∧
      renderingOf chosen (.ofStorage storage) value accept = .error (.unacceptable accept)) := by
  cases range : chosen.isConcrete with
  | true =>
    exact Or.inl ⟨chosen, renderingOf_concrete range value accept, renders_self range supported⟩
  | false =>
    cases storage with
    | none =>
      rcases renderingOf_passthrough range value accept with ⟨renders, settled⟩ | refused
      · exact Or.inl ⟨_, settled, renders⟩
      · exact Or.inr ⟨rfl, rfl, refused⟩
    | some format =>
      have concrete := formats format rfl
      cases chosen with
      | any => exact Or.inl (renderingOf_any concrete value accept)
      | named => exact Or.inl (renderingOf_range concrete range rfl supported value accept)

end Settling

/-! ## Whole negotiations -/

/-- The format that a value is answered in, or why there is none. -/
def responseFormat (accept : Option String) (conversion : ValueConversion) (value : Bytes) :
    Except AccessError MediaType := do
  settle (← negotiate accept conversion) conversion.storage value accept

section Responses

variable {accept : Option String} {storage : Option MediaType} {media : MediaType}
  {error : AccessError} {value : Bytes}

/-- A negotiation by the candidate that it is decided by. -/
theorem responseFormat_of_negotiate {conversion : ValueConversion} {negotiated : MediaType}
    (found : negotiate accept conversion = .ok negotiated) :
    responseFormat accept conversion value =
      settle negotiated conversion.storage value accept := by
  unfold responseFormat
  rw [found]
  rfl

theorem responseFormat_eq_ok_iff {conversion : ValueConversion} :
    responseFormat accept conversion value = .ok media ↔
      ∃ negotiated, negotiate accept conversion = .ok negotiated ∧
        settle negotiated conversion.storage value accept = .ok media := by
  cases found : negotiate accept conversion with
  | error error =>
    unfold responseFormat
    rw [found]
    simp [bind, Except.bind]
  | ok negotiated =>
    rw [responseFormat_of_negotiate found]
    simp

/-- The format of an answer is what the client prefers of what the cache offers. -/
theorem responseFormat_preferred
    (formats : ∀ format, storage = some format → format.isConcrete = true)
    (settled : responseFormat accept (.ofStorage storage) value = .ok media) :
    ∃ listed chosen, candidates accept = .ok listed ∧
      listed.find? (ValueConversion.ofStorage storage).supports = some chosen ∧
      (ValueConversion.ofStorage storage).Renders chosen media := by
  obtain ⟨negotiated, found, settled⟩ := responseFormat_eq_ok_iff.1 settled
  obtain ⟨listed, chosen, accepted, first, rfl⟩ := negotiate_eq_ok_iff.1 found
  refine ⟨listed, chosen, accepted, first, ?_⟩
  rcases renderingOf_supported formats (List.find?_some first) value accept with
    ⟨rendered, same, renders⟩ | ⟨-, -, -, refused⟩
  · obtain rfl : rendered = media := Except.ok.inj (same.symm.trans settled)
    exact renders
  · cases refused.symm.trans settled

/-- A refusal says that no format is acceptable, and it is given only when no
candidate is supported, or when a range is asked of a cache without a storage
format and does not cover the rendering of the value. -/
theorem responseFormat_refused
    (formats : ∀ format, storage = some format → format.isConcrete = true)
    (refused : responseFormat accept (.ofStorage storage) value = .error error) :
    error = .unacceptable accept ∧
      ∀ listed chosen, candidates accept = .ok listed →
        listed.find? (ValueConversion.ofStorage storage).supports = some chosen →
        storage = none ∧ chosen.isConcrete = false ∧
          (defaultRendering none value).overlaps chosen = false := by
  cases found : negotiate accept (.ofStorage storage) with
  | error other =>
    unfold responseFormat at refused
    rw [found] at refused
    obtain rfl := Except.error.inj refused
    refine ⟨negotiate_error found, fun listed chosen accepted first => ?_⟩
    cases found.symm.trans (negotiate_eq_ok_iff.2 ⟨listed, chosen, accepted, first, rfl⟩)
  | ok negotiated =>
    rw [responseFormat_of_negotiate found] at refused
    refine ⟨settle_error refused, fun listed chosen accepted first => ?_⟩
    have same := found.symm.trans (negotiate_eq_ok_iff.2 ⟨listed, chosen, accepted, first, rfl⟩)
    obtain rfl := Except.ok.inj same
    rcases renderingOf_supported formats (List.find?_some first) value accept with
      ⟨rendered, settled, -⟩ | ⟨absent, range, outside, -⟩
    · cases settled.symm.trans refused
    · exact ⟨absent, range, outside⟩

end Responses

theorem narrow_eq_or_mem_common (chosen : MediaType) (storage : Option MediaType) :
    narrow chosen storage = chosen ∨ narrow chosen storage ∈ ValueConversion.common := by
  cases chosen with
  | named => exact Or.inl rfl
  | any =>
    unfold narrow
    dsimp only
    repeat' split
    all_goals simp [ValueConversion.common]

theorem firstReadable_eq_or_mem (chosen : MediaType) (conversion : ValueConversion) :
    firstReadable chosen conversion = chosen ∨
      firstReadable chosen conversion ∈ conversion.readable := by
  unfold firstReadable
  split
  · exact Or.inl rfl
  · cases found : conversion.readable.find? fun readable => readable.overlaps chosen with
    | none => exact Or.inl rfl
    | some format => exact Or.inr (List.mem_of_find?_eq_some found)

theorem defaultRendering_eq_or_mem_common (storage : Option MediaType) (value : Bytes) :
    storage = some (defaultRendering storage value) ∨
      defaultRendering storage value ∈ ValueConversion.common := by
  unfold defaultRendering
  split
  case h_1 format declared => exact Or.inl (Option.eq_some_of_filter_eq_some declared)
  case h_2 => split <;> simp [ValueConversion.common]

/-- Where a format comes from: the client names it, the cache declares it or
offers it, or it is one of the common ones. -/
theorem sources_of_responseFormat {conversion : ValueConversion}
    (settled : responseFormat accept conversion value = .ok media) :
    (∃ listed, candidates accept = .ok listed ∧ media ∈ listed) ∨
      conversion.storage = some media ∨ media ∈ conversion.readable ∨
        media ∈ ValueConversion.common := by
  obtain ⟨negotiated, found, settled⟩ := responseFormat_eq_ok_iff.1 settled
  obtain ⟨listed, chosen, accepted, first, rfl⟩ := negotiate_eq_ok_iff.1 found
  unfold settle at settled
  split at settled
  case isTrue =>
    rw [← Except.ok.inj settled]
    rcases firstReadable_eq_or_mem (narrow chosen conversion.storage) conversion with
      same | offered
    · rw [same]
      rcases narrow_eq_or_mem_common chosen conversion.storage with same | common
      · rw [same]
        exact Or.inl ⟨listed, accepted, List.mem_of_find?_eq_some first⟩
      · exact Or.inr (Or.inr (Or.inr common))
    · exact Or.inr (Or.inr (Or.inl offered))
  case isFalse =>
    split at settled
    case isFalse => cases settled
    case isTrue =>
      rw [← Except.ok.inj settled]
      exact Or.inr ((defaultRendering_eq_or_mem_common conversion.storage value).imp_right Or.inr)

/-- The format that is negotiated without an `Accept` header. -/
theorem negotiate_none (conversion : ValueConversion) :
    negotiate none conversion = .ok (firstReadable (narrow .any conversion.storage) conversion) := by
  unfold negotiate
  have accepted : [MediaType.any].find? conversion.supports = some .any := rfl
  simp only [candidates, bind, Except.bind, accepted]
  rfl

/-- Without an `Accept` header there is a format for every value, and the cache offers it. -/
theorem negotiate_without_accept {storage : Option MediaType} {negotiated : MediaType}
    (concrete : ∀ format, storage = some format → format.isConcrete = true)
    (found : negotiate none (.ofStorage storage) = .ok negotiated) (value : Bytes) :
    ∃ media, settle negotiated (ValueConversion.ofStorage storage).storage value none = .ok media ∧
      (ValueConversion.ofStorage storage).supports media = true := by
  rw [negotiate_none] at found
  obtain rfl := Except.ok.inj found
  have everything : (ValueConversion.ofStorage storage).supports .any = true := rfl
  rcases renderingOf_supported concrete everything value none with
    ⟨media, settled, renders⟩ | ⟨-, -, outside, -⟩
  · exact ⟨media, settled, renders.offered⟩
  · rw [MediaType.overlaps_any] at outside
    cases outside

end CacheGate
