import CacheGate.Conditions
import CacheGate.Proofs.Http.FieldText
import CacheGate.Proofs.Store.Expiry
import CacheGate.Proofs.Text.Cutting

/-!
# Conditions that are stated with validators

A client that got a tag and a date can send them back in a conditional header.
Setting such a header changes the conditions of a request in that one place
and leaves everything else that the request asks for as it was
(`Request.Repeats`). The tag is compared as it was sent, and the date is that
of the second it was written for, so an entry that still has both meets the
conditions in the way that its client expects.

A client can also ask for a lifetime, in whole seconds. What an entry states
about its own is one of three texts, and each tells the deadline apart
(`cacheControl_eq_maxAge_iff` and its siblings).
-/

namespace CacheGate

open Http Time

/-! ## Repeated requests -/

/-- The headers in which a request states its conditions. -/
def conditionFields : List String :=
  [Field.ifMatch, Field.ifNoneMatch, Field.ifModifiedSince, Field.ifUnmodifiedSince]

/-- A header that states no condition. -/
def FreeOfConditions (name : String) : Prop :=
  ∀ field ∈ conditionFields, Text.lowered name ≠ Text.lowered field

instance (name : String) : Decidable (FreeOfConditions name) :=
  inferInstanceAs (Decidable (∀ field ∈ conditionFields, _))

namespace Http.Request

variable {request again : Request} {name value : String}

/-- A request that differs from another one at most in its conditions. -/
structure Repeats (again request : Request) : Prop where
  method : again.method = request.method
  path : again.path = request.path
  query : again.query = request.query
  body : again.body = request.body
  header (name : String) : FreeOfConditions name → again.header? name = request.header? name

theorem repeats_refl : request.Repeats request := ⟨rfl, rfl, rfl, rfl, fun _ _ => rfl⟩

theorem Repeats.withHeader (repeats : again.Repeats request) (condition : name ∈ conditionFields) :
    (again.withHeader name value).Repeats request := by
  refine ⟨?_, ?_, ?_, ?_, fun other free =>
    (header?_withHeader_of_ne (free name condition)).trans (repeats.header other free)⟩
  all_goals unfold Request.withHeader; split
  · exact repeats.method
  · exact repeats.method
  · exact repeats.path
  · exact repeats.path
  · exact repeats.query
  · exact repeats.query
  · exact repeats.body
  · exact repeats.body

end Http.Request

/-! ## Stating a condition -/

namespace Conditions

variable {request : Request} {tag : EntityTag} {instant : Instant}

theorem ofRequest_ifMatch : ofRequest (request.withHeader Field.ifMatch tag.text) =
    { ofRequest request with ifMatch := some tag.text } := by
  unfold ofRequest
  rw [Request.header?_withHeader_tag]
  simp (disch := decide) only [Request.header?_withHeader_of_ne]

theorem ofRequest_ifNoneMatch : ofRequest (request.withHeader Field.ifNoneMatch tag.text) =
    { ofRequest request with ifNoneMatch := some tag.text } := by
  unfold ofRequest
  rw [Request.header?_withHeader_tag]
  simp (disch := decide) only [Request.header?_withHeader_of_ne]

/-- A date that is sent back stands for the start of its second. -/
theorem ofRequest_ifModifiedSince :
    ofRequest (request.withHeader Field.ifModifiedSince (HttpDate.format instant)) =
      { ofRequest request with ifModifiedSince := some instant.wholeSecond } := by
  unfold ofRequest
  rw [Request.header?_withHeader_date, Option.bind_some, HttpDate.parse?_format]
  simp (disch := decide) only [Request.header?_withHeader_of_ne]

theorem ofRequest_ifUnmodifiedSince :
    ofRequest (request.withHeader Field.ifUnmodifiedSince (HttpDate.format instant)) =
      { ofRequest request with ifUnmodifiedSince := some instant.wholeSecond } := by
  unfold ofRequest
  rw [Request.header?_withHeader_date, Option.bind_some, HttpDate.parse?_format]
  simp (disch := decide) only [Request.header?_withHeader_of_ne]

/-! ### Lifetimes that are asked for -/

/-- The directive that asks for so many seconds. -/
def minFreshText (wanted : Int) : String := "min-fresh=" ++ Text.intText wanted

section MinFresh

variable {wanted : Int}

theorem toList_minFreshText : (minFreshText wanted).toList =
    "min-fresh".toList ++ '=' :: (Text.intText wanted).toList := by
  unfold minFreshText
  rw [String.toList_append]
  rfl

theorem legible_minFreshText : Text.Legible (minFreshText wanted).toList := by
  have name : ∀ c ∈ "min-fresh".toList, Text.Graphic c := Text.graphic_of_all (by decide)
  rw [toList_minFreshText]
  refine Text.legible_of_graphic (by simp) ?_
  rw [List.forall_mem_append, List.forall_mem_cons]
  exact ⟨name, by decide, Text.graphic_intText⟩

theorem minFreshDirective?_of_cut {directive name value : List Char}
    (cut : Text.cut? '=' (Text.trim directive) = some (name, value))
    (named : Text.lower (Text.trim name) = "min-fresh".toList) :
    minFreshDirective? directive = Text.int64? (Text.unquote (Text.trim value)) := by
  unfold minFreshDirective?
  rw [cut]
  exact if_pos named

/-- The directive is read as the number that was written, if that has 64 bits. -/
theorem minFreshDirective?_minFreshText (least : Text.leastInt64 ≤ wanted)
    (greatest : wanted ≤ Text.greatestInt64) :
    minFreshDirective? (minFreshText wanted).toList = some wanted := by
  have cut : Text.cut? '=' (Text.trim (minFreshText wanted).toList) =
      some ("min-fresh".toList, (Text.intText wanted).toList) := by
    rw [legible_minFreshText.trim_eq, toList_minFreshText]
    exact Text.cut?_append (by decide)
  have quote := Text.not_mem_intText (n := wanted) (c := '"') (by decide) (by decide)
  rw [minFreshDirective?_of_cut cut (by decide), (Text.legible_intText wanted).trim_eq,
    Text.unquote_of_not_mem quote, Text.int64?_intText least greatest]

theorem ofRequest_minFresh (least : Text.leastInt64 ≤ wanted)
    (greatest : wanted ≤ Text.greatestInt64) :
    ofRequest (request.withHeader Field.cacheControl (minFreshText wanted)) =
      { ofRequest request with minFresh := some wanted } := by
  have comma : ',' ∉ (minFreshText wanted).toList := by
    rw [toList_minFreshText, List.mem_append, List.mem_cons]
    simp [Text.not_mem_intText]
  have sent : (request.withHeader Field.cacheControl (minFreshText wanted)).header?
      Field.cacheControl = some (minFreshText wanted) := by
    rw [← String.ofList_toList (s := minFreshText wanted)]
    exact Request.header?_withHeader_self legible_minFreshText
  have read : minFresh? (minFreshText wanted) = some wanted := by
    unfold minFresh?
    rw [List.splitOn_eq_singleton comma, List.findSome?_singleton,
      minFreshDirective?_minFreshText least greatest]
  unfold ofRequest
  rw [sent, Option.bind_some, read]
  simp (disch := decide) only [Request.header?_withHeader_of_ne]

end MinFresh

end Conditions

/-! ## Lifetimes that are stated -/

section Lifetimes

variable {expiresAt : Option Instant} {now : Instant} {seconds wanted : Int}

theorem maxAge_ne_noCache {text : String} : "max-age=" ++ text ≠ "no-cache" := by
  intro same
  have first := congrArg (fun text => text.toList.head?) same
  simp at first

theorem cacheControl_eq_none_iff : cacheControl expiresAt now = none ↔ expiresAt = none :=
  Option.map_eq_none_iff

theorem cacheControl_eq_maxAge_iff :
    cacheControl expiresAt now = some ("max-age=" ++ Text.intText seconds) ↔
      ∃ deadline, expiresAt = some deadline ∧ now.secondsUntil deadline = seconds ∧
        0 < seconds := by
  unfold cacheControl
  rw [Option.map_eq_some_iff]
  refine exists_congr fun deadline => and_congr_right fun _ => ?_
  dsimp only
  split
  case isTrue remains =>
    rw [String.append_right_inj, Text.intText_inj]
    exact ⟨fun same => ⟨same, same ▸ remains⟩, And.left⟩
  case isFalse past =>
    constructor
    · exact fun text => absurd text.symm maxAge_ne_noCache
    · rintro ⟨rfl, remains⟩
      exact absurd remains past

theorem cacheControl_eq_noCache_iff :
    cacheControl expiresAt now = some "no-cache" ↔
      ∃ deadline, expiresAt = some deadline ∧ now.secondsUntil deadline ≤ 0 := by
  unfold cacheControl
  rw [Option.map_eq_some_iff]
  refine exists_congr fun deadline => and_congr_right fun _ => ?_
  dsimp only
  split
  case isTrue remains =>
    constructor
    · exact fun text => absurd text maxAge_ne_noCache
    · exact fun past => absurd remains (Int.not_lt.2 past)
  case isFalse past => exact ⟨fun _ => Int.not_lt.1 past, fun _ => rfl⟩

theorem failsMinFresh_iff :
    failsMinFresh expiresAt (some wanted) now = true ↔
      ∃ deadline, expiresAt = some deadline ∧ now.secondsUntil deadline < wanted := by
  cases expiresAt <;> simp [failsMinFresh]

end Lifetimes

/-! ## Verdicts -/

section Verdicts

variable {tag : EntityTag} {lastModified now : Instant} {expiresAt : Option Instant}
  {conditions : Conditions} {entry : Entry}

/-- A read that is not modified was told so by its tag condition or by its date condition. -/
theorem readVerdict_notModified
    (unmodified : readVerdict tag lastModified expiresAt conditions now = .notModified) :
    conditions.excludes tag = true ∨
      ∃ since, conditions.ifModifiedSince = some since ∧ lastModified ≤ since := by
  unfold readVerdict at unmodified
  split at unmodified
  · cases unmodified
  split at unmodified
  case isTrue excluded => exact Or.inl excluded
  split at unmodified
  · cases unmodified
  split at unmodified
  · cases unmodified
  split at unmodified
  case isTrue unmodifiedSince =>
    obtain ⟨since, stated, order⟩ := (Option.any_eq_true _ _).1 unmodifiedSince
    exact Or.inr ⟨since, stated, of_decide_eq_true order⟩
  case isFalse => cases unmodified

theorem failsMinFresh_none : failsMinFresh expiresAt none now = false := by
  cases expiresAt <;> rfl

/-- A client whose tag and date are still right gets no second copy of what it has. -/
theorem readVerdict_of_unmodified (anyAge : conditions.minFresh = none)
    (unmatched : conditions.ifMatch = none) (undated : conditions.ifUnmodifiedSince = none)
    (tagged : ∀ header ∈ conditions.ifNoneMatch, header = tag.text)
    (dated : ∀ since ∈ conditions.ifModifiedSince, since = lastModified)
    (stated : conditions.ifNoneMatch.isSome ∨ conditions.ifModifiedSince.isSome) :
    readVerdict tag lastModified expiresAt conditions now = .notModified := by
  obtain ⟨ifMatch, ifNoneMatch, modifiedSince, unmodifiedSince, minFresh⟩ := conditions
  obtain rfl : minFresh = none := anyAge
  obtain rfl : ifMatch = none := unmatched
  obtain rfl : unmodifiedSince = none := undated
  cases ifNoneMatch with
  | some header =>
    obtain rfl := tagged header rfl
    simp [readVerdict, failsMinFresh_none, Conditions.excludes, EntityTag.matchesHeader_text]
  | none =>
    obtain ⟨since, rfl⟩ : ∃ since, modifiedSince = some since :=
      Option.isSome_iff_exists.1 (stated.resolve_left Bool.false_ne_true)
    obtain rfl := dated since rfl
    simp [readVerdict, failsMinFresh_none, Conditions.excludes, Conditions.mismatches]

/-- A client that insists on the tag and the date that it has is served while they are right. -/
theorem readVerdict_of_match (anyAge : conditions.minFresh = none)
    (unexcluded : conditions.ifNoneMatch = none) (undated : conditions.ifModifiedSince = none)
    (tagged : ∀ header ∈ conditions.ifMatch, header = tag.text)
    (dated : ∀ since ∈ conditions.ifUnmodifiedSince, since = lastModified) :
    readVerdict tag lastModified expiresAt conditions now = .serve := by
  have matched : conditions.mismatches tag = false := by
    refine (Option.any_eq_false _ _).2 fun header present => ?_
    rw [tagged header present, EntityTag.matchesHeader_text.2 rfl]
    rfl
  have unmodified :
      (conditions.ifUnmodifiedSince.any fun since => since < lastModified) = false := by
    refine (Option.any_eq_false _ _).2 fun since present => ?_
    rw [dated since present]
    exact decide_eq_false (lt_irrefl lastModified)
  simp [readVerdict, anyAge, failsMinFresh_none, Conditions.excludes, unexcluded, matched,
    unmodified, undated]

/-- A write that insists on the tag of the entry may proceed. -/
theorem evaluateWrite_of_match (unexcluded : conditions.ifNoneMatch = none)
    (tagged : conditions.ifMatch = some (EntityTag.of entry.value).text) :
    evaluateWrite (some entry) conditions false = .serve := by
  simp [evaluateWrite, Conditions.excludes, Conditions.mismatches, unexcluded, tagged,
    EntityTag.matchesHeader_text]

/-- A write that excludes the tag of the entry is refused. -/
theorem evaluateWrite_of_excludes
    (tagged : conditions.ifNoneMatch = some (EntityTag.of entry.value).text) :
    evaluateWrite (some entry) conditions false = .notModified := by
  simp [evaluateWrite, Conditions.excludes, tagged, EntityTag.matchesHeader_text]

end Verdicts

end CacheGate
