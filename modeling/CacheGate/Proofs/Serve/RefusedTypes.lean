import CacheGate.Proofs.Serve.AnnouncedTypes

/-!
# Types that a client refuses

An element of weight 0 in an `Accept` header is dropped, and that is all that
it does: the type that it names is still sent if a range that is accepted
covers it, and whoever adds or removes such elements gets the same format.
`Service.type_is_sent_for_accepted_element` says so for every read among other
clients.
-/

namespace CacheGate

open Time Http

namespace MediaType

/-! ## Elements that name a type -/

/-- Whether an element names exactly this type, parameters aside. -/
def Ranked.Names (element : Ranked) (media : MediaType) : Prop :=
  element.media.essence = media.essence

instance (element : Ranked) (media : MediaType) : Decidable (element.Names media) :=
  inferInstanceAs (Decidable (_ = _))

/-- Some element names the type with weight 0. -/
def Refused (ranked : List Ranked) (media : MediaType) : Prop :=
  ∃ element ∈ ranked, element.weight = 0 ∧ element.Names media

/-- Some element names the type with a positive weight. -/
def Wanted (ranked : List Ranked) (media : MediaType) : Prop :=
  ∃ element ∈ ranked, 0 < element.weight ∧ element.Names media

/-- Some element of positive weight is a range that covers the type. -/
def Covered (ranked : List Ranked) (media : MediaType) : Prop :=
  ∃ element ∈ ranked, 0 < element.weight ∧ element.media.isConcrete = false ∧
    media.overlaps element.media = true

variable (ranked : List Ranked) (media : MediaType)

instance : Decidable (Refused ranked media) :=
  inferInstanceAs (Decidable (∃ element ∈ ranked, _))

instance : Decidable (Wanted ranked media) :=
  inferInstanceAs (Decidable (∃ element ∈ ranked, _))

end MediaType

/-! ## Negotiating by what is accepted -/

section Negotiating

variable {header other : String} {ranked ranked' : List MediaType.Ranked}
  {conversion : ValueConversion} {storage : Option MediaType} {value : Bytes} {media negotiated : MediaType}

theorem candidates_eq_ok_iff {listed : List MediaType} :
    candidates (some header) = .ok listed ↔ MediaType.parseList header = .ok listed := by
  unfold candidates
  dsimp only
  split
  case h_1 found read => rw [read, Except.ok.injEq, Except.ok.injEq]
  case h_2 error read => simp [read]

/-- A format that was settled on does not depend on how the client would be told of none. -/
theorem settle_eq_ok_of {accept accept' : Option String}
    (settled : settle negotiated storage value accept = .ok media) :
    settle negotiated storage value accept' = .ok media := by
  unfold settle at settled ⊢
  split at settled
  case isTrue concrete =>
    rw [if_pos concrete]
    exact settled
  case isFalse range =>
    rw [if_neg range]
    split at settled
    case isTrue inside =>
      rw [if_pos inside]
      exact settled
    case isFalse => cases settled

/-- Elements that are refused take no part in the negotiation. -/
theorem responseFormat_of_accepted (ranks : MediaType.ranking header = .ok ranked)
    (ranks' : MediaType.ranking other = .ok ranked')
    (same : MediaType.accepted ranked' = MediaType.accepted ranked)
    (settled : responseFormat (some header) conversion value = .ok media) :
    responseFormat (some other) conversion value = .ok media := by
  obtain ⟨negotiated, found, settled⟩ := responseFormat_eq_ok_iff.1 settled
  obtain ⟨listed, chosen, accepted, first, rest⟩ := negotiate_eq_ok_iff.1 found
  obtain ⟨counted, again, present, rfl⟩ :=
    MediaType.parseList_eq_ok_iff.1 (candidates_eq_ok_iff.1 accepted)
  obtain rfl : ranked = counted := Except.ok.inj (ranks.symm.trans again)
  have listed' : MediaType.parseList other = .ok (MediaType.preferred ranked) := by
    refine MediaType.parseList_eq_ok_iff.2 ⟨ranked', ranks', ?_, ?_⟩
    · rwa [same]
    · unfold MediaType.preferred
      rw [same]
  refine responseFormat_eq_ok_iff.2 ⟨negotiated, negotiate_eq_ok_iff.2
    ⟨_, chosen, candidates_eq_ok_iff.2 listed', first, rest⟩, settle_eq_ok_of settled⟩

/-- The format of an answer is one that the client names, or lies in a range that it accepts. -/
theorem wanted_or_covered (formats : ∀ format, storage = some format → format.isConcrete = true)
    (settled : responseFormat (some header) (.ofStorage storage) value = .ok media) :
    ∃ ranked, MediaType.ranking header = .ok ranked ∧
      (MediaType.Wanted ranked media ∨ MediaType.Covered ranked media) := by
  obtain ⟨listed, chosen, accepted, first, renders⟩ := responseFormat_preferred formats settled
  obtain ⟨ranked, ranks, -, rfl⟩ :=
    MediaType.parseList_eq_ok_iff.1 (candidates_eq_ok_iff.1 accepted)
  obtain ⟨element, member, positive, rfl⟩ :=
    MediaType.mem_preferred_iff.1 (List.mem_of_find?_eq_some first)
  refine ⟨ranked, ranks, ?_⟩
  cases range : element.media.isConcrete with
  | true =>
    refine Or.inl ⟨element, member, positive, ?_⟩
    exact congrArg MediaType.essence (renders.exact range).symm
  | false => exact Or.inr ⟨element, member, positive, range, renders.inside⟩

end Negotiating

/-! ## What is sent -/

/-- A type that is sent is named or covered by an element that the client
accepts; what it refuses is not looked at.

Over a store whose caches declare a concrete storage format or none, whatever
was done to it before, and among any other clients: if a read with a readable
`Accept` header is answered 200 and announces a type, then that is a concrete
type which some element of positive weight names or some range of positive
weight covers. In particular it is not a refused type where the header accepts
no range. But any other header with the same elements of positive weight leads
to the same type for the same value and settings, so a range that is accepted
lets every type in it through, whether it is refused or not. -/
theorem Service.type_is_sent_for_accepted_element (service : Service) (cluster : ClusterView)
    (definitions : List CacheDefinition) (formats : ConcreteFormats definitions) (world : World)
    (created : world.memory = .create cluster definitions) (history : List Happening)
    (request : Request) (cache raw : String)
    (routed : Visit.route? ⟨world.now, request⟩ = some ⟨.read, cache, some raw⟩)
    (schedule : List (List Move × List Move)) (ran : Handler.Ran Interleaved Response)
    (run : (service.dispatch request).among (world.after history) schedule = ran)
    (found : ran.value.status = .ok) (announced : String)
    (sent : ran.value.announced? = some announced) (header : String)
    (accepts : request.accept? = some header) :
    ∃ media ranked, announced = media.text ∧ media.isConcrete = true ∧
      MediaType.ranking header = .ok ranked ∧
      (MediaType.Wanted ranked media ∨ MediaType.Covered ranked media) ∧
      ((∀ element ∈ ranked, 0 < element.weight → element.media.isConcrete = true) →
        MediaType.Refused ranked media → MediaType.Wanted ranked media) ∧
      ∃ configuration value,
        (world.after history).memory.configuration? cache = some configuration ∧
        ∀ other ranked', MediaType.ranking other = .ok ranked' →
          MediaType.accepted ranked' = MediaType.accepted ranked →
          responseFormat (some other) configuration.conversion value = .ok media := by
  have yields := (service.dispatch request).among_yields (world.after history) schedule
  rw [run] at yields
  obtain ⟨configuration, value, media, known, settled, shown⟩ :=
    dispatch_announces_of_ok routed yields found
  obtain ⟨storage, conversion, concrete⟩ := World.conversion_after created formats known
  rw [accepts, conversion] at settled
  obtain ⟨_, _, -, -, renders⟩ := responseFormat_preferred concrete settled
  obtain ⟨ranked, ranks, accepted⟩ := wanted_or_covered concrete settled
  have named : announced = media.text := by
    rw [sent] at shown
    split at shown
    · exact Option.some.inj shown
    · cases shown
  refine ⟨media, ranked, named, renders.concrete, ranks, accepted, fun exact _ => ?_,
    configuration, value, known, fun other ranked' ranks' alike => ?_⟩
  · rcases accepted with wanted | ⟨element, member, positive, range, -⟩
    · exact wanted
    · cases (exact element member positive).symm.trans range
  · rw [conversion]
    exact responseFormat_of_accepted ranks ranks' alike settled

/-! ## A run -/

/-- A cache without a storage format has no format that is a range. -/
theorem concreteFormats_undeclared : ConcreteFormats [⟨"c", .unlimited, .unlimited, none⟩] := by
  intro definition member format stored
  rw [List.mem_singleton.1 member] at stored
  cases stored

/-- A client that takes anything but plain text. -/
def plainRefused : String := "text/plain;q=0, */*"

/-- Its read of an entry that holds `v1`. -/
def refusingRead : Handler.Ran Interleaved Response :=
  (plainService.dispatch ((Request.of .get "c/k").withHeader Field.accept plainRefused)).among
    (emptyWorld.after [.move (.call (rivalPut "v1"))]) []

/-- The elements of its header. -/
def plainRefusedRanking : List MediaType.Ranked :=
  [⟨0, .textPlain⟩, ⟨MediaType.fullWeight, .any⟩]

/-- It is sent plain text, which only the full range covers. -/
theorem refused_type_is_sent_for_full_range :
    refusingRead.value.status = .ok ∧ refusingRead.value.announced? = some "text/plain" ∧
      MediaType.ranking plainRefused = .ok plainRefusedRanking ∧
      MediaType.Refused plainRefusedRanking .textPlain ∧
      ¬ MediaType.Wanted plainRefusedRanking .textPlain ∧
      ∃ media, media.text = "text/plain" ∧ MediaType.Covered plainRefusedRanking media := by
  have found : refusingRead.value.status = .ok := by decide +kernel
  have sent : refusingRead.value.announced? = some "text/plain" := by decide +kernel
  have routed : Visit.route? ⟨emptyWorld.now, (Request.of .get "c/k").withHeader Field.accept
      plainRefused⟩ = some ⟨.read, "c", some "k"⟩ := by decide +kernel
  have accepts : ((Request.of .get "c/k").withHeader Field.accept plainRefused).accept? =
      some plainRefused := by decide +kernel
  have ranks : MediaType.ranking plainRefused = .ok plainRefusedRanking := by decide +kernel
  obtain ⟨media, ranked, named, concrete, again, accepted, -⟩ :=
    Service.type_is_sent_for_accepted_element plainService ⟨"node", "address", []⟩ _
      concreteFormats_undeclared emptyWorld rfl [.move (.call (rivalPut "v1"))] _ "c" "k" routed []
      refusingRead rfl found "text/plain" sent plainRefused accepts
  obtain rfl : plainRefusedRanking = ranked := Except.ok.inj (ranks.symm.trans again)
  refine ⟨found, sent, ranks, by decide +kernel, by decide +kernel, media, named.symm, ?_⟩
  refine accepted.resolve_left ?_
  rintro ⟨element, member, positive, names⟩
  -- The only element that is not refused is the full range, and that is not concrete.
  rcases List.mem_cons.1 member with rfl | full
  · exact absurd positive (by decide)
  · obtain rfl := List.mem_singleton.1 full
    cases media with
    | any => cases concrete
    | named => cases names

end CacheGate
