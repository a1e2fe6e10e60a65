import CacheGate.Proofs.MediaType.Parsed

/-!
# What lists of acceptable media types come to

A list is read element by element (`MediaType.ranking`), and only the elements
of positive weight have a part in the result (`MediaType.parseList_eq_ok_iff`,
`MediaType.mem_preferred_iff`). A list of one element without a weight is read
as that media type is read elsewhere (`MediaType.parseList_of_parse`).
-/

namespace CacheGate.MediaType

/-- All elements of a list with their weights, in the order of the list. -/
def ranking (header : String) : Except ParseError (List Ranked) :=
  (elements header).mapM parseRanked

/-- The elements that are not refused. -/
def accepted (ranked : List Ranked) : List Ranked := ranked.filter fun element => 0 < element.weight

/-- The media types of the elements that are not refused, the preferred ones first. -/
def preferred (ranked : List Ranked) : List MediaType :=
  ((accepted ranked).mergeSort fun left right => right.weight ≤ left.weight).map (·.media)

variable {cs : List Char} {element : Ranked} {ranked : List Ranked} {listed : List MediaType}
  {media : MediaType} {header raw : String}

/-! ## Lists -/

theorem parseList_eq_ok_iff :
    parseList header = .ok listed ↔ ∃ ranked, ranking header = .ok ranked ∧
      accepted ranked ≠ [] ∧ preferred ranked = listed := by
  change (do
    let ranked ← ranking header
    if (accepted ranked).isEmpty then throw ParseError.empty
    return preferred ranked) = Except.ok listed ↔ _
  cases ranking header with
  | error error => simp [bind, Except.bind]
  | ok ranked =>
    cases none : (accepted ranked).isEmpty with
    | true =>
      have empty := List.isEmpty_iff.1 none
      simp [bind, Except.bind, empty, throw, throwThe, MonadExceptOf.throw]
    | false =>
      have present : accepted ranked ≠ [] := List.isEmpty_eq_false_iff.1 none
      simp [bind, Except.bind, none, present, pure, Except.pure]

theorem mem_accepted_iff : element ∈ accepted ranked ↔ element ∈ ranked ∧ 0 < element.weight := by
  unfold accepted
  rw [List.mem_filter, decide_eq_true_iff]

theorem mem_preferred_iff :
    media ∈ preferred ranked ↔ ∃ element ∈ ranked, 0 < element.weight ∧ element.media = media := by
  unfold preferred
  rw [List.mem_map]
  simp only [List.mem_mergeSort, mem_accepted_iff, and_assoc]

/-! ## Elements -/

theorem parseRanked_eq_ok_iff :
    parseRanked cs = .ok element ↔ ∃ essence params, splitParams cs = .ok (essence, params) ∧
      weightOf params = .ok element.weight ∧
      build essence (params.eraseP isWeightParam) = .ok element.media := by
  obtain ⟨weight, media⟩ := element
  unfold parseRanked
  cases splitParams cs with
  | error error => simp [bind, Except.bind]
  | ok found =>
    obtain ⟨essence, params⟩ := found
    constructor
    · intro read
      cases weighed : weightOf params with
      | error error => simp [bind, Except.bind, weighed] at read
      | ok weight =>
        cases built : build essence (params.eraseP isWeightParam) with
        | error error => simp [bind, Except.bind, weighed, built] at read
        | ok media =>
          simp only [bind, Except.bind, weighed, built, pure, Except.pure, Except.ok.injEq,
            Ranked.mk.injEq] at read
          obtain ⟨rfl, rfl⟩ := read
          exact ⟨essence, params, rfl, weighed, built⟩
    · rintro ⟨_, _, same, weighed, built⟩
      obtain ⟨rfl, rfl⟩ := Prod.mk.inj (Except.ok.inj same)
      simp only [bind, Except.bind, weighed, built, pure, Except.pure]

theorem parsed_of_parseRanked (read : parseRanked cs = .ok element) : element.media.Parsed := by
  obtain ⟨essence, params, split, -, built⟩ := parseRanked_eq_ok_iff.1 read
  refine parsed_of_build built (not_mem_of_splitParams split) fun param member => ?_
  exact isParam_of_splitParams split param (List.mem_of_mem_eraseP member)

theorem parsed_of_mem_parseList (read : parseList header = .ok listed) (member : media ∈ listed) :
    media.Parsed := by
  obtain ⟨ranked, ranks, -, rfl⟩ := parseList_eq_ok_iff.1 read
  obtain ⟨element, inside, -, rfl⟩ := mem_preferred_iff.1 member
  obtain ⟨cs, -, found⟩ := exists_of_mem_mapM ranks inside
  exact parsed_of_parseRanked found

/-! ## A list of one type -/

/-- A type that can be read is not blank. -/
theorem trim_ne_nil_of_parse (read : parse raw = .ok media) : Text.trim raw.toList ≠ [] := by
  obtain ⟨essence, params, split, -⟩ := parse_eq_ok_iff.1 read
  obtain ⟨first, pieces, cut, rfl, present, -⟩ := splitParams_eq_ok_iff.1 split
  have within : first ∈ raw.toList.splitOn ';' := cut ▸ List.mem_cons_self
  intro blank
  refine present (Text.strip_eq_nil_iff.2 fun c inside => ?_)
  exact Text.strip_eq_nil_iff.1 blank c (Text.mem_of_mem_splitOn within inside).1

/-- Where there is no comma and no weight, lists and types are read alike. -/
theorem parseList_of_parse (read : parse raw = .ok media) (single : ',' ∉ raw.toList)
    (named : media ≠ .any) (unweighted : ∀ param ∈ media.params, isWeightParam param = false) :
    parseList raw = .ok [media] := by
  have present := trim_ne_nil_of_parse read
  obtain ⟨essence, params, split, built⟩ := parse_eq_ok_iff.1 read
  have given : media.params = params := by
    have other : ¬ IsStar essence := fun star =>
      named (Except.ok.inj (built.symm.trans (build_of_isStar star)))
    obtain ⟨_, _, -, -, -, rfl⟩ := (build_eq_ok_iff other).1 built
    rfl
  rw [given] at unweighted
  have absent : ∀ param ∈ params, ¬ isWeightParam param = true := fun param member =>
    Bool.eq_false_iff.1 (unweighted param member)
  have full : weightOf params = .ok fullWeight := by
    unfold weightOf
    rw [List.find?_eq_none.2 absent]
  have ranked : parseRanked raw.toList = .ok ⟨fullWeight, media⟩ := by
    refine parseRanked_eq_ok_iff.2 ⟨essence, params, split, full, ?_⟩
    rwa [List.eraseP_of_forall_not absent]
  have one : elements raw = [raw.toList] := by
    unfold elements
    rw [List.splitOn_eq_singleton single]
    exact List.filter_cons_of_pos (by simpa using present)
  refine parseList_eq_ok_iff.2 ⟨[⟨fullWeight, media⟩], ?_, List.cons_ne_nil _ _, ?_⟩
  · unfold ranking
    rw [one]
    exact mapM_eq_ok_iff.2 (.cons ranked .nil)
  · change (([⟨fullWeight, media⟩] : List Ranked).mergeSort _).map (·.media) = [media]
    rw [List.mergeSort_singleton]
    rfl

end CacheGate.MediaType
