import CacheGate.Proofs.MediaType.Accept

/-!
# How lists of acceptable media types are ranked

What an element of a list says is told here from its text: its type and its
parameters are the pieces between semicolons, its weight is the value of the
first piece that is a parameter `q`, and without that piece it is the text of
a media type.

* `MediaType.exists_parseRanked_iff`: the elements that can be read are the
  well-formed ones.
* `MediaType.pairwise_mergeSort_of_ascending`: sorting by weight keeps the
  order of equal weights.
* `MediaType.parseList_ranks_elements`: a list fails exactly if an element is
  malformed or none has a positive weight, and otherwise gives the elements of
  positive weight by weight and position.
-/

namespace CacheGate.MediaType

/-! ## Elements as texts -/

/-- The type of an element, in front of its first semicolon. -/
def typeText (cs : List Char) : List Char := Text.trim ((cs.splitOn ';').headD [])

/-- The pieces behind the type of an element. -/
def paramTexts (cs : List Char) : List (List Char) := (cs.splitOn ';').tail

/-- Whether a piece is a parameter `q`. -/
def isWeightText (piece : List Char) : Bool :=
  (Text.cut? '=' (Text.trim piece)).any fun cut => Text.lower (Text.trim cut.1) == ['q']

/-- The value that a piece gives its parameter. -/
def valueText (piece : List Char) : String :=
  ((Text.cut? '=' (Text.trim piece)).map fun cut =>
    String.ofList (Text.unquote (Text.trim cut.2))).getD ""

/-- The weight of an element: what its first parameter `q` says, if that is a
number from 0 to 1, and full weight without one. -/
def statedWeight? (cs : List Char) : Option Weight :=
  match (paramTexts cs).find? isWeightText with
  | none => some fullWeight
  | some piece => parseWeight? (valueText piece)

/-- The weight of an element, counted as 0 where it is no number from 0 to 1. -/
def statedWeight (cs : List Char) : Weight := (statedWeight? cs).getD 0

/-- An element without its first parameter `q`. -/
def withoutWeight (cs : List Char) : String :=
  String.ofList
    ([';'].intercalate ((cs.splitOn ';').headD [] :: (paramTexts cs).eraseP isWeightText))

/-- An element with a type and a subtype, or a star for both, with a name and
an equals sign in every parameter, and with a weight from 0 to 1. -/
structure WellFormed (cs : List Char) : Prop where
  typed : IsStar (typeText cs) ∨ ∃ primary sub, Text.cut? '/' (typeText cs) = some (primary, sub) ∧
    Text.trim primary ≠ [] ∧ Text.trim sub ≠ []
  params : ∀ piece ∈ paramTexts cs, Text.trim piece ≠ [] →
    ∃ name value, Text.cut? '=' (Text.trim piece) = some (name, value) ∧ Text.trim name ≠ []
  weight : (statedWeight? cs).isSome = true

variable {cs piece : List Char} {pieces : List (List Char)} {param : String × String}
  {params : List (String × String)} {element : Ranked} {ranked : List Ranked}
  {listed : List MediaType} {header : String}

/-! ## Parameters and their pieces -/

theorem parseParams_cons_of_blank (blank : Text.trim piece = []) :
    parseParams (piece :: pieces) = parseParams pieces := by
  unfold parseParams
  rw [List.map_cons, blank, List.filter_cons_of_neg (by simp)]

theorem parseParams_cons_eq_ok_iff (present : Text.trim piece ≠ []) :
    parseParams (piece :: pieces) = .ok params ↔ ∃ param rest,
      parseParam (Text.trim piece) = .ok param ∧ parseParams pieces = .ok rest ∧
        params = param :: rest := by
  rw [parseParams_eq_ok_iff, List.map_cons, List.filter_cons_of_pos (by simpa using present),
    List.forall₂_cons_left_iff]
  simp only [parseParams_eq_ok_iff]

/-- A parameter is a weight if its piece is, and has the value of its piece. -/
theorem texts_of_parseParam (read : parseParam (Text.trim piece) = .ok param) :
    isWeightText piece = isWeightParam param ∧ valueText piece = param.2 := by
  obtain ⟨name, value, cut, -, rfl⟩ := parseParam_eq_ok_iff.1 read
  unfold isWeightText valueText isWeightParam
  rw [cut]
  refine ⟨?_, rfl⟩
  have same : Text.lower (Text.trim name) = ['q'] ↔
      String.ofList (Text.lower (Text.trim name)) = "q" := by
    rw [← String.toList_inj, String.toList_ofList]
    rfl
  rw [Bool.eq_iff_iff, Option.any_some, beq_iff_eq, beq_iff_eq]
  exact same

theorem isWeightText_of_blank (blank : Text.trim piece = []) : isWeightText piece = false := by
  unfold isWeightText
  rw [blank]
  rfl

/-- The first weight is the same among the pieces and among the parameters
that they are read as. -/
theorem parseParams_eraseP (read : parseParams pieces = .ok params) :
    parseParams (pieces.eraseP isWeightText) = .ok (params.eraseP isWeightParam) ∧
      (pieces.find? isWeightText).map valueText = (params.find? isWeightParam).map (·.2) := by
  induction pieces generalizing params with
  | nil =>
    obtain rfl := Except.ok.inj read
    exact ⟨rfl, rfl⟩
  | cons piece pieces ih =>
    by_cases blank : Text.trim piece = []
    · rw [parseParams_cons_of_blank blank] at read
      have other : ¬ isWeightText piece = true := by simp [isWeightText_of_blank blank]
      rw [List.eraseP_cons_of_neg other, List.find?_cons_of_neg other,
        parseParams_cons_of_blank blank]
      exact ih read
    · obtain ⟨param, rest, first, later, rfl⟩ := (parseParams_cons_eq_ok_iff blank).1 read
      obtain ⟨same, value⟩ := texts_of_parseParam first
      by_cases weight : isWeightParam param = true
      · rw [List.eraseP_cons_of_pos weight, List.find?_cons_of_pos weight,
          List.eraseP_cons_of_pos (same.trans weight), List.find?_cons_of_pos (same.trans weight),
          Option.map_some, Option.map_some, value]
        exact ⟨later, rfl⟩
      · have other : ¬ isWeightText piece = true := by rwa [same]
        obtain ⟨erased, found⟩ := ih later
        rw [List.eraseP_cons_of_neg weight, List.find?_cons_of_neg weight,
          List.eraseP_cons_of_neg other, List.find?_cons_of_neg other]
        exact ⟨(parseParams_cons_eq_ok_iff blank).2 ⟨param, _, first, erased, rfl⟩, found⟩

/-- Parameters can be read if each piece that is not blank names one. -/
theorem exists_parseParams_iff : (∃ params, parseParams pieces = .ok params) ↔
    ∀ piece ∈ pieces, Text.trim piece ≠ [] → ∃ name value,
      Text.cut? '=' (Text.trim piece) = some (name, value) ∧ Text.trim name ≠ [] := by
  induction pieces with
  | nil => exact ⟨fun _ _ member => (List.not_mem_nil member).elim, fun _ => ⟨[], rfl⟩⟩
  | cons piece pieces ih =>
    rw [List.forall_mem_cons, ← ih]
    by_cases blank : Text.trim piece = []
    · simp only [parseParams_cons_of_blank blank, blank, ne_eq, not_true_eq_false, false_imp_iff,
        true_and]
    · simp only [parseParams_cons_eq_ok_iff blank]
      constructor
      · rintro ⟨_, param, rest, first, later, -⟩
        obtain ⟨name, value, cut, named, -⟩ := parseParam_eq_ok_iff.1 first
        exact ⟨fun _ => ⟨name, value, cut, named⟩, rest, later⟩
      · rintro ⟨named, rest, later⟩
        obtain ⟨name, value, cut, present⟩ := named blank
        exact ⟨_, _, rest, parseParam_eq_ok_iff.2 ⟨name, value, cut, present, rfl⟩, later, rfl⟩

/-! ## Elements -/

theorem splitOn_eq (cs : List Char) :
    cs.splitOn ';' = (cs.splitOn ';').headD [] :: paramTexts cs := by
  obtain ⟨first, pieces, cut⟩ := List.exists_cons_of_ne_nil (List.splitOn_ne_nil ';' cs)
  unfold paramTexts
  rw [cut]
  rfl

theorem splitParams_eq_ok_iff_texts {essence : List Char} :
    splitParams cs = .ok (essence, params) ↔
      typeText cs = essence ∧ essence ≠ [] ∧ parseParams (paramTexts cs) = .ok params := by
  rw [splitParams_eq_ok_iff]
  constructor
  · rintro ⟨first, pieces, cut, rfl, present, read⟩
    unfold typeText paramTexts
    rw [cut]
    exact ⟨rfl, present, read⟩
  · rintro ⟨rfl, present, read⟩
    exact ⟨_, _, splitOn_eq cs, rfl, present, read⟩

theorem weightOf_eq_ok_iff {weight : Weight} (read : parseParams (paramTexts cs) = .ok params) :
    weightOf params = .ok weight ↔ statedWeight? cs = some weight := by
  have found := (parseParams_eraseP read).2
  unfold weightOf statedWeight?
  cases texts : (paramTexts cs).find? isWeightText with
  | none =>
    rw [texts] at found
    rw [Option.map_eq_none_iff.1 found.symm]
    simp
  | some piece =>
    rw [texts, Option.map_some] at found
    obtain ⟨⟨name, value⟩, same, rfl : value = _⟩ := Option.map_eq_some_iff.1 found.symm
    rw [same]
    dsimp only
    cases parseWeight? (valueText piece) <;> simp

/-- Without its weight, an element is read as a media type with the other parameters. -/
theorem parse_withoutWeight (typed : typeText cs ≠ [])
    (read : parseParams (paramTexts cs) = .ok params) :
    parse (withoutWeight cs) = build (typeText cs) (params.eraseP isWeightParam) := by
  have kept : (withoutWeight cs).toList.splitOn ';' =
      (cs.splitOn ';').headD [] :: (paramTexts cs).eraseP isWeightText := by
    unfold withoutWeight
    rw [String.toList_ofList]
    refine List.splitOn_intercalate ';' (fun part member => ?_) (List.cons_ne_nil _ _)
    have within : part ∈ cs.splitOn ';' := by
      rw [splitOn_eq cs]
      exact (List.mem_cons.1 member).elim (fun same => same ▸ List.mem_cons_self)
        fun later => List.mem_cons_of_mem _ (List.mem_of_mem_eraseP later)
    exact fun inside => (Text.mem_of_mem_splitOn within inside).2 rfl
  have split : splitParams (withoutWeight cs).toList =
      .ok (typeText cs, params.eraseP isWeightParam) :=
    splitParams_eq_ok_iff.2 ⟨_, _, kept, rfl, typed, (parseParams_eraseP read).1⟩
  unfold parse
  rw [split]
  rfl

theorem exists_build_iff : (∃ media, build (typeText cs) params = .ok media) ↔
    (IsStar (typeText cs) ∨ ∃ primary sub, Text.cut? '/' (typeText cs) = some (primary, sub) ∧
      Text.trim primary ≠ [] ∧ Text.trim sub ≠ []) := by
  by_cases star : IsStar (typeText cs)
  · exact iff_of_true ⟨_, build_of_isStar star⟩ (Or.inl star)
  · simp only [build_eq_ok_iff star, star, false_or]
    constructor
    · rintro ⟨_, primary, sub, cut, first, second, -⟩
      exact ⟨primary, sub, cut, first, second⟩
    · rintro ⟨primary, sub, cut, first, second⟩
      exact ⟨_, primary, sub, cut, first, second, rfl⟩

/-- What is read of an element is told from its text. -/
theorem texts_of_parseRanked (read : parseRanked cs = .ok element) :
    WellFormed cs ∧ statedWeight? cs = some element.weight ∧
      parse (withoutWeight cs) = .ok element.media := by
  obtain ⟨essence, params, split, weighed, built⟩ := parseRanked_eq_ok_iff.1 read
  obtain ⟨rfl, present, given⟩ := splitParams_eq_ok_iff_texts.1 split
  have weight := (weightOf_eq_ok_iff given).1 weighed
  refine ⟨⟨exists_build_iff.1 ⟨_, built⟩, exists_parseParams_iff.1 ⟨params, given⟩, ?_⟩, weight, ?_⟩
  · rw [weight]
    rfl
  · rw [parse_withoutWeight present given]
    exact built

/-- Exactly the well-formed elements are read. -/
theorem exists_parseRanked_iff : (∃ element, parseRanked cs = .ok element) ↔ WellFormed cs := by
  refine ⟨fun ⟨_, read⟩ => (texts_of_parseRanked read).1, fun formed => ?_⟩
  obtain ⟨params, given⟩ := exists_parseParams_iff.2 formed.params
  obtain ⟨weight, stated⟩ := Option.isSome_iff_exists.1 formed.weight
  obtain ⟨media, built⟩ := exists_build_iff.2 formed.typed
  have present : typeText cs ≠ [] := by
    intro none
    rcases formed.typed with (star | star) | ⟨primary, sub, cut, -⟩
    · cases none.symm.trans star
    · cases none.symm.trans star
    · rw [none] at cut
      cases cut
  exact ⟨⟨weight, media⟩, parseRanked_eq_ok_iff.2 ⟨_, params,
    splitParams_eq_ok_iff_texts.2 ⟨rfl, present, given⟩, (weightOf_eq_ok_iff given).2 stated, built⟩⟩

/-! ## Lists -/

/-- Sorting keeps the order of what the sort does not tell apart. -/
theorem pairwise_mergeSort_of_ascending {α : Type} {le : α → α → Bool} (position : α → Nat)
    (transitive : ∀ a b c, le a b = true → le b c = true → le a c = true)
    (total : ∀ a b, (le a b || le b a) = true) {items : List α}
    (ascending : items.Pairwise fun a b => position a < position b) :
    (items.mergeSort le).Pairwise fun a b =>
      le a b = true ∧ (le b a = true → position a < position b) := by
  induction items with
  | nil =>
    rw [List.mergeSort_nil]
    exact .nil
  | cons item items ih =>
    obtain ⟨first, rest⟩ := List.pairwise_cons.1 ascending
    -- The new item stands behind the smaller ones, in front of the equal ones.
    obtain ⟨smaller, others, whole, without, strict⟩ :=
      List.mergeSort_cons transitive total item items
    have sorted := List.pairwise_mergeSort transitive total (item :: items)
    have stable := ih rest
    rw [whole] at sorted
    rw [without] at stable
    obtain ⟨-, sortedOthers, before⟩ := List.pairwise_append.1 sorted
    obtain ⟨stableSmaller, stableOthers, across⟩ := List.pairwise_append.1 stable
    have later : ∀ other ∈ others, position item < position other := by
      intro other member
      have inside : other ∈ items.mergeSort le := without ▸ List.mem_append_right _ member
      exact first other (List.mem_mergeSort.1 inside)
    have behind : (item :: others).Pairwise fun a b =>
        le a b = true ∧ (le b a = true → position a < position b) :=
      List.pairwise_cons.2 ⟨fun other member =>
        ⟨(List.pairwise_cons.1 sortedOthers).1 other member, fun _ => later other member⟩,
        stableOthers⟩
    rw [whole]
    refine List.pairwise_append.2 ⟨stableSmaller, behind, fun small inside other member => ?_⟩
    rcases List.mem_cons.1 member with rfl | member
    · refine ⟨before small inside _ List.mem_cons_self, fun equal => ?_⟩
      exact absurd equal (by simpa using strict small inside)
    · exact across small inside other member

/-- What a well-formed element is read as. -/
def reading (cs : List Char) : Ranked :=
  ⟨statedWeight cs, (parse (withoutWeight cs)).toOption.getD .any⟩

theorem parseRanked_eq_ok_iff_reading :
    parseRanked cs = .ok element ↔ WellFormed cs ∧ reading cs = element := by
  have same : ∀ {element}, parseRanked cs = .ok element → reading cs = element := by
    intro element read
    obtain ⟨-, weight, media⟩ := texts_of_parseRanked read
    unfold reading statedWeight
    rw [weight, media]
    rfl
  constructor
  · exact fun read => ⟨(texts_of_parseRanked read).1, same read⟩
  · rintro ⟨formed, rfl⟩
    obtain ⟨element, read⟩ := exists_parseRanked_iff.2 formed
    rwa [same read]

theorem ranking_eq_ok_iff : ranking header = .ok ranked ↔
    (∀ cs ∈ elements header, WellFormed cs) ∧ (elements header).map reading = ranked := by
  unfold ranking
  simp only [mapM_eq_ok_iff, parseRanked_eq_ok_iff_reading]
  rw [List.forall₂_and_left, ← List.forall₂_map_left_iff, List.forall₂_eq_eq_eq]

/-- The elements of positive weight with their positions in the list. -/
def weighted (header : String) : List (List Char × Nat) :=
  (elements header).zipIdx.filter fun item => 0 < statedWeight item.1

theorem map_weighted (header : String) :
    (weighted header).map (fun item => reading item.1) =
      accepted ((elements header).map reading) := by
  unfold weighted accepted
  conv_rhs => rw [← List.zipIdx_map_fst 0 (elements header)]
  rw [List.map_map, List.filter_map]
  rfl

/-- The positions of the weighted elements ascend. -/
theorem ascending_weighted (header : String) :
    (weighted header).Pairwise fun left right => left.2 < right.2 := by
  refine List.Pairwise.filter _ (List.pairwise_map.1 ?_)
  rw [List.zipIdx_map_snd]
  exact List.pairwise_lt_range'

/-- The elements of positive weight, the heavier ones first. -/
def ordered (header : String) : List (List Char × Nat) :=
  (weighted header).mergeSort fun left right => statedWeight right.1 ≤ statedWeight left.1

theorem pairwise_ordered (header : String) :
    (ordered header).Pairwise fun left right => statedWeight right.1 < statedWeight left.1 ∨
      statedWeight left.1 = statedWeight right.1 ∧ left.2 < right.2 := by
  refine (pairwise_mergeSort_of_ascending (·.2) (fun a b c => ?_) (fun a b => ?_)
    (ascending_weighted header)).imp fun {left right} => ?_
  · simpa using fun first second => Nat.le_trans second first
  · simpa using Nat.le_total _ _
  · rintro ⟨heavier, stable⟩
    rcases Nat.lt_or_eq_of_le (of_decide_eq_true heavier) with more | equal
    · exact Or.inl more
    · exact Or.inr ⟨equal.symm, stable (decide_eq_true equal.symm.le)⟩

theorem preferred_reading (header : String) :
    preferred ((elements header).map reading) =
      (ordered header).map fun item => (reading item.1).media := by
  have sorts : (ordered header).map (fun item => reading item.1) =
      ((weighted header).map fun item => reading item.1).mergeSort
        fun left right => right.weight ≤ left.weight :=
    List.map_mergeSort fun _ _ _ _ => rfl
  unfold preferred
  rw [← map_weighted, ← sorts, List.map_map]
  rfl

theorem parseList_eq_ok_iff_ordered : parseList header = .ok listed ↔
    (∀ cs ∈ elements header, WellFormed cs) ∧ (∃ cs ∈ elements header, 0 < statedWeight cs) ∧
      (ordered header).map (fun item => (reading item.1).media) = listed := by
  have some_iff : accepted ((elements header).map reading) ≠ [] ↔
      ∃ cs ∈ elements header, 0 < statedWeight cs := by
    constructor
    · intro present
      obtain ⟨element, inside⟩ := List.exists_mem_of_ne_nil _ present
      obtain ⟨member, positive⟩ := mem_accepted_iff.1 inside
      obtain ⟨cs, within, rfl⟩ := List.mem_map.1 member
      exact ⟨cs, within, positive⟩
    · rintro ⟨cs, within, positive⟩
      exact List.ne_nil_of_mem (mem_accepted_iff.2 ⟨List.mem_map_of_mem within, positive⟩)
  rw [parseList_eq_ok_iff]
  simp only [ranking_eq_ok_iff]
  constructor
  · rintro ⟨_, ⟨formed, rfl⟩, present, rfl⟩
    exact ⟨formed, some_iff.1 present, (preferred_reading header).symm⟩
  · rintro ⟨formed, present, rfl⟩
    exact ⟨_, ⟨formed, rfl⟩, some_iff.2 present, preferred_reading header⟩

/-- A list is refused exactly if an element is malformed or none has a
positive weight. Otherwise each element of positive weight is listed once, as
the media type that it is without its weight, the heavier ones first and equal
ones in the order of the list. -/
theorem parseList_ranks_elements (header : String) :
    ((∃ error, parseList header = .error error) ↔
      (∃ cs ∈ elements header, ¬ WellFormed cs) ∨
        ∀ cs ∈ elements header, ¬ 0 < statedWeight cs) ∧
    ∀ listed, parseList header = .ok listed → ∃ order : List (List Char × Nat),
      order.Perm ((elements header).zipIdx.filter fun item => 0 < statedWeight item.1) ∧
      order.Pairwise (fun left right => statedWeight right.1 < statedWeight left.1 ∨
        statedWeight left.1 = statedWeight right.1 ∧ left.2 < right.2) ∧
      List.Forall₂ (fun item media => parse (withoutWeight item.1) = .ok media) order listed := by
  constructor
  · have either : (∃ error, parseList header = .error error) ↔
        ¬ ∃ listed, parseList header = .ok listed := by
      cases parseList header <;> simp
    rw [either]
    simp only [parseList_eq_ok_iff_ordered, exists_and_left, exists_eq', and_true, not_and_or,
      not_forall, not_exists, exists_prop]
    refine or_congr_right (forall_congr' fun cs => ?_)
    exact imp_iff_not_or.symm
  · intro listed read
    obtain ⟨formed, -, rfl⟩ := parseList_eq_ok_iff_ordered.1 read
    refine ⟨ordered header, List.mergeSort_perm _ _, pairwise_ordered header, ?_⟩
    rw [List.forall₂_map_right_iff, List.forall₂_same]
    intro item member
    have inside : item.1 ∈ elements header :=
      (List.mem_zipIdx' (List.mem_of_mem_filter (List.mem_mergeSort.1 member))).2 ▸
        List.getElem_mem _
    have read := parseRanked_eq_ok_iff_reading.2 ⟨formed item.1 inside, rfl⟩
    exact (texts_of_parseRanked read).2.2

/-- A list with a weight of zero, a blank element and two equal weights. -/
theorem mixed_list_is_ranked :
    parseList "text/plain;q=0.5, ,application/json;Q=1;q=x , text/html;q=0, */*;q=0.5" =
      .ok [.named "application" "json" [("q", "x")], textPlain, .any] ∧
    ∃ order : List (List Char × Nat),
      order.Perm ((elements
        "text/plain;q=0.5, ,application/json;Q=1;q=x , text/html;q=0, */*;q=0.5").zipIdx.filter
          fun item => 0 < statedWeight item.1) ∧
      order.Pairwise (fun left right => statedWeight right.1 < statedWeight left.1 ∨
        statedWeight left.1 = statedWeight right.1 ∧ left.2 < right.2) ∧
      List.Forall₂ (fun item media => parse (withoutWeight item.1) = .ok media) order
        [.named "application" "json" [("q", "x")], textPlain, .any] := by
  have ranks : ranking "text/plain;q=0.5, ,application/json;Q=1;q=x , text/html;q=0, */*;q=0.5" =
      .ok [⟨2 ^ 148, textPlain⟩, ⟨2 ^ 149, .named "application" "json" [("q", "x")]⟩,
        ⟨0, .named "text" "html" []⟩, ⟨2 ^ 148, .any⟩] := by
    decide +kernel
  have kept : accepted [⟨2 ^ 148, textPlain⟩, ⟨2 ^ 149, .named "application" "json" [("q", "x")]⟩,
        ⟨0, .named "text" "html" []⟩, ⟨2 ^ 148, .any⟩] =
      [⟨2 ^ 148, textPlain⟩, ⟨2 ^ 149, .named "application" "json" [("q", "x")]⟩,
        ⟨2 ^ 148, .any⟩] := by
    decide
  have read : parseList "text/plain;q=0.5, ,application/json;Q=1;q=x , text/html;q=0, */*;q=0.5" =
      .ok [.named "application" "json" [("q", "x")], textPlain, .any] := by
    refine parseList_eq_ok_iff.2 ⟨_, ranks, ?_, ?_⟩
    · rw [kept]
      exact List.cons_ne_nil _ _
    · unfold preferred
      rw [kept]
      simp [List.mergeSort, List.MergeSort.Internal.splitInTwo]
  exact ⟨read, (parseList_ranks_elements _).2 _ read⟩

end CacheGate.MediaType
