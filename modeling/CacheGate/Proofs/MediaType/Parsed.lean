import CacheGate.MediaType.Accept
import CacheGate.Proofs.Text.Cutting
import CacheGate.Proofs.Text.Letters
import CacheGate.Proofs.Text.Trim
import Mathlib.Data.List.Forall2

/-!
# What media types are read from their own texts

The readers leave names that are trimmed and in lower case, values without
quotes at their ends, and no separator inside (`MediaType.Parsed`). So the text
of a type that was read is cut where it was put together, and is read as the
same type but for the blanks that quotes kept at the ends of a value
(`MediaType.Parsed.parse_text`, `MediaType.Parsed.reread_eq_iff`).
-/

namespace CacheGate

/-- What reads a list item by item reads each of its items. -/
theorem mapM_eq_ok_iff {α β ε : Type} {read : α → Except ε β} {items : List α} {results : List β} :
    items.mapM read = .ok results ↔
      List.Forall₂ (fun item result => read item = .ok result) items results := by
  induction items generalizing results with
  | nil =>
    rw [List.mapM_nil, List.forall₂_nil_left_iff]
    exact ⟨fun same => (Except.ok.inj same).symm, fun same => congrArg Except.ok same.symm⟩
  | cons item items ih =>
    rw [List.mapM_cons]
    cases first : read item with
    | error error => simp [bind, Except.bind, List.forall₂_cons_left_iff, first]
    | ok result =>
      cases rest : items.mapM read with
      | error error =>
        have none : ∀ later,
            ¬ List.Forall₂ (fun item result => read item = .ok result) items later := by
          intro later all
          cases rest.symm.trans (ih.2 all)
        simp [bind, Except.bind, List.forall₂_cons_left_iff, none]
      | ok later =>
        have all := ih.1 rest
        constructor
        · intro same
          obtain rfl := Except.ok.inj same
          exact .cons first all
        · intro read
          cases read with
          | cons head tail =>
            obtain rfl := Except.ok.inj (first.symm.trans head)
            obtain rfl := Except.ok.inj (rest.symm.trans (ih.2 tail))
            rfl

/-- What was read from a list was read from one of its items. -/
theorem exists_of_mem_mapM {α β ε : Type} {read : α → Except ε β} {items : List α}
    {results : List β} {result : β} (all : items.mapM read = .ok results)
    (member : result ∈ results) : ∃ item ∈ items, read item = .ok result := by
  have each := mapM_eq_ok_iff.1 all
  clear all
  induction each with
  | nil => cases member
  | @cons item _ items _ first _ ih =>
    rcases List.mem_cons.1 member with rfl | later
    · exact ⟨item, List.mem_cons_self, first⟩
    · obtain ⟨found, inside, read⟩ := ih later
      exact ⟨found, List.mem_cons_of_mem item inside, read⟩

namespace MediaType

variable {cs essence primary sub : List Char} {param : String × String}
  {params : List (String × String)} {media : MediaType} {raw : String}

/-! ## What the readers read -/

theorem parseParam_eq_ok_iff :
    parseParam cs = .ok param ↔ ∃ name value, Text.cut? '=' cs = some (name, value) ∧
      Text.trim name ≠ [] ∧ (String.ofList (Text.lower (Text.trim name)),
        String.ofList (Text.unquote (Text.trim value))) = param := by
  unfold parseParam
  cases Text.cut? '=' cs with
  | none => simp
  | some cut =>
    obtain ⟨name, value⟩ := cut
    simp only [Option.some.injEq, Prod.mk.injEq, List.isEmpty_iff]
    split
    case isTrue empty =>
      constructor
      · intro failed
        cases failed
      · rintro ⟨_, _, ⟨rfl, rfl⟩, present, -⟩
        exact absurd empty present
    case isFalse present =>
      rw [Except.ok.injEq]
      constructor
      · rintro rfl
        exact ⟨name, value, ⟨rfl, rfl⟩, present, rfl⟩
      · rintro ⟨_, _, ⟨rfl, rfl⟩, -, same⟩
        exact same

theorem parseParams_eq_ok_iff {pieces : List (List Char)} :
    parseParams pieces = .ok params ↔
      List.Forall₂ (fun piece param => parseParam piece = .ok param)
        ((pieces.map Text.trim).filter (!·.isEmpty)) params :=
  mapM_eq_ok_iff

theorem splitParams_eq_ok_iff :
    splitParams cs = .ok (essence, params) ↔ ∃ first pieces, cs.splitOn ';' = first :: pieces ∧
      Text.trim first = essence ∧ essence ≠ [] ∧ parseParams pieces = .ok params := by
  unfold splitParams
  cases cs.splitOn ';' with
  | nil => simp
  | cons first pieces =>
    simp only [List.cons.injEq, List.isEmpty_iff]
    split
    case isTrue empty =>
      constructor
      · intro failed
        cases failed
      · rintro ⟨_, _, ⟨rfl, rfl⟩, rfl, present, -⟩
        exact absurd empty present
    case isFalse present =>
      cases read : parseParams pieces with
      | error error =>
        constructor
        · intro failed
          cases failed
        · rintro ⟨_, _, ⟨rfl, rfl⟩, -, -, found⟩
          cases read.symm.trans found
      | ok found =>
        change Except.ok (Text.trim first, found) = Except.ok (essence, params) ↔ _
        rw [Except.ok.injEq, Prod.mk.injEq]
        constructor
        · rintro ⟨rfl, rfl⟩
          exact ⟨first, pieces, ⟨rfl, rfl⟩, rfl, present, read⟩
        · rintro ⟨_, _, ⟨rfl, rfl⟩, same, -, again⟩
          exact ⟨same, Except.ok.inj (read.symm.trans again)⟩

/-- The texts that stand for every media type. -/
def IsStar (essence : List Char) : Prop := essence = ['*'] ∨ essence = ['*', '/', '*']

theorem build_of_isStar (star : IsStar essence) : build essence params = .ok .any := by
  rcases star with rfl | rfl <;> rfl

theorem build_eq_ok_iff (other : ¬ IsStar essence) :
    build essence params = .ok media ↔
      ∃ primary sub, Text.cut? '/' essence = some (primary, sub) ∧ Text.trim primary ≠ [] ∧
        Text.trim sub ≠ [] ∧ .named (String.ofList (Text.lower (Text.trim primary)))
          (String.ofList (Text.lower (Text.trim sub))) params = media := by
  have unequal : ¬ (decide (essence = ['*']) || decide (essence = ['*', '/', '*'])) = true := by
    rw [Bool.or_eq_true, decide_eq_true_iff, decide_eq_true_iff]
    exact other
  unfold build
  rw [if_neg unequal]
  cases Text.cut? '/' essence with
  | none => simp
  | some cut =>
    obtain ⟨primary, sub⟩ := cut
    simp only [Option.some.injEq, Prod.mk.injEq, List.isEmpty_iff, Bool.or_eq_true]
    split
    case isTrue empty =>
      constructor
      · intro failed
        cases failed
      · rintro ⟨_, _, ⟨rfl, rfl⟩, first, second, -⟩
        exact (empty.elim first second).elim
    case isFalse present =>
      rw [Except.ok.injEq]
      obtain ⟨first, second⟩ := not_or.1 present
      constructor
      · rintro rfl
        exact ⟨primary, sub, ⟨rfl, rfl⟩, first, second, rfl⟩
      · rintro ⟨_, _, ⟨rfl, rfl⟩, -, -, same⟩
        exact same

theorem parse_eq_ok_iff :
    parse raw = .ok media ↔ ∃ essence params, splitParams raw.toList = .ok (essence, params) ∧
      build essence params = .ok media := by
  unfold parse
  cases splitParams raw.toList with
  | error error => simp [bind, Except.bind]
  | ok found =>
    obtain ⟨essence, params⟩ := found
    constructor
    · intro built
      exact ⟨essence, params, rfl, built⟩
    · rintro ⟨_, _, same, built⟩
      obtain ⟨rfl, rfl⟩ := Prod.mk.inj (Except.ok.inj same)
      exact built

/-! ## What they leave -/

/-- A name that the readers leave as it is. -/
structure IsName (name : String) : Prop where
  present : name.toList ≠ []
  trimmed : Text.trim name.toList = name.toList
  lowered : Text.lower name.toList = name.toList
  whole : ';' ∉ name.toList

/-- A parameter that the readers leave as it is, but for blanks around the value. -/
structure IsParam (param : String × String) : Prop where
  name : IsName param.1
  unequal : '=' ∉ param.1.toList
  unquoted : Text.unquote param.2.toList = param.2.toList
  whole : ';' ∉ param.2.toList

/-- The media types that the readers give. -/
inductive Parsed : MediaType → Prop
  | any : Parsed .any
  | named {primary sub : String} {params : List (String × String)} :
    IsName primary → '/' ∉ primary.toList → IsName sub → (∀ param ∈ params, IsParam param) →
      Parsed (.named primary sub params)

/-- Trimming and lowering bring in no separator. -/
theorem not_mem_lower_trim {d : Char} (other : ¬ (97 ≤ d.toNat ∧ d.toNat ≤ 122)) (absent : d ∉ cs) :
    d ∉ Text.lower (Text.trim cs) :=
  fun inside => absent ((Text.strip_sublist _ cs).subset (Text.mem_of_mem_lower other inside))

theorem isName_of_trim (present : Text.trim cs ≠ []) (whole : ';' ∉ cs) :
    IsName (String.ofList (Text.lower (Text.trim cs))) where
  present := by
    rw [String.toList_ofList]
    exact fun none => present (List.map_eq_nil_iff.1 none)
  trimmed := by
    rw [String.toList_ofList, Text.trim_lower]
    exact congrArg Text.lower Text.strip_strip
  lowered := by
    rw [String.toList_ofList]
    exact Text.lower_lower _
  whole := by
    rw [String.toList_ofList]
    exact not_mem_lower_trim (by decide) whole

theorem isParam_of_parseParam (read : parseParam cs = .ok param) (whole : ';' ∉ cs) :
    IsParam param := by
  obtain ⟨name, value, cut, present, rfl⟩ := parseParam_eq_ok_iff.1 read
  obtain ⟨rfl, unequal⟩ := Text.cut?_eq_some cut
  rw [List.mem_append, List.mem_cons, not_or, not_or] at whole
  refine ⟨isName_of_trim present whole.1, ?_, ?_, ?_⟩
  · rw [String.toList_ofList]
    exact not_mem_lower_trim (by decide) unequal
  · rw [String.toList_ofList]
    exact Text.strip_strip
  · rw [String.toList_ofList]
    exact fun inside => whole.2.2
      ((Text.strip_sublist _ _).subset ((Text.strip_sublist _ _).subset inside))

theorem isParam_of_splitParams (split : splitParams cs = .ok (essence, params)) :
    ∀ param ∈ params, IsParam param := by
  intro param member
  obtain ⟨first, pieces, cut, -, -, read⟩ := splitParams_eq_ok_iff.1 split
  obtain ⟨piece, kept, read⟩ := exists_of_mem_mapM read member
  obtain ⟨whole, inside, rfl⟩ := List.mem_map.1 (List.mem_filter.1 kept).1
  refine isParam_of_parseParam read fun ended => ?_
  have within : whole ∈ cs.splitOn ';' := cut ▸ List.mem_cons_of_mem first inside
  exact (Text.mem_of_mem_splitOn within ((Text.strip_sublist _ whole).subset ended)).2 rfl

theorem not_mem_of_splitParams (split : splitParams cs = .ok (essence, params)) :
    ';' ∉ essence := by
  obtain ⟨first, pieces, cut, rfl, -, -⟩ := splitParams_eq_ok_iff.1 split
  have within : first ∈ cs.splitOn ';' := cut ▸ List.mem_cons_self
  exact fun ended =>
    (Text.mem_of_mem_splitOn within ((Text.strip_sublist _ first).subset ended)).2 rfl

theorem parsed_of_build (built : build essence params = .ok media) (whole : ';' ∉ essence)
    (given : ∀ param ∈ params, IsParam param) : Parsed media := by
  by_cases star : IsStar essence
  · obtain rfl := Except.ok.inj ((build_of_isStar star).symm.trans built)
    exact .any
  · obtain ⟨primary, sub, cut, first, second, rfl⟩ := (build_eq_ok_iff star).1 built
    obtain ⟨rfl, unslashed⟩ := Text.cut?_eq_some cut
    rw [List.mem_append, List.mem_cons, not_or, not_or] at whole
    refine .named (isName_of_trim first whole.1) ?_ (isName_of_trim second whole.2.2) given
    rw [String.toList_ofList]
    exact not_mem_lower_trim (by decide) unslashed

theorem parsed_of_parse (read : parse raw = .ok media) : Parsed media := by
  obtain ⟨essence, params, split, built⟩ := parse_eq_ok_iff.1 read
  exact parsed_of_build built (not_mem_of_splitParams split) (isParam_of_splitParams split)

/-! ## Reading what was written -/

/-- A parameter behind the semicolon in front of it. -/
def written (param : String × String) : List Char := ' ' :: param.1.toList ++ '=' :: param.2.toList

/-- What is read of a parameter: of the value, blanks at the ends are removed
and then quotes that were inside of them. -/
def rereadParam (param : String × String) : String × String :=
  (param.1, String.ofList (Text.unquote (Text.trim param.2.toList)))

/-- What is read of a media type. -/
def reread : MediaType → MediaType
  | .any => .any
  | .named primary sub params => .named primary sub (params.map rereadParam)

theorem toList_text_named (primary sub : String) (params : List (String × String)) :
    (named primary sub params).text.toList =
      (primary.toList ++ '/' :: sub.toList) ++
        params.flatMap fun param => ';' :: written param := by
  have each : ∀ param : String × String, (paramText param).toList = ';' :: written param := by
    intro param
    simp [paramText, written, String.toList_append]
  simp only [text, String.toList_append, String.toList_join, List.flatMap_map, each]
  rw [List.append_assoc primary.toList]
  rfl

/-- The name of a parameter is in front of its first equals sign. -/
theorem IsParam.parseParam_trim_written (given : IsParam param) :
    Text.trim (written param) ≠ [] ∧
      parseParam (Text.trim (written param)) = .ok (rereadParam param) := by
  obtain ⟨name, unequal, -, -⟩ := given
  have trimmed : Text.trim (written param) =
      param.1.toList ++ '=' :: param.2.toList.rdropWhile Text.isBlank := by
    refine (Text.strip_cons (by decide)).trans
      (Text.strip_append_cons (fun d first => ?_) (by decide))
    rw [← name.trimmed] at first
    exact Text.head?_strip d first
  rw [trimmed]
  refine ⟨List.append_ne_nil_of_right_ne_nil _ (List.cons_ne_nil _ _),
    parseParam_eq_ok_iff.2 ⟨_, _, Text.cut?_append unequal, ?_, ?_⟩⟩
  · rw [name.trimmed]
    exact name.present
  · rw [name.trimmed, name.lowered, String.ofList_toList]
    unfold rereadParam Text.trim
    rw [Text.strip_rdropWhile]

theorem parseParams_written (given : ∀ param ∈ params, IsParam param) :
    parseParams (params.map written) = .ok (params.map rereadParam) := by
  refine parseParams_eq_ok_iff.2 ?_
  have present : ∀ piece ∈ (params.map written).map Text.trim, (!piece.isEmpty) = true := by
    intro piece member
    obtain ⟨_, inside, rfl⟩ := List.mem_map.1 member
    obtain ⟨param, listed, rfl⟩ := List.mem_map.1 inside
    simpa using (given param listed).parseParam_trim_written.1
  rw [List.filter_eq_self.2 present, List.map_map, List.forall₂_map_left_iff,
    List.forall₂_map_right_iff, List.forall₂_same]
  exact fun param member => (given param member).parseParam_trim_written.2

theorem IsParam.not_mem_written (given : IsParam param) : ';' ∉ written param := by
  unfold written
  rw [List.cons_append, List.mem_cons, List.mem_append, List.mem_cons]
  rintro (space | inName | equals | inValue)
  · exact absurd space (by decide)
  · exact given.name.whole inName
  · exact absurd equals (by decide)
  · exact given.whole inValue

/-- Two names around a slash are not trimmed. -/
theorem trim_essence {primary sub : String} (first : IsName primary) (second : IsName sub) :
    Text.trim (primary.toList ++ '/' :: sub.toList) = primary.toList ++ '/' :: sub.toList := by
  refine (Text.strip_append_cons (fun d front => ?_) (by decide)).trans ?_
  · rw [← first.trimmed] at front
    exact Text.head?_strip d front
  · rw [Text.rdropWhile_eq_self second.trimmed]

theorem build_essence {primary sub : String} (first : IsName primary)
    (unslashed : '/' ∉ primary.toList) (second : IsName sub)
    (other : ¬ (primary = "*" ∧ sub = "*")) :
    build (primary.toList ++ '/' :: sub.toList) params = .ok (.named primary sub params) := by
  have cut : Text.cut? '/' (primary.toList ++ '/' :: sub.toList) =
      some (primary.toList, sub.toList) :=
    Text.cut?_append unslashed
  have unstarred : ¬ IsStar (primary.toList ++ '/' :: sub.toList) := by
    rintro (alone | both)
    · rw [alone] at cut
      cases cut
    · rw [both] at cut
      obtain ⟨left, right⟩ := Prod.mk.inj (Option.some.inj cut)
      exact other ⟨String.toList_inj.1 left.symm, String.toList_inj.1 right.symm⟩
  refine (build_eq_ok_iff unstarred).2 ⟨_, _, cut, ?_, ?_, ?_⟩
  · rw [first.trimmed]
    exact first.present
  · rw [second.trimmed]
    exact second.present
  · rw [first.trimmed, second.trimmed, first.lowered, second.lowered, String.ofList_toList,
      String.ofList_toList]

/-- The range that matches everything, read as two halves that are stars. -/
def IsStarPair (media : MediaType) : Prop := ∃ params, media = .named "*" "*" params

/-- The text of a media type that was read is read again, unless it is a pair of stars. -/
theorem Parsed.parse_text (parsed : media.Parsed) (unpaired : ¬ media.IsStarPair) :
    parse media.text = .ok media.reread := by
  cases parsed with
  | any => rfl
  | @named primary sub params first unslashed second given =>
    have other : ¬ (primary = "*" ∧ sub = "*") := by
      rintro ⟨rfl, rfl⟩
      exact unpaired ⟨params, rfl⟩
    have whole : ';' ∉ primary.toList ++ '/' :: sub.toList := by
      rw [List.mem_append, List.mem_cons]
      rintro (inPrimary | slash | inSub)
      · exact first.whole inPrimary
      · exact absurd slash (by decide)
      · exact second.whole inSub
    have cut := Text.splitOn_flatMap written whole
      fun param member => (given param member).not_mem_written
    refine parse_eq_ok_iff.2 ⟨_, _, splitParams_eq_ok_iff.2 ⟨_, _, ?_, trim_essence first second, ?_,
      parseParams_written given⟩, build_essence first unslashed second other⟩
    · rw [toList_text_named]
      exact cut
    · exact List.append_ne_nil_of_right_ne_nil _ (List.cons_ne_nil _ _)

/-- A value is read back unless there are blanks at its ends. -/
theorem IsParam.rereadParam_eq_iff (given : IsParam param) :
    rereadParam param = param ↔ Text.trim param.2.toList = param.2.toList := by
  obtain ⟨name, value⟩ := param
  change (name, String.ofList (Text.unquote (Text.trim value.toList))) = (name, value) ↔
    Text.trim value.toList = value.toList
  constructor
  · intro same
    have kept := congrArg String.toList (Prod.mk.inj same).2
    rw [String.toList_ofList] at kept
    exact Text.strip_eq_self_of_strip kept
  · intro trimmed
    rw [trimmed, given.unquoted, String.ofList_toList]

theorem Parsed.reread_eq_iff (parsed : media.Parsed) :
    media.reread = media ↔ ∀ param ∈ media.params, Text.trim param.2.toList = param.2.toList := by
  cases parsed with
  | any => exact iff_of_true rfl fun param member => by cases member
  | @named primary sub params _ _ _ given =>
    have each : params.map rereadParam = params.map id ↔
        ∀ param ∈ params, rereadParam param = id param := List.map_inj_left
    rw [List.map_id] at each
    change MediaType.named primary sub (params.map rereadParam) = .named primary sub params ↔
      ∀ param ∈ params, _
    rw [MediaType.named.injEq]
    simp only [true_and, each]
    exact forall₂_congr fun param member => (given param member).rereadParam_eq_iff

end MediaType

end CacheGate
