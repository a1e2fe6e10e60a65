import CacheGate.Proofs.Settings.Caches
import CacheGate.Proofs.Text.Trim
import Mathlib.Data.List.Nodup

/-!
# Members of the cluster

The members are gathered one after the other, and one that is there already is
passed over. So the list that has been gathered holds what was given, each once
and in order of first occurrence; that is what a single step keeps
(`FirstOccurrences.addMember`) and a whole run as well
(`FirstOccurrences.foldl_addMember`). The node itself is the last one given.
-/

namespace CacheGate.Settings

/-! ## First occurrences -/

/-- A list holds what was given, each name once and in order of first occurrence. -/
structure FirstOccurrences (given kept : List String) : Prop where
  distinct : kept.Nodup
  mem_iff : ∀ name, name ∈ kept ↔ name ∈ given
  order : ∀ first ∈ given, ∀ second ∈ given,
    kept.idxOf first < kept.idxOf second ↔ given.idxOf first < given.idxOf second

variable {given kept : List String} {name first second member : String}

theorem idxOf_concat_lt_iff_of_mem (atFirst : first ∈ kept) (atSecond : second ∈ kept) :
    (kept ++ [member]).idxOf first < (kept ++ [member]).idxOf second ↔
      kept.idxOf first < kept.idxOf second := by
  rw [List.idxOf_append_of_mem atFirst, List.idxOf_append_of_mem atSecond]

/-- What is added last comes behind all that was there. -/
theorem idxOf_concat_lt (atFirst : first ∈ kept) (absent : member ∉ kept) :
    (kept ++ [member]).idxOf first < (kept ++ [member]).idxOf member := by
  rw [List.idxOf_append_of_mem atFirst, List.idxOf_append_of_notMem absent]
  exact Nat.lt_of_lt_of_le (List.idxOf_lt_length_iff.2 atFirst) (Nat.le_add_right _ _)

namespace FirstOccurrences

theorem nil : FirstOccurrences [] [] := ⟨.nil, fun _ => Iff.rfl, nofun⟩

/-- A member that is there already is given once more, and nothing is added. -/
theorem again (held : FirstOccurrences given kept) (present : member ∈ kept) :
    FirstOccurrences (given ++ [member]) kept := by
  have known : member ∈ given := (held.mem_iff member).1 present
  have among : ∀ name, name ∈ given ++ [member] → name ∈ given := by
    intro name found
    rcases List.mem_append.1 found with earlier | last
    · exact earlier
    · exact List.mem_singleton.1 last ▸ known
  refine ⟨held.distinct, fun name => ?_, fun first atFirst second atSecond => ?_⟩
  · rw [held.mem_iff]
    exact ⟨List.mem_append_left _, among name⟩
  · rw [idxOf_concat_lt_iff_of_mem (among _ atFirst) (among _ atSecond)]
    exact held.order first (among _ atFirst) second (among _ atSecond)

/-- A new member is added behind all others. -/
theorem concat (held : FirstOccurrences given kept) (absent : member ∉ kept) :
    FirstOccurrences (given ++ [member]) (kept ++ [member]) := by
  have unknown : member ∉ given := fun known => absent ((held.mem_iff member).2 known)
  refine ⟨List.nodup_append.2 ⟨held.distinct, List.nodup_singleton _, ?_⟩, fun name => ?_,
    fun first atFirst second atSecond => ?_⟩
  · intro name present other last same
    exact absent (List.mem_singleton.1 last ▸ same ▸ present)
  · rw [List.mem_append, List.mem_append, held.mem_iff]
  · rcases List.mem_append.1 atFirst with earlier | last
    · have kept' := (held.mem_iff first).2 earlier
      rcases List.mem_append.1 atSecond with earlier' | last'
      · rw [idxOf_concat_lt_iff_of_mem kept' ((held.mem_iff second).2 earlier'),
          idxOf_concat_lt_iff_of_mem earlier earlier']
        exact held.order first earlier second earlier'
      · obtain rfl := List.mem_singleton.1 last'
        exact iff_of_true (idxOf_concat_lt kept' absent) (idxOf_concat_lt earlier unknown)
    · obtain rfl := List.mem_singleton.1 last
      rcases List.mem_append.1 atSecond with earlier' | last'
      · exact iff_of_false (idxOf_concat_lt ((held.mem_iff second).2 earlier') absent).not_gt
          (idxOf_concat_lt earlier' unknown).not_gt
      · obtain rfl := List.mem_singleton.1 last'
        exact iff_of_false (Nat.lt_irrefl _) (Nat.lt_irrefl _)

/-- What one step keeps. -/
theorem addMember (held : FirstOccurrences given kept) (member : String) :
    FirstOccurrences (given ++ [member]) (addMember kept member) := by
  unfold Settings.addMember
  split
  case isTrue present => exact held.again present
  case isFalse absent => exact held.concat absent

/-- What a whole run keeps. -/
theorem foldl_addMember (held : FirstOccurrences given kept) (members : List String) :
    FirstOccurrences (given ++ members) (members.foldl Settings.addMember kept) := by
  induction members generalizing given kept with
  | nil =>
    rw [List.append_nil]
    exact held
  | cons member members ih =>
    rw [List.append_cons]
    exact ih (held.addMember member)

/-- A name that was given is there exactly once. -/
theorem count_eq_one (held : FirstOccurrences given kept) (known : name ∈ given) :
    kept.count name = 1 :=
  List.count_eq_one_of_mem held.distinct ((held.mem_iff name).2 known)

end FirstOccurrences

/-! ## Members -/

theorem isName_of_present? {value : Option String} (present : present? value = some name) :
    IsName name := by
  obtain ⟨text, -, read⟩ := Option.bind_eq_some_iff.1 present
  unfold Text.nonBlank? at read
  split at read
  case isTrue => cases read
  case isFalse filled =>
    obtain rfl := Option.some.inj read
    refine ⟨fun empty => filled ?_, Text.trimmed_trimmed text⟩
    have nothing := congrArg String.toList empty
    unfold Text.trimmed at nothing
    rw [String.toList_ofList] at nothing
    rw [nothing]
    rfl

/-- The name of a node, or the one it has by default. -/
theorem isName_nodeName (value : Option String) : IsName ((present? value).getD "node-1") := by
  cases given : present? value with
  | none => exact ⟨by decide, by decide⟩
  | some name => exact isName_of_present? given

variable {members found : List String} {nodeName : String}

/-- Checked members are what was written and the node, each once. -/
theorem firstOccurrences_of_checkMembers (checked : checkMembers members nodeName = .ok found) :
    FirstOccurrences (members.map Text.trimmed ++ [nodeName]) found := by
  unfold checkMembers at checked
  dsimp only at checked
  split at checked
  case isTrue => cases checked
  case isFalse =>
    obtain rfl := Except.ok.inj checked
    exact (FirstOccurrences.nil.foldl_addMember _).addMember nodeName

theorem isName_of_checkMembers (checked : checkMembers members nodeName = .ok found)
    (node : IsName nodeName) : ∀ member ∈ found, IsName member := by
  intro member present
  have given := ((firstOccurrences_of_checkMembers checked).mem_iff member).1 present
  unfold checkMembers at checked
  dsimp only at checked
  split at checked
  case isTrue => cases checked
  case isFalse filled =>
    rcases List.mem_append.1 given with written | last
    · refine ⟨fun empty => filled (List.any_eq_true.2 ⟨member, written, ?_⟩), ?_⟩
      · rw [empty]
        rfl
      · obtain ⟨text, -, rfl⟩ := List.mem_map.1 written
        exact Text.trimmed_trimmed text
    · rw [List.mem_singleton.1 last]
      exact node

end CacheGate.Settings
