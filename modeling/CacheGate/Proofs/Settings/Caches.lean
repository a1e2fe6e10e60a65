import CacheGate.Proofs.Text.Trim
import CacheGate.Proofs.WriteExpiration
import CacheGate.Settings.Basic
import Mathlib.Data.List.Forall2

/-!
# Caches of accepted settings

What has been checked of every cache once settings are accepted: each written
cache gives one cache, in order and under a name that none before it has
(`checkEach_eq_ok`), unless no cache is written at all and there is the default
one.

A name is allowed if some settings are accepted that have a cache of this name,
which means that it is a trimmed text without slashes (`allowsName_iff`).
-/

namespace CacheGate.Settings

variable {raw : RawSettings} {settings : Settings} {written : RawCache} {cache : CacheSettings}
  {caches : List CacheSettings} {seen : List String} {name : String} {storage : Option String}
  {format : Option MediaType}

/-! ## Fields -/

/-- A storage format is absent or blank, or it is read and is not the full range. -/
theorem checkStorage_eq_ok_iff :
    checkStorage storage = .ok format ↔
      (present? storage = none ∧ format = none) ∨
        ∃ text media, present? storage = some text ∧ MediaType.parse text = .ok media ∧
          media ≠ .any ∧ format = some media := by
  unfold checkStorage
  cases given : present? storage with
  | none => simp [eq_comm]
  | some text =>
    cases read : MediaType.parse text with
    | error error => simp [refuse, read]
    | ok media => cases media <;> simp [refuse, read, eq_comm]

/-- A name is trimmed, and is accepted if it is new and fit for a path segment. -/
theorem checkName_eq_ok_iff :
    checkName seen written.name = .ok name ↔
      name = Text.trimmed written.name ∧ name.isEmpty = false ∧ '/' ∉ name.toList ∧
        name ∉ seen := by
  unfold checkName
  dsimp only
  split
  case isTrue unfit =>
    refine ⟨nofun, ?_⟩
    rintro ⟨rfl, filled, whole, -⟩
    simp [filled, whole] at unfit
  case isFalse fit =>
    simp only [Bool.or_eq_true, List.contains_iff_mem, not_or, Bool.not_eq_true] at fit
    split
    case isTrue twice =>
      refine ⟨nofun, ?_⟩
      rintro ⟨rfl, -, -, fresh⟩
      exact (fresh twice).elim
    case isFalse fresh =>
      rw [Except.ok.injEq]
      constructor
      · rintro rfl
        exact ⟨rfl, fit.1, fit.2, fresh⟩
      · rintro ⟨rfl, -⟩
        rfl

/-! ## Caches -/

/-- A check in steps is passed when each step is. -/
theorem bind_eq_ok_iff {α β : Type} {check : Except LoadError α} {next : α → Except LoadError β}
    {result : β} :
    (check >>= next) = .ok result ↔ ∃ found, check = .ok found ∧ next found = .ok result := by
  cases check <;> simp [bind, Except.bind]

theorem checkCache_eq_ok_iff :
    checkCache seen written = .ok cache ↔
      checkName seen written.name = .ok cache.name ∧
        checkStorage written.storageMediaType = .ok cache.storage ∧
        checkExpiration "caches.lifespan_seconds" written.lifespanSeconds = .ok cache.lifespan ∧
        checkExpiration "caches.max_idle_seconds" written.maxIdleSeconds = .ok cache.maxIdle := by
  unfold checkCache
  simp only [bind_eq_ok_iff]
  constructor
  · rintro ⟨name, named, format, stored, lifespan, lives, maxIdle, idles, same⟩
    obtain rfl := Except.ok.inj same
    exact ⟨named, stored, lives, idles⟩
  · rintro ⟨named, stored, lives, idles⟩
    exact ⟨_, named, _, stored, _, lives, _, idles, rfl⟩

/-- Each written cache gives one cache, under a name that none before it has. -/
theorem checkEach_eq_ok {each : List RawCache} (checked : checkEach seen each = .ok caches) :
    List.Forall₂ (fun written cache => ∃ before, checkCache before written = .ok cache)
      each caches ∧ (caches.map CacheSettings.name).Nodup ∧
        ∀ cache ∈ caches, cache.name ∉ seen := by
  induction each generalizing seen caches with
  | nil =>
    obtain rfl := Except.ok.inj checked
    exact ⟨.nil, .nil, nofun⟩
  | cons written each ih =>
    obtain ⟨cache, first, checked⟩ := bind_eq_ok_iff.1 checked
    obtain ⟨rest, others, same⟩ := bind_eq_ok_iff.1 checked
    obtain rfl := Except.ok.inj same
    obtain ⟨pairs, distinct, later⟩ := ih others
    obtain ⟨-, -, -, fresh⟩ := checkName_eq_ok_iff.1 (checkCache_eq_ok_iff.1 first).1
    refine ⟨.cons ⟨seen, first⟩ pairs, List.nodup_cons.2 ⟨fun again => ?_, distinct⟩,
      List.forall_mem_cons.2 ⟨fresh, fun other member known => ?_⟩⟩
    · obtain ⟨other, member, same⟩ := List.mem_map.1 again
      exact later other member (List.mem_append_right seen (List.mem_singleton.2 same))
    · exact later other member (List.mem_append_left _ known)

/-- The caches are those that were written, or the default one. -/
theorem caches_of_ofRaw (accepted : ofRaw raw = .ok settings) :
    checkCaches raw.caches = .ok settings.caches := by
  unfold ofRaw at accepted
  simp only [bind_eq_ok_iff] at accepted
  obtain ⟨_, -, _, -, _, -, _, -, _, -, _, -, caches, checked, same⟩ := accepted
  obtain rfl := Except.ok.inj same
  exact checked

/-- Without any written cache there is the default one, else one for each that is written. -/
theorem pairs_of_ofRaw (accepted : ofRaw raw = .ok settings) :
    (raw.caches = [] ∧ settings.caches = [defaultCache]) ∨
      List.Forall₂ (fun written cache => ∃ before, checkCache before written = .ok cache)
        raw.caches settings.caches := by
  have checked := caches_of_ofRaw accepted
  unfold checkCaches at checked
  split at checked
  case isTrue empty => exact Or.inl ⟨List.isEmpty_iff.1 empty, (Except.ok.inj checked).symm⟩
  case isFalse => exact Or.inr (checkEach_eq_ok checked).1

theorem nodup_names_of_ofRaw (accepted : ofRaw raw = .ok settings) :
    (settings.caches.map CacheSettings.name).Nodup := by
  have checked := caches_of_ofRaw accepted
  unfold checkCaches at checked
  split at checked
  case isTrue =>
    rw [← Except.ok.inj checked]
    exact List.pairwise_singleton ..
  case isFalse => exact (checkEach_eq_ok checked).2.1

/-- What is true of the default cache and of every cache that passes its checks
is true of all caches. -/
theorem forall_caches_of_ofRaw {property : CacheSettings → Prop}
    (accepted : ofRaw raw = .ok settings) (default : property defaultCache)
    (each : ∀ seen written cache, checkCache seen written = .ok cache → property cache) :
    ∀ cache ∈ settings.caches, property cache := by
  rcases pairs_of_ofRaw accepted with ⟨-, alone⟩ | pairs
  · rw [alone]
    exact List.forall_mem_singleton.2 default
  · generalize raw.caches = written, settings.caches = caches at pairs ⊢
    induction pairs with
    | nil => exact nofun
    | cons checked _ ih =>
      obtain ⟨before, checked⟩ := checked
      exact List.forall_mem_cons.2 ⟨each _ _ _ checked, ih⟩

/-! ## Names and limits -/

/-- A text of which something is left when the blank characters at its ends are
dropped, and they have been. -/
structure IsName (name : String) : Prop where
  filled : name ≠ ""
  trimmed : Text.trimmed name = name

/-- A name that can be the first segment of a path. -/
structure IsCacheName (name : String) : Prop extends IsName name where
  whole : '/' ∉ name.toList

/-- A cache under a name that fits, whose entries last without limit or at
least a second. -/
structure IsFit (cache : CacheSettings) : Prop where
  name : IsCacheName cache.name
  lifespan : cache.lifespan.IsPositive
  maxIdle : cache.maxIdle.IsPositive

theorem isCacheName_of_checkName (checked : checkName seen written.name = .ok name) :
    IsCacheName name := by
  obtain ⟨same, filled, whole, -⟩ := checkName_eq_ok_iff.1 checked
  refine ⟨⟨?_, ?_⟩, whole⟩
  · intro empty
    rw [empty] at filled
    cases filled
  · rw [same, Text.trimmed_trimmed]

theorem isPositive_of_checkExpiration {key : String} {stated : Option Nat} {limit : Expiration}
    (checked : checkExpiration key stated = .ok limit) : limit.IsPositive := by
  unfold checkExpiration at checked
  split at checked
  · cases checked
  · rename_i nonzero
    obtain rfl := Except.ok.inj checked
    cases stated with
    | none => exact nofun
    | some count =>
      intro zero
      exact nonzero (congrArg some (Expiration.seconds.inj zero))

theorem isFit_of_checkCache (checked : checkCache seen written = .ok cache) : IsFit cache := by
  obtain ⟨named, -, lives, idles⟩ := checkCache_eq_ok_iff.1 checked
  exact ⟨isCacheName_of_checkName named, isPositive_of_checkExpiration lives,
    isPositive_of_checkExpiration idles⟩

theorem isFit_defaultCache : IsFit defaultCache :=
  ⟨⟨⟨by decide, by decide⟩, by decide⟩, by decide, by decide⟩

theorem isFit_of_ofRaw (accepted : ofRaw raw = .ok settings) :
    ∀ cache ∈ settings.caches, IsFit cache :=
  forall_caches_of_ofRaw accepted isFit_defaultCache fun _ _ _ => isFit_of_checkCache

theorem caches_ne_nil_of_ofRaw (accepted : ofRaw raw = .ok settings) : settings.caches ≠ [] := by
  rcases pairs_of_ofRaw accepted with ⟨-, alone⟩ | pairs
  · rw [alone]
    exact List.cons_ne_nil _ _
  · intro none
    have checked := caches_of_ofRaw accepted
    rw [none] at checked pairs
    rw [List.forall₂_nil_right_iff.1 pairs] at checked
    cases checked

/-! ## Allowed names -/

/-- Some settings are accepted with a cache of this name. -/
def AllowsName (name : String) : Prop :=
  ∃ raw settings, ofRaw raw = .ok settings ∧ name ∈ settings.caches.map CacheSettings.name

/-- Without any other settings, caches are accepted if they pass their checks. -/
theorem exists_ofRaw_of_checkCaches {written : List RawCache}
    (checked : checkCaches written = .ok caches) :
    ∃ settings, ofRaw { (default : RawSettings) with caches := written } = .ok settings ∧
      settings.caches = caches := by
  have address : checkAddress default = .ok (.v4 [127, 0, 0, 1] 11222) := by decide
  have contextPath : checkContextPath default = .ok "/rest/v2/caches" := by decide
  have members : checkMembers default "node-1" = .ok ["node-1"] := by decide
  unfold ofRaw
  simp only [bind_eq_ok_iff]
  exact ⟨_, ⟨_, address, _, contextPath, _, rfl, _, rfl, _, rfl, _, members, _, checked, rfl⟩, rfl⟩

/-- The allowed names are the trimmed texts without slashes. -/
theorem allowsName_iff : AllowsName name ↔ IsCacheName name := by
  constructor
  · intro allowed
    obtain ⟨raw, settings, accepted, member⟩ := allowed
    obtain ⟨cache, present, rfl⟩ := List.mem_map.1 member
    exact (isFit_of_ofRaw accepted cache present).name
  · intro fits
    have named : checkName [] name = .ok name := by
      have filled : name.isEmpty = false := String.isEmpty_eq_false_iff.2 fits.filled
      exact (@checkName_eq_ok_iff ⟨name, none, none, none⟩ _ _).2
        ⟨fits.trimmed.symm, filled, fits.whole, List.not_mem_nil⟩
    have checked : checkCaches [⟨name, none, none, none⟩] =
        .ok [⟨name, .unlimited, .unlimited, none⟩] := by
      unfold checkCaches checkEach checkCache
      simp only
      rw [named]
      rfl
    obtain ⟨settings, accepted, same⟩ := exists_ofRaw_of_checkCaches checked
    refine ⟨_, settings, accepted, ?_⟩
    rw [same]
    exact List.mem_cons_self

end CacheGate.Settings
