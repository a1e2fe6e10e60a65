import CacheGate.Proofs.Route
import CacheGate.Proofs.Settings.Caches
import CacheGate.Proofs.Text.Cutting

/-!
# Routes and their paths

`Route.path` and `Route.segments` undo each other, since the name of a cache
has no slash: a path is cut behind the name, wherever else the key has slashes
(`segments_eq_iff`). So every entry of every cache that settings allow is
reached by its path, with or without a leading slash, and what a path reaches
can be read off it.
-/

namespace CacheGate.Route

open Http

variable {method : Method} {path lead : String} {action : Option String} {route other : Route}

theorem toList_path_entry (operation : Operation) (cache key : String) :
    (Route.path ⟨operation, cache, some key⟩).toList = cache.toList ++ '/' :: key.toList := by
  change (cache ++ "/" ++ key).toList = _
  rw [String.toList_append, String.toList_append, List.append_assoc]
  rfl

/-! ## Leading slashes -/

/-- What may stand in front of a path. -/
def leads : List String := ["", "/"]

theorem toList_of_dropSlash {cs rest : List Char} (same : dropSlash cs = rest) :
    cs = rest ∨ cs = '/' :: rest := by
  unfold dropSlash at same
  split at same
  · exact Or.inr (congrArg _ same)
  · exact Or.inl same

/-- A path that starts with the name of a cache starts with no slash of its own. -/
theorem head?_path (named : route.cache ≠ "") (whole : '/' ∉ route.cache.toList) :
    route.path.toList.head? ≠ some '/' := by
  obtain ⟨first, rest, spelled⟩ :=
    List.exists_cons_of_ne_nil (mt String.toList_eq_nil_iff.1 named)
  have other : first ≠ '/' := fun same => whole (spelled ▸ same ▸ List.mem_cons_self)
  have start : route.path.toList.head? = some first := by
    obtain ⟨operation, cache, key⟩ := route
    dsimp only at spelled
    cases key with
    | none => exact congrArg List.head? spelled
    | some key =>
      rw [toList_path_entry, spelled]
      rfl
  rw [start]
  exact fun same => other (Option.some.inj same)

theorem dropSlash_lead (listed : lead ∈ leads) (named : route.cache ≠ "")
    (whole : '/' ∉ route.cache.toList) :
    dropSlash (lead ++ route.path).toList = route.path.toList := by
  rw [String.toList_append]
  rcases List.mem_cons.1 listed with rfl | slash
  · have start := head?_path named whole
    change dropSlash route.path.toList = route.path.toList
    unfold dropSlash
    split
    case h_1 rest same =>
      rw [same] at start
      exact (start rfl).elim
    case h_2 => rfl
  · rw [List.mem_singleton.1 slash]
    rfl

/-! ## Segments -/

/-- The segments are what is in front of the first slash and what is behind it. -/
theorem segments_eq_cut (path : String) :
    segments path =
      match Text.cut? '/' (dropSlash path.toList) with
      | none => (String.ofList (dropSlash path.toList), none)
      | some (front, rest) => (String.ofList front, some (String.ofList rest)) := by
  unfold segments Text.cut?
  dsimp only
  cases (dropSlash path.toList).dropWhile (· != '/') <;> rfl

/-- A path has the segments of a route just when it is the path of the route
and the slash behind the cache is its first. -/
theorem segments_eq_iff :
    segments path = (route.cache, route.key) ↔
      '/' ∉ route.cache.toList ∧ dropSlash path.toList = route.path.toList := by
  rw [segments_eq_cut]
  obtain ⟨operation, cache, key⟩ := route
  dsimp only
  constructor
  · intro parts
    cases cut : Text.cut? '/' (dropSlash path.toList) with
    | none =>
      rw [cut] at parts
      obtain ⟨rfl, rfl⟩ := Prod.mk.inj parts
      rw [String.toList_ofList]
      exact ⟨Text.cut?_eq_none_iff.1 cut, String.toList_ofList.symm⟩
    | some segments =>
      obtain ⟨front, rest⟩ := segments
      rw [cut] at parts
      obtain ⟨rfl, rfl⟩ := Prod.mk.inj parts
      obtain ⟨whole, absent⟩ := Text.cut?_eq_some cut
      rw [toList_path_entry, String.toList_ofList, String.toList_ofList]
      exact ⟨absent, whole⟩
  · intro assembled
    obtain ⟨absent, same⟩ := assembled
    cases key with
    | none =>
      change dropSlash path.toList = cache.toList at same
      rw [same, Text.cut?_eq_none_iff.2 absent]
      exact congrArg (·, none) String.ofList_toList
    | some key =>
      rw [toList_path_entry] at same
      rw [same, Text.cut?_append absent]
      simp only [String.ofList_toList]

/-- Two routes of one path are about the same cache and the same key. -/
theorem path_inj (whole : '/' ∉ route.cache.toList) (whole' : '/' ∉ other.cache.toList)
    (same : route.path = other.path) : route.cache = other.cache ∧ route.key = other.key := by
  have slashed (text : String) : dropSlash ("/" ++ text).toList = text.toList := by
    rw [String.toList_append]
    rfl
  have parts : segments ("/" ++ route.path) = (route.cache, route.key) :=
    segments_eq_iff.2 ⟨whole, slashed _⟩
  have parts' : segments ("/" ++ route.path) = (other.cache, other.key) :=
    segments_eq_iff.2 ⟨whole', same ▸ slashed _⟩
  exact Prod.mk.inj (parts.symm.trans parts')

/-! ## Resolving -/

/-- The operation on an entry that each method asks for. -/
def entryTable : List (Method × Operation) :=
  [(.get, .read), (.head, .read), (.put, .write), (.post, .write), (.delete, .delete)]

/-- The path of a route is resolved to the route, if its method and action ask for it. -/
theorem resolve_path (fits : Settings.IsCacheName route.cache) (filled : route.key ≠ some "")
    (listed : lead ∈ leads) (asked : operationFor method action route.key = .ok route.operation) :
    resolve method (lead ++ route.path) action = .ok route := by
  have parts : segments (lead ++ route.path) = (route.cache, route.key) :=
    segments_eq_iff.2 ⟨fits.whole, dropSlash_lead listed fits.filled fits.whole⟩
  exact resolve_eq_ok_iff.2 ⟨fits.filled, filled, parts, asked⟩

/-- A path that is resolved is the path of its route, perhaps behind a slash. -/
theorem exists_lead_of_resolve (resolved : resolve method path action = .ok route) :
    ∃ lead ∈ leads, path = lead ++ route.path := by
  obtain ⟨-, -, parts, -⟩ := resolve_eq_ok_iff.1 resolved
  rcases toList_of_dropSlash (segments_eq_iff.1 parts).2 with bare | slashed
  · exact ⟨"", List.mem_cons_self, by rw [String.empty_append, String.toList_inj.1 bare]⟩
  · refine ⟨"/", List.mem_cons_of_mem _ List.mem_cons_self, String.toList_inj.1 ?_⟩
    rw [slashed, String.toList_append]
    rfl

/-- Resolving undoes the assembly of paths.

The path of an entry is resolved to the operation of the method on exactly
this cache and key, whatever the action is, and the path of a cache to the
listing or clearing of exactly this cache. A route that is found has a cache
without slashes and no empty key, and its path is the one that was resolved.
Routes to other caches or other keys have other paths. -/
theorem resolve_inverts_path :
    (∀ name, Settings.AllowsName name → ∀ key, key ≠ "" → ∀ action, ∀ lead ∈ leads,
      ∀ row ∈ entryTable,
        resolve row.1 (lead ++ (name ++ "/" ++ key)) action = .ok ⟨row.2, name, some key⟩) ∧
    (∀ name, Settings.AllowsName name → ∀ lead ∈ leads,
      resolve .get (lead ++ name) none = .ok ⟨.keys, name, none⟩ ∧
      resolve .delete (lead ++ name) none = .ok ⟨.clear, name, none⟩) ∧
    (∀ method path action route, resolve method path action = .ok route →
      route.cache ≠ "" ∧ '/' ∉ route.cache.toList ∧ route.key ≠ some "" ∧
        ∃ lead ∈ leads, path = lead ++ route.path) ∧
    ∀ method path action route method' path' action' other,
      resolve method path action = .ok route → resolve method' path' action' = .ok other →
        (route.cache, route.key) ≠ (other.cache, other.key) →
          path ≠ path' ∧ route.path ≠ other.path := by
  refine ⟨fun name allowed key filled action lead listed row served => ?_,
    fun name allowed lead listed => ?_, fun method path action route resolved => ?_,
    fun _ path _ route _ path' _ other resolved resolved' distinct => ?_⟩
  · have bound : ∀ row ∈ entryTable, entryOperation row.1 = .ok row.2 := by decide
    change resolve row.1 (lead ++ Route.path ⟨row.2, name, some key⟩) action = _
    exact resolve_path (Settings.allowsName_iff.1 allowed)
      (fun same => filled (Option.some.inj same)) listed (bound row served)
  · have fits := Settings.allowsName_iff.1 allowed
    constructor
    · change resolve .get (lead ++ Route.path ⟨.keys, name, none⟩) none = _
      exact resolve_path fits nofun listed rfl
    · change resolve .delete (lead ++ Route.path ⟨.clear, name, none⟩) none = _
      exact resolve_path fits nofun listed rfl
  · obtain ⟨named, filled, parts, -⟩ := resolve_eq_ok_iff.1 resolved
    exact ⟨named, (segments_eq_iff.1 parts).1, filled, exists_lead_of_resolve resolved⟩
  · obtain ⟨-, -, parts, -⟩ := resolve_eq_ok_iff.1 resolved
    obtain ⟨-, -, parts', -⟩ := resolve_eq_ok_iff.1 resolved'
    constructor
    · intro same
      rw [same, parts'] at parts
      exact distinct parts.symm
    · intro same
      obtain ⟨sameCache, sameKey⟩ :=
        path_inj (segments_eq_iff.1 parts).1 (segments_eq_iff.1 parts').1 same
      exact distinct (Prod.ext sameCache sameKey)

/-- A key that starts with a slash and ends like a path is found behind its cache. -/
theorem slashed_key_is_resolved :
    Settings.AllowsName "c" ∧
      resolve .put "/c//a/" (some "search") = .ok ⟨.write, "c", some "/a/"⟩ ∧
      resolve .delete "c" none = .ok ⟨.clear, "c", none⟩ ∧
      (∃ lead ∈ leads, "/c//a/" = lead ++ Route.path ⟨.write, "c", some "/a/"⟩) ∧
      "/c//a/" ≠ "c" := by
  have allowed : Settings.AllowsName "c" :=
    Settings.allowsName_iff.2 ⟨⟨by decide, by decide⟩, by decide⟩
  obtain ⟨entries, caches, routes, distinct⟩ := resolve_inverts_path
  have written := entries "c" allowed "/a/" (by decide) (some "search") "/" (by decide)
    (.put, .write) (by decide)
  have cleared := (caches "c" allowed "" (by decide)).2
  obtain ⟨-, -, -, assembled⟩ := routes _ _ _ _ written
  exact ⟨allowed, written, cleared, assembled,
    (distinct _ _ _ _ _ _ _ _ written cleared (by decide)).1⟩

end CacheGate.Route
