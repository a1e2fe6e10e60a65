import CacheGate.Route

/-!
# Resolved routes

What a route says of its request is read off once (`Route.resolve_eq_ok_iff`).
A request that has a route is about one entry, whose key is not empty, or about
a whole cache; the operation tells which (`Route.resolve_shape`).
-/

namespace CacheGate.Route

open Http

variable {method : Method} {path cache : String} {action key : Option String}
  {operation : Operation} {route : Route}

theorem entryOperation_shape (bound : entryOperation method = .ok operation) :
    operation = .read ∨ operation = .write ∨ operation = .delete := by
  cases method <;> cases bound <;> simp

theorem cacheOperation_shape (bound : cacheOperation method action = .ok operation) :
    operation = .clear ∨ operation = .keys ∨ operation = .search := by
  unfold cacheOperation at bound
  split at bound
  · split at bound <;> cases bound <;> simp
  · cases bound
  · split at bound <;> cases bound <;> simp

/-- The operation that a method and an action ask for on an entry or a whole cache. -/
def operationFor (method : Method) (action : Option String) :
    Option String → Except RouteError Operation
  | none => cacheOperation method action
  | some _ => entryOperation method

/-- On the path of a cache the method is checked first, and then for an empty key. -/
theorem resolve_of_segments (parts : segments path = (cache, key)) (named : cache ≠ "") :
    resolve method path action =
      match operationFor method action key with
      | .error error => .error error
      | .ok operation =>
        if key = some "" then .error .noKey else .ok ⟨operation, cache, key⟩ := by
  unfold resolve
  rw [parts]
  dsimp only
  rw [if_neg (mt String.isEmpty_iff.1 named)]
  cases key with
  | none =>
    unfold operationFor
    cases cacheOperation method action <;> rfl
  | some raw =>
    unfold operationFor
    have blank : raw.isEmpty = true ↔ some raw = some "" :=
      String.isEmpty_iff.trans Option.some_inj.symm
    cases entryOperation method with
    | error error => rfl
    | ok operation => exact ite_congr (propext blank) (fun _ => rfl) fun _ => rfl

/-- What there is to a route: its cache and its key, neither of them empty, are
the segments of the path, and its operation is the one that is asked for. -/
theorem resolve_eq_ok_iff :
    resolve method path action = .ok route ↔
      route.cache ≠ "" ∧ route.key ≠ some "" ∧ segments path = (route.cache, route.key) ∧
        operationFor method action route.key = .ok route.operation := by
  constructor
  · intro resolved
    rcases parts : segments path with ⟨cache, key⟩
    by_cases named : cache = ""
    · unfold resolve at resolved
      rw [parts, named] at resolved
      cases resolved
    · rw [resolve_of_segments parts named] at resolved
      split at resolved
      case h_1 => cases resolved
      case h_2 operation asked =>
        split at resolved
        case isTrue => cases resolved
        case isFalse filled =>
          obtain rfl := Except.ok.inj resolved
          exact ⟨named, filled, rfl, asked⟩
  · intro fits
    obtain ⟨named, filled, parts, asked⟩ := fits
    rw [resolve_of_segments parts named, asked]
    exact if_neg filled

theorem resolve_shape (resolved : resolve method path action = .ok route) :
    (∃ raw, route.key = some raw ∧ raw.isEmpty = false ∧
      (route.operation = .read ∨ route.operation = .write ∨ route.operation = .delete)) ∨
    (route.key = none ∧
      (route.operation = .clear ∨ route.operation = .keys ∨ route.operation = .search)) := by
  obtain ⟨-, filled, -, asked⟩ := resolve_eq_ok_iff.1 resolved
  cases key : route.key with
  | none =>
    rw [key] at asked
    exact Or.inr ⟨rfl, cacheOperation_shape asked⟩
  | some raw =>
    rw [key] at asked filled
    refine Or.inl ⟨raw, rfl, String.isEmpty_eq_false_iff.2 ?_, entryOperation_shape asked⟩
    exact fun blank => filled (congrArg some blank)

end CacheGate.Route
