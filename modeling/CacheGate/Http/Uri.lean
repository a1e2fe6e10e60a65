/-!
# Request targets

The target of a request is a path with an optional query; a fragment is
ignored. A target with a scheme carries an authority in front of the path.
-/

namespace CacheGate.Http

/-- The parts of a request target that are used. -/
structure Uri where
  path : String
  query : Option String
  deriving DecidableEq, Repr

namespace Uri

/-- The text behind `://`, if there is any. -/
def afterScheme? : List Char → Option (List Char)
  | ':' :: '/' :: '/' :: rest => some rest
  | _ :: rest => afterScheme? rest
  | [] => none

/-- A target without scheme and authority. An authority alone has no path. -/
def originForm (target : List Char) : List Char :=
  if target.head? = some '/' || target = ['*'] then target
  else match afterScheme? target with
    | none => []
    | some rest =>
      let path := rest.dropWhile fun c => c != '/' && c != '?' && c != '#'
      if path.head? = some '/' then path else '/' :: path

/-- Splits a target into path and query. -/
def parse (target : String) : Uri :=
  let visible := (originForm target.toList).takeWhile (· != '#')
  let path := String.ofList (visible.takeWhile (· != '?'))
  match visible.dropWhile (· != '?') with
  | [] => ⟨path, none⟩
  | _ :: query => ⟨path, some (String.ofList query)⟩

end Uri

end CacheGate.Http
