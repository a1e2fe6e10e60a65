import CacheGate.Http.Method

/-!
# Routes

A path names a cache by its first segment and a key by everything after the
first slash, so keys may contain slashes themselves. `resolve` binds method,
path and action to an operation without looking at any store; `Route.path`
writes the path of a route.
-/

namespace CacheGate

open Http

/-- What a request asks for. -/
inductive Operation where
  | read
  | write
  | delete
  | clear
  | keys
  | search
  deriving DecidableEq, Repr

/-- The name of an operation in logs and metrics. -/
def Operation.label : Operation → String
  | .read => "read"
  | .write => "write"
  | .delete => "delete"
  | .clear => "clear"
  | .keys => "keys"
  | .search => "search"

/-- A resolved route; operations on a whole cache have no key. -/
structure Route where
  operation : Operation
  cache : String
  key : Option String
  deriving DecidableEq, Repr

/-- Why a request has no route. -/
inductive RouteError where
  | notFound
  | methodNotAllowed (allowed : List Method)
  | noKey
  | unknownAction (action : String)
  deriving DecidableEq, Repr

namespace Route

/-! ## Paths -/

/-- The path of a route, without a leading slash. -/
def path (route : Route) : String :=
  match route.key with
  | none => route.cache
  | some key => route.cache ++ "/" ++ key

/-- A path without one leading slash, if it has any. -/
def dropSlash : List Char → List Char
  | '/' :: rest => rest
  | cs => cs

/-- The cache segment and, behind the first slash, the key. -/
def segments (path : String) : String × Option String :=
  let cs := dropSlash path.toList
  match cs.dropWhile (· != '/') with
  | [] => (String.ofList cs, none)
  | _ :: key => (String.ofList (cs.takeWhile (· != '/')), some (String.ofList key))

/-! ## Methods -/

/-- The methods of an entry path. -/
def entryMethods : List Method := [.get, .head, .put, .post, .delete]

/-- The methods of a cache path. -/
def cacheMethods : List Method := [.get, .delete]

/-- The methods of a search. -/
def searchMethods : List Method := [.get, .post]

/-- The operation of a method on an entry. -/
def entryOperation : Method → Except RouteError Operation
  | .get | .head => .ok .read
  | .put | .post => .ok .write
  | .delete => .ok .delete
  | .other _ => .error (.methodNotAllowed entryMethods)

/-- The operation of a method and an action on a cache. -/
def cacheOperation (method : Method) : Option String → Except RouteError Operation
  | some "search" =>
    match method with
    | .get | .post => .ok .search
    | _ => .error (.methodNotAllowed searchMethods)
  | some action => .error (.unknownAction action)
  | none =>
    match method with
    | .get => .ok .keys
    | .delete => .ok .clear
    | _ => .error (.methodNotAllowed cacheMethods)

/-- The route of a request. The method is checked before an empty key. -/
def resolve (method : Method) (path : String) (action : Option String) :
    Except RouteError Route :=
  match segments path with
  | (cache, key) =>
    if cache.isEmpty then .error .notFound
    else match key with
      | none => (cacheOperation method action).map fun operation => ⟨operation, cache, none⟩
      | some key =>
        match entryOperation method with
        | .error error => .error error
        | .ok operation =>
          if key.isEmpty then .error .noKey else .ok ⟨operation, cache, some key⟩

end Route

end CacheGate
