import CacheGate.MediaType.Basic

/-!
# Failures of a store
-/

namespace CacheGate

/-- Why a store call failed. -/
inductive StoreError where
  | unknownCache (name : String)
  | encoding (source target : MediaType)
  | backend (detail : String)
  deriving DecidableEq, Repr

/-- The text of a store failure. -/
def StoreError.message : StoreError → String
  | .unknownCache name => s!"cache `{name}` does not exist"
  | .encoding source target =>
    "cannot convert from `" ++ source.text ++ "` to `" ++ target.text ++ "`"
  | .backend detail => s!"store failure: {detail}"

end CacheGate
