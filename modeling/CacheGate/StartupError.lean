import CacheGate.Net.SocketAddr

/-!
# Failures of the process

What can go wrong around the service itself: while it starts and while it
listens. `StartupError.chain` is what a report of the failure shows, the
failure first and its cause behind it.
-/

namespace CacheGate

/-- Why the process cannot start or go on. `detail` is the text of the cause. -/
inductive StartupError where
  | bind (address : Net.SocketAddr) (detail : String)
  | serve (detail : String)
  | telemetry (detail : String)
  | configuration (detail : String)
  deriving DecidableEq, Repr

namespace StartupError

/-- The text of a failure. -/
def message : StartupError → String
  | .bind address detail => "failed to bind listener on " ++ address.text ++ ": " ++ detail
  | .serve detail => s!"listener stopped: {detail}"
  | .telemetry detail => s!"telemetry initialization failed: {detail}"
  | .configuration detail => s!"configuration error: {detail}"

/-- The cause, where it is a failure of its own and not only a text. -/
def cause? : StartupError → Option String
  | .bind _ detail | .serve detail => some detail
  | .telemetry _ | .configuration _ => none

/-- The texts of a failure and of its cause. -/
def chain (error : StartupError) : List String := error.message :: error.cause?.toList

end StartupError

end CacheGate
