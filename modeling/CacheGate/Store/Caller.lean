/-!
# Who calls the store

Public store operations carry the subject of the request, which this library
passes on without looking at it. Internal reads of metadata, configuration
and placement carry an execution context instead, which is fixed for the
whole service and never derived from a request.
-/

namespace CacheGate

/-- The identity of the caller, if one is known. -/
structure Subject where
  name : Option String
  deriving DecidableEq, Repr

namespace Subject

/-- A caller without an identity. -/
def anonymous : Subject := ⟨none⟩

def named (name : String) : Subject := ⟨some name⟩

end Subject

/-- The identity of internal reads: a configured principal, or the service itself. -/
inductive ExecutionContext where
  | elevated (principal : String)
  | service
  deriving DecidableEq, Repr

namespace ExecutionContext

/-- No configured principal means the service itself. -/
def ofPrincipal : Option String → ExecutionContext
  | some principal => .elevated principal
  | none => .service

/-- The configured principal. -/
def principal? : ExecutionContext → Option String
  | .elevated principal => some principal
  | .service => none

def isElevated : ExecutionContext → Bool
  | .elevated _ => true
  | .service => false

end ExecutionContext

end CacheGate
