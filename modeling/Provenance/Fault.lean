import Provenance.Handle

/-! # Faults

    A fault is not an answer of an operation.  It says that the caller broke
    the bookkeeping (`Violation`) or asked for arithmetic that has no result,
    and it ends the operation on the spot. -/

namespace Provenance

/-- A broken promise of a caller of the registry. -/
inductive Violation where
  /-- The container has no entry. -/
  | containerUntracked (id : ContainerId)
  /-- A release of a container that has no references left. -/
  | releasedUnreferenced (id : ContainerId)
  /-- The last reference of a container went away under open nodes. -/
  | freedWithNodes (id : ContainerId) (counts : PerKind Nat)
  /-- The container has no such node. -/
  | nodeUntracked (node : NodeHandle)
deriving DecidableEq

/-- Counts in brackets, separated by a comma and a blank. -/
def PerKind.bracketed (counts : PerKind Nat) : String :=
  "[" ++ ", ".intercalate (counts.toList.map toString) ++ "]"

/-- What was broken, in words. -/
def Violation.message : Violation → String
  | .containerUntracked id => "container " ++ id.text ++ " is not tracked"
  | .releasedUnreferenced id =>
      "container " ++ id.text ++ " released with refcount 0"
  | .freedWithNodes id counts =>
      "container " ++ id.text ++ " freed with open nodes " ++ counts.bracketed
  | .nodeUntracked node =>
      node.kind.name ++ " node " ++ node.node.text
        ++ " not tracked in container " ++ node.container.text

/-- Why an operation ended without an answer. -/
inductive Fault where
  /-- The registry no longer matches the bookkeeping of its caller. -/
  | invariant (broken : Violation)
  /-- A remainder by zero. -/
  | zeroDivisor
  /-- The sum of a list of durations passes the longest duration. -/
  | durationSum
  /-- The sum of two durations passes the longest duration. -/
  | durationAdd
deriving DecidableEq

/-- The reason in words. -/
def Fault.message : Fault → String
  | .invariant broken => "registry invariant violated: " ++ broken.message
  | .zeroDivisor =>
      "attempt to calculate the remainder with a divisor of zero"
  | .durationSum => "overflow in iter::sum over durations"
  | .durationAdd => "overflow when adding durations"

end Provenance
