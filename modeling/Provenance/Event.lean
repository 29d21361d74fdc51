import Provenance.Fault

/-! # Events

    What the library reports besides its answers: warnings, and one error for
    each broken invariant.  Errors of other layers appear in an event by their
    message. -/

namespace Provenance

/-- How serious an event is. -/
inductive Level where
  | warn
  | error
deriving DecidableEq

/-- Name of a level. -/
def Level.name : Level → String
  | .warn => "WARN"
  | .error => "ERROR"

/-- Something worth the attention of whoever runs the program. -/
inductive Event where
  /-- The registry does not match the bookkeeping of its caller. -/
  | invariantBroken (broken : Violation)
  /-- A container was still open when its registry was torn down. -/
  | containerStillOpen (id : ContainerId) (name : Option String)
      (refcount : Nat)
  /-- The open containers and datasets are not those expected. -/
  | openThingsMismatch (expectedContainers expectedDatasets : Nat)
      (containers datasets : Nat)
  /-- The library refused to close a container. -/
  | containerCloseRejected (id : ContainerId) (error : String)
  /-- The library refused to close an object. -/
  | objectCloseRejected (node : NodeId) (error : String)
  /-- A container handle without an entry could not be closed. -/
  | containerReleaseFailed (error : String)
  /-- An object handle without a node could not be closed. -/
  | objectReleaseFailed (kind : Kind) (error : String)
  /-- The duration of an operation found no place in the statistics. -/
  | timingDropped (operation : String) (error : String)
deriving DecidableEq

namespace Event

/-- Broken invariants are errors, all else is a warning. -/
def level : Event → Level
  | invariantBroken _ => .error
  | _ => .warn

/-- What happened. -/
def message : Event → String
  | invariantBroken broken => broken.message
  | containerStillOpen .. => "container still open at registry teardown"
  | openThingsMismatch .. => "open things mismatch"
  | containerCloseRejected .. => "container close rejected"
  | objectCloseRejected .. => "object close rejected"
  | containerReleaseFailed .. => "failed to release unregistered container"
  | objectReleaseFailed .. => "failed to release untracked object"
  | timingDropped .. => "operation timing dropped"

/-- The particulars, by name. -/
def fields : Event → List (String × String)
  | invariantBroken _ => []
  | containerStillOpen id name refcount =>
      [("container_id", id.text), ("name", name.getD "-"),
        ("refcount", toString refcount)]
  | openThingsMismatch expectedContainers expectedDatasets containers datasets =>
      [("expected_containers", toString expectedContainers),
        ("expected_datasets", toString expectedDatasets),
        ("containers", toString containers), ("datasets", toString datasets)]
  | containerCloseRejected id error =>
      [("container_id", id.text), ("error", error)]
  | objectCloseRejected node error =>
      [("node_id", node.text), ("error", error)]
  | containerReleaseFailed error => [("error", error)]
  | objectReleaseFailed kind error =>
      [("kind", kind.name), ("error", error)]
  | timingDropped operation error =>
      [("op", operation), ("error", error)]

end Event

/-- The events that a fault leaves behind: one for a broken invariant. -/
def Fault.events : Fault → List Event
  | .invariant broken => [.invariantBroken broken]
  | _ => []

end Provenance
