/-! # Memory

    Storage is asked for before it is used, and may be refused.  A memory is
    the rule that decides; an operation that is refused storage answers with
    an error and leaves its state alone. -/

namespace Provenance

/-- What storage is asked for. -/
inductive Purpose where
  /-- The name of a container that nobody opened yet. -/
  | placeholderName
  /-- The name of a container or an object. -/
  | objectName
  | datasetDimensions
  | attachments
  | statsSlots
deriving DecidableEq

/-- Name of a purpose in error texts. -/
def Purpose.text : Purpose → String
  | .placeholderName => "object name"
  | .objectName => "object name"
  | .datasetDimensions => "dataset dimensions"
  | .attachments => "container attachments"
  | .statsSlots => "stats slots"

/-- The rule that grants so many bytes for a purpose, or refuses them. -/
abbrev Memory := Purpose → Nat → Bool

namespace Memory

/-- Nothing is always granted; all else is for the rule to decide. -/
def grants (memory : Memory) (purpose : Purpose) (bytes : Nat) : Bool :=
  bytes == 0 || memory purpose bytes

/-- Grants all that an address space of 64 bits can hold. -/
def addressSpace : Memory := fun _ bytes => bytes < 1 <<< 63

end Memory

end Provenance
