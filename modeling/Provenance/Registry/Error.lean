import Provenance.Error
import Provenance.Handle
import Provenance.Identity

/-! # Errors of a registry -/

namespace Provenance

/-- Why an operation on a registry failed.  The registry is then as it was
    before. -/
inductive RegistryError where
  /-- Two tokens could not be compared. -/
  | identity (error : IdentityError)
  | containerNotOpen (id : ContainerId)
  | kindMismatch (expected actual : Kind)
  | openThingsMismatch (expectedContainers expectedDatasets : Nat)
      (containers datasets : Nat)
  | outOfMemory (what : String)
  | lockPoisoned
deriving DecidableEq

namespace RegistryError

/-- The error in words. -/
def message : RegistryError → String
  | identity error => error.message
  | containerNotOpen id => "container " ++ id.text ++ " is not open"
  | kindMismatch expected actual =>
      "expected a " ++ expected.name ++ " node, got a " ++ actual.name ++ " node"
  | openThingsMismatch expectedContainers expectedDatasets containers datasets =>
      "open things mismatch: expected " ++ toString expectedContainers
        ++ " containers and " ++ toString expectedDatasets
        ++ " datasets, found " ++ toString containers ++ " and "
        ++ toString datasets
  | outOfMemory what => "out of memory while allocating " ++ what
  | lockPoisoned => "registry lock poisoned"

/-- What the error was caused by. -/
def source : RegistryError → Option Source
  | identity error => error.source
  | _ => none

/-- The error as seen by a program that uses several layers. -/
def toError : RegistryError → Error
  | identity error => .identity error.message
  | outOfMemory what => .outOfMemory what
  | lockPoisoned => .lockPoisoned "registry"
  | e => .registry e.message

end RegistryError

end Provenance
