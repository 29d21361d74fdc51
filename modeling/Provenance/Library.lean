import Provenance.Duration
import Provenance.Files
import Provenance.Handle
import Provenance.Identity

/-! # The wrapped library

    What the interception needs from the library it wraps, and from the
    machine both run on.  Every call is a step of the state `ω` of that world:
    it may be refused, and it leaves a state either way. -/

namespace Provenance

/-- How a file or an object is come by. -/
inductive Access where
  | created
  | opened
deriving DecidableEq

/-- Where the library says that an object is, and its token. -/
structure ObjectInfo (τ : Type) where
  container : ContainerId
  token : τ
deriving DecidableEq

/-- Size of an element and extent of a dataset. -/
structure DatasetShape where
  typeSize : Nat
  dimensions : List Nat
deriving DecidableEq

/-- A library that gives out raw handles `η` and names objects by tokens
    `τ`. -/
class Library (ω : Type) (η τ : outParam Type) extends Identity ω η τ where
  /-- The instance of the library. -/
  connector : ω → ConnectorId
  /-- A handle on a container by name. -/
  container : Access → String → ω → Except Cause η × ω
  /-- Release a handle on a container.  After a failure it is still open. -/
  closeContainer : η → ω → Except Cause Unit × ω
  /-- The container behind a handle. -/
  containerId : η → ω → Except Cause ContainerId × ω
  /-- A handle on an object by name, in the container of another handle. -/
  object : Access → η → Kind → String → ω → Except Cause η × ω
  /-- Release a handle on an object.  After a failure it is still open. -/
  closeObject : η → Kind → ω → Except Cause Unit × ω
  objectInfo : η → Kind → ω → Except Cause (ObjectInfo τ) × ω
  datasetShape : η → ω → Except Cause DatasetShape × ω
  /-- Read the elements of a selection, or all of them. -/
  readDataset : η → Option Nat → ω → Except Cause Unit × ω
  /-- Write the elements of a selection, or all of them. -/
  writeDataset : η → Option Nat → ω → Except Cause Unit × ω

/-- A machine with a clock and a disk. -/
class Host (ω : Type) extends Disk ω where
  now : ω → Duration × ω

end Provenance
