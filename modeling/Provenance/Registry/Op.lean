import Provenance.Registry.Record
import Provenance.Registry.Track
import Provenance.Registry.View

/-! # Operations as data

    What a client can ask of a registry, as a value, with one answer type for
    all operations. -/

namespace Provenance.Registry

variable {ω η τ ρ : Type}

/-- An operation of a registry. -/
inductive Op (η τ ρ : Type) where
  | openContainer (id : ContainerId) (name : Option String)
  | pinContainer (id : ContainerId)
  | closeContainer (id : ContainerId)
  | track (id : ContainerId) (kind : Kind) (token : τ) (name : Option String)
      (raw : η)
  | trackIn (home reported : ContainerId) (kind : Kind) (token : τ)
      (name : Option String) (raw : η)
  | untrack (node : NodeHandle)
  | setDatasetShape (node : NodeHandle) (typeSize : Nat) (dimensions : List Nat)
  | recordRead (node : NodeHandle) (selected : Option Nat) (elapsed : Duration)
  | recordWrite (node : NodeHandle) (selected : Option Nat) (elapsed : Duration)
  | recordCommit (node : NodeHandle)
  | recordGet (node : NodeHandle)
  | recordOp (node : NodeHandle)
  | recordCreated (id : ContainerId) (kind : Kind)
  | recordAccessed (id : ContainerId) (kind : Kind)
  | attach (id : ContainerId) (resource : ρ)
  | verifyOpenThings (containers datasets : Nat)

/-- The answer of an operation. -/
inductive Answer (τ ρ : Type) where
  | done
  | count (n : Nat)
  | node (handle : NodeHandle)
  | container (c : Container τ ρ)
  /-- A reference was given back. -/
  | released (r : Release ρ)

namespace Op

/-- Do an operation. -/
def run [Identity ω η τ] (memory : Memory) :
    Op η τ ρ → Call (ω × Registry τ ρ) RegistryError (Answer τ ρ)
  | openContainer id name =>
      .container <$> alone (Registry.openContainer memory id name)
  | pinContainer id => .count <$> alone (Registry.pinContainer id)
  | closeContainer id => .released <$> alone (Registry.closeContainer id)
  | track id kind token name raw =>
      .node <$> Registry.track memory id kind token name raw
  | trackIn home reported kind token name raw =>
      .node <$> Registry.trackIn memory home reported kind token name raw
  | untrack node => .released <$> alone (Registry.untrack node)
  | setDatasetShape node typeSize dimensions => do
      alone (Registry.setDatasetShape memory node typeSize dimensions)
      pure .done
  | recordRead node selected elapsed =>
      .count <$> alone (Registry.recordRead node selected elapsed)
  | recordWrite node selected elapsed =>
      .count <$> alone (Registry.recordWrite node selected elapsed)
  | recordCommit node => .count <$> alone (Registry.recordCommit node)
  | recordGet node => .count <$> alone (Registry.recordGet node)
  | recordOp node => .count <$> alone (Registry.recordOp node)
  | recordCreated id kind => do
      alone (Registry.recordCreated id kind)
      pure .done
  | recordAccessed id kind => do
      alone (Registry.recordAccessed id kind)
      pure .done
  | attach id resource => do
      alone (Registry.attach memory id resource)
      pure .done
  | verifyOpenThings containers datasets => do
      alone (Registry.verifyOpenThings containers datasets)
      pure .done

/-- The resources that an operation lets go of: those of a freed container,
    and one that could not be attached. -/
def dropped (op : Op η τ ρ) : Outcome RegistryError (Answer τ ρ) → List ρ
  | .value (.released r) => r.dropped
  | .error _ =>
      match op with
      | attach _ resource => [resource]
      | _ => []
  | _ => []

end Op

end Provenance.Registry
