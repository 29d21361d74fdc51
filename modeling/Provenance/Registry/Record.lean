import Provenance.Registry.Basic

/-! # Recording

    Operations on an object are counted at its node.  A node of the wrong kind
    is an error; a handle without a node is a fault. -/

namespace Provenance.Registry

variable {τ ρ α : Type}

/-- Change the counters of a node. -/
def onCounters (handle : NodeHandle)
    (f : Counters → Except RegistryError (α × Counters)) :
    Call (Registry τ ρ) RegistryError α := fun reg =>
  match reg.container? handle.container with
  | none => Call.halt (.invariant (.containerUntracked handle.container)) reg
  | some c =>
      match c.node? handle.kind handle.node with
      | none => Call.halt (.invariant (.nodeUntracked handle)) reg
      | some n =>
          match f n.counters with
          | .error e => ⟨.error e, reg, []⟩
          | .ok (a, counters) =>
              let n := { n with counters := counters }
              ⟨.value a, reg.put (c.putNode handle.kind n), []⟩

/-- Change the counters of a dataset. -/
def onDataset (handle : NodeHandle)
    (f : DatasetCounters → Except RegistryError (α × DatasetCounters)) :
    Call (Registry τ ρ) RegistryError α :=
  onCounters handle fun
    | .dataset c => (f c).map fun (a, c) => (a, .dataset c)
    | other => .error (.kindMismatch .dataset other.kind)

/-- Give a dataset its shape, which sizes later transfers. -/
def setDatasetShape (memory : Memory) (handle : NodeHandle) (typeSize : Nat)
    (dimensions : List Nat) : Call (Registry τ ρ) RegistryError Unit :=
  onDataset handle fun c =>
    if memory.grants .datasetDimensions (8 * dimensions.length) then
      .ok ((), c.reshape typeSize dimensions)
    else .error (.outOfMemory Purpose.datasetDimensions.text)

/-- Account one read; the bytes moved are the answer. -/
def recordRead (handle : NodeHandle) (selected : Option Nat)
    (elapsed : Duration) : Call (Registry τ ρ) RegistryError Nat :=
  onDataset handle fun c =>
    let bytes := c.transferSize selected
    .ok (bytes, c.addRead bytes elapsed)

/-- Account one write; the bytes moved are the answer. -/
def recordWrite (handle : NodeHandle) (selected : Option Nat)
    (elapsed : Duration) : Call (Registry τ ρ) RegistryError Nat :=
  onDataset handle fun c =>
    let bytes := c.transferSize selected
    .ok (bytes, c.addWrite bytes elapsed)

/-- Count a commit of a datatype. -/
def recordCommit (handle : NodeHandle) : Call (Registry τ ρ) RegistryError Nat :=
  onCounters handle fun
    | .datatype commits gets => .ok (commits + 1, .datatype (commits + 1) gets)
    | other => .error (.kindMismatch .datatype other.kind)

/-- Count a look-up of a datatype. -/
def recordGet (handle : NodeHandle) : Call (Registry τ ρ) RegistryError Nat :=
  onCounters handle fun
    | .datatype commits gets => .ok (gets + 1, .datatype commits (gets + 1))
    | other => .error (.kindMismatch .datatype other.kind)

/-- Count an operation on a group or an attribute. -/
def recordOp (handle : NodeHandle) : Call (Registry τ ρ) RegistryError Nat :=
  onCounters handle fun
    | .group ops => .ok (ops + 1, .group (ops + 1))
    | .attr ops => .ok (ops + 1, .attr (ops + 1))
    | other => .error (.kindMismatch .group other.kind)

end Provenance.Registry
