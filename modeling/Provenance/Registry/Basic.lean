import Provenance.Config
import Provenance.Memory
import Provenance.Registry.Container
import Provenance.Registry.Error

/-! # The registry

    A registry knows every open container of one execution context.  Opening
    and pinning take a reference on a container, closing gives one back; a
    container without references is freed.  It must have no nodes then, and a
    release must have a reference to give back: else the caller's bookkeeping
    is broken, and the operation ends in a fault.

    The references and the number of the next node are natural numbers, where a
    program has words (see `Container`). -/

namespace Provenance

/-- The open containers of one execution context. -/
structure Registry (τ ρ : Type) where
  containers : IdMap .container (Container τ ρ)
  /-- Number of the next new node. -/
  nextNode : Nat
  /-- Name of containers that nobody opened yet. -/
  placeholderName : String

/-- What giving back a reference leaves: the references that remain, and the
    resources let go with the last one. -/
structure Release (ρ : Type) where
  remaining : Nat
  dropped : List ρ
deriving DecidableEq

namespace Registry

variable {τ ρ ε : Type}

/-- The registry of a new execution context. -/
def ofConfig (config : Config) : Registry τ ρ :=
  ⟨.empty, 1, config.placeholderName⟩

/-- The entry of a container. -/
def container? (reg : Registry τ ρ) (id : ContainerId) :
    Option (Container τ ρ) :=
  reg.containers.get? id

/-- The node that answers to a handle. -/
def node? (reg : Registry τ ρ) (handle : NodeHandle) : Option (Node τ) :=
  (reg.container? handle.container).bind fun c =>
    c.node? handle.kind handle.node

/-- Put the entry of a container, over the one there. -/
def put (reg : Registry τ ρ) (c : Container τ ρ) : Registry τ ρ :=
  { reg with containers := reg.containers.insert c.id c }

/-- Leave out the entry of a container. -/
def remove (reg : Registry τ ρ) (id : ContainerId) : Registry τ ρ :=
  { reg with containers := reg.containers.erase id }

/-- Memory for a name, if there is one. -/
def grantsName (memory : Memory) (purpose : Purpose) (name : Option String) :
    Bool :=
  memory.grants purpose (name.elim 0 String.utf8ByteSize)

/-- Take a reference on a container, with a new entry if it has none.  A
    placeholder is promoted. -/
def openContainer (memory : Memory) (id : ContainerId) (name : Option String) :
    Call (Registry τ ρ) RegistryError (Container τ ρ) := fun reg =>
  if grantsName memory .objectName name then
    let c :=
      match reg.container? id with
      | some c => (c.promote name).retain
      | none => (Container.fresh id name false).retain
    ⟨.value c, reg.put c, []⟩
  else ⟨.error (.outOfMemory Purpose.objectName.text), reg, []⟩

/-- Take a further reference on an open container; the references it then has
    are the answer. -/
def pinContainer (id : ContainerId) : Call (Registry τ ρ) RegistryError Nat :=
  fun reg =>
    match reg.container? id with
    | some c => ⟨.value c.retain.refcount, reg.put c.retain, []⟩
    | none => ⟨.error (.containerNotOpen id), reg, []⟩

/-- Give back a reference on a container.  The last one frees it. -/
def closeContainer (id : ContainerId) :
    Call (Registry τ ρ) ε (Release ρ) := fun reg =>
  match reg.container? id with
  | none => Call.halt (.invariant (.containerUntracked id)) reg
  | some c =>
      if c.refcount = 0 then
        Call.halt (.invariant (.releasedUnreferenced id)) reg
      else
        let c := c.release
        if 0 < c.refcount then ⟨.value ⟨c.refcount, []⟩, reg.put c, []⟩
        else if c.hasChildren then
          Call.halt (.invariant (.freedWithNodes id c.counts)) (reg.put c)
        else ⟨.value ⟨0, c.attachments⟩, reg.remove id, []⟩

/-- Keep a resource until a container is freed. -/
def attach (memory : Memory) (id : ContainerId) (resource : ρ) :
    Call (Registry τ ρ) RegistryError Unit := fun reg =>
  match reg.container? id with
  | none => ⟨.error (.containerNotOpen id), reg, []⟩
  | some c =>
      if memory.grants .attachments (16 * (c.attachments.length + 1)) then
        let c := { c with attachments := c.attachments ++ [resource] }
        ⟨.value (), reg.put c, []⟩
      else ⟨.error (.outOfMemory Purpose.attachments.text), reg, []⟩

/-- Change the entry of an open container. -/
def onContainer (id : ContainerId) (f : Container τ ρ → Container τ ρ) :
    Call (Registry τ ρ) RegistryError Unit := fun reg =>
  match reg.container? id with
  | some c => ⟨.value (), reg.put (f c), []⟩
  | none => ⟨.error (.containerNotOpen id), reg, []⟩

/-- Count an object created inside a container. -/
def recordCreated (id : ContainerId) (kind : Kind) :
    Call (Registry τ ρ) RegistryError Unit :=
  onContainer id fun c => { c with created := c.created.modify kind (· + 1) }

/-- Count an object opened inside a container. -/
def recordAccessed (id : ContainerId) (kind : Kind) :
    Call (Registry τ ρ) RegistryError Unit :=
  onContainer id fun c => { c with accessed := c.accessed.modify kind (· + 1) }

end Registry

end Provenance
