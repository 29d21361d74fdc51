import Provenance.Registry.Basic

/-! # Tracking

    Tracking finds or makes the one node of an object inside a container: the
    nodes of its kind are compared with its token, the newest first, and the
    first that names the same object is taken.  An object found in another
    container than the one it was asked for is tracked in the one it is in,
    with a placeholder entry if that is not open. -/

namespace Provenance.Registry

variable {ω η τ ρ ε : Type}

/-- Take a further reference on a node. -/
def reuseNode (handle : NodeHandle) : Call (Registry τ ρ) ε NodeHandle :=
  fun reg =>
    match reg.container? handle.container with
    | none => Call.halt (.invariant (.containerUntracked handle.container)) reg
    | some c =>
        match c.node? handle.kind handle.node with
        | none => Call.halt (.invariant (.nodeUntracked handle)) reg
        | some n =>
            ⟨.value n.handle, reg.put (c.putNode handle.kind n.again), []⟩

/-- Make a node for an object, with a reference on it and one by it on its
    container. -/
def makeNode (memory : Memory) (id : ContainerId) (kind : Kind) (token : τ)
    (name : Option String) : Call (Registry τ ρ) RegistryError NodeHandle :=
  fun reg =>
    if grantsName memory .objectName name then
      match reg.container? id with
      | none => Call.halt (.invariant (.containerUntracked id)) reg
      | some c =>
          let n := Node.first ⟨reg.nextNode⟩ id kind token name
          let reg := { reg with nextNode := reg.nextNode + 1 }
          ⟨.value ⟨id, kind, n.id⟩, reg.put (c.addNode kind n), []⟩
    else ⟨.error (.outOfMemory Purpose.objectName.text), reg, []⟩

/-- Work on the registry beside the library. -/
def alone {α : Type} (x : Call (Registry τ ρ) ε α) :
    Call (ω × Registry τ ρ) ε α :=
  x.focus Prod.snd fun reg s => (s.1, reg)

/-- Ask the library beside the registry. -/
def ask {α : Type} (x : Call ω IdentityError α) :
    Call (ω × Registry τ ρ) RegistryError α :=
  (x.mapError .identity).focus Prod.fst fun w s => (w, s.2)

/-- Find or make the node of an object in an open container, and take a
    reference on it. -/
def track [Identity ω η τ] (memory : Memory) (id : ContainerId) (kind : Kind)
    (token : τ) (name : Option String) (raw : η) :
    Call (ω × Registry τ ρ) RegistryError NodeHandle := do
  let (_, reg) ← Call.state
  match reg.container? id with
  | none => Call.fail (.containerNotOpen id)
  | some c =>
      match ← ask (Identity.firstMatch Node.token raw token
          (c.newestFirst kind)) with
      | some n => alone (reuseNode ⟨id, kind, n.id⟩)
      | none => alone (makeNode memory id kind token name)

/-- A placeholder entry for a container that is not open. -/
def makePlaceholder (memory : Memory) (id : ContainerId) :
    Call (Registry τ ρ) RegistryError Unit := fun reg =>
  if grantsName memory .placeholderName (some reg.placeholderName) then
    let c := Container.fresh id (some reg.placeholderName) true
    ⟨.value (), reg.put c, []⟩
  else ⟨.error (.outOfMemory Purpose.placeholderName.text), reg, []⟩

/-- Track an object asked for in `home` and reported to be in `reported`.  A
    placeholder made for it goes away with a failure. -/
def trackIn [Identity ω η τ] (memory : Memory) (home reported : ContainerId)
    (kind : Kind) (token : τ) (name : Option String) (raw : η) :
    Call (ω × Registry τ ρ) RegistryError NodeHandle := do
  let (_, reg) ← Call.state
  if reported = home ∨ reg.containers.contains reported then
    track memory reported kind token name raw
  else
    alone (makePlaceholder memory reported)
    (track memory reported kind token name raw).onError
      (alone (Call.modify fun reg => reg.remove reported))

/-- Give back a reference on a node.  The last one frees the node, and gives
    back its reference on its container. -/
def untrack (handle : NodeHandle) : Call (Registry τ ρ) ε (Release ρ) :=
  fun reg =>
    match reg.container? handle.container with
    | none => Call.halt (.invariant (.containerUntracked handle.container)) reg
    | some c =>
        match c.node? handle.kind handle.node with
        | none => Call.halt (.invariant (.nodeUntracked handle)) reg
        | some n =>
            let n := { n with refcount := n.refcount - 1 }
            if 0 < n.refcount then
              ⟨.value ⟨n.refcount, []⟩, reg.put (c.putNode handle.kind n), []⟩
            else
              let reg := reg.put (c.removeNode handle.kind handle.node)
              let r := closeContainer handle.container reg
              ⟨r.outcome.map fun release => ⟨0, release.dropped⟩, r.state,
                r.events⟩

end Provenance.Registry
