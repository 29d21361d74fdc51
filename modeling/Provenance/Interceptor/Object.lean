import Provenance.Interceptor.Basic

/-! # Objects through an interceptor

    An object proxy holds one reference on the node of its object, which is
    shared by all proxies of that object.  A handle whose bookkeeping cannot
    be set up is closed again, and what was set up before is undone. -/

namespace Provenance.Interceptor

variable {ω η τ ε : Type}

/-! ## Setting up -/

/-- Find or make the node of an object asked for in a container. -/
def trackObject [Library ω η τ] [Host ω] (memory : Memory)
    (home : ContainerId) (info : ObjectInfo τ) (kind : Kind)
    (name : Option String) (raw : η) :
    Call (Interceptor ω τ) InterceptError NodeHandle :=
  charged (.objects kind)
    ((Registry.trackIn memory home info.container kind info.token name
      raw).mapError .registry)

/-- Count a creation or an opening at the node of an object, and give a
    dataset its shape. -/
def recordAccess (memory : Memory) (node : NodeHandle) (access : Access)
    (shape : Option DatasetShape) :
    Call (Registry τ Empty) RegistryError Unit := do
  match access with
  | .created => Registry.recordCreated node.container node.kind
  | .opened => Registry.recordAccessed node.container node.kind
  match node.kind with
  | .dataset =>
      match shape with
      | some s => Registry.setDatasetShape memory node s.typeSize s.dimensions
      | none => pure ()
  | .datatype =>
      let _ ← match access with
        | .created => Registry.recordCommit node
        | .opened => Registry.recordGet node
      pure ()
  | .group | .attr =>
      let _ ← Registry.recordOp node
      pure ()

/-- The shape of a dataset as the library reports it, and the time that took.
    Other objects have none. -/
def askShape [Library ω η τ] [Host ω] (op : Operation) (kind : Kind) (raw : η) :
    Call (Interceptor ω τ) InterceptError (Option DatasetShape × Duration) :=
  match kind with
  | .dataset => do
      let (shape, elapsed) ← callLibrary op (Library.datasetShape raw)
      pure (some shape, elapsed)
  | _ => pure (none, .zero)

/-- Record the access to an object at its node; the time spent in the library
    is the answer. -/
def describeObject [Library ω η τ] [Host ω] (memory : Memory) (op : Operation)
    (node : NodeHandle) (access : Access) (raw : η) :
    Call (Interceptor ω τ) InterceptError Duration := do
  let (shape, elapsed) ← askShape op node.kind raw
  charged (.objects node.kind)
    ((Registry.alone (recordAccess memory node access shape)).mapError
      .registry)
  pure elapsed

/-- Undo the tracking of an object, and close its handle. -/
def undoTracking [Library ω η τ] [Host ω] (kind : Kind) (node : NodeHandle)
    (raw : η) : Call (Interceptor ω τ) ε Unit := do
  let _ ← charged (.objects kind) (Registry.alone (Registry.untrack node))
  discard kind raw

/-! ## Operations -/

/-- Create or open an object in the container of another proxy. -/
def openObject [Library ω η τ] [Host ω] (memory : Memory) (access : Access)
    (parent : Proxy η) (kind : Kind) (name : String) :
    Call (Interceptor ω τ) InterceptError (Proxy η) := do
  let op := Operation.object access kind
  let timer ← startTimer
  let (raw, opening) ←
    callLibrary op (Library.object access parent.handle kind name)
  let (info, asking) ← (callLibrary op (Library.objectInfo raw kind)).onError
    (discard kind raw)
  let library ← addTimes opening asking
  let home := parent.target.containerId
  let node ← (trackObject memory home info kind (some name) raw).onError
    (discard kind raw)
  let describing ← (describeObject memory op node access raw).onError
    (undoTracking kind node raw)
  let library ← addTimes library describing
  finish memory op timer library
  let i ← Call.state
  pure ⟨raw, Library.connector i.world, .object node⟩

/-- Wrap a raw handle on an object found under a container. -/
def wrapUnder [Library ω η τ] [Host ω] (memory : Memory) (op : Operation)
    (home : WrapContext) (raw : η) (kind : Kind) (name : Option String) :
    Call (Interceptor ω τ) InterceptError (Proxy η) := do
  let timer ← startTimer
  let (info, library) ← (callLibrary op (Library.objectInfo raw kind)).onError
    (discard kind raw)
  let node ← (trackObject memory home.container info kind name raw).onError
    (discard kind raw)
  finish memory op timer library
  pure ⟨raw, home.connector, .object node⟩

/-- Wrap a raw handle that reached its owner in another way. -/
def wrapObject [Library ω η τ] [Host ω] (memory : Memory) (raw : η)
    (kind : Kind) (context : WrapContext) :
    Call (Interceptor ω τ) InterceptError (Proxy η) :=
  wrapUnder memory .wrap context raw kind none

/-- Wrap the raw handle that a request under a proxy produced. -/
def completeRequest [Library ω η τ] [Host ω] (memory : Memory)
    (parent : Proxy η) (raw : η) (kind : Kind) (name : Option String) :
    Call (Interceptor ω τ) InterceptError (Proxy η) :=
  wrapUnder memory .complete ⟨parent.connector, parent.target.containerId⟩ raw
    kind name

/-- Name of the operation in the error that refuses to close the proxy of a
    file as an object. -/
def closeObjectName : String := "object_close"

/-- Close an object proxy; the references that remain on its node are the
    answer. -/
def closeObject [Library ω η τ] [Host ω] (memory : Memory) (proxy : Proxy η) :
    Call (Interceptor ω τ) (CloseError η) Nat :=
  match proxy.target with
  | .container _ => Call.fail ⟨proxy, .wrongProxy closeObjectName "object"⟩
  | .object node => do
      let op := Operation.closeObject node.kind
      let timer ← startTimer
      let library ← releaseHandle op proxy (.objectCloseRejected node.node)
        (Library.closeObject proxy.handle node.kind)
      let release ← charged (.objects node.kind)
        (Registry.alone (Registry.untrack node))
      finish memory op timer library
      pure release.remaining

/-- Give up the bookkeeping of an object proxy; its raw handle is the
    answer. -/
def unwrapObject [Host ω] (memory : Memory) (proxy : Proxy η) :
    Call (Interceptor ω τ) InterceptError η :=
  let op := Operation.unwrap
  match proxy.target with
  | .container _ => Call.fail (.wrongProxy op.name "object")
  | .object node => do
      let timer ← startTimer
      let _ ← charged (.objects node.kind)
        (Registry.alone (Registry.untrack node))
      finish memory op timer .zero
      pure proxy.handle

/-! ## Transfers -/

/-- The node of a dataset proxy; other proxies are refused. -/
def datasetNode (op : Operation) (proxy : Proxy η) :
    Except InterceptError NodeHandle :=
  match proxy.target with
  | .object node =>
      if node.kind = .dataset then .ok node
      else .error (.wrongProxy op.name "dataset")
  | .container _ => .error (.wrongProxy op.name "dataset")

/-- Move data through a dataset proxy.  The time spent in the library is
    recorded at the node; the bytes moved are the answer. -/
def transfer [Host ω] (memory : Memory) (op : Operation) (proxy : Proxy η)
    (move : ω → Except Cause Unit × ω)
    (record : NodeHandle → Duration → Call (Registry τ Empty) RegistryError Nat) :
    Call (Interceptor ω τ) InterceptError Nat := do
  let node ← Call.ofExcept (datasetNode op proxy)
  let timer ← startTimer
  let ((), library) ← callLibrary op move
  let bytes ← charged (.objects .dataset)
    ((Registry.alone (record node library)).mapError .registry)
  finish memory op timer library
  pure bytes

/-- Read the elements of a selection, or all of them. -/
def readDataset [Library ω η τ] [Host ω] (memory : Memory) (proxy : Proxy η)
    (selected : Option Nat) : Call (Interceptor ω τ) InterceptError Nat :=
  transfer memory .readDataset proxy (Library.readDataset proxy.handle selected)
    fun node elapsed => Registry.recordRead node selected elapsed

/-- Write the elements of a selection, or all of them. -/
def writeDataset [Library ω η τ] [Host ω] (memory : Memory) (proxy : Proxy η)
    (selected : Option Nat) : Call (Interceptor ω τ) InterceptError Nat :=
  transfer memory .writeDataset proxy
    (Library.writeDataset proxy.handle selected)
    fun node elapsed => Registry.recordWrite node selected elapsed

end Provenance.Interceptor
