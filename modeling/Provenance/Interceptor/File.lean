import Provenance.Interceptor.Basic

/-! # Files through an interceptor

    A file proxy holds one reference on the entry of its container, and so
    does a pin.  A container outlives its proxies as long as it is pinned or
    objects inside it are open. -/

namespace Provenance.Interceptor

variable {ω η τ ε : Type}

/-- Register the container behind a handle; the time spent in the library is
    added to that spent before. -/
def registerContainer [Library ω η τ] [Host ω] (memory : Memory)
    (op : Operation) (name : String) (raw : η) (before : Duration) :
    Call (Interceptor ω τ) InterceptError (ContainerId × Duration) := do
  let (id, elapsed) ← callLibrary op (Library.containerId raw)
  let library ← addTimes before elapsed
  let _ ← charged .containers
    ((Registry.alone (Registry.openContainer memory id (some name))).mapError
      .registry)
  pure (id, library)

/-- Create or open a file.  A handle whose container cannot be registered is
    closed again. -/
def openFile [Library ω η τ] [Host ω] (memory : Memory) (access : Access)
    (name : String) : Call (Interceptor ω τ) InterceptError (Proxy η) := do
  let op := Operation.file access
  let timer ← startTimer
  let (raw, elapsed) ← callLibrary op (Library.container access name)
  let (id, library) ← (registerContainer memory op name raw elapsed).onError
    (discardContainer raw)
  finish memory op timer library
  let i ← Call.state
  pure ⟨raw, Library.connector i.world, .container id⟩

/-- Close a file proxy; the references that remain on its container are the
    answer. -/
def closeFile [Library ω η τ] [Host ω] (memory : Memory) (proxy : Proxy η) :
    Call (Interceptor ω τ) (CloseError η) Nat :=
  let op := Operation.closeFile
  match proxy.target with
  | .object _ => Call.fail ⟨proxy, .wrongProxy op.name "container"⟩
  | .container id => do
      let timer ← startTimer
      let library ← releaseHandle op proxy (.containerCloseRejected id)
        (Library.closeContainer proxy.handle)
      let release ← charged .containers
        (Registry.alone (Registry.closeContainer id))
      finish memory op timer library
      pure release.remaining

/-- Pin the container of a proxy, so that objects can be wrapped under it
    later. -/
def pin [Host ω] (memory : Memory) (proxy : Proxy η) :
    Call (Interceptor ω τ) InterceptError WrapContext := do
  let id := proxy.target.containerId
  let timer ← startTimer
  let _ ← charged .containers
    ((Registry.alone (Registry.pinContainer id)).mapError .registry)
  finish memory .pin timer .zero
  pure ⟨proxy.connector, id⟩

/-- Give up a pin; the references that remain on its container are the
    answer. -/
def unpin [Host ω] (memory : Memory) (context : WrapContext) :
    Call (Interceptor ω τ) ε Nat := do
  let timer ← startTimer
  let release ← charged .containers
    (Registry.alone (Registry.closeContainer context.container))
  finish memory .unpin timer .zero
  pure release.remaining

end Provenance.Interceptor
