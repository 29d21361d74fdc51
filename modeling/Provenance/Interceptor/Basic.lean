import Provenance.Clock
import Provenance.Interceptor.Error
import Provenance.Interceptor.Operation
import Provenance.Registry.Record
import Provenance.Registry.Track
import Provenance.Stats.Report

/-! # The interceptor

    An interceptor stands between its callers and a library: it forwards each
    operation, keeps a registry in step with the handles that come back, and
    keeps the time of each operation by name.  The time is measured on the
    clock of the world the library lives in, from the first step of an
    operation to its last; what the library took of it, and what the
    bookkeeping took, is measured apart. -/

namespace Provenance

/-- A library with its bookkeeping. -/
structure Interceptor (ω τ : Type) where
  /-- The library and the machine it runs on. -/
  world : ω
  registry : Registry τ Empty
  stats : StatsTable
  overhead : Overhead
  config : Config

namespace Interceptor

variable {ω η τ ε α : Type}

/-- An interceptor for a library that nobody used through it yet. -/
def ofConfig (memory : Memory) (config : Config) (world : ω) :
    Except InterceptError (Interceptor ω τ) :=
  match StatsTable.ofConfig memory config with
  | .ok stats => .ok ⟨world, .ofConfig config, stats, .zero, config⟩
  | .error e => .error (.stats e)

/-! ## Parts of the state -/

/-- Work on the world. -/
def onWorld (x : Call ω ε α) : Call (Interceptor ω τ) ε α :=
  x.focus Interceptor.world fun w i => { i with world := w }

/-- Work on the statistics. -/
def onStats (x : Call StatsTable ε α) : Call (Interceptor ω τ) ε α :=
  x.focus Interceptor.stats fun t i => { i with stats := t }

/-- Work on the registry, which may ask the library. -/
def onRegistry (x : Call (ω × Registry τ Empty) ε α) :
    Call (Interceptor ω τ) ε α :=
  x.focus (fun i => (i.world, i.registry)) fun s i =>
    { i with world := s.1, registry := s.2 }

/-! ## Time -/

/-- Read the clock. -/
def readClock [Host ω] : Call (Interceptor ω τ) ε Duration :=
  onWorld (Call.ofStep Host.now)

/-- Start a timer. -/
def startTimer [Host ω] : Call (Interceptor ω τ) ε Timer :=
  Timer.start <$> readClock

/-- The sum of two times; one past the longest duration is a fault. -/
def addTimes (a b : Duration) : Call (Interceptor ω τ) ε Duration :=
  match a.add? b with
  | some sum => pure sum
  | none => Call.halt .durationAdd

/-- Call the library, and measure the time it took.  The time of a call that
    fails is not looked at. -/
def callLibrary [Host ω] (op : Operation) (f : ω → Except Cause α × ω) :
    Call (Interceptor ω τ) InterceptError (α × Duration) := do
  let timer ← startTimer
  let a ← onWorld ((Call.ofTry f).mapError (.library op.name))
  let now ← readClock
  pure (a, timer.elapsed now)

/-- Work on the registry and charge the time to one of its lists, whether the
    work succeeds or not.  Nothing is charged, and the clock is not read
    again, unless the configuration asks for it. -/
def charged [Host ω] (charge : Charge)
    (work : Call (ω × Registry τ Empty) ε α) : Call (Interceptor ω τ) ε α := do
  let timer ← startTimer
  let result ← (onRegistry work).attempt
  if (← Call.state).config.recordOverhead then
    let now ← readClock
    Call.modify fun i =>
      { i with overhead := i.overhead.addList charge (timer.elapsed now) }
  Call.ofExcept result

/-- Keep the time of an operation under its name.  A table without room for
    the name drops it, with a warning. -/
def keepTime (memory : Memory) (op : Operation) (total : Duration) :
    Call (Interceptor ω τ) ε Unit := do
  match ← (onStats (StatsTable.accumulate memory op.name total)).attempt with
  | .ok _ => pure ()
  | .error e => Call.emit (.timingDropped op.name e.message)

/-- Divide the time of an operation into the library's and the rest. -/
def splitTime (total library : Duration) (o : Overhead) : Overhead :=
  (o.addLibrary library).addInterception (total.saturatingSub library)

/-- The end of a successful operation. -/
def finish [Host ω] (memory : Memory) (op : Operation) (timer : Timer)
    (library : Duration) : Call (Interceptor ω τ) ε Unit := do
  let total := timer.elapsed (← readClock)
  keepTime memory op total
  if (← Call.state).config.recordOverhead then
    Call.modify fun i =>
      { i with overhead := splitTime total library i.overhead }

/-! ## Handles without an entry -/

/-- Close an object whose bookkeeping could not be set up.  A failure is only
    reported. -/
def discard [Library ω η τ] (kind : Kind) (raw : η) :
    Call (Interceptor ω τ) ε Unit := do
  match ← (onWorld (Call.ofTry (Library.closeObject raw kind))).attempt with
  | .ok () => pure ()
  | .error cause => Call.emit (.objectReleaseFailed kind cause.text)

/-- Close a container whose entry could not be made.  A failure is only
    reported. -/
def discardContainer [Library ω η τ] (raw : η) :
    Call (Interceptor ω τ) ε Unit := do
  match ← (onWorld (Call.ofTry (Library.closeContainer raw))).attempt with
  | .ok () => pure ()
  | .error cause => Call.emit (.containerReleaseFailed cause.text)

/-- The library's part of a close, and the time it took.  A refusal is
    reported, and hands the proxy back. -/
def releaseHandle [Host ω] (op : Operation) (proxy : Proxy η)
    (rejected : String → Event) (f : ω → Except Cause Unit × ω) :
    Call (Interceptor ω τ) (CloseError η) Duration := do
  match ← (callLibrary op f).attempt with
  | .ok (_, elapsed) => pure elapsed
  | .error e =>
      Call.emit (rejected e.message)
      Call.fail ⟨proxy, e⟩

end Interceptor

end Provenance
