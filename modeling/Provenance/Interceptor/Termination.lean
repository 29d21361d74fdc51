import Provenance.Interceptor.Basic
import Provenance.Registry.View

/-! # The end of an interceptor

    The report is written first, if one is configured; only then is the
    registry closed and its leaks are told.

    Only warnings and errors are events here (`Event`).  A line of a lower level
    is left out, together with what is computed for that line alone.  In the end
    of an interceptor this is the line that closes it, after the leaks: it gives
    the sum of the times in the table, which `StatsTable.total` computes and
    which is a fault where the sum passes the longest duration. -/

namespace Provenance

/-- What an interceptor leaves behind. -/
structure Summary where
  teardown : Teardown Empty
  stats : StatsTable
  overhead : Overhead

namespace Interceptor

variable {ω τ : Type}

/-- Write the report: the times by operation and, if the overhead is measured,
    the lines about it. -/
def writeReport [Host ω] (path : String) :
    Call (Interceptor ω τ) InterceptError Unit := do
  let i ← Call.state
  if i.config.recordOverhead then
    onWorld ((Call.ofTry
      (Disk.write path (i.stats.text ++ i.overhead.text))).mapError
        (.report path))
  else onWorld ((i.stats.writeReport path).mapError .stats)

/-- End an interceptor.  The summary is that of an end whose closing line is not
    asked for, or whose table has a sum (`StatsTable.total`). -/
def terminate [Host ω] : Call (Interceptor ω τ) InterceptError Summary := do
  match (← Call.state).config.statFile with
  | some path => writeReport path
  | none => pure ()
  let teardown ← onRegistry (Registry.alone Registry.close)
  let i ← Call.state
  pure ⟨teardown, i.stats, i.overhead⟩

end Interceptor

end Provenance
