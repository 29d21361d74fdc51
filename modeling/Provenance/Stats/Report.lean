import Provenance.Files
import Provenance.Overhead
import Provenance.Stats.Table

/-! # Reports of a table

    A report shows the durations in whole microseconds, either one line per
    name in slot order, or by name. -/

namespace Provenance

/-- One row of a report. -/
structure StatsEntry where
  name : String
  micros : Nat
deriving DecidableEq

namespace StatsTable

/-- The rows in slot order. -/
def entries (t : StatsTable) : List StatsEntry :=
  t.toList.map fun e => ⟨e.1, e.2.wordMicros⟩

/-- The rows in ascending order of the names. -/
def byName (t : StatsTable) : List StatsEntry :=
  t.entries.mergeSort fun a b => decide (a.name ≤ b.name)

/-- One line per row, in slot order. -/
def text (t : StatsTable) : String :=
  String.join (t.entries.map fun e => Overhead.line e.name e.micros)

/-- Write the lines to a file, in place of any text there. -/
def writeReport {ω : Type} [Disk ω] (t : StatsTable) (path : String) :
    Call ω StatsError Unit :=
  (Call.ofTry (Disk.write path t.text)).mapError .io

end StatsTable

end Provenance
