import Provenance.Interceptor.Termination
import Provenance.Json.Value

/-! # Records in JSON

    The written form of counters, totals, rows and summaries.  An identity is
    written as its number, a kind as its name, and a duration as its whole
    seconds and the nanoseconds past them. -/

namespace Provenance

open Json (Value)

/-- The number of an identity. -/
def Id.json {role : Role} (id : Id role) : Value := .count id.number

/-- The name of a kind. -/
def Kind.json (kind : Kind) : Value := .text kind.name

/-- One value per kind. -/
def PerKind.json {α : Type} (f : α → Value) (p : PerKind α) : Value :=
  .each f p.toList

/-- Seconds and nanoseconds. -/
def Duration.json (d : Duration) : Value :=
  .object [("secs", .count d.seconds), ("nanos", .count d.subsecNanos)]

/-- The counters of a node, with their kind. -/
def Counters.json (counters : Counters) : Value :=
  .object (("kind", counters.kind.json) ::
    match counters with
    | .dataset c =>
        [("type_size", .count c.typeSize),
          ("dimensions", .each .count c.dimensions),
          ("element_count", .count c.elementCount),
          ("bytes_read", .count c.bytesRead),
          ("bytes_written", .count c.bytesWritten),
          ("read_count", .count c.readCount),
          ("write_count", .count c.writeCount),
          ("read_time", c.readTime.json), ("write_time", c.writeTime.json)]
    | .group ops => [("ops", .count ops)]
    | .datatype commits gets =>
        [("commits", .count commits), ("gets", .count gets)]
    | .attr ops => [("ops", .count ops)])

/-- The totals of time. -/
def Overhead.json (o : Overhead) : Value :=
  .object [("interception", o.interception.json), ("library", o.library.json),
    ("lists", .each Duration.json o.lists)]

/-- A row of a report. -/
def StatsEntry.json (e : StatsEntry) : Value :=
  .object [("name", .text e.name), ("micros", .count e.micros)]

/-- The microseconds of every name, in ascending order of the names. -/
def StatsTable.json (t : StatsTable) : Value :=
  .object (t.byName.map fun e => (e.name, .count e.micros))

/-- A container that was still open. -/
def Leak.json (l : Leak) : Value :=
  .object [("id", l.id.json), ("name", .orNull .text l.name),
    ("refcount", .count l.refcount),
    ("counts", l.counts.json .count)]

/-- The leaks of a registry. -/
def Teardown.json {ρ : Type} (t : Teardown ρ) : Value :=
  .object [("leaked", .each Leak.json t.leaked)]

/-- What an interceptor leaves behind. -/
def Summary.json (s : Summary) : Value :=
  .object [("stats", s.stats.json), ("overhead", s.overhead.json),
    ("leaked", .each Leak.json s.teardown.leaked)]

end Provenance
