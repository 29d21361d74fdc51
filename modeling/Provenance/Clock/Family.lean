import Provenance.Clock

/-! # Families of clocks

    A clone of a clock shows the time of the clock it was made from, so clocks
    come in families, and to move one is to move its family.  A bench holds
    clocks and timers, each named by its place. -/

namespace Provenance

/-- Clocks and timers.  A clock is the place of its family among the
    families. -/
structure ClockBench where
  families : List ManualClock
  clocks : List Nat
  timers : List Timer
deriving DecidableEq

namespace ClockBench

/-- A bench with one clock. -/
def initial : ClockBench := ⟨[.new], [0], []⟩

/-- The family of a clock. -/
def family? (bench : ClockBench) (clock : Nat) : Option ManualClock :=
  bench.clocks[clock]?.bind fun place => bench.families[place]?

/-- The reading of a clock. -/
def reading? (bench : ClockBench) (clock : Nat) : Option Duration :=
  (bench.family? clock).map ManualClock.now

/-- The readings of all clocks, in the order of their making. -/
def readings (bench : ClockBench) : List Duration :=
  bench.clocks.filterMap fun place => bench.families[place]?.map ManualClock.now

/-- What can be done on a bench. -/
inductive Op where
  /-- Move a clock by a duration. -/
  | advance (clock : Nat) (by_ : Duration)
  /-- Move a clock by a number of microseconds. -/
  | advanceMicros (clock : Nat) (step : UInt64)
  /-- Make a clock of a new family. -/
  | new
  /-- Make a clone of a clock. -/
  | clone (clock : Nat)
  /-- Start a timer on a clock. -/
  | start (clock : Nat)
deriving DecidableEq

/-- Change the family of a clock. -/
def move (bench : ClockBench) (clock : Nat) (f : ManualClock → ManualClock) :
    Option ClockBench :=
  bench.clocks[clock]?.map fun place =>
    { bench with families := bench.families.modify place f }

/-- Do one thing on a bench, if its clock exists. -/
def apply (bench : ClockBench) : Op → Option ClockBench
  | .advance clock by_ => bench.move clock fun c => c.advance by_
  | .advanceMicros clock step => bench.move clock fun c => c.advanceMicros step
  | .new =>
      some { bench with
        families := bench.families ++ [.new]
        clocks := bench.clocks ++ [bench.families.length] }
  | .clone clock =>
      bench.clocks[clock]?.map fun place =>
        { bench with clocks := bench.clocks ++ [place] }
  | .start clock =>
      (bench.reading? clock).map fun now =>
        { bench with timers := bench.timers ++ [.start now] }

/-- The time of a timer on a clock. -/
def elapsed? (bench : ClockBench) (timer clock : Nat) : Option Duration :=
  match bench.timers[timer]?, bench.reading? clock with
  | some t, some now => some (t.elapsed now)
  | _, _ => none

end ClockBench

end Provenance
