import Provenance.Duration

/-! # Clocks

    A manual clock counts microseconds in one word, which wraps around, and
    moves only when told to.  A timer remembers the reading at its start. -/

namespace Provenance

/-- A clock that is moved by hand. -/
structure ManualClock where
  micros : UInt64
deriving DecidableEq

namespace ManualClock

/-- A clock at the start of its count. -/
def new : ManualClock := ⟨0⟩

/-- Move by a number of microseconds. -/
def advanceMicros (clock : ManualClock) (step : UInt64) : ManualClock :=
  ⟨clock.micros + step⟩

/-- Move by the whole microseconds of a duration, at most a word of them. -/
def advance (clock : ManualClock) (by_ : Duration) : ManualClock :=
  clock.advanceMicros (UInt64.ofNat by_.wordMicros)

/-- The reading. -/
def now (clock : ManualClock) : Duration := Duration.ofMicros clock.micros.toNat

end ManualClock

/-- The start of a timed span. -/
structure Timer where
  started : Duration
deriving DecidableEq

namespace Timer

/-- A timer started at a reading. -/
def start (now : Duration) : Timer := ⟨now⟩

/-- The time from the start to a reading, nothing if the reading is earlier. -/
def elapsed (timer : Timer) (now : Duration) : Duration :=
  now.saturatingSub timer.started

end Timer

end Provenance
