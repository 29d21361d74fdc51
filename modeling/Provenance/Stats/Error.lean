import Provenance.Error

/-! # Errors of a table of statistics -/

namespace Provenance

/-- Why an operation on a table of statistics failed. -/
inductive StatsError where
  /-- Every slot holds another key, and there are no more slots. -/
  | capacityExceeded (capacity : Nat)
  /-- A table without slots. -/
  | zeroCapacity
  | outOfMemory (what : String)
  | lockPoisoned
  /-- The report could not be written. -/
  | io (error : IoError)
deriving DecidableEq

namespace StatsError

/-- The error in words. -/
def message : StatsError → String
  | capacityExceeded capacity =>
      "stats table is full (" ++ toString capacity ++ " slots)"
  | zeroCapacity => "stats table capacity must be greater than zero"
  | outOfMemory what => "out of memory while allocating " ++ what
  | lockPoisoned => "stats lock poisoned"
  | io _ => "failed to write stats report"

/-- What the error was caused by. -/
def source : StatsError → Option Source
  | io error => some (.io error)
  | _ => none

/-- The error as seen by a program that uses several layers. -/
def toError : StatsError → Error
  | outOfMemory what => .outOfMemory what
  | lockPoisoned => .lockPoisoned "stats"
  | io error => .io error
  | e => .stats e.message

end StatsError

end Provenance
