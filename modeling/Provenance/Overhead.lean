import Provenance.Duration
import Provenance.Kind

/-! # Overhead

    How the time of intercepted operations divides: into the wrapped library,
    into the interception, and of the bookkeeping into each of its lists. -/

namespace Provenance

/-- A list of the registry that bookkeeping time is charged to. -/
inductive Charge where
  | containers
  | objects (kind : Kind)
deriving DecidableEq

/-- Totals of the time spent. -/
structure Overhead where
  interception : Duration
  library : Duration
  containers : Duration
  objects : PerKind Duration
deriving DecidableEq

namespace Overhead

/-- No time spent. -/
def zero : Overhead := ⟨.zero, .zero, .zero, .replicate .zero⟩

/-- Time spent in the interception outside the library. -/
def addInterception (o : Overhead) (elapsed : Duration) : Overhead :=
  { o with interception := o.interception.saturatingAdd elapsed }

/-- Time spent in the library. -/
def addLibrary (o : Overhead) (elapsed : Duration) : Overhead :=
  { o with library := o.library.saturatingAdd elapsed }

/-- Time spent on one list. -/
def addList (o : Overhead) (charge : Charge) (elapsed : Duration) : Overhead :=
  match charge with
  | .containers => { o with containers := o.containers.saturatingAdd elapsed }
  | .objects kind =>
      { o with objects := o.objects.modify kind fun d => d.saturatingAdd elapsed }

/-- Total of one list. -/
def list (o : Overhead) : Charge → Duration
  | .containers => o.containers
  | .objects kind => o.objects.get kind

/-- Totals of all lists: the containers first, then each kind. -/
def lists (o : Overhead) : List Duration := o.containers :: o.objects.toList

/-- One line of a report. -/
def line (name : String) (micros : Nat) : String :=
  name ++ " " ++ toString micros ++ " us\n"

/-- Every counter with its name, in the order of the report. -/
def counters (o : Overhead) : List (String × Duration) :=
  ("interception_overhead", o.interception) :: ("library_time", o.library)
    :: ("container_list", o.containers)
    :: Kind.all.map fun k => (k.name ++ "_list", o.objects.get k)

/-- One line per counter, in whole microseconds. -/
def text (o : Overhead) : String :=
  String.join (o.counters.map fun e => line e.1 e.2.micros)

end Overhead

end Provenance
