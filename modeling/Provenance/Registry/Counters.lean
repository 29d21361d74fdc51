import Provenance.Duration
import Provenance.Kind
import Provenance.Word

/-! # Counters of a node

    What a node counts depends on its kind.  Bytes and sizes stop at the
    largest word, times at the longest duration.  How often something was done
    is a natural number, where a program has a word (see `Container`). -/

namespace Provenance

/-- Shape and transfer totals of a dataset. -/
structure DatasetCounters where
  typeSize : Nat
  dimensions : List Nat
  /-- Number of elements in the whole extent. -/
  elementCount : Nat
  bytesRead : Nat
  bytesWritten : Nat
  readCount : Nat
  writeCount : Nat
  readTime : Duration
  writeTime : Duration
deriving DecidableEq

namespace DatasetCounters

/-- No shape and no transfers. -/
def zero : DatasetCounters := ⟨0, [], 0, 0, 0, 0, 0, .zero, .zero⟩

/-- Number of elements of an extent. -/
def extent (dimensions : List Nat) : Nat :=
  dimensions.foldl (fun n d => Word.cap (n * d)) 1

/-- Give a shape; the transfer totals stay. -/
def reshape (c : DatasetCounters) (typeSize : Nat) (dimensions : List Nat) :
    DatasetCounters :=
  { c with
    typeSize := typeSize
    dimensions := dimensions
    elementCount := extent dimensions }

/-- Bytes that one transfer moves: of the selected elements, or of the whole
    extent when none are selected. -/
def transferSize (c : DatasetCounters) (selected : Option Nat) : Nat :=
  Word.cap (c.typeSize * selected.getD c.elementCount)

/-- Account one read of so many bytes. -/
def addRead (c : DatasetCounters) (bytes : Nat) (elapsed : Duration) :
    DatasetCounters :=
  { c with
    bytesRead := Word.cap (c.bytesRead + bytes)
    readCount := c.readCount + 1
    readTime := c.readTime.saturatingAdd elapsed }

/-- Account one write of so many bytes. -/
def addWrite (c : DatasetCounters) (bytes : Nat) (elapsed : Duration) :
    DatasetCounters :=
  { c with
    bytesWritten := Word.cap (c.bytesWritten + bytes)
    writeCount := c.writeCount + 1
    writeTime := c.writeTime.saturatingAdd elapsed }

end DatasetCounters

/-- What a node counts. -/
inductive Counters where
  | dataset (c : DatasetCounters)
  | group (ops : Nat)
  | datatype (commits gets : Nat)
  | attr (ops : Nat)
deriving DecidableEq

namespace Counters

/-- The counters of a new node. -/
def zero : Kind → Counters
  | .dataset => dataset .zero
  | .group => group 0
  | .datatype => datatype 0 0
  | .attr => attr 0

/-- The kind that counts so. -/
def kind : Counters → Kind
  | dataset _ => .dataset
  | group _ => .group
  | datatype .. => .datatype
  | attr _ => .attr

@[simp]
theorem kind_zero (k : Kind) : (zero k).kind = k := by
  cases k <;> rfl

end Counters

end Provenance
