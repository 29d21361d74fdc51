import Provenance.Config
import Provenance.Duration
import Provenance.Memory
import Provenance.Stats.Error
import Provenance.Stats.Hash

/-! # Tables of statistics

    A table keeps one accumulated duration per operation name, in slots.  The
    search for a name begins at its home slot, goes on slot by slot and around
    the end, and stops at the name, at an empty slot, or after all slots.  A
    fixed table refuses a new name when every slot is taken; a doubling table
    makes room before more than three quarters are. -/

namespace Provenance

/-- A name with its accumulated duration. -/
structure Slot where
  key : String
  value : Duration
deriving DecidableEq

/-- Names with accumulated durations, in slots. -/
structure StatsTable where
  slots : Array (Option Slot)
  /-- Number of slots that are taken. -/
  size : Nat
  growth : Growth
deriving DecidableEq

namespace StatsTable

/-- How the search for a name ends. -/
inductive Probe where
  /-- At the slot that holds it. -/
  | found (index : Nat)
  /-- At an empty slot. -/
  | vacant (index : Nat)
  /-- Nowhere: all slots hold other names. -/
  | full
deriving DecidableEq

/-- The slot after a slot, around the end. -/
def successor (capacity index : Nat) : Nat :=
  if index + 1 = capacity then 0 else index + 1

/-- Search for a name in at most so many slots, beginning at `index`. -/
def probeFrom (slots : Array (Option Slot)) (key : String) :
    Nat → Nat → Probe
  | 0, _ => .full
  | steps + 1, index =>
      match slots[index]? with
      | some (some slot) =>
          if slot.key = key then .found index
          else probeFrom slots key steps (successor slots.size index)
      | _ => .vacant index

/-- Number of slots. -/
def capacity (t : StatsTable) : Nat := t.slots.size

/-- No name has been reported. -/
def isEmpty (t : StatsTable) : Bool := t.size == 0

/-- Search for a name. -/
def probe (t : StatsTable) (key : String) : Probe :=
  probeFrom t.slots key t.capacity (Stats.homeSlot key t.capacity)

/-- The slot at an index. -/
def slot? (t : StatsTable) (index : Nat) : Option Slot := t.slots[index]?.join

/-- Accumulated duration of a name, absent if it was never reported. -/
def get? (t : StatsTable) (key : String) : Option Duration :=
  match t.probe key with
  | .found index => (t.slot? index).map Slot.value
  | _ => none

/-- The name was reported. -/
def contains (t : StatsTable) (key : String) : Bool := (t.get? key).isSome

/-- Every name with its duration, in slot order. -/
def toList (t : StatsTable) : List (String × Duration) :=
  (t.slots.toList.filterMap id).map fun slot => (slot.key, slot.value)

/-! ## Making room -/

/-- Bytes that one slot takes. -/
def slotBytes : Nat := 40

/-- Empty slots, if there is memory for them. -/
def emptySlots (memory : Memory) (capacity : Nat) :
    Except StatsError (Array (Option Slot)) :=
  if memory.grants .statsSlots (capacity * slotBytes) then
    .ok (Array.replicate capacity none)
  else .error (.outOfMemory Purpose.statsSlots.text)

/-- A table with so many slots. -/
def ofCapacity (memory : Memory) (capacity : Nat) (growth : Growth) :
    Except StatsError StatsTable :=
  if capacity = 0 then .error .zeroCapacity
  else (emptySlots memory capacity).map fun slots => ⟨slots, 0, growth⟩

/-- The table that a configuration asks for. -/
def ofConfig (memory : Memory) (config : Config) :
    Except StatsError StatsTable :=
  ofCapacity memory config.statsCapacity config.statsGrowth

/-- The first empty slot among so many, beginning at `index`. -/
def firstVacant (slots : Array (Option Slot)) : Nat → Nat → Option Nat
  | 0, _ => none
  | steps + 1, index =>
      match slots[index]? with
      | some (some _) =>
          firstVacant slots steps (successor slots.size index)
      | _ => some index

/-- Put a slot into the first empty place from its home on. -/
def reinsert (slots : Array (Option Slot)) (slot : Slot) :
    Array (Option Slot) :=
  match firstVacant slots slots.size (Stats.homeSlot slot.key slots.size) with
  | some index => slots.setIfInBounds index (some slot)
  | none => slots

/-- The same names in twice as many slots, put in again in slot order. -/
def grow (memory : Memory) (t : StatsTable) : Except StatsError StatsTable :=
  (emptySlots memory (t.capacity * 2)).map fun fresh =>
    { t with slots := (t.slots.toList.filterMap id).foldl reinsert fresh }

/-- One more name would take more than three quarters of the slots. -/
def crowded (t : StatsTable) : Bool := t.capacity * 3 < (t.size + 1) * 4

/-- Make room for one more name, where the policy asks for it. -/
def makeRoom (memory : Memory) (t : StatsTable) : Except StatsError StatsTable :=
  if t.growth = .double ∧ t.crowded then t.grow memory else .ok t

/-! ## Writing -/

/-- Put a name with its duration into a slot. -/
def store (t : StatsTable) (index : Nat) (key : String) (value : Duration) :
    StatsTable :=
  { t with slots := t.slots.setIfInBounds index (some ⟨key, value⟩) }

/-- Put a new name into an empty slot. -/
def enter (t : StatsTable) (index : Nat) (key : String) (value : Duration) :
    StatsTable :=
  { t.store index key value with size := t.size + 1 }

/-- Change the duration of a name; `f` sees the one stored, if there is one.
    The new duration is the answer. -/
def update (memory : Memory) (key : String) (f : Option Duration → Duration) :
    Call StatsTable StatsError Duration := fun t =>
  match t.probe key with
  | .found index =>
      let value := f ((t.slot? index).map Slot.value)
      ⟨.value value, t.store index key value, []⟩
  | _ =>
      match t.makeRoom memory with
      | .error e => ⟨.error e, t, []⟩
      | .ok t =>
          match t.probe key with
          | .found index =>
              let value := f ((t.slot? index).map Slot.value)
              ⟨.value value, t.store index key value, []⟩
          | .vacant index => ⟨.value (f none), t.enter index key (f none), []⟩
          | .full => ⟨.error (.capacityExceeded t.capacity), t, []⟩

/-- Overwrite the duration of a name. -/
def set (memory : Memory) (key : String) (value : Duration) :
    Call StatsTable StatsError Unit := do
  let _ ← update memory key fun _ => value
  pure ()

/-- Add to the duration of a name, from zero if it is new.  The total is the
    answer; it stops at the longest duration. -/
def accumulate (memory : Memory) (key : String) (delta : Duration) :
    Call StatsTable StatsError Duration :=
  update memory key fun stored => (stored.getD .zero).saturatingAdd delta

/-- The sum of all durations. -/
def total {ε : Type} : Call StatsTable ε Duration := fun t =>
  match Duration.sum? (t.toList.map Prod.snd) with
  | some sum => ⟨.value sum, t, []⟩
  | none => Call.halt .durationSum t

end StatsTable

end Provenance
