import Provenance.Call

/-! # Hash of operation names

    A rolling hash of the bytes of a name, in words of 64 bits.  One step
    multiplies by 65599, written as two shifts, and adds the next byte. -/

namespace Provenance.Stats

/-- One step of the hash. -/
def roll (hash : UInt64) (byte : UInt8) : UInt64 :=
  byte.toUInt64 + (hash <<< 6) + (hash <<< 16) - hash

/-- Hash of a list of bytes. -/
def hashBytes (bytes : List UInt8) : UInt64 := bytes.foldl roll 0

/-- The bytes of a name. -/
def keyBytes (key : String) : List UInt8 := key.toUTF8.data.toList

/-- Hash of a name. -/
def hash (key : String) : UInt64 := hashBytes (keyBytes key)

/-- The slot where the search for a name begins. -/
def homeSlot (key : String) (capacity : Nat) : Nat :=
  (hash key).toNat % capacity

/-- The home slots of a name in tables of several capacities; a table without
    slots has none. -/
def homeSlots {ε : Type} (key : String) : List Nat → Outcome ε (List Nat)
  | [] => .value []
  | 0 :: _ => .fault .zeroDivisor
  | capacity :: rest => (homeSlots key rest).map (homeSlot key capacity :: ·)

theorem homeSlot_lt (key : String) {capacity : Nat} (h : 0 < capacity) :
    homeSlot key capacity < capacity :=
  Nat.mod_lt _ h

end Provenance.Stats
