/-! # Words

    Sizes and counts of bytes are words of 64 bits that stop at the largest
    word instead of wrapping around. -/

namespace Provenance.Word

/-- The largest word. -/
def limit : Nat := (1 <<< 64) - 1

/-- A number cut at the largest word. -/
def cap (n : Nat) : Nat := min n limit

theorem cap_le (n : Nat) : cap n ≤ limit := Nat.min_le_right _ _

theorem cap_of_le {n : Nat} (h : n ≤ limit) : cap n = n := Nat.min_eq_left h

end Provenance.Word
