import Mathlib.Data.List.Nodup
import Provenance.Stats.Table

/-! # Searching the slots of a table

    A name is stored in the first slot, from its home slot on and around the
    end, that held no other name when it came in.  So the slots are `Sound`:
    the way from the home slot of each name to its own leads over slots that
    hold other names, and the search for a name finds it wherever collisions
    put it.  No slot is ever emptied, hence writing keeps the slots sound. -/

namespace Provenance.StatsTable

variable {slots : Array (Option Slot)} {key : String} {i j m k : Nat}
  {s s' : Slot}

/-! ## The way of a search -/

/-- A slot at an index. -/
def Stored (slots : Array (Option Slot)) (i : Nat) (s : Slot) : Prop :=
  slots[i]? = some (some s)

/-- The first `k` slots on the way of the search for a name hold other
    names. -/
def Passed (slots : Array (Option Slot)) (key : String) (k : Nat) : Prop :=
  ∀ d < k, ∃ s,
    Stored slots ((Stats.homeSlot key slots.size + d) % slots.size) s ∧ s.key ≠ key

/-- An index is `m` steps from the home slot of a name, over slots that hold
    other names. -/
def Leads (slots : Array (Option Slot)) (key : String) (m i : Nat) : Prop :=
  i = (Stats.homeSlot key slots.size + m) % slots.size ∧ Passed slots key m

/-- Where a search of at most `bound` steps ends. -/
def Ends (slots : Array (Option Slot)) (key : String) (bound : Nat) :
    Probe → Prop
  | .found i => ∃ m < bound, Leads slots key m i ∧ ∃ s, Stored slots i s ∧ s.key = key
  | .vacant i => ∃ m < bound, Leads slots key m i ∧ slots[i]? = some none
  | .full => Passed slots key bound

theorem successor_mod (n x : Nat) (hn : 0 < n) :
    successor n (x % n) = (x + 1) % n := by
  have hlt : x % n < n := Nat.mod_lt _ hn
  rw [successor, ← Nat.mod_add_mod x n 1]
  by_cases h : x % n + 1 = n
  · rw [if_pos h, h, Nat.mod_self]
  · rw [if_neg h, Nat.mod_eq_of_lt (show x % n + 1 < n by omega)]

theorem Passed.succ (h : Passed slots key k)
    (hs : Stored slots ((Stats.homeSlot key slots.size + k) % slots.size) s)
    (hne : s.key ≠ key) : Passed slots key (k + 1) := by
  intro d hd
  by_cases hk : d = k
  · subst hk
    exact ⟨s, hs, hne⟩
  · exact h d (by omega)

/-- A search goes on over other names until it ends. -/
theorem probeFrom_ends (key : String) (hpos : 0 < slots.size) (steps k : Nat)
    (h : Passed slots key k) :
    Ends slots key (k + steps)
      (probeFrom slots key steps
        ((Stats.homeSlot key slots.size + k) % slots.size)) := by
  induction steps generalizing k with
  | zero => exact h
  | succ steps ih =>
      rw [probeFrom]
      have hlt : (Stats.homeSlot key slots.size + k) % slots.size < slots.size :=
        Nat.mod_lt _ hpos
      rcases hslot : slots[(Stats.homeSlot key slots.size + k) % slots.size]? with
        _ | _ | s
      · rw [Array.getElem?_eq_none_iff] at hslot
        omega
      · exact ⟨k, by omega, ⟨rfl, h⟩, hslot⟩
      · dsimp only
        by_cases hkey : s.key = key
        · rw [if_pos hkey]
          exact ⟨k, by omega, ⟨rfl, h⟩, s, hslot, hkey⟩
        · rw [if_neg hkey, successor_mod _ _ hpos]
          have hnext := ih (k + 1) (h.succ hslot hkey)
          rw [show k + 1 + steps = k + (steps + 1) by omega] at hnext
          exact hnext

/-! ## Sound slots -/

/-- Search for a name in some slots. -/
def search (slots : Array (Option Slot)) (key : String) : Probe :=
  probeFrom slots key slots.size (Stats.homeSlot key slots.size)

/-- Every name that is stored is found on its way. -/
structure Sound (slots : Array (Option Slot)) : Prop where
  pos : 0 < slots.size
  leads : ∀ i s, Stored slots i s → ∃ m, Leads slots s.key m i

/-- The name is stored nowhere. -/
def Absent (slots : Array (Option Slot)) (key : String) : Prop :=
  ∀ i s, Stored slots i s → s.key ≠ key

theorem search_ends (hpos : 0 < slots.size) (key : String) :
    Ends slots key slots.size (search slots key) := by
  have h := probeFrom_ends key hpos slots.size 0
    fun d hd => absurd hd (Nat.not_lt_zero d)
  rw [Nat.add_zero, Nat.zero_add, Nat.mod_eq_of_lt (Stats.homeSlot_lt key hpos)]
    at h
  exact h

/-- Two ways to slots that hold a name have one length. -/
theorem Leads.steps_eq (hi : Leads slots key m i) (hj : Leads slots key k j)
    (hs : Stored slots i s) (hs' : Stored slots j s') (hkey : s.key = key)
    (hkey' : s'.key = key) : m = k := by
  obtain ⟨rfl, hm⟩ := hi
  obtain ⟨rfl, hk⟩ := hj
  rcases Nat.lt_trichotomy m k with hlt | heq | hlt
  · obtain ⟨other, hother, hne⟩ := hk m hlt
    rw [Stored, hother] at hs
    cases hs
    exact absurd hkey hne
  · exact heq
  · obtain ⟨other, hother, hne⟩ := hm k hlt
    rw [Stored, hother] at hs'
    cases hs'
    exact absurd hkey' hne

theorem Sound.index_eq (h : Sound slots) (hi : Stored slots i s)
    (hj : Stored slots j s') (hkey : s.key = s'.key) : i = j := by
  obtain ⟨m, hm⟩ := h.leads i s hi
  obtain ⟨k, hk⟩ := h.leads j s' hj
  rw [← hkey] at hk
  obtain rfl := hm.steps_eq hk hi hj rfl hkey.symm
  exact hm.1.trans hk.1.symm

/-- A stored name stands in the way of every search that gets past it. -/
theorem Sound.not_passed (h : Sound slots) (hs : Stored slots i s) :
    ¬ Passed slots s.key slots.size := by
  intro hp
  obtain ⟨m, rfl, hm⟩ := h.leads i s hs
  obtain ⟨other, hother, hne⟩ := hp (m % slots.size) (Nat.mod_lt _ h.pos)
  rw [Nat.add_mod_mod] at hother
  rw [Stored, hother] at hs
  cases hs
  exact hne rfl

/-- The search for a stored name ends at it. -/
theorem Sound.search_stored (h : Sound slots) (hs : Stored slots i s) :
    search slots s.key = .found i := by
  have hends := search_ends h.pos s.key
  obtain ⟨m, hm⟩ := h.leads i s hs
  cases hsearch : search slots s.key with
  | found j =>
      rw [hsearch] at hends
      obtain ⟨k, -, hk, s', hs', hkey⟩ := hends
      rw [h.index_eq hs hs' hkey.symm]
  | vacant j =>
      rw [hsearch] at hends
      obtain ⟨k, -, ⟨rfl, hk⟩, hnone⟩ := hends
      obtain ⟨rfl, hm⟩ := hm
      rcases Nat.lt_trichotomy m k with hlt | rfl | hlt
      · obtain ⟨other, hother, hne⟩ := hk m hlt
        rw [Stored, hother] at hs
        cases hs
        exact absurd rfl hne
      · rw [Stored, hnone] at hs
        cases hs
      · obtain ⟨other, hother, -⟩ := hm k hlt
        rw [Stored, hnone] at hother
        cases hother
  | full =>
      rw [hsearch] at hends
      exact absurd hends (h.not_passed hs)

theorem search_found (hpos : 0 < slots.size) (h : search slots key = .found i) :
    ∃ s, Stored slots i s ∧ s.key = key := by
  have hends := search_ends hpos key
  rw [h] at hends
  obtain ⟨m, -, -, hs⟩ := hends
  exact hs

theorem search_vacant (hpos : 0 < slots.size) (h : search slots key = .vacant i) :
    slots[i]? = some none ∧ ∃ m, Leads slots key m i := by
  have hends := search_ends hpos key
  rw [h] at hends
  obtain ⟨m, -, hm, hnone⟩ := hends
  exact ⟨hnone, m, hm⟩

/-- The search for an absent name comes to nothing only if every slot is
    taken. -/
theorem search_full (hpos : 0 < slots.size) (h : search slots key = .full)
    (hi : i < slots.size) : ∃ s, Stored slots i s := by
  have hends := search_ends hpos key
  rw [h] at hends
  -- the way of the search comes to every index
  have hhome := Stats.homeSlot_lt key hpos
  obtain ⟨s, hs, -⟩ := hends
    ((i + (slots.size - Stats.homeSlot key slots.size)) % slots.size)
    (Nat.mod_lt _ hpos)
  rw [Nat.add_mod_mod, show Stats.homeSlot key slots.size
    + (i + (slots.size - Stats.homeSlot key slots.size)) = i + slots.size by omega,
    Nat.add_mod_right, Nat.mod_eq_of_lt hi] at hs
  exact ⟨s, hs⟩

end Provenance.StatsTable
