import Mathlib.Algebra.GroupWithZero.Nat
import Mathlib.Order.Bounds.Basic
import Provenance.Proofs.Stats.History

/-! # Growth of a doubling table

    A doubling table makes room at most once for each name that comes in, by
    twice as many slots.  Once is always enough: as long as at most three
    quarters of the slots are taken, twice as many have room for one name more,
    also when there are only one or two of them (`Chart.Doubled.write`).  So a
    table that began with `n` slots has the least doubling of `n` of which three
    quarters hold all its names, and there is always an empty slot.

    The names of a table that grows are put in again by a loop that looks for an
    empty slot and knows no bound.  `Settles` and `Refilled` are that loop, and
    it ends for every name (`Fits.refilled`). -/

namespace Provenance

/-! ## Putting names in again -/

namespace StatsTable

section

variable {slots slots' : Array (Option Slot)} {s : Slot} {l : List Slot}
  {i j steps : Nat}

/-- The search for an empty slot without a bound: over slots that are taken and
    around the end, from one index on until it ends at another. -/
inductive Settles (slots : Array (Option Slot)) : Nat → Nat → Prop
  | here {i : Nat} : slots[i]? = some none → Settles slots i i
  | next {i j : Nat} {s : Slot} : Stored slots i s →
      Settles slots ((i + 1) % slots.size) j → Settles slots i j

/-- Names put in one after another, each into the empty slot that the search
    from its home slot ends at. -/
inductive Refilled : List Slot → Array (Option Slot) → Array (Option Slot) → Prop
  | nil (slots : Array (Option Slot)) : Refilled [] slots slots
  | cons {s : Slot} {l : List Slot} {slots slots' : Array (Option Slot)} {j : Nat} :
      Settles slots (Stats.homeSlot s.key slots.size) j →
      Refilled l (slots.setIfInBounds j (some s)) slots' →
      Refilled (s :: l) slots slots'

/-- The search without a bound ends where the bounded one finds a slot. -/
theorem settles_of_firstVacant (hi : i < slots.size)
    (h : firstVacant slots steps i = some j) : Settles slots i j := by
  induction steps generalizing i with
  | zero => cases h
  | succ steps ih =>
      rw [firstVacant] at h
      rcases hslot : slots[i]? with _ | _ | s
      · rw [Array.getElem?_eq_none_iff] at hslot
        omega
      · rw [hslot] at h
        cases h
        exact .here hslot
      · rw [hslot] at h
        have hpos : 0 < slots.size := Nat.zero_lt_of_lt hi
        have hnext := successor_mod slots.size i hpos
        rw [Nat.mod_eq_of_lt hi] at hnext
        refine .next hslot (ih (Nat.mod_lt _ hpos) ?_)
        rw [← hnext]
        exact h

/-- Names that fit are put in one after another, and each search ends. -/
theorem Fits.refilled (h : Fits slots l) :
    Refilled l slots (l.foldl reinsert slots) := by
  induction l generalizing slots with
  | nil => exact .nil slots
  | cons s l ih =>
      obtain ⟨i, m, hfirst, heq, -, -⟩ := h.first
      refine .cons
        (settles_of_firstVacant (Stats.homeSlot_lt s.key h.sound.pos) hfirst) ?_
      rw [← heq]
      exact ih h.next.1

end

end StatsTable

/-! ## The least doubling -/

namespace Chart

open StatsTable (Op Answer)

variable {c c' : Chart} {n : Nat} {memory : Memory} {key : String}
  {value : Duration} {f : Option Duration → Duration}

/-- A doubling chart that began with room for `n` names has doubled it just as
    often as its names ask for. -/
structure Doubled (n : Nat) (c : Chart) : Prop where
  growth : c.growth = .double
  least : ∃ k, c.capacity = n * 2 ^ k ∧
    IsLeast {j | c.entries.length * 4 ≤ n * 2 ^ j * 3} k

theorem Doubled.roomy (h : Doubled n c) : c.entries.length * 4 ≤ c.capacity * 3 := by
  obtain ⟨k, hcapacity, hk⟩ := h.least
  rw [hcapacity]
  exact hk.1

theorem doubled_empty (n : Nat) : Doubled n (.empty n .double) := by
  refine ⟨rfl, 0, (Nat.mul_one n).symm, ?_, fun j _ => Nat.zero_le j⟩
  show 0 * 4 ≤ n * 2 ^ 0 * 3
  omega

/-- A name that is there changes its duration alone. -/
theorem write_of_present (h : c.get? key = some value) (memory : Memory)
    (f : Option Duration → Duration) :
    (c.write memory key f).1 = .value (f (some value)) ∧
      (c.write memory key f).2.growth = c.growth ∧
      (c.write memory key f).2.capacity = c.capacity ∧
      (c.write memory key f).2.entries.length = c.entries.length := by
  rw [write_of_some h]
  exact ⟨rfl, rfl, rfl, List.length_map ..⟩

/-- A new name for which there is room, or memory to make it, comes in, and the
    room is doubled once if it is short. -/
theorem write_of_new (hgrowth : c.growth = .double) (h : c.get? key = none)
    (f : Option Duration → Duration)
    (hm : ¬ (c.entries.length + 1) * 4 ≤ c.capacity * 3 →
      memory.grants .statsSlots (c.capacity * 2 * StatsTable.slotBytes) = true) :
    (c.write memory key f).1 = .value (f none) ∧
      (c.write memory key f).2.growth = .double ∧
      (c.write memory key f).2.entries.length = c.entries.length + 1 ∧
      (c.write memory key f).2.capacity =
        if (c.entries.length + 1) * 4 ≤ c.capacity * 3 then c.capacity
        else c.capacity * 2 := by
  have haccept : c.accept memory = _ := accept_of_double hgrowth
  by_cases hroom : (c.entries.length + 1) * 4 ≤ c.capacity * 3
  · rw [if_pos hroom] at haccept ⊢
    rw [write_of_ok h haccept]
    exact ⟨rfl, hgrowth, List.length_append, rfl⟩
  · rw [if_neg hroom, if_pos (hm hroom)] at haccept
    rw [if_neg hroom, write_of_ok h haccept]
    exact ⟨rfl, hgrowth, List.length_append, rfl⟩

/-- One name more is held by the same doubling, or by the next one. -/
theorem Doubled.enter (hn : 0 < n) (h : Doubled n c) (hgrowth : c'.growth = .double)
    (hlength : c'.entries.length = c.entries.length + 1)
    (hcapacity : c'.capacity =
      if (c.entries.length + 1) * 4 ≤ c.capacity * 3 then c.capacity
      else c.capacity * 2) : Doubled n c' := by
  obtain ⟨k, hk, hholds, hleast⟩ := h.least
  have hpos : 0 < n * 2 ^ k := Nat.mul_pos hn (Nat.two_pow_pos k)
  -- what holds one name more holds those before
  have hbelow : ∀ j, (c.entries.length + 1) * 4 ≤ n * 2 ^ j * 3 → k ≤ j := by
    intro j hj
    refine hleast ?_
    show c.entries.length * 4 ≤ n * 2 ^ j * 3
    omega
  have hholds' : c.entries.length * 4 ≤ n * 2 ^ k * 3 := hholds
  rw [hk] at hcapacity
  refine ⟨hgrowth, ?_⟩
  rw [hlength]
  by_cases hroom : (c.entries.length + 1) * 4 ≤ n * 2 ^ k * 3
  · rw [if_pos hroom] at hcapacity
    exact ⟨k, hcapacity, hroom, hbelow⟩
  · rw [if_neg hroom] at hcapacity
    have hdouble : n * 2 ^ (k + 1) = n * 2 ^ k * 2 := by
      rw [Nat.pow_succ, Nat.mul_assoc]
    refine ⟨k + 1, hcapacity.trans hdouble.symm, ?_, ?_⟩
    · -- a single slot without a name, or two and more of them
      show (c.entries.length + 1) * 4 ≤ n * 2 ^ (k + 1) * 3
      rw [hdouble]
      omega
    · intro j hj
      have hne : j ≠ k := by
        rintro rfl
        exact hroom hj
      have := hbelow j hj
      omega

theorem Doubled.write (hn : 0 < n) (h : Doubled n c) (memory : Memory)
    (key : String) (f : Option Duration → Duration) :
    Doubled n (c.write memory key f).2 := by
  cases hget : c.get? key with
  | some value =>
      obtain ⟨-, hgrowth, hcapacity, hlength⟩ := write_of_present hget memory f
      refine ⟨hgrowth.trans h.growth, ?_⟩
      rw [hcapacity, hlength]
      exact h.least
  | none =>
      by_cases hm : ¬ (c.entries.length + 1) * 4 ≤ c.capacity * 3 →
          memory.grants .statsSlots (c.capacity * 2 * StatsTable.slotBytes) = true
      · obtain ⟨-, hgrowth, hlength, hcapacity⟩ := write_of_new h.growth hget f hm
        exact h.enter hn hgrowth hlength hcapacity
      · -- the memory is refused, and the chart stays as it is
        rw [Classical.not_imp] at hm
        have haccept : c.accept memory = _ := accept_of_double h.growth
        rw [if_neg hm.1, if_neg hm.2] at haccept
        rw [write_of_error hget haccept]
        exact h

/-- An operation that writes a name is a write of that name. -/
theorem run_of_written {op : Op} (h : op.written? = some key) (memory : Memory)
    (c : Chart) :
    ∃ f g, c.run memory op
      = ((c.write memory key f).1.map g, (c.write memory key f).2) := by
  cases op with
  | set k value =>
      cases h
      exact ⟨_, _, rfl⟩
  | accumulate k delta =>
      cases h
      exact ⟨_, _, rfl⟩
  | get k => cases h
  | contains k => cases h

theorem Doubled.run (hn : 0 < n) (h : Doubled n c) (memory : Memory) (op : Op) :
    Doubled n (c.run memory op).2 := by
  cases hop : op.written? with
  | some key =>
      obtain ⟨f, g, hrun⟩ := run_of_written hop memory c
      rw [hrun]
      exact h.write hn memory key f
  | none =>
      -- an operation that writes no name only looks
      cases op with
      | set k value => cases hop
      | accumulate k delta => cases hop
      | get k => exact h
      | contains k => exact h

/-- Whatever the history, the room is doubled as often as the names ask for. -/
theorem Doubled.runAll (hn : 0 < n) (h : Doubled n c) (steps : List (Memory × Op)) :
    Doubled n (c.runAll steps).2 := by
  induction steps using List.reverseRecOn with
  | nil => exact h
  | append_singleton steps s ih =>
      rw [runAll_append_singleton]
      exact ih.run hn s.1 s.2

end Chart

/-! ## The policy of a doubling table -/

namespace StatsTable

variable {t : StatsTable} {c : Chart} {n : Nat}

/-- What holds of a doubling table that began with `n` slots. -/
structure Ample (n : Nat) (t : StatsTable) : Prop where
  /-- At most three quarters of its slots are taken. -/
  roomy : t.size * 4 ≤ t.capacity * 3
  /-- It has doubled its slots just as often as its names ask for. -/
  least : ∃ k, t.capacity = n * 2 ^ k ∧ IsLeast {j | t.size * 4 ≤ n * 2 ^ j * 3} k
  /-- There is an empty slot. -/
  vacant : ∃ i : Nat, t.slots[i]? = some none
  /-- So the search for a name always ends somewhere. -/
  not_full : ∀ key, t.probe key ≠ .full
  /-- Writing a name that is there keeps the slots, whatever the memory. -/
  overwrite : ∀ (now : Memory) (op : Op) (key : String), op.written? = some key →
    t.contains key = true →
    ∃ answer t', op.run now t = ⟨.value answer, t', []⟩ ∧
      t'.size = t.size ∧ t'.capacity = t.capacity
  /-- A new name is taken in with one doubling at most, unless its memory is
      refused. -/
  enter : ∀ (now : Memory) (op : Op) (key : String), op.written? = some key →
    t.contains key = false →
    (t.crowded = true →
      now.grants .statsSlots (t.capacity * 2 * slotBytes) = true) →
    ∃ answer t', op.run now t = ⟨.value answer, t', []⟩ ∧
      t'.size = t.size + 1 ∧ t'.size * 4 ≤ t'.capacity * 3 ∧
      t'.capacity = if t.crowded then t.capacity * 2 else t.capacity
  /-- Growth keeps every name with its duration, puts each of them in again with
      a search that ends, and leaves it on its way from its new home slot. -/
  grown : ∀ now : Memory,
    now.grants .statsSlots (t.capacity * 2 * slotBytes) = true →
    ∃ t', t.grow now = .ok t' ∧ t'.capacity = t.capacity * 2 ∧ t'.size = t.size ∧
      (occupied t'.slots).Perm (occupied t.slots) ∧
      (∀ key, t'.get? key = t.get? key) ∧
      (∀ s ∈ occupied t.slots, ∃ j m, Stored t'.slots j s ∧
        t'.probe s.key = .found j ∧ Leads t'.slots s.key m j) ∧
      Refilled (occupied t.slots) (Array.replicate (t.capacity * 2) none) t'.slots

theorem Charts.contains_eq (h : Charts t c) (key : String) :
    t.contains key = (c.get? key).isSome := by
  rw [contains, h.get?_eq]

theorem Charts.crowded_eq_false_iff (h : Charts t c) :
    t.crowded = false ↔ (c.entries.length + 1) * 4 ≤ c.capacity * 3 := by
  rw [← Bool.not_eq_true, h.crowded_iff, not_not]

/-- A table that is not full has an empty slot. -/
theorem Charts.exists_vacant (h : Charts t c) (hroom : c.entries.length < c.capacity) :
    ∃ i : Nat, t.slots[i]? = some none := by
  by_contra hnone
  have hfull : (occupied t.slots).length = t.slots.size := by
    refine length_occupied_eq fun i hi => ?_
    cases hslot : t.slots[i] with
    | none => exact absurd ⟨i, Array.getElem?_eq_some_iff.mpr ⟨hi, hslot⟩⟩ hnone
    | some s => exact ⟨s, Array.getElem?_eq_some_iff.mpr ⟨hi, hslot⟩⟩
  rw [h.length_occupied, show t.slots.size = c.capacity from h.capacity_eq] at hfull
  omega

/-- Then no search comes to nothing. -/
theorem probe_ne_full {i : Nat} (hi : t.slots[i]? = some none) (key : String) :
    t.probe key ≠ .full := by
  intro hfull
  obtain ⟨hlt, -⟩ := Array.getElem?_eq_some_iff.mp hi
  obtain ⟨s, hs⟩ := search_full (Nat.zero_lt_of_lt hlt) hfull hlt
  rw [Stored, hi] at hs
  cases hs

theorem Charts.overwrite (h : Charts t c) {now : Memory} {op : Op} {key : String}
    (hop : op.written? = some key) (hkey : t.contains key = true) :
    ∃ answer t', op.run now t = ⟨.value answer, t', []⟩ ∧
      t'.size = t.size ∧ t'.capacity = t.capacity := by
  rw [h.contains_eq, Option.isSome_iff_exists] at hkey
  obtain ⟨value, hget⟩ := hkey
  obtain ⟨f, g, hwrite⟩ := Chart.run_of_written hop now c
  obtain ⟨hvalue, -, hcapacity, hlength⟩ := Chart.write_of_present hget now f
  obtain ⟨t', hrun, hcharts, -⟩ := h.run now op
  rw [hwrite, hvalue] at hrun
  rw [hwrite] at hcharts
  refine ⟨_, t', hrun, ?_, ?_⟩
  · rw [hcharts.size_eq, hlength, h.size_eq]
  · rw [hcharts.capacity_eq, hcapacity, h.capacity_eq]

theorem Charts.take (hn : 0 < n) (h : Charts t c) (hdoubled : c.Doubled n) {now : Memory}
    {op : Op} {key : String} (hop : op.written? = some key)
    (hkey : t.contains key = false)
    (hm : t.crowded = true →
      now.grants .statsSlots (t.capacity * 2 * slotBytes) = true) :
    ∃ answer t', op.run now t = ⟨.value answer, t', []⟩ ∧
      t'.size = t.size + 1 ∧ t'.size * 4 ≤ t'.capacity * 3 ∧
      t'.capacity = if t.crowded then t.capacity * 2 else t.capacity := by
  rw [h.contains_eq, Option.isSome_eq_false_iff, Option.isNone_iff_eq_none] at hkey
  rw [h.crowded_iff, h.capacity_eq] at hm
  obtain ⟨f, g, hwrite⟩ := Chart.run_of_written hop now c
  obtain ⟨hvalue, -, hlength, hcapacity⟩ :=
    Chart.write_of_new hdoubled.growth hkey f hm
  obtain ⟨t', hrun, hcharts, -⟩ := h.run now op
  have hroomy := (hdoubled.write hn now key f).roomy
  rw [hwrite, hvalue] at hrun
  rw [hwrite] at hcharts
  refine ⟨_, t', hrun, ?_, ?_, ?_⟩
  · rw [hcharts.size_eq, hlength, h.size_eq]
  · rw [hcharts.size_eq, hcharts.capacity_eq]
    exact hroomy
  · rw [hcharts.capacity_eq, hcapacity, h.capacity_eq]
    by_cases hcrowded : t.crowded = true
    · rw [if_pos hcrowded, if_neg (h.crowded_iff.mp hcrowded)]
    · rw [if_neg hcrowded,
        if_pos (h.crowded_eq_false_iff.mp (Bool.not_eq_true _ ▸ hcrowded))]

theorem Charts.grown (h : Charts t c) {now : Memory}
    (hm : now.grants .statsSlots (t.capacity * 2 * slotBytes) = true) :
    ∃ t', t.grow now = .ok t' ∧ t'.capacity = t.capacity * 2 ∧ t'.size = t.size ∧
      (occupied t'.slots).Perm (occupied t.slots) ∧
      (∀ key, t'.get? key = t.get? key) ∧
      (∀ s ∈ occupied t.slots, ∃ j m, Stored t'.slots j s ∧
        t'.probe s.key = .found j ∧ Leads t'.slots s.key m j) ∧
      Refilled (occupied t.slots) (Array.replicate (t.capacity * 2) none)
        t'.slots := by
  have hslots : emptySlots now (t.capacity * 2)
      = .ok (Array.replicate (t.capacity * 2) none) := by
    rw [emptySlots, if_pos hm]
  have hle : t.slots.size ≤ t.capacity * 2 := Nat.le_mul_of_pos_right _ (by omega)
  obtain ⟨hsound, hsize, hperm⟩ := h.sound.grow hle
  have hcharts := h.grow hslots
  have hgrow : t.grow now = .ok
      ⟨(occupied t.slots).foldl reinsert (Array.replicate (t.capacity * 2) none),
        t.size, t.growth⟩ := by
    rw [StatsTable.grow, hslots]
    rfl
  refine ⟨_, hgrow, hsize, rfl, hperm, ?_, ?_, (h.sound.fits hle).refilled⟩
  · intro key
    -- both charts hold the same names with the same durations
    rw [hcharts.get?_eq, h.get?_eq]
    rfl
  · intro s hs
    obtain ⟨j, hj⟩ := mem_occupied.mp (hperm.mem_iff.mpr hs)
    obtain ⟨m, hm⟩ := hsound.leads j s hj
    exact ⟨j, m, hj, hsound.search_stored hj, hm⟩

theorem Charts.ample (hn : 0 < n) (h : Charts t c) (hdoubled : c.Doubled n) :
    Ample n t := by
  have hroom : c.entries.length < c.capacity := by
    have hroomy := hdoubled.roomy
    have hpos := h.capacity_pos
    omega
  obtain ⟨i, hi⟩ := h.exists_vacant hroom
  refine ⟨?_, ?_, ⟨i, hi⟩, probe_ne_full hi, ?_, ?_, ?_⟩
  · rw [h.size_eq, h.capacity_eq]
    exact hdoubled.roomy
  · rw [h.size_eq, h.capacity_eq]
    exact hdoubled.least
  · intro now op key hop hkey
    exact h.overwrite hop hkey
  · intro now op key hop hkey hm
    exact h.take hn hdoubled hop hkey hm
  · intro now hm
    exact h.grown hm

/-- A doubling table of `n` slots stays ample, whatever is written to it. -/
theorem growth_policy {memory : Memory} {n : Nat} (hn : 0 < n)
    (hm : memory.grants .statsSlots (n * slotBytes) = true) :
    ∃ t, ofCapacity memory n .double = .ok t ∧
      ∀ steps : List (Memory × Op), Ample n (t.runAll steps).2 := by
  obtain ⟨t, ht, hstart⟩ := charts_ofCapacity .double hn hm
  refine ⟨t, ht, fun steps => ?_⟩
  obtain ⟨-, hcharts⟩ := hstart.runAll steps
  exact hcharts.ample hn ((Chart.doubled_empty n).runAll hn steps)

/-- A table of one slot has four of them after three names, and the search for
    any other name ends at an empty one. -/
theorem growth_policy_of_one_slot :
    ∃ t, ofCapacity Memory.addressSpace 1 .double = .ok t ∧
      (t.runAll [(Memory.addressSpace, .accumulate "open" (.ofNanos 5)),
          (Memory.addressSpace, .accumulate "close" (.ofNanos 1)),
          (Memory.addressSpace, .set "read" (.ofNanos 2))]).2.capacity = 4 ∧
      ∀ key, (t.runAll [(Memory.addressSpace, .accumulate "open" (.ofNanos 5)),
          (Memory.addressSpace, .accumulate "close" (.ofNanos 1)),
          (Memory.addressSpace, .set "read" (.ofNanos 2))]).2.probe key ≠ .full := by
  obtain ⟨t, ht, h⟩ := growth_policy Nat.one_pos
    (show Memory.addressSpace.grants .statsSlots (1 * slotBytes) = true by rfl)
  refine ⟨t, ht, ?_, (h _).not_full⟩
  cases ht
  rfl

end StatsTable

end Provenance
