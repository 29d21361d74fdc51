import Provenance.Proofs.Stats.Clients

/-! # The course of a search

    A search looks at slots one after another, from the home slot of a name on
    and around the end.  Its `course` is the list of slots that it looks at, with
    a check of each index.  In sound slots no check fails, and where the search
    ends tells all that there is to tell about a name: the one slot that holds
    it, or else the first empty slot from its home slot on, or else that every
    slot is taken (`Sound.searchable`). -/

namespace Provenance.StatsTable

variable {t t' : StatsTable} {slots : Array (Option Slot)} {key : String}
  {i : Nat} {memory : Memory}

/-! ## The slots that are looked at -/

/-- The slots that a search of so many steps looks at, in order, and its end.  An
    index out of range would leave it without one. -/
def course (slots : Array (Option Slot)) (key : String) :
    Nat → Nat → List Nat × Option Probe
  | 0, _ => ([], some .full)
  | steps + 1, index =>
      match slots[index]? with
      | none => ([index], none)
      | some none => ([index], some (.vacant index))
      | some (some slot) =>
          if slot.key = key then ([index], some (.found index))
          else
            (index :: (course slots key steps (successor slots.size index)).1,
              (course slots key steps (successor slots.size index)).2)

/-- So many slots from an index on, around the end. -/
def onward (capacity index count : Nat) : List Nat :=
  (List.range count).map fun d => (index + d) % capacity

theorem onward_succ {n : Nat} (hi : i < n) (count : Nat) :
    i :: onward n (successor n i) count = onward n i (count + 1) := by
  have hnext := successor_mod n i (Nat.zero_lt_of_lt hi)
  have hhere : (i + 0) % n = i := Nat.mod_eq_of_lt hi
  rw [Nat.mod_eq_of_lt hi] at hnext
  rw [onward, onward, List.range_succ_eq_map, List.map_cons, List.map_map, hnext, hhere]
  congr 1
  refine List.map_congr_left fun d _ => ?_
  rw [Nat.mod_add_mod, Function.comp, Nat.add_assoc, Nat.add_comm 1 d]

/-- No index of a search is out of range, and it takes no more steps than it was
    given. -/
theorem course_eq (slots : Array (Option Slot)) (key : String) (steps : Nat)
    (hi : i < slots.size) :
    ∃ count ≤ steps, course slots key steps i
      = (onward slots.size i count, some (probeFrom slots key steps i)) := by
  induction steps generalizing i with
  | zero => exact ⟨0, Nat.le_refl 0, rfl⟩
  | succ steps ih =>
      have hone : [i] = onward slots.size i 1 := by
        rw [← onward_succ hi 0]
        rfl
      rw [course, probeFrom]
      rcases hslot : slots[i]? with _ | _ | s
      · rw [Array.getElem?_eq_none_iff] at hslot
        omega
      · exact ⟨1, by omega, by rw [hone]⟩
      · dsimp only
        by_cases hkey : s.key = key
        · rw [if_pos hkey, if_pos hkey]
          exact ⟨1, by omega, by rw [hone]⟩
        · have hnext : successor slots.size i < slots.size := by
            rw [successor]
            by_cases hend : i + 1 = slots.size
            · rw [if_pos hend]
              omega
            · rw [if_neg hend]
              omega
          obtain ⟨count, hcount, heq⟩ := ih hnext
          rw [if_neg hkey, if_neg hkey, heq, onward_succ hi]
          exact ⟨count + 1, by omega, rfl⟩

/-! ## Where a search ends -/

/-- The first empty slot from a slot on, around the end. -/
def FirstEmpty (slots : Array (Option Slot)) (home i : Nat) : Prop :=
  slots[i]? = some none ∧ ∃ d < slots.size, i = (home + d) % slots.size ∧
    ∀ e < d, ∃ s, Stored slots ((home + e) % slots.size) s

theorem Sound.found_iff (h : Sound slots) :
    search slots key = .found i ↔ ∃ s, Stored slots i s ∧ s.key = key ∧
      ∀ j s', Stored slots j s' → s'.key = key → j = i := by
  constructor
  · intro hfound
    obtain ⟨s, hs, hkey⟩ := search_found h.pos hfound
    refine ⟨s, hs, hkey, fun j s' hs' hkey' => ?_⟩
    exact h.index_eq hs' hs (hkey'.trans hkey.symm)
  · rintro ⟨s, hs, rfl, -⟩
    exact h.search_stored hs

theorem Sound.vacant_iff (h : Sound slots) :
    search slots key = .vacant i ↔ Absent slots key ∧
      FirstEmpty slots (Stats.homeSlot key slots.size) i := by
  have hends := search_ends h.pos key
  constructor
  · intro hvacant
    rw [hvacant] at hends
    obtain ⟨d, hd, ⟨heq, hpassed⟩, hempty⟩ := hends
    refine ⟨fun j s hs hkey => ?_, hempty, d, hd, heq, fun e he => ?_⟩
    · -- a stored name would have been found
      subst hkey
      rw [h.search_stored hs] at hvacant
      cases hvacant
    · obtain ⟨s, hs, -⟩ := hpassed e he
      exact ⟨s, hs⟩
  · rintro ⟨habsent, hempty, d, hd, rfl, htaken⟩
    cases hsearch : search slots key with
    | found j =>
        obtain ⟨s, hs, hkey⟩ := search_found h.pos hsearch
        exact absurd hkey (habsent j s hs)
    | full =>
        rw [hsearch] at hends
        obtain ⟨s, hs, -⟩ := hends d hd
        rw [Stored, hempty] at hs
        cases hs
    | vacant j =>
        rw [hsearch] at hends
        obtain ⟨m, -, ⟨rfl, hpassed⟩, hnone⟩ := hends
        -- of two empty slots on the way the search ends at the first
        rcases Nat.lt_trichotomy m d with hlt | rfl | hlt
        · obtain ⟨s, hs⟩ := htaken m hlt
          rw [Stored, hnone] at hs
          cases hs
        · rfl
        · obtain ⟨s, hs, -⟩ := hpassed d hlt
          rw [Stored, hempty] at hs
          cases hs

theorem Sound.full_iff (h : Sound slots) :
    search slots key = .full ↔ Absent slots key ∧
      ∀ i < slots.size, ∃ s, Stored slots i s := by
  constructor
  · intro hfull
    refine ⟨fun j s hs hkey => ?_, fun i hi => search_full h.pos hfull hi⟩
    subst hkey
    rw [h.search_stored hs] at hfull
    cases hfull
  · rintro ⟨habsent, htaken⟩
    cases hsearch : search slots key with
    | found j =>
        obtain ⟨s, hs, hkey⟩ := search_found h.pos hsearch
        exact absurd hkey (habsent j s hs)
    | vacant j =>
        obtain ⟨hnone, -⟩ := search_vacant h.pos hsearch
        obtain ⟨hj, -⟩ := Array.getElem?_eq_some_iff.mp hnone
        obtain ⟨s, hs⟩ := htaken j hj
        rw [Stored, hnone] at hs
        cases hs
    | full => rfl

/-- The search for a name ends at an empty slot just when the name is absent and there
    is such a slot. -/
theorem Sound.exists_vacant_iff (h : Sound slots) :
    (∃ i, search slots key = .vacant i) ↔
      Absent slots key ∧ ∃ i : Nat, slots[i]? = some none := by
  constructor
  · rintro ⟨i, hi⟩
    exact ⟨(h.vacant_iff.mp hi).1, i, (search_vacant h.pos hi).1⟩
  · rintro ⟨habsent, i, hi⟩
    have hsearch := h.search_absent habsent
    rw [if_pos (length_occupied_lt hi)] at hsearch
    exact hsearch

/-! ## Tables -/

/-- What the searches of a table come to. -/
structure Searchable (t : StatsTable) : Prop where
  /-- Over taken slots alone, all with other names, a name that is stored is
      reached from its home slot. -/
  unbroken : ∀ i s, Stored t.slots i s →
    ∃ d < t.capacity, i = (Stats.homeSlot s.key t.capacity + d) % t.capacity ∧
      ∀ e < d, ∃ s', s'.key ≠ s.key ∧
        Stored t.slots ((Stats.homeSlot s.key t.capacity + e) % t.capacity) s'
  /-- A search looks at no more slots than there are, one after another from the
      home slot on, and each of them exists. -/
  bounded : ∀ key, ∃ count ≤ t.capacity,
    course t.slots key t.capacity (Stats.homeSlot key t.capacity)
        = (onward t.capacity (Stats.homeSlot key t.capacity) count,
          some (t.probe key)) ∧
      ∀ i ∈ onward t.capacity (Stats.homeSlot key t.capacity) count, i < t.capacity
  /-- It ends at a name just in the only slot of that name. -/
  found_iff : ∀ key i, t.probe key = .found i ↔
    ∃ s, Stored t.slots i s ∧ s.key = key ∧
      ∀ j s', Stored t.slots j s' → s'.key = key → j = i
  exists_found_iff : ∀ key, (∃ i, t.probe key = .found i) ↔ ¬ Absent t.slots key
  /-- For an absent name it ends at the first empty slot. -/
  vacant_iff : ∀ key i, t.probe key = .vacant i ↔
    Absent t.slots key ∧ FirstEmpty t.slots (Stats.homeSlot key t.capacity) i
  exists_vacant_iff : ∀ key, (∃ i, t.probe key = .vacant i) ↔
    Absent t.slots key ∧ ∃ i : Nat, t.slots[i]? = some none
  /-- It comes to nothing where there is none. -/
  full_iff : ∀ key, t.probe key = .full ↔
    Absent t.slots key ∧ ∀ i < t.capacity, ∃ s, Stored t.slots i s

theorem Sound.searchable (h : Sound t.slots) : t.Searchable where
  unbroken i s hs := by
    -- the search for the name takes that way
    have hends := search_ends h.pos s.key
    rw [h.search_stored hs] at hends
    obtain ⟨d, hd, ⟨heq, hpassed⟩, -⟩ := hends
    refine ⟨d, hd, heq, fun e he => ?_⟩
    obtain ⟨s', hs', hne⟩ := hpassed e he
    exact ⟨s', hne, hs'⟩
  bounded key := by
    obtain ⟨count, hcount, heq⟩ :=
      course_eq t.slots key t.capacity (Stats.homeSlot_lt key h.pos)
    refine ⟨count, hcount, heq, fun i hi => ?_⟩
    obtain ⟨d, -, rfl⟩ := List.mem_map.mp hi
    exact Nat.mod_lt _ h.pos
  found_iff key i := h.found_iff
  exists_found_iff key := by
    constructor
    · rintro ⟨i, hi⟩ habsent
      obtain ⟨s, hs, hkey⟩ := search_found h.pos hi
      exact habsent i s hs hkey
    · intro hstored
      simp only [Absent, not_forall, not_not] at hstored
      obtain ⟨i, s, hs, rfl⟩ := hstored
      exact ⟨i, h.search_stored hs⟩
  vacant_iff key i := h.vacant_iff
  exists_vacant_iff key := h.exists_vacant_iff
  full_iff key := h.full_iff

/-- Room for one more name is made by moving all names, if at all. -/
theorem Sound.makeRoom (h : Sound t.slots) (hroom : t.makeRoom memory = .ok t') :
    Sound t'.slots := by
  rw [StatsTable.makeRoom] at hroom
  by_cases hgrow : t.growth = .double ∧ t.crowded
  · rw [if_pos hgrow, StatsTable.grow, emptySlots] at hroom
    by_cases hm : memory.grants .statsSlots (t.capacity * 2 * slotBytes) = true
    · rw [if_pos hm] at hroom
      cases hroom
      exact (h.grow (Nat.le_mul_of_pos_right _ (by omega))).1
    · rw [if_neg hm] at hroom
      cases hroom
  · rw [if_neg hgrow] at hroom
    cases hroom
    exact h

/-- Whatever was written to a table, every search in it ends where it should, and
    so does one in the slots to which a write that makes room moves the names. -/
theorem searches_end (h : t.Reachable) :
    t.Searchable ∧
      ∀ (now : Memory) (t' : StatsTable), t.makeRoom now = .ok t' → t'.Searchable := by
  obtain ⟨c, hc⟩ := h.charts
  exact ⟨hc.sound.searchable, fun now t' hroom => (hc.sound.makeRoom hroom).searchable⟩

/-- The second of two names with one home slot is in the slot after it.  A search
    from the last slot goes on to the first, and once that is taken to nowhere. -/
theorem searches_end_around :
    ∃ t t', ofCapacity Memory.addressSpace 4 .fixed = .ok t ∧
      t' = (t.runAll [(Memory.addressSpace, .set "a" .zero),
        (Memory.addressSpace, .set "e" .zero), (Memory.addressSpace, .set "c" .zero)]).2 ∧
      (∀ j s, Stored t'.slots j s → s.key = "e" → j = 2) ∧
      FirstEmpty t'.slots (Stats.homeSlot "g" 4) 0 ∧
      ∀ i < 4, ∃ s,
        Stored (t'.runAll [(Memory.addressSpace, .set "g" .zero)]).2.slots i s := by
  obtain ⟨t, ht⟩ : ∃ t, ofCapacity Memory.addressSpace 4 .fixed = .ok t := ⟨_, rfl⟩
  have hthree := (searches_end (t := (t.runAll [(Memory.addressSpace, .set "a" .zero),
    (Memory.addressSpace, .set "e" .zero), (Memory.addressSpace, .set "c" .zero)]).2)
    ⟨_, _, _, t, _, ht, rfl⟩).1
  have hfour := (searches_end (t := (t.runAll [(Memory.addressSpace, .set "a" .zero),
    (Memory.addressSpace, .set "e" .zero), (Memory.addressSpace, .set "c" .zero),
    (Memory.addressSpace, .set "g" .zero)]).2) ⟨_, _, _, t, _, ht, rfl⟩).1
  refine ⟨t, _, ht, rfl, ?_, ?_, ?_⟩
  · obtain ⟨-, -, -, honly⟩ := (hthree.found_iff "e" 2).mp (by cases ht; decide +kernel)
    exact honly
  · have hfirst := (hthree.vacant_iff "g" 0).mp (by cases ht; decide +kernel)
    cases ht
    exact hfirst.2
  · have htaken := (hfour.full_iff "k").mp (by cases ht; decide +kernel)
    cases ht
    exact htaken.2

end Provenance.StatsTable
