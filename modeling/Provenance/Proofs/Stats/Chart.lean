import Provenance.Proofs.Stats.Fill
import Provenance.Proofs.Stats.Update

/-! # Tables of statistics as maps

    A `Chart` is what a table of statistics stands for: durations by name, in
    the order in which the names came in, with the room that there is for more
    of them.  It knows nothing of slots, hashes or searches.

    A table in step with a chart (`Charts`) answers each operation as the chart
    does and stays in step with it (`Charts.run`), and an operation that fails
    leaves the table as it is. -/

namespace Provenance

/-- Durations by name, with the number of names that there is room for. -/
structure Chart where
  entries : List (String × Duration)
  capacity : Nat
  growth : Growth

namespace StatsTable

/-- An operation on a table. -/
inductive Op where
  | set (key : String) (value : Duration)
  | accumulate (key : String) (delta : Duration)
  | get (key : String)
  | contains (key : String)

/-- The answer of an operation on a table. -/
inductive Answer where
  | done
  | total (value : Duration)
  | stored (value : Option Duration)
  | present (answer : Bool)

/-- Do an operation on a table. -/
def Op.run (memory : Memory) : Op → Call StatsTable StatsError Answer
  | set key value => (fun _ => .done) <$> StatsTable.set memory key value
  | accumulate key delta =>
      .total <$> StatsTable.accumulate memory key delta
  | get key => (fun t => .stored (t.get? key)) <$> Call.state
  | contains key => (fun t => .present (t.contains key)) <$> Call.state

end StatsTable

/-! ## The map -/

namespace Chart

open StatsTable (Op Answer)

/-- A chart without names. -/
def empty (capacity : Nat) (growth : Growth) : Chart := ⟨[], capacity, growth⟩

/-- The duration of a name. -/
def get? (c : Chart) (key : String) : Option Duration := c.entries.lookup key

/-- Make room for one more name.  A fixed chart has room for so many names, a
    doubling chart is never filled past three quarters. -/
def accept (memory : Memory) (c : Chart) : Except StatsError Chart :=
  match c.growth with
  | .fixed =>
      if c.entries.length < c.capacity then .ok c
      else .error (.capacityExceeded c.capacity)
  | .double =>
      if (c.entries.length + 1) * 4 ≤ c.capacity * 3 then .ok c
      else if memory.grants .statsSlots
          (c.capacity * 2 * StatsTable.slotBytes) then
        .ok { c with capacity := c.capacity * 2 }
      else .error (.outOfMemory Purpose.statsSlots.text)

theorem accept_of_fixed {c : Chart} {memory : Memory} (h : c.growth = .fixed) :
    c.accept memory =
      if c.entries.length < c.capacity then .ok c
      else .error (.capacityExceeded c.capacity) := by
  simp only [accept, h]

theorem accept_of_double {c : Chart} {memory : Memory} (h : c.growth = .double) :
    c.accept memory =
      if (c.entries.length + 1) * 4 ≤ c.capacity * 3 then .ok c
      else if memory.grants .statsSlots
          (c.capacity * 2 * StatsTable.slotBytes) then
        .ok { c with capacity := c.capacity * 2 }
      else .error (.outOfMemory Purpose.statsSlots.text) := by
  simp only [accept, h]

/-- Where a chart takes one more name: a fixed one as long as it is not full, a
    doubling one as it is or with its room doubled. -/
theorem accept_ok {c c' : Chart} {memory : Memory} (h : c.accept memory = .ok c') :
    (c.growth = .fixed ∧ c.entries.length < c.capacity ∧ c' = c) ∨
    (c.growth = .double ∧ (c.entries.length + 1) * 4 ≤ c.capacity * 3 ∧ c' = c) ∨
    (c.growth = .double ∧ ¬ (c.entries.length + 1) * 4 ≤ c.capacity * 3 ∧
      memory.grants .statsSlots (c.capacity * 2 * StatsTable.slotBytes) = true ∧
      c' = { c with capacity := c.capacity * 2 }) := by
  cases hgrowth : c.growth with
  | fixed =>
      rw [accept_of_fixed hgrowth] at h
      by_cases hroom : c.entries.length < c.capacity
      · rw [if_pos hroom] at h
        cases h
        exact Or.inl ⟨rfl, hroom, rfl⟩
      · rw [if_neg hroom] at h
        cases h
  | double =>
      rw [accept_of_double hgrowth] at h
      by_cases hroom : (c.entries.length + 1) * 4 ≤ c.capacity * 3
      · rw [if_pos hroom] at h
        cases h
        exact Or.inr (Or.inl ⟨rfl, hroom, rfl⟩)
      · rw [if_neg hroom] at h
        by_cases hm : memory.grants .statsSlots
            (c.capacity * 2 * StatsTable.slotBytes) = true
        · rw [if_pos hm] at h
          cases h
          exact Or.inr (Or.inr ⟨rfl, hroom, hm, hgrowth ▸ rfl⟩)
        · rw [if_neg hm] at h
          cases h

/-- Where it does not: a fixed chart is full, a doubling one lacks memory. -/
theorem accept_error {c : Chart} {memory : Memory} {e : StatsError}
    (h : c.accept memory = .error e) :
    (c.growth = .fixed ∧ ¬ c.entries.length < c.capacity ∧
      e = .capacityExceeded c.capacity) ∨
    (c.growth = .double ∧ ¬ (c.entries.length + 1) * 4 ≤ c.capacity * 3 ∧
      ¬ memory.grants .statsSlots (c.capacity * 2 * StatsTable.slotBytes) = true ∧
      e = .outOfMemory Purpose.statsSlots.text) := by
  cases hgrowth : c.growth with
  | fixed =>
      rw [accept_of_fixed hgrowth] at h
      by_cases hroom : c.entries.length < c.capacity
      · rw [if_pos hroom] at h
        cases h
      · rw [if_neg hroom] at h
        cases h
        exact Or.inl ⟨rfl, hroom, rfl⟩
  | double =>
      rw [accept_of_double hgrowth] at h
      by_cases hroom : (c.entries.length + 1) * 4 ≤ c.capacity * 3
      · rw [if_pos hroom] at h
        cases h
      · rw [if_neg hroom] at h
        by_cases hm : memory.grants .statsSlots
            (c.capacity * 2 * StatsTable.slotBytes) = true
        · rw [if_pos hm] at h
          cases h
        · rw [if_neg hm] at h
          cases h
          exact Or.inr ⟨rfl, hroom, hm, rfl⟩

/-- Replace the duration of a name. -/
def replace (c : Chart) (key : String) (value : Duration) : Chart :=
  { c with entries :=
      c.entries.map fun e => if e.1 = key then (key, value) else e }

/-- Add a name. -/
def add (c : Chart) (key : String) (value : Duration) : Chart :=
  { c with entries := c.entries ++ [(key, value)] }

/-- Change the duration of a name; `f` sees the one there, if there is one. -/
def write (memory : Memory) (key : String) (f : Option Duration → Duration)
    (c : Chart) : Outcome StatsError Duration × Chart :=
  match c.get? key with
  | some value => (.value (f (some value)), c.replace key (f (some value)))
  | none =>
      match c.accept memory with
      | .ok c => (.value (f none), c.add key (f none))
      | .error e => (.error e, c)

section

variable {c c' : Chart} {memory : Memory} {key : String} {value : Duration}
  {f : Option Duration → Duration}

theorem write_of_some (h : c.get? key = some value) :
    c.write memory key f
      = (.value (f (some value)), c.replace key (f (some value))) := by
  simp only [write, h]

theorem write_of_ok (h : c.get? key = none) (haccept : c.accept memory = .ok c') :
    c.write memory key f = (.value (f none), c'.add key (f none)) := by
  simp only [write, h, haccept]

theorem write_of_error {e : StatsError} (h : c.get? key = none)
    (haccept : c.accept memory = .error e) :
    c.write memory key f = (.error e, c) := by
  simp only [write, h, haccept]

end

/-- Do an operation on a chart. -/
def run (memory : Memory) (c : Chart) : Op → Outcome StatsError Answer × Chart
  | .set key value =>
      ((c.write memory key fun _ => value).1.map fun _ => .done,
        (c.write memory key fun _ => value).2)
  | .accumulate key delta =>
      ((c.write memory key fun stored =>
          (stored.getD .zero).saturatingAdd delta).1.map .total,
        (c.write memory key fun stored =>
          (stored.getD .zero).saturatingAdd delta).2)
  | .get key => (.value (.stored (c.get? key)), c)
  | .contains key => (.value (.present (c.get? key).isSome), c)

/-- The names of a chart are distinct. -/
def Distinct (c : Chart) : Prop := (c.entries.map Prod.fst).Nodup

theorem get?_eq_some_iff {c : Chart} (h : c.Distinct) {key : String}
    {value : Duration} : c.get? key = some value ↔ (key, value) ∈ c.entries := by
  rw [get?, List.lookup_eq_some_iff]
  constructor
  · rintro ⟨before, after, hsplit, -⟩
    rw [hsplit]
    exact List.mem_append_right _ (List.mem_cons_self ..)
  · intro hmem
    obtain ⟨before, after, hsplit⟩ := List.append_of_mem hmem
    refine ⟨before, after, hsplit, ?_⟩
    rw [Distinct, hsplit, List.map_append, List.map_cons, List.nodup_append]
      at h
    intro e he
    have hne := h.2.2 e.1 (List.mem_map_of_mem he) key (List.mem_cons_self ..)
    simpa using hne.symm

end Chart

/-! ## Tables in step with a map -/

namespace StatsTable

variable {t t' : StatsTable} {c : Chart} {key : String} {value : Duration}
  {memory : Memory} {f : Option Duration → Duration} {i : Nat}

/-- A table stands for a chart. -/
structure Charts (t : StatsTable) (c : Chart) : Prop where
  sound : Sound t.slots
  perm : t.toList.Perm c.entries
  size_eq : t.size = c.entries.length
  capacity_eq : t.capacity = c.capacity
  growth_eq : t.growth = c.growth

theorem toList_eq (t : StatsTable) :
    t.toList = (occupied t.slots).map fun s => (s.key, s.value) := rfl

theorem Charts.distinct (h : Charts t c) : c.Distinct := by
  rw [Chart.Distinct, ← (h.perm.map Prod.fst).nodup_iff, toList_eq, List.map_map,
    List.Nodup, List.pairwise_map]
  exact h.sound.pairwise_occupied

theorem Charts.length_occupied (h : Charts t c) :
    (occupied t.slots).length = c.entries.length := by
  rw [← h.perm.length_eq, toList_eq, List.length_map]

theorem Charts.stored_iff (h : Charts t c) :
    c.get? key = some value ↔ ∃ i, Stored t.slots i ⟨key, value⟩ := by
  rw [Chart.get?_eq_some_iff h.distinct, ← h.perm.mem_iff, toList_eq,
    List.mem_map, ← mem_occupied]
  constructor
  · rintro ⟨⟨key, value⟩, hs, heq⟩
    cases heq
    exact hs
  · exact fun hs => ⟨_, hs, rfl⟩

theorem Charts.absent (h : Charts t c) (hnone : c.get? key = none) :
    Absent t.slots key := by
  rintro i ⟨_, value⟩ hs rfl
  rw [h.stored_iff.mpr ⟨i, hs⟩] at hnone
  cases hnone

theorem Charts.misses (h : Charts t c) (hnone : c.get? key = none) :
    t.Misses key := by
  intro i hfound
  obtain ⟨s, hs, hkey⟩ := search_found h.sound.pos hfound
  exact h.absent hnone i s hs hkey

theorem Charts.probe_found (hs : Stored t.slots i ⟨key, value⟩)
    (h : Charts t c) : t.probe key = .found i :=
  h.sound.search_stored hs

/-- A table finds what its chart holds. -/
theorem Charts.get?_eq (h : Charts t c) (key : String) :
    t.get? key = c.get? key := by
  rw [StatsTable.get?]
  cases hget : c.get? key with
  | none =>
      cases hp : t.probe key with
      | found i => exact absurd hp (h.misses hget i)
      | vacant i => rfl
      | full => rfl
  | some value =>
      obtain ⟨i, hs⟩ := h.stored_iff.mp hget
      rw [h.probe_found hs]
      show (t.slots[i]?.join).map Slot.value = some value
      rw [hs]
      rfl

/-! ## Writing -/

/-- Over the duration of a name that is stored. -/
theorem Charts.store (h : Charts t c) (hs : Stored t.slots i ⟨key, value⟩)
    (new : Duration) : Charts (t.store i key new) (c.replace key new) := by
  obtain ⟨hi, -⟩ := Array.getElem?_eq_some_iff.mp hs
  obtain ⟨m, hm⟩ := h.sound.leads i _ hs
  constructor
  · refine h.sound.write hi hm fun s hs' => ?_
    rw [Stored, hs] at hs'
    cases hs'
    rfl
  · -- in the same place as in the chart, whatever the order of the slots
    have hperm := h.perm.map fun e : String × Duration =>
      if e.1 = key then (key, new) else e
    have hlist := h.sound.occupied_overwrite ⟨key, new⟩ hs rfl
    rw [toList_eq, StatsTable.store, hlist, List.map_map]
    rw [toList_eq, List.map_map] at hperm
    refine .trans (.of_eq (List.map_congr_left fun s _ => ?_)) hperm
    dsimp only [Function.comp]
    by_cases hkey : s.key = key
    · rw [if_pos hkey, if_pos hkey]
    · rw [if_neg hkey, if_neg hkey]
  · show t.size = (c.entries.map _).length
    rw [List.length_map]
    exact h.size_eq
  · show (t.slots.setIfInBounds _ _).size = c.capacity
    rw [Array.size_setIfInBounds]
    exact h.capacity_eq
  · exact h.growth_eq

/-- Into an empty slot, as long as there is one. -/
theorem Charts.enter (h : Charts t c) (hnone : c.get? key = none)
    (hroom : c.entries.length < c.capacity) (new : Duration) :
    ∃ i, t.probe key = .vacant i ∧
      Charts (t.enter i key new) (c.add key new) := by
  have hlength : (occupied t.slots).length < t.slots.size := by
    rw [h.length_occupied, show t.slots.size = c.capacity from h.capacity_eq]
    exact hroom
  obtain ⟨i, m, hsearch, hempty, hlead⟩ := h.sound.vacant (h.absent hnone) hlength
  refine ⟨i, hsearch, ?_⟩
  constructor
  · exact h.sound.fill ⟨key, new⟩ hempty hlead
  · have hperm := (occupied_fill ⟨key, new⟩ hempty).map
      fun s => (s.key, s.value)
    rw [List.map_cons] at hperm
    exact hperm.trans ((h.perm.cons _).trans (List.perm_append_singleton _ _).symm)
  · show t.size + 1 = (c.entries ++ [_]).length
    rw [List.length_append, List.length_singleton, h.size_eq]
  · show (t.slots.setIfInBounds _ _).size = c.capacity
    rw [Array.size_setIfInBounds]
    exact h.capacity_eq
  · exact h.growth_eq

theorem Charts.probe_full (h : Charts t c) (hnone : c.get? key = none)
    (hfull : ¬ c.entries.length < c.capacity) : t.probe key = .full := by
  have hsearch := h.sound.search_absent (h.absent hnone)
  rw [h.length_occupied, show t.slots.size = c.capacity from h.capacity_eq,
    if_neg hfull] at hsearch
  exact hsearch

theorem Charts.length_le (h : Charts t c) : c.entries.length ≤ c.capacity := by
  rw [← h.length_occupied, ← h.capacity_eq]
  exact length_occupied_le t.slots

theorem Charts.capacity_pos (h : Charts t c) : 0 < c.capacity := by
  rw [← h.capacity_eq]
  exact h.sound.pos

/-- The same names in more slots. -/
theorem Charts.grow (h : Charts t c) {slots : Array (Option Slot)}
    (hslots : emptySlots memory (t.capacity * 2) = .ok slots) :
    Charts { t with slots := (occupied t.slots).foldl reinsert slots }
      { c with capacity := c.capacity * 2 } := by
  have hfresh : slots = Array.replicate (t.capacity * 2) none := by
    rw [emptySlots] at hslots
    by_cases hm : memory.grants .statsSlots (t.capacity * 2 * slotBytes) = true
    · rw [if_pos hm] at hslots
      cases hslots
      rfl
    · rw [if_neg hm] at hslots
      cases hslots
  obtain ⟨hsound, hsize, hperm⟩ := h.sound.grow
    (show t.slots.size ≤ t.capacity * 2 from Nat.le_mul_of_pos_right _ (by omega))
  rw [← hfresh] at hsound hsize hperm
  constructor
  · exact hsound
  · exact (hperm.map fun s : Slot => (s.key, s.value)).trans h.perm
  · exact h.size_eq
  · rw [h.capacity_eq] at hsize
    exact hsize
  · exact h.growth_eq

theorem Charts.crowded_iff (h : Charts t c) :
    t.crowded = true ↔ ¬ (c.entries.length + 1) * 4 ≤ c.capacity * 3 := by
  rw [crowded, decide_eq_true_iff, h.size_eq, h.capacity_eq, Nat.not_le]

/-- Where there is room for a new name, or room is made for it. -/
theorem Charts.makeRoom_ok (h : Charts t c) {c' : Chart}
    (haccept : c.accept memory = .ok c') :
    c'.entries = c.entries ∧ c'.entries.length < c'.capacity ∧
      ∃ t', t.makeRoom memory = .ok t' ∧ Charts t' c' := by
  have hpos := h.capacity_pos
  have hle := h.length_le
  rcases Chart.accept_ok haccept with
    ⟨hgrowth, hroom, rfl⟩ | ⟨-, hroom, rfl⟩ | ⟨hgrowth, hcrowded, hm, rfl⟩
  · -- a fixed table never grows
    refine ⟨rfl, hroom, t, ?_, h⟩
    rw [makeRoom, h.growth_eq, hgrowth, if_neg (fun h => nomatch h.1)]
  · -- it is not crowded yet
    refine ⟨rfl, by omega, t, ?_, h⟩
    rw [makeRoom, if_neg fun hc => h.crowded_iff.mp hc.2 hroom]
  · -- it is, and all its names move to twice as many slots
    have hslots : emptySlots memory (t.capacity * 2)
        = .ok (Array.replicate (t.capacity * 2) none) := by
      rw [emptySlots, h.capacity_eq, if_pos hm]
    refine ⟨rfl, ?_, _, ?_, h.grow hslots⟩
    · show c.entries.length < c.capacity * 2
      omega
    · rw [makeRoom,
        if_pos ⟨h.growth_eq.trans hgrowth, h.crowded_iff.mpr hcrowded⟩,
        StatsTable.grow, hslots]
      rfl

/-- Where there is no room for a new name. -/
theorem Charts.update_refused (h : Charts t c) (hnone : c.get? key = none)
    {e : StatsError} (haccept : c.accept memory = .error e) :
    update memory key f t = ⟨.error e, t, []⟩ := by
  rcases Chart.accept_error haccept with
    ⟨hgrowth, hfull, rfl⟩ | ⟨hgrowth, hcrowded, hm, rfl⟩
  · -- the search itself finds every slot of a fixed table taken
    have hsame : t.makeRoom memory = .ok t := by
      rw [makeRoom, h.growth_eq, hgrowth, if_neg (fun h => nomatch h.1)]
    rw [update_of_room (h.misses hnone) hsame, h.probe_full hnone hfull,
      h.capacity_eq]
  · -- the memory is asked for before any slot is touched
    refine update_of_error (h.misses hnone) ?_
    rw [makeRoom,
      if_pos ⟨h.growth_eq.trans hgrowth, h.crowded_iff.mpr hcrowded⟩,
      StatsTable.grow, emptySlots, h.capacity_eq, if_neg hm]
    rfl

/-- A write to a table is one to its chart, and leaves the table alone if it
    fails. -/
theorem Charts.update (h : Charts t c) (memory : Memory) (key : String)
    (f : Option Duration → Duration) :
    ∃ t', StatsTable.update memory key f t = ⟨(c.write memory key f).1, t', []⟩ ∧
      Charts t' (c.write memory key f).2 ∧
      ∀ e, (c.write memory key f).1 = .error e → t' = t := by
  cases hget : c.get? key with
  | some value =>
      obtain ⟨i, hs⟩ := h.stored_iff.mp hget
      have hvalue : (t.slot? i).map Slot.value = some value := by
        rw [slot?, hs]
        rfl
      rw [Chart.write_of_some hget]
      refine ⟨t.store i key (f (some value)), ?_, h.store hs _, fun e he => ?_⟩
      · rw [update_of_found (h.probe_found hs), hvalue]
      · cases he
  | none =>
      cases haccept : c.accept memory with
      | error e =>
          rw [Chart.write_of_error hget haccept]
          exact ⟨t, h.update_refused hget haccept, h, fun _ _ => rfl⟩
      | ok c' =>
          obtain ⟨hentries, hroom, t', hmake, h'⟩ := h.makeRoom_ok haccept
          have hnone : c'.get? key = none := by
            rw [Chart.get?, hentries]
            exact hget
          -- the search goes over the slots that there are now
          obtain ⟨i, hprobe, henter⟩ := h'.enter hnone hroom (f none)
          rw [Chart.write_of_ok hget haccept]
          refine ⟨t'.enter i key (f none), ?_, henter, fun e he => ?_⟩
          · rw [update_of_room (h.misses hget) hmake, hprobe]
          · cases he

/-- An operation on a table is one on its chart, and leaves the table alone if
    it fails. -/
theorem Charts.run (h : Charts t c) (memory : Memory) (op : Op) :
    ∃ t', op.run memory t = ⟨(c.run memory op).1, t', []⟩ ∧
      Charts t' (c.run memory op).2 ∧
      ∀ e, (c.run memory op).1 = .error e → t' = t := by
  cases op with
  | set key value =>
      obtain ⟨t', ht', hcharts, hsame⟩ := h.update memory key fun _ => value
      refine ⟨t', ?_, hcharts, fun e he => ?_⟩
      · show ((fun _ => Answer.done) <$> (fun _ => ()) <$>
          StatsTable.update memory key fun _ => value) t = _
        rw [Call.map_apply, Call.map_apply, ht', Outcome.map_map]
        rfl
      · exact hsame e (Outcome.map_eq_error_iff.mp he)
  | accumulate key delta =>
      obtain ⟨t', ht', hcharts, hsame⟩ := h.update memory key fun stored =>
        (stored.getD .zero).saturatingAdd delta
      refine ⟨t', ?_, hcharts, fun e he => ?_⟩
      · show (Answer.total <$> StatsTable.update memory key _) t = _
        rw [Call.map_apply, ht']
        rfl
      · exact hsame e (Outcome.map_eq_error_iff.mp he)
  | get key =>
      refine ⟨t, ?_, h, fun _ _ => rfl⟩
      show (⟨.value (.stored (t.get? key)), t, []⟩ :
        Ending StatsTable StatsError Answer) = _
      rw [h.get?_eq key]
      rfl
  | contains key =>
      refine ⟨t, ?_, h, fun _ _ => rfl⟩
      show (⟨.value (.present (t.get? key).isSome), t, []⟩ :
        Ending StatsTable StatsError Answer) = _
      rw [h.get?_eq key]
      rfl

end StatsTable

end Provenance
