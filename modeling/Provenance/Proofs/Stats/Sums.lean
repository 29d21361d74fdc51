import Mathlib.Algebra.GroupWithZero.Nat
import Provenance.Proofs.Stats.History

/-! # What adds up in a table of statistics

    What is added under a name that a chart holds, or takes in, is there when
    the name is looked up, and nothing else changes.  A chart that does not take
    one more name stays as it is and takes none later either, as long as it finds
    the same memory (`Closed`). -/

namespace Provenance

theorem Duration.totalNanos_eq_sum (spans : List Duration) :
    totalNanos spans = (spans.map nanos).sum := by
  induction spans with
  | nil => rfl
  | cons d spans ih =>
      rw [List.map_cons, List.sum_cons, ← ih]
      rfl

namespace Chart

variable {c c' : Chart} {memory : Memory} {key : String} {value : Duration}
  {f : Option Duration → Duration}

/-! ## Looking up after a write -/

theorem lookup_replace (l : List (String × Duration)) (new : Duration) (k : String) :
    (l.map fun e => if e.1 = key then (key, new) else e).lookup k
      = (l.lookup k).map fun d => if k = key then new else d := by
  induction l with
  | nil => rfl
  | cons e l ih =>
      obtain ⟨name, d⟩ := e
      rw [List.map_cons, List.lookup_cons, List.lookup_cons, ih]
      by_cases hname : name = key
      · subst hname
        rw [if_pos rfl]
        by_cases hk : k = name
        · rw [beq_iff_eq.mpr hk, Option.map_some, if_pos hk]
        · rw [beq_false_of_ne hk]
      · rw [if_neg hname]
        by_cases hk : k = name
        · rw [beq_iff_eq.mpr hk, Option.map_some, if_neg (hk ▸ hname)]
        · rw [beq_false_of_ne hk]

theorem get?_replace (h : c.get? key = some value) (new : Duration) (k : String) :
    (c.replace key new).get? k = if k = key then some new else c.get? k := by
  rw [get?, replace, lookup_replace]
  by_cases hk : k = key
  · subst hk
    rw [show c.entries.lookup k = some value from h, Option.map_some, if_pos rfl,
      if_pos rfl]
  · rw [if_neg hk]
    simp only [if_neg hk, Option.map_id']
    rfl

theorem get?_add (h : c.get? key = none) (new : Duration) (k : String) :
    (c.add key new).get? k = if k = key then some new else c.get? k := by
  rw [get?, add, List.lookup_append, List.lookup_cons]
  by_cases hk : k = key
  · rw [if_pos hk, hk, show c.entries.lookup key = none from h, beq_self_eq_true]
    rfl
  · rw [if_neg hk, beq_false_of_ne hk]
    exact Option.or_none

theorem accept_entries (h : c.accept memory = .ok c') : c'.entries = c.entries := by
  rcases accept_ok h with ⟨-, -, rfl⟩ | ⟨-, -, rfl⟩ | ⟨-, -, -, rfl⟩
  · rfl
  · rfl
  · rfl

/-- A write that succeeds changes the duration of its name alone. -/
theorem get?_write (h : (c.write memory key f).1.isValue = true) (k : String) :
    (c.write memory key f).2.get? k
      = if k = key then some (f (c.get? key)) else c.get? k := by
  cases hget : c.get? key with
  | some value =>
      rw [write_of_some hget]
      exact get?_replace hget _ k
  | none =>
      cases haccept : c.accept memory with
      | error e =>
          rw [write_of_error hget haccept] at h
          cases h
      | ok c' =>
          have hentries := accept_entries haccept
          have hnone : c'.get? key = none := by
            rw [get?, hentries]
            exact hget
          rw [write_of_ok hget haccept]
          show (c'.add key (f none)).get? k = _
          rw [get?_add hnone, get?, hentries]
          rfl

/-! ## Charts that take no more names -/

/-- There is no room for one more name, and none is made. -/
def Closed (memory : Memory) (c : Chart) : Prop :=
  ∃ e, c.accept memory = .error e

/-- Only a name that is new to a closed chart is refused. -/
theorem write_refused (h : (c.write memory key f).1.isValue = false) :
    c.get? key = none ∧ c.Closed memory ∧ (c.write memory key f).2 = c := by
  cases hget : c.get? key with
  | some value =>
      rw [write_of_some hget] at h
      cases h
  | none =>
      cases haccept : c.accept memory with
      | ok c' =>
          rw [write_of_ok hget haccept] at h
          cases h
      | error e =>
          rw [write_of_error hget haccept]
          exact ⟨rfl, ⟨e, haccept⟩, rfl⟩

/-- Whether a chart is closed is told by its size, its room and its growth. -/
theorem Closed.congr (h : c.Closed memory)
    (hlength : c'.entries.length = c.entries.length)
    (hcapacity : c'.capacity = c.capacity) (hgrowth : c'.growth = c.growth) :
    c'.Closed memory := by
  obtain ⟨e, he⟩ := h
  refine ⟨e, ?_⟩
  rcases accept_error he with ⟨hfixed, hfull, rfl⟩ | ⟨hdouble, hcrowded, hm, rfl⟩
  · rw [accept_of_fixed (hgrowth.trans hfixed), hlength, hcapacity, if_neg hfull]
  · rw [accept_of_double (hgrowth.trans hdouble), hlength, hcapacity,
      if_neg hcrowded, if_neg hm]

/-- Whether a fixed chart is closed has nothing to do with memory. -/
theorem Closed.of_fixed (h : c.Closed memory) (hgrowth : c.growth = .fixed)
    (memory' : Memory) : c.Closed memory' := by
  obtain ⟨e, he⟩ := h
  rw [accept_of_fixed hgrowth] at he
  exact ⟨e, by rw [accept_of_fixed hgrowth, he]⟩

/-- A closed chart stays closed, and takes no name that it does not hold. -/
theorem Closed.write (h : c.Closed memory) (key : String)
    (f : Option Duration → Duration) :
    (c.write memory key f).2.Closed memory ∧
      ∀ k, c.get? k = none → (c.write memory key f).2.get? k = none := by
  cases hget : c.get? key with
  | some value =>
      rw [write_of_some hget]
      refine ⟨h.congr (List.length_map _) rfl rfl, fun k hk => ?_⟩
      rw [get?_replace hget, if_neg, hk]
      rintro rfl
      rw [hget] at hk
      cases hk
  | none =>
      obtain ⟨e, he⟩ := h
      rw [write_of_error hget he]
      exact ⟨⟨e, he⟩, fun k hk => hk⟩

/-! ## Adding -/

/-- Add to the duration of a name, from zero if it is new. -/
def accumulate (memory : Memory) (key : String) (delta : Duration) (c : Chart) :
    Outcome StatsError Duration × Chart :=
  c.write memory key fun stored => (stored.getD .zero).saturatingAdd delta

/-- What is added is there afterwards, and nothing else changes. -/
theorem get?_accumulate {delta : Duration}
    (h : (c.accumulate memory key delta).1.isValue = true) (k : String) :
    (c.accumulate memory key delta).2.get? k
      = if k = key then some (((c.get? key).getD .zero).saturatingAdd delta)
        else c.get? k :=
  get?_write h k

end Chart

/-! ## Tables -/

namespace StatsTable

variable {t : StatsTable} {c : Chart} {memory : Memory}

/-- A table that was made stands for an empty chart. -/
theorem charts_of_ofCapacity {n : Nat} {growth : Growth}
    (h : ofCapacity memory n growth = .ok t) : Charts t (.empty n growth) := by
  by_cases hzero : n = 0
  · rw [ofCapacity, if_pos hzero] at h
    cases h
  · by_cases hm : memory.grants .statsSlots (n * slotBytes) = true
    · obtain ⟨t', ht', hcharts⟩ := charts_ofCapacity growth (Nat.pos_of_ne_zero hzero) hm
      rw [ht'] at h
      cases h
      exact hcharts
    · rw [ofCapacity, if_neg hzero, emptySlots, if_neg hm] at h
      cases h

theorem charts_of_ofConfig {config : Config} (h : ofConfig memory config = .ok t) :
    Charts t (.empty config.statsCapacity config.statsGrowth) :=
  charts_of_ofCapacity h

/-- To add to a table is to add to its chart. -/
theorem Charts.accumulate (h : Charts t c) (memory : Memory) (key : String)
    (delta : Duration) :
    (StatsTable.accumulate memory key delta t).outcome
      = (c.accumulate memory key delta).1 ∧
    Charts (StatsTable.accumulate memory key delta t).state
      (c.accumulate memory key delta).2 := by
  obtain ⟨t', ht', hcharts, -⟩ := h.update memory key fun stored =>
    (stored.getD .zero).saturatingAdd delta
  rw [StatsTable.accumulate, ht']
  exact ⟨rfl, hcharts⟩

theorem total_eq {ε : Type}
    (h : Duration.totalNanos (t.toList.map Prod.snd) ≤ Duration.limit) :
    (total t : Ending StatsTable ε Duration)
      = ⟨.value (.ofNanos (Duration.totalNanos (t.toList.map Prod.snd))), t, []⟩ := by
  have hsum : Duration.sum? (t.toList.map Prod.snd)
      = some (.ofNanos (Duration.totalNanos (t.toList.map Prod.snd))) := by
    rw [Duration.sum?, dif_pos h]
    exact congrArg some (Duration.ext (Nat.min_eq_left h).symm)
  rw [total, hsum]

end StatsTable

end Provenance
