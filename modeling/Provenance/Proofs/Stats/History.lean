import Mathlib.Data.List.Induction
import Provenance.Proofs.Stats.Chart

/-! # Histories of a table of statistics

    A history is a list of operations, each with the memory that it finds.  A
    new table answers every history as an empty chart does, and stands for what
    the chart then holds.

    For a fixed table of `n` slots that chart is known outright
    (`Chart.entries_of_fixed`): its names are the first `n` distinct names
    written, each with the duration last set, or none, and all that was added
    since. -/

namespace Provenance

open StatsTable (Op Answer)

/-- Do operations one after another, and collect the answers. -/
def StatsTable.runAll (t : StatsTable) (steps : List (Memory × Op)) :
    List (Outcome StatsError Answer) × StatsTable :=
  steps.foldl (fun r s =>
    (r.1 ++ [(s.2.run s.1 r.2).outcome], (s.2.run s.1 r.2).state)) ([], t)

namespace Chart

/-- Do operations one after another, and collect the answers. -/
def runAll (c : Chart) (steps : List (Memory × Op)) :
    List (Outcome StatsError Answer) × Chart :=
  steps.foldl (fun r s => (r.1 ++ [(r.2.run s.1 s.2).1], (r.2.run s.1 s.2).2))
    ([], c)

theorem runAll_append_singleton (c : Chart) (steps : List (Memory × Op))
    (s : Memory × Op) :
    c.runAll (steps ++ [s])
      = ((c.runAll steps).1 ++ [((c.runAll steps).2.run s.1 s.2).1],
          ((c.runAll steps).2.run s.1 s.2).2) := by
  rw [runAll, List.foldl_append]
  rfl

end Chart

namespace StatsTable

variable {t : StatsTable} {c : Chart}

theorem runAll_append_singleton (t : StatsTable) (steps : List (Memory × Op))
    (s : Memory × Op) :
    t.runAll (steps ++ [s])
      = ((t.runAll steps).1 ++ [(s.2.run s.1 (t.runAll steps).2).outcome],
          (s.2.run s.1 (t.runAll steps).2).state) := by
  rw [runAll, List.foldl_append]
  rfl

/-- A table answers a history as its chart does. -/
theorem Charts.runAll (h : Charts t c) (steps : List (Memory × Op)) :
    (t.runAll steps).1 = (c.runAll steps).1 ∧
      Charts (t.runAll steps).2 (c.runAll steps).2 := by
  induction steps using List.reverseRecOn with
  | nil => exact ⟨rfl, h⟩
  | append_singleton steps s ih =>
      obtain ⟨hanswers, hcharts⟩ := ih
      obtain ⟨t', hrun, hcharts', -⟩ := hcharts.run s.1 s.2
      rw [runAll_append_singleton, Chart.runAll_append_singleton, hrun, hanswers]
      exact ⟨rfl, hcharts'⟩

/-- A new table stands for an empty chart. -/
theorem charts_ofCapacity {memory : Memory} {n : Nat} (growth : Growth)
    (hn : 0 < n) (hm : memory.grants .statsSlots (n * slotBytes) = true) :
    ∃ t, ofCapacity memory n growth = .ok t ∧ Charts t (.empty n growth) := by
  refine ⟨⟨Array.replicate n none, 0, growth⟩, ?_, ?_⟩
  · rw [ofCapacity, if_neg (by omega), emptySlots, if_pos hm]
    rfl
  · constructor
    · exact Sound.replicate hn
    · rw [toList_eq, occupied_replicate]
      exact .refl _
    · rfl
    · exact Array.size_replicate
    · rfl

end StatsTable

/-! ## Fixed tables -/

/-- The name that an operation writes. -/
def StatsTable.Op.written? : Op → Option String
  | set key _ => some key
  | accumulate key _ => some key
  | get _ => none
  | contains _ => none

/-- What an operation makes of the sum of nanoseconds of a name. -/
def StatsTable.Op.charge (key : String) (sum : Nat) : Op → Nat
  | set written value => if written = key then value.nanos else sum
  | accumulate written delta =>
      if written = key then sum + delta.nanos else sum
  | get _ => sum
  | contains _ => sum

/-- The names written in a history, in order and with repetitions. -/
def written (steps : List (Memory × Op)) : List String :=
  steps.filterMap fun s => s.2.written?

/-- The nanoseconds of a name after a history: those last set, or none, and all
    that was added since. -/
def charged (steps : List (Memory × Op)) (key : String) : Nat :=
  steps.foldl (fun sum s => s.2.charge key sum) 0

/-- The first `n` distinct names written in a history. -/
def admitted (n : Nat) (steps : List (Memory × Op)) : List String :=
  (written steps).eraseDups.take n

section

variable {steps : List (Memory × Op)} {s : Memory × Op} {key : String} {n : Nat}

theorem charged_append_singleton (steps : List (Memory × Op))
    (s : Memory × Op) (key : String) :
    charged (steps ++ [s]) key = s.2.charge key (charged steps key) := by
  rw [charged, List.foldl_append]
  rfl

theorem charge_eq_of_ne {op : Op} (h : op.written? ≠ some key) (sum : Nat) :
    op.charge key sum = sum := by
  cases op with
  | set k value => exact if_neg fun hk => h (congrArg some hk)
  | accumulate k delta => exact if_neg fun hk => h (congrArg some hk)
  | get k => rfl
  | contains k => rfl

/-- A name that was never written has no time. -/
theorem charged_of_not_mem (h : key ∉ written steps) : charged steps key = 0 := by
  induction steps using List.reverseRecOn with
  | nil => rfl
  | append_singleton steps s ih =>
      rw [written, List.filterMap_append, List.mem_append, not_or] at h
      rw [charged_append_singleton, ih h.1]
      refine charge_eq_of_ne (fun hs => h.2 ?_) 0
      rw [List.mem_filterMap]
      exact ⟨s, List.mem_singleton_self s, hs⟩

theorem written_append_singleton (steps : List (Memory × Op))
    (s : Memory × Op) :
    written (steps ++ [s]) = written steps ++ s.2.written?.toList := by
  rw [written, List.filterMap_append, written]
  cases hs : s.2.written? with
  | none => simp [hs]
  | some key => simp [hs]

/-- A name that was written before is not a new one. -/
theorem eraseDups_append_of_mem {l : List String} (h : key ∈ l) :
    (l ++ [key]).eraseDups = l.eraseDups := by
  rw [List.eraseDups_append]
  simp [List.removeAll, h]

theorem eraseDups_append_of_not_mem {l : List String} (h : key ∉ l) :
    (l ++ [key]).eraseDups = l.eraseDups ++ [key] := by
  rw [List.eraseDups_append]
  simp [List.removeAll, List.eraseDups_cons, h]

/-- The names that are admitted after one more name is written. -/
theorem admitted_of_written (n : Nat) (steps : List (Memory × Op))
    (hs : s.2.written? = some key) :
    admitted n (steps ++ [s]) =
      if key ∈ admitted n steps then admitted n steps
      else if (admitted n steps).length < n then admitted n steps ++ [key]
      else admitted n steps := by
  rw [admitted, written_append_singleton, hs, Option.toList_some]
  have hlength : (admitted n steps).length
      = min n (written steps).eraseDups.length := List.length_take
  by_cases hmem : key ∈ admitted n steps
  · rw [if_pos hmem, eraseDups_append_of_mem]
    · rfl
    · exact List.mem_eraseDups.mp (List.mem_of_mem_take hmem)
  · rw [if_neg hmem]
    by_cases hroom : (admitted n steps).length < n
    · -- all names written so far are admitted
      have hall : admitted n steps = (written steps).eraseDups :=
        List.take_of_length_le (by omega)
      rw [hall, List.mem_eraseDups] at hmem
      rw [if_pos hroom, eraseDups_append_of_not_mem hmem, hall,
        List.take_of_length_le]
      rw [List.length_append, List.length_singleton]
      omega
    · rw [if_neg hroom]
      -- the list is cut off before the name, be it new or not
      by_cases hold : key ∈ written steps
      · rw [eraseDups_append_of_mem hold]
        rfl
      · rw [eraseDups_append_of_not_mem hold, List.take_append_of_le_length]
        · rfl
        · omega

theorem admitted_of_not_written (hs : s.2.written? = none) :
    admitted n (steps ++ [s]) = admitted n steps := by
  rw [admitted, written_append_singleton, hs, Option.toList_none,
    List.append_nil]
  rfl

end

namespace Chart

/-- What a fixed chart of `n` names holds after a history. -/
def ofHistory (n : Nat) (steps : List (Memory × Op)) : Chart :=
  ⟨(admitted n steps).map fun key => (key, .ofNanos (charged steps key)), n, .fixed⟩

section

variable {steps : List (Memory × Op)} {s : Memory × Op} {key : String} {n : Nat}

theorem lookup_map (g : String → Duration) (l : List String) :
    (l.map fun k => (k, g k)).lookup key =
      if key ∈ l then some (g key) else none := by
  induction l with
  | nil => rfl
  | cons k l ih =>
      rw [List.map_cons, List.lookup_cons, ih]
      by_cases hk : key = k
      · subst hk
        simp
      · rw [beq_false_of_ne hk]
        simp [hk]

theorem get?_ofHistory (n : Nat) (steps : List (Memory × Op)) (key : String) :
    (ofHistory n steps).get? key =
      if key ∈ admitted n steps then some (.ofNanos (charged steps key))
      else none :=
  lookup_map (fun k => .ofNanos (charged steps k)) _

theorem charged_of_ne (hs : s.2.written? = some key) {k : String} (hk : k ≠ key) :
    charged (steps ++ [s]) k = charged steps k := by
  rw [charged_append_singleton, charge_eq_of_ne]
  rw [hs]
  exact fun h => hk (Option.some.inj h).symm

/-- A write to what a history left is what the longer history leaves. -/
theorem write_ofHistory {f : Option Duration → Duration}
    (hs : s.2.written? = some key)
    (hsome : ∀ sum, f (some (.ofNanos sum)) = .ofNanos (s.2.charge key sum))
    (hnone : f none = .ofNanos (s.2.charge key 0)) :
    ((ofHistory n steps).write s.1 key f).2 = ofHistory n (steps ++ [s]) := by
  have hnew : charged (steps ++ [s]) key = s.2.charge key (charged steps key) :=
    charged_append_singleton steps s key
  by_cases hmem : key ∈ admitted n steps
  · have hget := get?_ofHistory n steps key
    rw [if_pos hmem] at hget
    rw [write_of_some hget]
    simp only [replace, ofHistory, List.map_map, admitted_of_written n steps hs,
      if_pos hmem]
    congr 1
    refine List.map_congr_left fun k _ => ?_
    dsimp only [Function.comp]
    by_cases hk : k = key
    · rw [if_pos hk, hk, hsome, hnew]
    · rw [if_neg hk, charged_of_ne hs hk]
  · have hget := get?_ofHistory n steps key
    rw [if_neg hmem] at hget
    -- the other names keep their durations
    have hothers : (admitted n steps).map
          (fun k => (k, Duration.ofNanos (charged (steps ++ [s]) k)))
        = (admitted n steps).map
          fun k => (k, Duration.ofNanos (charged steps k)) := by
      refine List.map_congr_left fun k hk => ?_
      rw [charged_of_ne hs]
      rintro rfl
      exact hmem hk
    have haccept : (ofHistory n steps).accept s.1 =
        if (admitted n steps).length < n then .ok (ofHistory n steps)
        else .error (.capacityExceeded n) := by
      rw [accept_of_fixed rfl, show (ofHistory n steps).entries.length
        = (admitted n steps).length from List.length_map ..]
      rfl
    by_cases hroom : (admitted n steps).length < n
    · rw [if_pos hroom] at haccept
      -- nothing was refused so far, so the name was never written
      have hzero : charged steps key = 0 := by
        refine charged_of_not_mem fun hold => hmem ?_
        rw [admitted, List.take_of_length_le]
        · exact List.mem_eraseDups.mpr hold
        · rw [admitted, List.length_take] at hroom
          omega
      rw [write_of_ok hget haccept]
      simp only [add, ofHistory, admitted_of_written n steps hs, if_neg hmem,
        if_pos hroom, List.map_append, hothers, List.map_singleton, hnew, hzero,
        hnone]
    · rw [if_neg hroom] at haccept
      rw [write_of_error hget haccept]
      simp only [ofHistory, admitted_of_written n steps hs, if_neg hmem,
        if_neg hroom, hothers]

/-- An operation on what a history left leaves what the longer history does. -/
theorem run_ofHistory (n : Nat) (steps : List (Memory × Op)) (s : Memory × Op) :
    ((ofHistory n steps).run s.1 s.2).2 = ofHistory n (steps ++ [s]) := by
  -- an operation that only looks changes nothing
  have hread : s.2.written? = none →
      ofHistory n steps = ofHistory n (steps ++ [s]) := by
    intro hs
    simp only [ofHistory, admitted_of_not_written hs, charged_append_singleton]
    congr 1
    refine List.map_congr_left fun k _ => ?_
    rw [charge_eq_of_ne]
    rw [hs]
    exact fun h => nomatch h
  obtain ⟨memory, op⟩ := s
  cases op with
  | set key value =>
      refine write_ofHistory rfl (fun sum => ?_) ?_
      · rw [StatsTable.Op.charge, if_pos rfl]
        exact Duration.ext (Nat.min_eq_left value.bounded).symm
      · rw [StatsTable.Op.charge, if_pos rfl]
        exact Duration.ext (Nat.min_eq_left value.bounded).symm
  | accumulate key delta =>
      refine write_ofHistory rfl (fun sum => ?_) ?_
      · rw [StatsTable.Op.charge, if_pos rfl]
        -- a sum that was cut off once stays at the limit
        refine Duration.ext ?_
        simp only [Option.getD_some, Duration.nanos_saturatingAdd,
          Duration.nanos_ofNanos]
        omega
      · rw [StatsTable.Op.charge, if_pos rfl]
        refine Duration.ext ?_
        simp only [Option.getD_none, Duration.nanos_saturatingAdd,
          Duration.nanos_ofNanos, Duration.nanos_zero]
  | get key => exact hread rfl
  | contains key => exact hread rfl

/-- A fixed chart holds the first names that were written. -/
theorem runAll_fixed (n : Nat) (steps : List (Memory × Op)) :
    ((empty n .fixed).runAll steps).2 = ofHistory n steps := by
  induction steps using List.reverseRecOn with
  | nil =>
      simp [runAll, empty, ofHistory, admitted, written]
  | append_singleton steps s ih =>
      rw [runAll_append_singleton, ih]
      exact run_ofHistory n steps s

end

/-! ## Doubling tables -/

section

variable {c : Chart} {memory : Memory} {op : Op}

theorem growth_accept {c' : Chart} (h : c.accept memory = .ok c') :
    c'.growth = c.growth := by
  rcases accept_ok h with ⟨-, -, rfl⟩ | ⟨-, -, rfl⟩ | ⟨-, -, -, rfl⟩
  · rfl
  · rfl
  · rfl

/-- A doubling chart only lacks memory. -/
theorem accept_double_error {e : StatsError} (hgrowth : c.growth = .double)
    (h : c.accept memory = .error e) : e = .outOfMemory Purpose.statsSlots.text := by
  rcases accept_error h with ⟨hfixed, -, -⟩ | ⟨-, -, -, he⟩
  · rw [hgrowth] at hfixed
    cases hfixed
  · exact he

theorem growth_write (c : Chart) (memory : Memory) (key : String)
    (f : Option Duration → Duration) :
    (c.write memory key f).2.growth = c.growth := by
  cases hget : c.get? key with
  | some value =>
      rw [write_of_some hget]
      rfl
  | none =>
      cases haccept : c.accept memory with
      | error e => rw [write_of_error hget haccept]
      | ok c' =>
          rw [write_of_ok hget haccept]
          show c'.growth = c.growth
          exact growth_accept haccept

theorem growth_run (c : Chart) (memory : Memory) (op : Op) :
    (c.run memory op).2.growth = c.growth := by
  cases op with
  | set key value => exact growth_write c memory key _
  | accumulate key delta => exact growth_write c memory key _
  | get key => rfl
  | contains key => rfl

theorem write_double (h : c.growth = .double) (memory : Memory) (key : String)
    (f : Option Duration → Duration) (m : Nat) :
    (c.write memory key f).1 ≠ .error (.capacityExceeded m) := by
  intro hfull
  cases hget : c.get? key with
  | some value =>
      rw [write_of_some hget] at hfull
      cases hfull
  | none =>
      cases haccept : c.accept memory with
      | ok c' =>
          rw [write_of_ok hget haccept] at hfull
          cases hfull
      | error e =>
          rw [write_of_error hget haccept] at hfull
          cases hfull
          cases accept_double_error h haccept

theorem run_double (h : c.growth = .double) (memory : Memory) (op : Op)
    (m : Nat) : (c.run memory op).1 ≠ .error (.capacityExceeded m) := by
  intro hfull
  cases op with
  | set key value =>
      exact write_double h memory key _ m (Outcome.map_eq_error_iff.mp hfull)
  | accumulate key delta =>
      exact write_double h memory key _ m (Outcome.map_eq_error_iff.mp hfull)
  | get key => cases hfull
  | contains key => cases hfull

/-- A doubling chart is never full. -/
theorem runAll_double (h : c.growth = .double) (steps : List (Memory × Op)) :
    (c.runAll steps).2.growth = .double ∧
      ∀ m, .error (.capacityExceeded m) ∉ (c.runAll steps).1 := by
  induction steps using List.reverseRecOn with
  | nil => exact ⟨h, fun m => List.not_mem_nil⟩
  | append_singleton steps s ih =>
      obtain ⟨hgrowth, hanswers⟩ := ih
      rw [runAll_append_singleton]
      constructor
      · rw [growth_run]
        exact hgrowth
      · intro m hm
        rw [List.mem_append, List.mem_singleton] at hm
        rcases hm with hm | hm
        · exact hanswers m hm
        · exact run_double hgrowth s.1 s.2 m hm.symm

end

end Chart

/-! ## Every table -/

namespace StatsTable

/-- What can be seen of a table is what a chart holds. -/
structure Shows (t : StatsTable) (c : Chart) : Prop where
  entries : t.toList.Perm c.entries
  distinct : (t.toList.map Prod.fst).Nodup
  size : t.size = c.entries.length
  get? : ∀ key, t.get? key = c.get? key

theorem Charts.shows {t : StatsTable} {c : Chart} (h : Charts t c) :
    t.Shows c := by
  refine ⟨h.perm, ?_, h.size_eq, h.get?_eq⟩
  rw [(h.perm.map Prod.fst).nodup_iff]
  exact h.distinct

/-- A new table of `n` slots is a map: it answers every history as an empty
    chart does, and shows what that chart then holds.  A fixed one then holds
    the first `n` names that were written, a doubling one is never full, and
    an operation that fails changes nothing. -/
theorem refines_map {memory : Memory} {n : Nat} (growth : Growth) (hn : 0 < n)
    (hm : memory.grants .statsSlots (n * slotBytes) = true) :
    ∃ t, ofCapacity memory n growth = .ok t ∧
      ∀ steps : List (Memory × Op),
        (t.runAll steps).1 = ((Chart.empty n growth).runAll steps).1 ∧
        (t.runAll steps).2.Shows ((Chart.empty n growth).runAll steps).2 ∧
        (growth = .fixed →
          ((Chart.empty n growth).runAll steps).2 = .ofHistory n steps) ∧
        (growth = .double →
          ∀ m, .error (.capacityExceeded m) ∉ (t.runAll steps).1) ∧
        ∀ (now : Memory) (op : Op) (e : StatsError),
          (op.run now (t.runAll steps).2).outcome = .error e →
          (op.run now (t.runAll steps).2).state = (t.runAll steps).2 := by
  obtain ⟨t, ht, hstart⟩ := charts_ofCapacity growth hn hm
  refine ⟨t, ht, fun steps => ?_⟩
  obtain ⟨hanswers, hcharts⟩ := hstart.runAll steps
  refine ⟨hanswers, hcharts.shows, ?_, ?_, ?_⟩
  · rintro rfl
    exact Chart.runAll_fixed n steps
  · rintro rfl m hmem
    rw [hanswers] at hmem
    exact (Chart.runAll_double rfl steps).2 m hmem
  · intro now op e he
    obtain ⟨t', hrun, -, hsame⟩ := hcharts.run now op
    rw [hrun] at he ⊢
    exact hsame e he

/-- A table of one slot takes one name, and goes on adding to it. -/
theorem refines_map_one :
    ∃ t, ofCapacity Memory.addressSpace 1 .fixed = .ok t ∧
      (t.runAll [(Memory.addressSpace, .accumulate "open" (.ofNanos 5)),
          (Memory.addressSpace, .accumulate "close" (.ofNanos 1)),
          (Memory.addressSpace, .accumulate "open" (.ofNanos 2))]).1
        = [.value (.total (.ofNanos 5)), .error (.capacityExceeded 1),
            .value (.total (.ofNanos 7))] := by
  obtain ⟨t, ht, h⟩ := refines_map .fixed (Nat.one_pos)
    (show Memory.addressSpace.grants .statsSlots (1 * slotBytes) = true by rfl)
  refine ⟨t, ht, ?_⟩
  rw [(h _).1]
  rfl

end StatsTable

end Provenance
