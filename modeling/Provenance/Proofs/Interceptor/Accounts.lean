import Provenance.Proofs.Interceptor.Timing
import Provenance.Proofs.Stats.Sums

/-! # The accounts of a run

    A journal is read as an account of time.  Each deed that succeeded was billed
    what a meter shows that runs along with it, and each that failed was billed
    nothing (`Logged.books`).  So the totals of the overhead are sums over the
    journal (`Logged.totals`), and the entries of the table are the sums of the
    times that were kept under each name (`Logged.sums`).

    Where the clock does not go backward and no total is cut, what the library
    took and what it did not add up to the time of all successful operations, and
    so does the table if no time was dropped (`Logged.balanced`). -/

namespace Provenance.Interceptor

variable {ω η τ : Type}

/-- The same interceptor over a metered library. -/
def metered (i : Interceptor ω τ) : Interceptor (Metered ω) τ :=
  ⟨.start i.world, i.registry, i.stats, i.overhead, i.config⟩

variable [Library ω η τ] [Host ω] {i : Interceptor ω τ}
  {owned : Multiset (Asset η)} {log : List (Deed ω η τ)}

namespace Deed

/-- The operation, over a metered library. -/
def meteredEnding (d : Deed ω η τ) :
    Ending (Interceptor (Metered ω) τ) (Refusal η) (Answer η) :=
  d.op.run d.memory d.before.metered

/-- What a meter shows that runs along with the operation. -/
def meter (d : Deed ω η τ) : Meter := d.meteredEnding.state.world.meter

/-- What was emitted. -/
def events (d : Deed ω η τ) : List Event :=
  (d.op.run d.memory d.before).events

/-- The operation ended with an answer. -/
def succeeded (d : Deed ω η τ) : Bool := d.outcome.isValue

/-- The table of statistics, asked to keep the time of the operation. -/
def keeping (d : Deed ω η τ) : Ending StatsTable StatsError Duration :=
  StatsTable.accumulate d.memory d.op.name d.meter.elapsed d.before.stats

/-- The operation succeeded, and its time was kept. -/
def kept (d : Deed ω η τ) : Bool := d.succeeded && d.keeping.outcome.isValue

theorem run_eq_metered (d : Deed ω η τ) :
    d.op.run d.memory d.before
      = ⟨d.meteredEnding.outcome, along Metered.world d.meteredEnding.state,
          d.meteredEnding.events⟩ :=
  Op.run_mirrors Metered.projects d.memory d.op d.before.metered

theorem takes (d : Deed ω η τ) {held : Multiset Reference}
    (h : d.before.registry.Consistent held) :
    Takes d.memory d.op.name d.op.calls d.before.metered (d.op.run d.memory) :=
  Op.run_takes d.memory d.op rfl h

/-- What fails books nothing. -/
theorem resting (d : Deed ω η τ) {held : Multiset Reference}
    (h : d.before.registry.Consistent held) (hd : d.succeeded = false) :
    Resting d.before d.after d.meter.idle := by
  have hrun := d.takes h
  have heq := d.run_eq_metered
  rw [succeeded, outcome, heq] at hd
  rw [after, heq]
  have hrest : Resting d.before.metered d.meteredEnding.state d.meter.idle := by
    rcases ho : d.meteredEnding.outcome with a | e | f
    · rw [ho] at hd
      cases hd
    · exact hrun.error ho
    · exact hrun.fault ho
  exact ⟨⟨hrest.stats_eq, hrest.library_eq, hrest.interception_eq⟩,
    hrest.config_eq, hrest.lists_le⟩

/-- What succeeds books what the meter shows. -/
theorem billed (d : Deed ω η τ) {held : Multiset Reference}
    (h : d.before.registry.Consistent held) (hd : d.succeeded = true) :
    Billed d.memory d.op.name d.before d.after d.meter d.events ∧
      d.meter.Shows (Host.now d.before.world).1 d.meter.spent d.op.calls := by
  have hrun := d.takes h
  have heq := d.run_eq_metered
  rw [succeeded, outcome, heq] at hd
  rw [after, events, heq]
  rcases ho : d.meteredEnding.outcome with a | e | f
  · have hbill := hrun.value ho
    exact ⟨⟨hbill.stats_eq, hbill.dropped, hbill.config_eq, hbill.lists_le,
      hbill.library_eq, hbill.interception_eq⟩, hbill.shows⟩
  · rw [ho] at hd
    cases hd
  · rw [ho] at hd
    cases hd

end Deed

/-! ## Sums over a journal -/

/-- The sum of what some of the deeds amount to. -/
def sumOf (p : Deed ω η τ → Bool) (f : Deed ω η τ → Nat)
    (log : List (Deed ω η τ)) : Nat :=
  ((log.filter p).map f).sum

/-- The time of all deeds that succeeded. -/
def elapsedOf (log : List (Deed ω η τ)) : Nat :=
  sumOf Deed.succeeded (fun d => d.meter.elapsed.nanos) log

/-- What the library took of it. -/
def spentOf (log : List (Deed ω η τ)) : Nat :=
  sumOf Deed.succeeded (fun d => d.meter.spent) log

/-- What it did not. -/
def besidesOf (log : List (Deed ω η τ)) : Nat :=
  sumOf Deed.succeeded (fun d => d.meter.elapsed.nanos - d.meter.spent) log

/-- The time that was kept under a name. -/
def keptOf (name : String) (log : List (Deed ω η τ)) : Nat :=
  sumOf (fun d => d.kept && d.op.name == name) (fun d => d.meter.elapsed.nanos) log

section

omit [Library ω η τ] [Host ω]

variable {p : Deed ω η τ → Bool} {f : Deed ω η τ → Nat} {d : Deed ω η τ}

theorem sumOf_cons_of_pos (h : p d = true) :
    sumOf p f (d :: log) = f d + sumOf p f log := by
  rw [sumOf, List.filter_cons_of_pos h, List.map_cons, List.sum_cons, sumOf]

theorem sumOf_cons_of_neg (h : p d = false) :
    sumOf p f (d :: log) = sumOf p f log := by
  rw [sumOf, List.filter_cons_of_neg (Bool.eq_false_iff.mp h), sumOf]

end

section

variable {d : Deed ω η τ}

theorem spentOf_cons_of_pos (h : d.succeeded = true) :
    spentOf (d :: log) = d.meter.spent + spentOf log := sumOf_cons_of_pos h

theorem spentOf_cons_of_neg (h : d.succeeded = false) :
    spentOf (d :: log) = spentOf log := sumOf_cons_of_neg h

theorem besidesOf_cons_of_pos (h : d.succeeded = true) :
    besidesOf (d :: log)
      = (d.meter.elapsed.nanos - d.meter.spent) + besidesOf log :=
  sumOf_cons_of_pos h

theorem besidesOf_cons_of_neg (h : d.succeeded = false) :
    besidesOf (d :: log) = besidesOf log := sumOf_cons_of_neg h

theorem keptOf_cons_of_kept (h : d.kept = true) (name : String) :
    keptOf name (d :: log)
      = (if name = d.op.name then d.meter.elapsed.nanos else 0)
        + keptOf name log := by
  by_cases hname : name = d.op.name
  · rw [if_pos hname]
    refine sumOf_cons_of_pos ?_
    rw [h, hname, beq_self_eq_true, Bool.and_self]
  · rw [if_neg hname, Nat.zero_add]
    refine sumOf_cons_of_neg ?_
    rw [beq_false_of_ne (Ne.symm hname), Bool.and_false]

theorem keptOf_cons_of_not_kept (h : d.kept = false) (name : String) :
    keptOf name (d :: log) = keptOf name log := by
  refine sumOf_cons_of_neg ?_
  rw [h, Bool.false_and]

end

/-! ## The totals -/

omit [Library ω η τ] [Host ω] in
theorem of_ofConfig_times {memory : Memory} {config : Config} {w : ω}
    (h : ofConfig memory config w = .ok i) :
    StatsTable.ofConfig memory config = .ok i.stats ∧ i.overhead = .zero ∧
      i.config = config := by
  rw [ofConfig] at h
  cases hstats : StatsTable.ofConfig memory config with
  | error e =>
      rw [hstats] at h
      cases h
  | ok t =>
      rw [hstats] at h
      cases h
      exact ⟨rfl, rfl, rfl⟩

/-- The next deed succeeds and is billed, or it fails and books nothing. -/
theorem Logged.books (h : Logged log owned i) (memory : Memory) (op : Op η) :
    ((⟨memory, op, i⟩ : Deed ω η τ).succeeded = true ∧
      Billed memory op.name i (op.run memory i).state
        (⟨memory, op, i⟩ : Deed ω η τ).meter (⟨memory, op, i⟩ : Deed ω η τ).events) ∨
    ((⟨memory, op, i⟩ : Deed ω η τ).succeeded = false ∧
      Resting i (op.run memory i).state (⟨memory, op, i⟩ : Deed ω η τ).meter.idle) := by
  obtain ⟨others, hreg⟩ := h.reached.exists_consistent
  cases hd : (⟨memory, op, i⟩ : Deed ω η τ).succeeded with
  | true => exact Or.inl ⟨rfl, (Deed.billed _ hreg hd).1⟩
  | false => exact Or.inr ⟨rfl, Deed.resting _ hreg hd⟩

/-- What was done along a run was done on consistent bookkeeping, and with one
    configuration. -/
theorem Logged.of_mem (h : Logged log owned i) {d : Deed ω η τ} (hd : d ∈ log) :
    (∃ held, d.before.registry.Consistent held) ∧ d.before.config = i.config := by
  induction h with
  | start memory config w h => exact absurd hd List.not_mem_nil
  | @step log i memory op spent rest h hop ih =>
      have hconfig : (op.run memory i).state.config = i.config := by
        rcases h.books memory op with ⟨-, hbill⟩ | ⟨-, hrest⟩
        · exact hbill.config_eq
        · exact hrest.config_eq
      rw [hconfig]
      rcases List.mem_cons.mp hd with rfl | hd
      · obtain ⟨others, hreg⟩ := h.reached.exists_consistent
        exact ⟨⟨_, hreg⟩, rfl⟩
      · exact ih hd
  | other w _ ih => exact ih hd

/-- A total that stops at the longest duration is the sum, cut there. -/
theorem min_add_min (sum more limit : Nat) :
    min (min sum limit + more) limit = min (more + sum) limit := by
  omega

/-- The totals are those of the deeds that succeeded. -/
theorem Logged.totals (h : Logged log owned i)
    (hrecord : i.config.recordOverhead = true) :
    i.overhead.library.nanos = min (spentOf log) Duration.limit ∧
      i.overhead.interception.nanos = min (besidesOf log) Duration.limit := by
  induction h with
  | start memory config w h =>
      rw [(of_ofConfig_times h).2.1]
      exact ⟨rfl, rfl⟩
  | @step log i memory op spent rest h hop ih =>
      rcases h.books memory op with ⟨hd, hbill⟩ | ⟨hd, hrest⟩
      · rw [hbill.config_eq] at hrecord
        obtain ⟨hlibrary, hinterception⟩ := ih hrecord
        rw [hbill.library_eq hrecord, hbill.interception_eq hrecord, hlibrary,
          hinterception, min_add_min, min_add_min, spentOf_cons_of_pos hd,
          besidesOf_cons_of_pos hd]
        exact ⟨rfl, rfl⟩
      · rw [hrest.config_eq] at hrecord
        rw [hrest.library_eq, hrest.interception_eq, spentOf_cons_of_neg hd,
          besidesOf_cons_of_neg hd]
        exact ih hrecord
  | other w _ ih => exact ih hrecord

/-! ## The table of statistics -/

/-- All that was done found the same memory, or memory did not matter. -/
def SameMemory (growth : Growth) (log : List (Deed ω η τ)) : Prop :=
  growth = .fixed ∨ ∀ d ∈ log, ∀ d' ∈ log, d.memory = d'.memory

/-- A chart holds the times that were kept.  Where the time of a deed was
    dropped, its name is none of those that the chart holds. -/
structure Sums (log : List (Deed ω η τ)) (c : Chart) : Prop where
  entry : ∀ name, (c.get? name).getD .zero = .ofNanos (keptOf name log)
  held : ∀ d ∈ log, d.kept = true → c.get? d.op.name ≠ none
  refused : SameMemory c.growth log → ∀ d ∈ log, d.succeeded = true →
    d.kept = false → c.get? d.op.name = none ∧ c.Closed d.memory

section

variable {c : Chart} {d d' : Deed ω η τ} {growth : Growth}

omit [Library ω η τ] [Host ω] in
theorem SameMemory.tail (h : SameMemory growth (d :: log)) : SameMemory growth log :=
  h.imp_right fun h d hd d' hd' =>
    h d (List.mem_cons_of_mem _ hd) d' (List.mem_cons_of_mem _ hd')

omit [Library ω η τ] [Host ω] in
theorem SameMemory.closed (h : SameMemory c.growth log) (hd : d ∈ log)
    (hd' : d' ∈ log) (hc : c.Closed d.memory) : c.Closed d'.memory := by
  rcases h with hfixed | hsame
  · exact hc.of_fixed hfixed _
  · rw [← hsame d hd d' hd']
    exact hc

theorem Sums.nil (capacity : Nat) (growth : Growth) :
    Sums ([] : List (Deed ω η τ)) (.empty capacity growth) where
  entry _ := rfl
  held _ hd := absurd hd List.not_mem_nil
  refused _ _ hd := absurd hd List.not_mem_nil

/-- A deed that fails adds nothing. -/
theorem Sums.cons_of_failed (h : Sums log c) (hd : d.succeeded = false) :
    Sums (d :: log) c := by
  have hnot : d.kept = false := by rw [Deed.kept, hd, Bool.false_and]
  refine ⟨fun name => ?_, fun d' hd' hkept => ?_, fun hsame d' hd' hok hdropped => ?_⟩
  · rw [keptOf_cons_of_not_kept hnot]
    exact h.entry name
  · rcases List.mem_cons.mp hd' with rfl | hd'
    · rw [hnot] at hkept
      cases hkept
    · exact h.held d' hd' hkept
  · rcases List.mem_cons.mp hd' with rfl | hd'
    · rw [hd] at hok
      cases hok
    · exact h.refused hsame.tail d' hd' hok hdropped

/-- The time of a deed that succeeds is added under its name, unless it is
    dropped. -/
theorem Sums.cons_of_succeeded (h : Sums log c) (hd : d.succeeded = true)
    (hkeeping : d.keeping.outcome
      = (c.accumulate d.memory d.op.name d.meter.elapsed).1) :
    Sums (d :: log) (c.accumulate d.memory d.op.name d.meter.elapsed).2 := by
  have hkept : d.kept
      = (c.accumulate d.memory d.op.name d.meter.elapsed).1.isValue := by
    rw [Deed.kept, hd, Bool.true_and, hkeeping]
  have hgrowth : (c.accumulate d.memory d.op.name d.meter.elapsed).2.growth
      = c.growth := Chart.growth_write c _ _ _
  cases hvalue : (c.accumulate d.memory d.op.name d.meter.elapsed).1.isValue with
  | true =>
      rw [hvalue] at hkept
      have hget := Chart.get?_accumulate hvalue
      refine ⟨fun name => ?_, fun d' hd' hkept' => ?_,
        fun hsame d' hd' hok hdropped => ?_⟩
      · rw [hget, keptOf_cons_of_kept hkept]
        by_cases hname : name = d.op.name
        · rw [if_pos hname, if_pos hname, Option.getD_some, h.entry, ← hname]
          refine Duration.ext ?_
          rw [Duration.nanos_saturatingAdd, Duration.nanos_ofNanos,
            Duration.nanos_ofNanos]
          exact min_add_min _ _ _
        · rw [if_neg hname, if_neg hname, h.entry, Nat.zero_add]
      · rw [hget]
        by_cases hname : d'.op.name = d.op.name
        · rw [if_pos hname]
          exact Option.some_ne_none _
        · rw [if_neg hname]
          rcases List.mem_cons.mp hd' with rfl | hd'
          · exact absurd rfl hname
          · exact h.held d' hd' hkept'
      · rw [hgrowth] at hsame
        rcases List.mem_cons.mp hd' with rfl | hmem
        · rw [hkept] at hdropped
          cases hdropped
        · -- what is closed stays so, whatever is added
          obtain ⟨hnone, hclosed⟩ := h.refused hsame.tail d' hmem hok hdropped
          have hwrite := (hsame.closed hd' List.mem_cons_self hclosed).write
            d.op.name fun stored => (stored.getD .zero).saturatingAdd d.meter.elapsed
          rw [← hgrowth] at hsame
          exact ⟨hwrite.2 _ hnone,
            hsame.closed List.mem_cons_self hd' hwrite.1⟩
  | false =>
      rw [hvalue] at hkept
      obtain ⟨hnone, hclosed, hsame⟩ := Chart.write_refused hvalue
      rw [show (c.accumulate d.memory d.op.name d.meter.elapsed).2 = c from hsame]
      refine ⟨fun name => ?_, fun d' hd' hkept' => ?_,
        fun hlike d' hd' hok hdropped => ?_⟩
      · rw [keptOf_cons_of_not_kept hkept]
        exact h.entry name
      · rcases List.mem_cons.mp hd' with rfl | hd'
        · rw [hkept] at hkept'
          cases hkept'
        · exact h.held d' hd' hkept'
      · rcases List.mem_cons.mp hd' with rfl | hd'
        · exact ⟨hnone, hclosed⟩
        · exact h.refused hlike.tail d' hd' hok hdropped

end

theorem Logged.sums (h : Logged log owned i) :
    ∃ c, i.stats.Charts c ∧ c.growth = i.config.statsGrowth ∧ Sums log c := by
  induction h with
  | start memory config w h =>
      obtain ⟨hstats, -, hconfig⟩ := of_ofConfig_times h
      exact ⟨_, StatsTable.charts_of_ofConfig hstats, hconfig ▸ rfl, .nil _ _⟩
  | @step log i memory op spent rest h hop ih =>
      obtain ⟨c, hcharts, hgrowth, hsums⟩ := ih
      rcases h.books memory op with ⟨hd, hbill⟩ | ⟨hd, hrest⟩
      · obtain ⟨houtcome, hcharts'⟩ := hcharts.accumulate memory op.name
          (⟨memory, op, i⟩ : Deed ω η τ).meter.elapsed
        rw [← hbill.stats_eq] at hcharts'
        refine ⟨_, hcharts', ?_, hsums.cons_of_succeeded hd houtcome⟩
        rw [hbill.config_eq, ← hgrowth]
        exact Chart.growth_write c _ _ _
      · refine ⟨c, ?_, ?_, hsums.cons_of_failed hd⟩
        · rw [hrest.stats_eq]
          exact hcharts
        · rw [hrest.config_eq]
          exact hgrowth
  | other w _ ih => exact ih

/-! ## The sum of the table -/

omit [Library ω η τ] [Host ω] in
theorem sumOf_congr {p q : Deed ω η τ → Bool} {f : Deed ω η τ → Nat}
    (h : ∀ d ∈ log, p d = q d) : sumOf p f log = sumOf q f log := by
  rw [sumOf, List.filter_congr h, sumOf]

omit [Library ω η τ] [Host ω] in
theorem sumOf_le {p q : Deed ω η τ → Bool} {f : Deed ω η τ → Nat}
    (h : ∀ d ∈ log, p d = true → q d = true) : sumOf p f log ≤ sumOf q f log := by
  induction log with
  | nil => exact Nat.le_refl _
  | cons d log ih =>
      have ih := ih fun d' hd' => h d' (List.mem_cons_of_mem _ hd')
      cases hp : p d with
      | true =>
          rw [sumOf_cons_of_pos hp, sumOf_cons_of_pos (h d List.mem_cons_self hp)]
          exact Nat.add_le_add_left ih _
      | false =>
          rw [sumOf_cons_of_neg hp]
          cases hq : q d with
          | true =>
              rw [sumOf_cons_of_pos hq]
              exact Nat.le_trans ih (Nat.le_add_left _ _)
          | false =>
              rw [sumOf_cons_of_neg hq]
              exact ih

/-- The times kept under all names are all times that were kept. -/
theorem sum_keptOf {names : List String} (hdistinct : names.Nodup)
    (hall : ∀ d ∈ log, d.kept = true → d.op.name ∈ names) :
    (names.map fun name => keptOf name log).sum
      = sumOf Deed.kept (fun d => d.meter.elapsed.nanos) log := by
  induction log with
  | nil =>
      refine List.sum_eq_zero fun n hn => ?_
      obtain ⟨name, -, rfl⟩ := List.mem_map.mp hn
      rfl
  | cons d log ih =>
      have ih := ih fun d' hd' => hall d' (List.mem_cons_of_mem _ hd')
      cases hkept : d.kept with
      | false =>
          simp only [keptOf_cons_of_not_kept hkept]
          rw [sumOf_cons_of_neg hkept]
          exact ih
      | true =>
          simp only [keptOf_cons_of_kept hkept]
          rw [List.sum_map_add, ih, sumOf_cons_of_pos hkept]
          -- the name of the deed is one of the names, once
          rw [List.sum_map_eq_nsmul_single d.op.name _ fun name hname _ => if_neg hname,
            List.count_eq_one_of_mem hdistinct (hall d List.mem_cons_self hkept),
            one_nsmul, if_pos rfl]

/-- The table amounts to the times that were kept, as long as each of its entries
    fits. -/
theorem Logged.table_sum (h : Logged log owned i)
    (hfits : ∀ name, keptOf name log ≤ Duration.limit) :
    Duration.totalNanos (i.stats.toList.map Prod.snd)
      = sumOf Deed.kept (fun d => d.meter.elapsed.nanos) log := by
  obtain ⟨c, hcharts, -, hsums⟩ := h.sums
  have hentry : ∀ e ∈ c.entries, (Duration.nanos ∘ Prod.snd) e
      = ((fun name => keptOf name log) ∘ Prod.fst) e := by
    rintro ⟨name, t⟩ he
    have hget := (Chart.get?_eq_some_iff hcharts.distinct).mpr he
    have ht := hsums.entry name
    rw [hget, Option.getD_some] at ht
    show t.nanos = keptOf name log
    rw [ht]
    exact Nat.min_eq_left (hfits name)
  rw [Duration.totalNanos_eq_sum, List.map_map, (hcharts.perm.map _).sum_eq,
    List.map_congr_left hentry, ← List.map_map]
  refine sum_keptOf hcharts.distinct fun d hd hkept => ?_
  obtain ⟨t, ht⟩ := Option.ne_none_iff_exists'.mp (hsums.held d hd hkept)
  exact List.mem_map_of_mem ((Chart.get?_eq_some_iff hcharts.distinct).mp ht)

/-! ## The balance -/

/-- No total that a time is added to is cut at the longest duration. -/
structure Fits (log : List (Deed ω η τ)) : Prop where
  library : spentOf log ≤ Duration.limit
  interception : besidesOf log ≤ Duration.limit
  entry : ∀ name, keptOf name log ≤ Duration.limit

/-- The clock went backward in none of the deeds. -/
def Onward (log : List (Deed ω η τ)) : Prop :=
  ∀ d ∈ log, d.meter.forward = true

/-- A clock that never goes backward goes backward in no run. -/
theorem onward_of_neverBackward (hn : NeverBackward ω) (log : List (Deed ω η τ)) :
    Onward log := by
  intro d _
  obtain ⟨_, -, hahead⟩ := Op.run_makes (Metered.follows_ahead hn) d.memory d.op
    (show d.before.metered.world.Ahead from ⟨rfl, nofun⟩)
  exact hahead.1

/-- The times of a run balance. -/
structure Balanced (log : List (Deed ω η τ)) (i : Interceptor ω τ) : Prop where
  /-- The time of a deed is the one that the table was asked to keep. -/
  stats_eq : ∀ d ∈ log, d.succeeded = true → d.after.stats
    = (StatsTable.accumulate d.memory d.op.name d.meter.elapsed
        d.before.stats).state
  /-- What a deed adds to the time of the library is no more than it took
      itself. -/
  library_le : ∀ d ∈ log, d.succeeded = true →
    d.after.overhead.library.nanos
      = min (d.before.overhead.library.nanos + d.meter.spent) Duration.limit ∧
    d.meter.spent ≤ d.meter.elapsed.nanos
  overhead_eq : i.overhead.library.nanos + i.overhead.interception.nanos
    = elapsedOf log
  /-- If no time was told to be dropped, the table amounts to the same, and can
      tell its total if that is no longer than a duration. -/
  table_eq : (∀ d ∈ log, ∀ e ∈ d.events, e.untimed = true) →
    Duration.totalNanos (i.stats.toList.map Prod.snd) = elapsedOf log ∧
    (elapsedOf log ≤ Duration.limit →
      (StatsTable.total i.stats : Ending StatsTable Empty Duration)
        = ⟨.value (.ofNanos (elapsedOf log)), i.stats, []⟩)
  failed : ∀ d ∈ log, d.succeeded = false → d.before.Untimed d.after

/-- The time of an operation is what the library took, and the rest. -/
theorem spentOf_add_besidesOf
    (h : ∀ d ∈ log, d.succeeded = true → d.meter.spent ≤ d.meter.elapsed.nanos) :
    spentOf log + besidesOf log = elapsedOf log := by
  induction log with
  | nil => rfl
  | cons d log ih =>
      have ih := ih fun d' hd' => h d' (List.mem_cons_of_mem _ hd')
      cases hd : d.succeeded with
      | false =>
          rw [spentOf_cons_of_neg hd, besidesOf_cons_of_neg hd, ih, elapsedOf,
            elapsedOf, sumOf_cons_of_neg hd]
      | true =>
          have hle := h d List.mem_cons_self hd
          have helapsed : elapsedOf (d :: log)
              = d.meter.elapsed.nanos + elapsedOf log := sumOf_cons_of_pos hd
          rw [spentOf_cons_of_pos hd, besidesOf_cons_of_pos hd, helapsed]
          omega

/-- Nothing is cut if all times together are no longer than a duration. -/
theorem Fits.of_elapsedOf (hclock : Onward log)
    (h : elapsedOf log ≤ Duration.limit) : Fits log := by
  have hsum := spentOf_add_besidesOf fun d hd _ => d.meter.spent_le (hclock d hd)
  refine ⟨?_, ?_, fun name => ?_⟩
  · exact Nat.le_trans (hsum ▸ Nat.le_add_right _ _) h
  · exact Nat.le_trans (hsum ▸ Nat.le_add_left _ _) h
  · exact Nat.le_trans (sumOf_le fun d _ hd =>
      (Bool.and_eq_true_iff.mp (Bool.and_eq_true_iff.mp hd).1).1) h

/-- A time that is not told to be dropped is kept. -/
theorem Logged.kept_of_untold (h : Logged log owned i) {d : Deed ω η τ}
    (hd : d ∈ log) (hevents : ∀ e ∈ d.events, e.untimed = true) :
    d.kept = d.succeeded := by
  cases hok : d.succeeded with
  | false => rw [Deed.kept, hok, Bool.false_and]
  | true =>
      obtain ⟨held, hreg⟩ := (h.of_mem hd).1
      have hbill := (d.billed hreg hok).1
      rw [Deed.kept, hok, Bool.true_and]
      by_contra hnot
      obtain ⟨text, htext⟩ := hbill.dropped (Bool.eq_false_iff.mpr hnot)
      cases hevents _ htext

/-- Where the clock does not go backward, the times of a run balance. -/
theorem Logged.balanced (h : Logged log owned i)
    (hrecord : i.config.recordOverhead = true) (hclock : Onward log)
    (hfits : Fits log) : Balanced log i := by
  have hle : ∀ d ∈ log, d.succeeded = true →
      d.meter.spent ≤ d.meter.elapsed.nanos :=
    fun d hd _ => d.meter.spent_le (hclock d hd)
  refine ⟨fun d hd hok => ?_, fun d hd hok => ⟨?_, hle d hd hok⟩, ?_,
    fun hevents => ?_, fun d hd hfailed => ?_⟩
  · obtain ⟨⟨held, hreg⟩, -⟩ := h.of_mem hd
    exact (d.billed hreg hok).1.stats_eq
  · obtain ⟨⟨held, hreg⟩, hconfig⟩ := h.of_mem hd
    exact (d.billed hreg hok).1.library_eq (by rw [hconfig, hrecord])
  · obtain ⟨hlibrary, hinterception⟩ := h.totals hrecord
    rw [hlibrary, hinterception, Nat.min_eq_left hfits.library,
      Nat.min_eq_left hfits.interception]
    exact spentOf_add_besidesOf hle
  · have hsum : Duration.totalNanos (i.stats.toList.map Prod.snd) = elapsedOf log :=
      (h.table_sum hfits.entry).trans
        (sumOf_congr fun d hd => h.kept_of_untold hd (hevents d hd))
    exact ⟨hsum, fun hle => hsum ▸ StatsTable.total_eq (hsum ▸ hle)⟩
  · obtain ⟨⟨held, hreg⟩, -⟩ := h.of_mem hd
    exact (d.resting hreg hfailed).toUntimed

/-- What is charged to the lists of the registry was idle in some deed. -/
theorem Logged.lists_le (h : Logged log owned i) :
    Duration.totalNanos i.overhead.lists ≤ (log.map fun d => d.meter.idle).sum := by
  induction h with
  | start memory config w h =>
      rw [(of_ofConfig_times h).2.1]
      exact Nat.zero_le _
  | @step log i memory op spent rest h hop ih =>
      rw [List.map_cons, List.sum_cons]
      rcases h.books memory op with ⟨-, hbill⟩ | ⟨-, hrest⟩
      · have hle := hbill.lists_le
        omega
      · have hle := hrest.lists_le
        omega
  | other w _ ih => exact ih

/-- Where no time is idle, the interception takes none, and nor does any list. -/
theorem Logged.nothing_idle (h : Logged log owned i)
    (hrecord : i.config.recordOverhead = true)
    (hidle : ∀ d ∈ log, d.meter.idle = 0) :
    i.overhead.interception = .zero ∧ ∀ t ∈ i.overhead.lists, t = .zero := by
  constructor
  · have hbesides : besidesOf log = 0 := by
      refine List.sum_eq_zero fun n hn => ?_
      obtain ⟨d, hd, rfl⟩ := List.mem_map.mp hn
      have hle := d.meter.elapsed_le
      rw [hidle d (List.mem_of_mem_filter hd)] at hle
      exact Nat.sub_eq_zero_of_le hle
    refine Duration.ext ?_
    rw [(h.totals hrecord).2, hbesides]
    rfl
  · intro t ht
    have hlists := h.lists_le
    rw [List.sum_eq_zero fun n hn => by
      obtain ⟨d, hd, rfl⟩ := List.mem_map.mp hn
      exact hidle d hd] at hlists
    rw [Duration.totalNanos_eq_sum] at hlists
    exact Duration.ext (Nat.le_zero.mp (Nat.le_trans
      (List.le_sum_of_mem (List.mem_map_of_mem ht)) hlists))

end Provenance.Interceptor
