import Provenance.Proofs.Interceptor.Accounts

/-! # A library with a latency

    The library in memory takes the same time for each call, and the clock of its
    world moves at no other time, unless it ticks or is moved by hand between
    operations.  So no time that passes in an operation is idle, and an operation
    that succeeds takes the latency as often as it calls the library
    (`Deed.AtPace.elapsed_eq`).  The table of statistics then counts calls, and
    the interception costs nothing (`Logged.perCall`). -/

namespace Provenance

namespace InMemory

variable {origin : ManualClock} {u : Nat} {w : Metered World}

/-- The clock of a world stands where it started, moved by the latency as often
    as the meter counts a call. -/
structure Paced (origin : ManualClock) (u : Nat) (w : Metered World) : Prop where
  tick_eq : w.world.tick = 0
  latency_eq : w.world.latency = .ofMicros u
  micros_eq : w.world.clock.micros.toNat
    = (origin.micros.toNat + w.meter.calls * (Duration.ofMicros u).wordMicros) % 2 ^ 64
  idle_eq : w.meter.idle = 0
  last_eq : w.meter.calling = false → w.meter.first?.isSome = true →
    w.meter.last = w.world.clock.now

theorem Paced.start {w : World} (htick : w.tick = 0)
    (hlatency : w.latency = .ofMicros u) :
    Paced w.clock u (.start w) where
  tick_eq := htick
  latency_eq := hlatency
  micros_eq := by
    show w.clock.micros.toNat = (w.clock.micros.toNat + 0 * _) % 2 ^ 64
    rw [Nat.zero_mul, Nat.add_zero, Nat.mod_eq_of_lt w.clock.micros.toNat_lt]
  idle_eq := rfl
  last_eq _ := nofun

theorem Paced.read (h : Paced origin u w) : Paced origin u (Metered.read w).2 := by
  have hclock : (World.now w.world).2.clock = w.world.clock := by
    show (⟨w.world.clock.micros + w.world.tick⟩ : ManualClock) = _
    rw [h.tick_eq, UInt64.add_zero]
  refine ⟨h.tick_eq, h.latency_eq, ?_, ?_, fun _ _ => ?_⟩
  · show (World.now w.world).2.clock.micros.toNat = _
    rw [hclock]
    exact h.micros_eq
  · show w.meter.idle + (if w.meter.calling then 0 else
      w.world.clock.now.nanos - (w.meter.previous w.world.clock.now).nanos) = 0
    rw [h.idle_eq, Nat.zero_add, Meter.previous]
    cases hcalling : w.meter.calling with
    | true => rfl
    | false =>
        cases hfirst : w.meter.first?.isSome with
        | true =>
            rw [if_neg Bool.false_ne_true, if_pos rfl, h.last_eq hcalling hfirst]
            exact Nat.sub_self _
        | false => exact Nat.sub_self _
  · show w.world.clock.now = (World.now w.world).2.clock.now
    rw [hclock]

theorem Paced.call {α : Type} (h : Paced origin u w) (service : Service)
    (f : State → Except Cause α × State) :
    Paced origin u (Metered.call (World.call service f) w).2 := by
  obtain ⟨hclock, htick, hlatency⟩ := World.call_pace service f w.world
  refine ⟨htick.trans h.tick_eq, hlatency.trans h.latency_eq, ?_, h.idle_eq, nofun⟩
  show (World.call service f w.world).2.clock.micros.toNat
    = (origin.micros.toNat
      + (w.meter.calls + 1) * (Duration.ofMicros u).wordMicros) % 2 ^ 64
  rw [hclock, h.latency_eq]
  show (w.world.clock.micros + UInt64.ofNat (Duration.ofMicros u).wordMicros).toNat
    = _
  rw [UInt64.toNat_add, h.micros_eq, UInt64.toNat_ofNat', Nat.succ_mul]
  omega

theorem Paced.follows (origin : ManualClock) (u : Nat) :
    Follows fun (_ : List (Traffic Handle)) (w : Metered World) _ =>
      Paced origin u w where
  now h := h.read
  compare raw a b := Call.keeps_of_state fun w h => by
    show Paced origin u { w with world := (World.compare a b w.world).state }
    rw [World.compare_state]
    exact h
  containerId raw h := h.call _ _
  objectInfo raw kind h := h.call _ _
  datasetShape raw h := h.call _ _
  readDataset raw selected h := h.call _ _
  writeDataset raw selected h := h.call _ _
  container access name h := by
    cases access with
    | created => exact h.call _ _
    | opened => exact h.call _ _
  object access parent kind name h := by
    cases access with
    | created => exact h.call _ _
    | opened => exact h.call _ _
  closeContainer raw h := h.call _ _
  closeObject raw kind h := h.call _ _
  loss _ _ h := h
  event _ _ h := h

end InMemory

namespace Interceptor

open InMemory (World Handle Paced)

/-- A library call in a deed takes `u` microseconds, and nothing else takes any.
    The clock does not wrap around. -/
structure Deed.AtPace (u : Nat) (d : Deed World Handle Token) : Prop where
  tick_eq : d.before.world.tick = 0
  latency_eq : d.before.world.latency = .ofMicros u
  unwrapped : d.before.world.clock.micros.toNat + u * d.meter.calls ≤ Word.limit

section

variable {u : Nat} {d : Deed World Handle Token}

theorem Deed.AtPace.paced (h : d.AtPace u) :
    Paced d.before.world.clock u d.meteredEnding.state.world := by
  obtain ⟨_, -, hpaced⟩ := Op.run_makes (Paced.follows d.before.world.clock u)
    d.memory d.op (show Paced _ u d.before.metered.world from
      .start h.tick_eq h.latency_eq)
  exact hpaced

/-- A deed that succeeds takes the latency once for each call it makes. -/
theorem Deed.AtPace.elapsed_eq (h : d.AtPace u) {held : Multiset Reference}
    (hreg : d.before.registry.Consistent held) (hd : d.succeeded = true) :
    d.meter.elapsed.nanos = u * d.meter.calls * 1000 := by
  have hshows := (d.billed hreg hd).2
  have hunwrapped := h.unwrapped
  have hlast : d.meter.last = d.meteredEnding.state.world.world.clock.now :=
    h.paced.last_eq hshows.calling_eq (by
      show d.meter.first?.isSome = true
      rw [hshows.first?_eq]
      rfl)
  have hcalls : d.meter.calls * (Duration.ofMicros u).wordMicros
      = u * d.meter.calls := by
    rcases Nat.eq_zero_or_pos d.meter.calls with hzero | hpos
    · rw [hzero, Nat.zero_mul, Nat.mul_zero]
    · have hle : u ≤ Word.limit := Nat.le_trans (Nat.le_mul_of_pos_right u hpos)
        (Nat.le_trans (Nat.le_add_left _ _) hunwrapped)
      rw [Duration.wordMicros_ofMicros hle, Nat.mul_comm]
  have hmicros : d.meteredEnding.state.world.world.clock.micros.toNat
      = d.before.world.clock.micros.toNat + u * d.meter.calls := by
    rw [← hcalls] at hunwrapped ⊢
    exact h.paced.micros_eq.trans
      (Nat.mod_eq_of_lt (Nat.lt_of_le_of_lt hunwrapped (by decide)))
  rw [hshows.elapsed_eq, hlast, Duration.nanos_saturatingSub, ManualClock.now, hmicros,
    Duration.nanos_ofMicros hunwrapped]
  show _ - (Duration.ofMicros d.before.world.clock.micros.toNat).nanos = _
  rw [Duration.nanos_ofMicros (Nat.le_trans (Nat.le_add_right _ _) hunwrapped)]
  omega

end

/-! ## The times of a run -/

variable {u : Nat} {log : List (Deed World Handle Token)}
  {owned : Multiset (Asset Handle)} {i : Interceptor World Token}

/-- The calls of the library in some of the deeds of a name. -/
def callsOf (p : Deed World Handle Token → Bool) (name : String)
    (log : List (Deed World Handle Token)) : Nat :=
  sumOf (fun d => p d && d.op.name == name) (fun d => d.meter.calls) log

theorem Logged.keptOf_eq (h : Logged log owned i) (hpace : ∀ d ∈ log, d.AtPace u)
    (name : String) : keptOf name log = u * callsOf Deed.kept name log * 1000 := by
  have heach : ∀ d ∈ log.filter fun d => d.kept && d.op.name == name,
      d.meter.elapsed.nanos = u * d.meter.calls * 1000 := by
    intro d hd
    obtain ⟨hmem, hkept⟩ := List.mem_filter.mp hd
    obtain ⟨⟨held, hreg⟩, -⟩ := h.of_mem hmem
    exact (hpace d hmem).elapsed_eq hreg
      (Bool.and_eq_true_iff.mp (Bool.and_eq_true_iff.mp hkept).1).1
  rw [keptOf, sumOf, List.map_congr_left heach, List.sum_map_mul_right,
    List.sum_map_mul_left]
  rfl

/-- As long as memory stays the same, a name that the table holds had none of its
    times dropped. -/
theorem Sums.kept_of_held {c : Chart} {d : Deed World Handle Token} {t : Duration}
    (h : Sums log c) (hsame : SameMemory c.growth log) (hd : d ∈ log)
    (hget : c.get? d.op.name = some t) : d.kept = d.succeeded := by
  cases hok : d.succeeded with
  | false => rw [Deed.kept, hok, Bool.false_and]
  | true =>
      by_contra hdropped
      have hnone := (h.refused hsame d hd hok (Bool.eq_false_iff.mpr hdropped)).1
      rw [hget] at hnone
      cases hnone

theorem callsOf_congr {p q : Deed World Handle Token → Bool} {name : String}
    (h : ∀ d ∈ log, d.op.name = name → p d = q d) :
    callsOf p name log = callsOf q name log := by
  refine sumOf_congr fun d hd => ?_
  by_cases hname : d.op.name = name
  · rw [h d hd hname]
  · rw [beq_false_of_ne hname, Bool.and_false, Bool.and_false]

/-- It was never told that a time of this name was dropped. -/
def Untold (name : String) (log : List (Deed World Handle Token)) : Prop :=
  ∀ d ∈ log, d.op.name = name → ∀ e ∈ d.events, e.untimed = true

/-- Every call of the library took `u` microseconds, and nothing else took any.  So
    an entry of the table counts the calls of the deeds whose time was kept under
    its name.  These need not be all that succeeded: a table that found no memory
    to grow may find some later, and then admits a name after some of its times
    were dropped (`name_admitted_late`). -/
structure PerCall (u : Nat) (log : List (Deed World Handle Token))
    (i : Interceptor World Token) : Prop where
  interception_eq : i.overhead.interception = .zero
  lists_eq : ∀ t ∈ i.overhead.lists, t = .zero
  calls_eq : ∀ d ∈ log, d.succeeded = true → d.meter.calls = d.op.calls
  kept_eq : ∀ name t, i.stats.get? name = some t →
    t = .ofMicros (u * callsOf Deed.kept name log)
  /-- Where memory stays the same, the table does not grow or nothing of a name was
      dropped, the name is admitted with its first time. -/
  entry_eq : ∀ name t, i.stats.get? name = some t →
    SameMemory i.config.statsGrowth log ∨ Untold name log →
    t = .ofMicros (u * callsOf Deed.succeeded name log)

theorem Logged.perCall (h : Logged log owned i)
    (hrecord : i.config.recordOverhead = true) (hpace : ∀ d ∈ log, d.AtPace u) :
    PerCall u log i := by
  obtain ⟨hinterception, hlists⟩ :=
    h.nothing_idle hrecord fun d hd => (hpace d hd).paced.idle_eq
  obtain ⟨c, hcharts, hgrowth, hsums⟩ := h.sums
  have hkept : ∀ name t, c.get? name = some t →
      t = .ofMicros (u * callsOf Deed.kept name log) := by
    intro name t hget
    have hentry := hsums.entry name
    rw [hget, h.keptOf_eq hpace] at hentry
    exact hentry
  refine ⟨hinterception, hlists, fun d hd hok => ?_, fun name t hget => ?_,
    fun name t hget hadmitted => ?_⟩
  · obtain ⟨⟨held, hreg⟩, -⟩ := h.of_mem hd
    exact (d.billed hreg hok).2.calls_eq
  · rw [hcharts.get?_eq] at hget
    exact hkept name t hget
  · rw [hcharts.get?_eq] at hget
    have hall : ∀ d ∈ log, d.op.name = name → d.kept = d.succeeded := by
      rintro d hd rfl
      rcases hadmitted with hsame | huntold
      · exact hsums.kept_of_held (hgrowth ▸ hsame) hd hget
      · exact h.kept_of_untold hd (huntold d hd rfl)
    rw [← callsOf_congr hall]
    exact hkept name t hget

/-- Along any run on a clock that does not go backward, the times balance.  Over
    the library in memory, the table counts the calls of the library, as far as
    their times were kept. -/
theorem times_balance :
    (∀ {ω η τ : Type} [Library ω η τ] [Host ω] {log : List (Deed ω η τ)}
      {owned : Multiset (Asset η)} {i : Interceptor ω τ}, Logged log owned i →
      i.config.recordOverhead = true → Onward log → Fits log → Balanced log i) ∧
    (∀ (u : Nat) {log : List (Deed World Handle Token)}
      {owned : Multiset (Asset Handle)} {i : Interceptor World Token},
      Logged log owned i → i.config.recordOverhead = true →
      (∀ d ∈ log, d.AtPace u) → PerCall u log i) :=
  ⟨fun h hrecord hclock hfits => h.balanced hrecord hclock hfits,
    fun _ _ _ _ h hrecord hpace => h.perCall hrecord hpace⟩

/-- A file and a dataset in it are created and the dataset is read, each call of
    the library takes five microseconds, and a dataset that is not there is not
    opened.  The last call is in no account. -/
theorem balance_of_dataset :
    ∃ (log : List (Deed World Handle Token)) (owned : Multiset (Asset Handle))
      (i : Interceptor World Token),
      Logged log owned i ∧ log.length = 4 ∧ Balanced log i ∧ PerCall 5 log i ∧
      (∀ d ∈ log, ∀ e ∈ d.events, e.untimed = true) ∧
      SameMemory i.config.statsGrowth log ∧
      elapsedOf log = 30000 ∧ i.overhead.library = .ofMicros 30 ∧
      i.overhead.interception = .zero ∧
      i.stats.get? "file_create" = some (.ofMicros 10) ∧
      i.stats.get? "dataset_create" = some (.ofMicros 15) ∧
      i.stats.get? "dataset_read" = some (.ofMicros 5) ∧
      i.stats.get? "dataset_open" = none := by
  have hstart := Logged.start Memory.addressSpace
    { Config.default with statsCapacity := 4 }
    { World.new ⟨1⟩ with latency := .ofMicros 5 } rfl
  have hfile := hstart.step Memory.addressSpace
    (.openFile .created "f" : Op Handle) 0 0 rfl
  have hcreated := hfile.step Memory.addressSpace
    (.openObject .created ⟨⟨0x1010, ⟨1⟩⟩, ⟨1⟩, .container ⟨1⟩⟩ .dataset "d" : Op Handle)
    0 {.proxy ⟨⟨0x1010, ⟨1⟩⟩, ⟨1⟩, .container ⟨1⟩⟩}
    ⟨rfl, Multiset.mem_singleton_self _⟩
  have hread := hcreated.step Memory.addressSpace
    (.readDataset ⟨⟨0x1020, ⟨1⟩⟩, ⟨1⟩, .object ⟨⟨1⟩, .dataset, ⟨1⟩⟩⟩ none : Op Handle) 0
    ({.proxy ⟨⟨0x1020, ⟨1⟩⟩, ⟨1⟩, .object ⟨⟨1⟩, .dataset, ⟨1⟩⟩⟩}
      + {.proxy ⟨⟨0x1010, ⟨1⟩⟩, ⟨1⟩, .container ⟨1⟩⟩})
    ⟨rfl, Multiset.mem_add.mpr (Or.inl (Multiset.mem_singleton_self _))⟩
  have hmissing := hread.step Memory.addressSpace
    (.openObject .opened ⟨⟨0x1010, ⟨1⟩⟩, ⟨1⟩, .container ⟨1⟩⟩ .dataset "e" : Op Handle) 0
    ({.proxy ⟨⟨0x1020, ⟨1⟩⟩, ⟨1⟩, .object ⟨⟨1⟩, .dataset, ⟨1⟩⟩⟩}
      + {.proxy ⟨⟨0x1010, ⟨1⟩⟩, ⟨1⟩, .container ⟨1⟩⟩})
    ⟨rfl, Multiset.mem_add.mpr (Or.inr (Multiset.mem_singleton_self _))⟩
  have hbalanced := fun hclock => times_balance.1 hmissing rfl hclock
    (.of_elapsedOf hclock (by decide))
  have hpercall := times_balance.2 5 hmissing rfl
  refine ⟨_, _, _, hmissing, rfl, hbalanced ?_, hpercall ?_, ?_, .inl rfl, rfl,
    rfl, rfl, rfl, rfl, rfl, rfl⟩
  · exact List.forall_mem_cons.mpr ⟨rfl, List.forall_mem_cons.mpr ⟨rfl,
      List.forall_mem_cons.mpr ⟨rfl, List.forall_mem_singleton.mpr rfl⟩⟩⟩
  · exact List.forall_mem_cons.mpr ⟨⟨rfl, rfl, by decide⟩, List.forall_mem_cons.mpr
      ⟨⟨rfl, rfl, by decide⟩, List.forall_mem_cons.mpr ⟨⟨rfl, rfl, by decide⟩,
        List.forall_mem_singleton.mpr ⟨rfl, rfl, by decide⟩⟩⟩⟩
  · decide

/-- A table that grows has one slot.  There is no memory for more when a first file
    is created, but there is when a second is.  The two creations make four calls
    of the library, and the entry of the name has the time of two. -/
theorem name_admitted_late :
    ∃ (log : List (Deed World Handle Token)) (owned : Multiset (Asset Handle))
      (i : Interceptor World Token),
      Logged log owned i ∧ log.map Deed.op
        = [.openFile .created "g", .openFile .created "f"] ∧
      i.config.recordOverhead = true ∧ (∀ d ∈ log, d.AtPace 5) ∧
      (∀ d ∈ log, d.succeeded = true) ∧
      callsOf Deed.succeeded "file_create" log = 4 ∧
      i.stats.get? "file_create" = some (.ofMicros (5 * 2)) := by
  have hstart := Logged.start Memory.addressSpace
    { Config.default with statsCapacity := 1, statsGrowth := .double }
    { World.new ⟨1⟩ with latency := .ofMicros 5 } rfl
  have hdropped := hstart.step (fun purpose _ => purpose ≠ .statsSlots)
    (.openFile .created "f" : Op Handle) 0 0 rfl
  have hkept := hdropped.step Memory.addressSpace
    (.openFile .created "g" : Op Handle) 0
    {.proxy ⟨⟨0x1010, ⟨1⟩⟩, ⟨1⟩, .container ⟨1⟩⟩} rfl
  refine ⟨_, _, _, hkept, rfl, rfl, ?_, ?_, rfl, rfl⟩
  · exact List.forall_mem_cons.mpr ⟨⟨rfl, rfl, by decide⟩,
      List.forall_mem_singleton.mpr ⟨rfl, rfl, by decide⟩⟩
  · exact List.forall_mem_cons.mpr ⟨rfl, List.forall_mem_singleton.mpr rfl⟩

end Interceptor

end Provenance
