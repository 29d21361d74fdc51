import Provenance.Proofs.Clock.Lineage

/-! # The time of a family

    A bench keeps one count for each family of clocks, in a word that wraps
    around.  After any history kin share a count, others have counts of their
    own, and a count is what the moves of its family add up to, cut off to a
    word (`History.Feasible.keeps`).  A timer keeps the reading at its start.
    Readings go back just when a sum fills one more word
    (`History.Feasible.unwrapped_iff`).  As long as they do not, the time of a
    timer is what the family was moved by since its start, on any clock of the
    family (`History.Feasible.elapsed`). -/

namespace Provenance

theorem ManualClock.advanceMicros_ofNat (count step : Nat) :
    advanceMicros ⟨.ofNat count⟩ (.ofNat step) = ⟨.ofNat (step + count)⟩ := by
  rw [Nat.add_comm, UInt64.ofNat_add]
  rfl

theorem ManualClock.now_ofNat (count : Nat) :
    now ⟨.ofNat count⟩ = .ofMicros (count % 2 ^ 64) := by
  rw [now, UInt64.toNat_ofNat']

namespace ClockBench

/-- A bench with nothing on it. -/
def empty : ClockBench := ⟨[], [], []⟩

namespace History

/-- The bench after all was done, unless a clock was not there. -/
def bench? : History → Option ClockBench
  | [] => some empty
  | op :: earlier => (bench? earlier).bind fun bench => bench.apply op

/-- A bench with one clock is what making one leaves. -/
example : bench? [.new] = some initial := rfl

/-- What a clock shows after all was done. -/
def shown? (history : History) (clock : Nat) : Option Duration :=
  history.bench?.bind fun bench => bench.reading? clock

/-- At no moment since a history the reading of a clock went back, as it does when
    it wraps around. -/
def Unwrapped (since : History) (clock : Nat) (later : History) : Prop :=
  ∀ op ops, op :: ops <:+ later →
    ∀ before ∈ shown? (ops ++ since) clock,
      ∀ after ∈ shown? (op :: ops ++ since) clock, before.nanos ≤ after.nanos

end History

section

open History

variable {bench bench' : ClockBench} {history later : History} {op : Op}
  {a b clock step parent place : Nat}

/-! ## What is done to a bench -/

theorem apply_of_move (hmove : op.move? = some (clock, step)) :
    bench.apply op = bench.move clock fun c => c.advanceMicros (.ofNat step) := by
  rcases Op.eq_of_move hmove with ⟨by_, rfl⟩ | ⟨micros, rfl⟩
  · cases hmove
    rfl
  · cases hmove
    rw [UInt64.ofNat_toNat]
    rfl

theorem apply_clone (hplace : bench.clocks[parent]? = some place) :
    bench.apply (.clone parent)
      = some { bench with clocks := bench.clocks ++ [place] } := by
  rw [apply, hplace]
  rfl

theorem apply_start {now : Duration} (hnow : bench.reading? clock = some now) :
    bench.apply (.start clock)
      = some { bench with timers := bench.timers ++ [.start now] } := by
  rw [apply, hnow]
  rfl

/-- To change a family changes the clocks at its place. -/
theorem family?_modify (bench : ClockBench) (place clock : Nat)
    (f : ManualClock → ManualClock) :
    family? { bench with families := bench.families.modify place f } clock
      = (bench.family? clock).map
          fun c => if bench.clocks[clock]? = some place then f c else c := by
  rw [family?, family?]
  cases bench.clocks[clock]? with
  | none => rfl
  | some own =>
      simp only [Option.bind_some, List.getElem?_modify, Option.some.injEq]
      by_cases h : place = own
      · simp [h]
      · simp [h, Ne.symm h]

theorem reading?_congr (h : bench'.family? a = bench.family? b) :
    bench'.reading? a = bench.reading? b :=
  congrArg (Option.map ManualClock.now) h

/-- A clock stays in its family when more is put on the bench. -/
theorem family?_append {c : ManualClock} (h : bench.family? clock = some c)
    (families : List ManualClock) (clocks : List Nat) (timers : List Timer) :
    family? ⟨bench.families ++ families, bench.clocks ++ clocks, timers⟩ clock = some c := by
  obtain ⟨place, hplace, hfamily⟩ := Option.bind_eq_some_iff.mp h
  obtain ⟨hclock, -⟩ := List.getElem?_eq_some_iff.mp hplace
  obtain ⟨hlt, -⟩ := List.getElem?_eq_some_iff.mp hfamily
  rw [family?, List.getElem?_append_left hclock, hplace, Option.bind_some,
    List.getElem?_append_left hlt, hfamily]

/-! ## What a bench keeps -/

/-- A bench has the clocks and timers that were made.  Kin share a count, and it is
    what their family was moved by. -/
structure Keeps (history : History) (bench : ClockBench) : Prop where
  clocks : bench.clocks.length = history.made
  timers : bench.timers.length = history.started
  kin : ∀ a < history.made, ∀ b < a,
    (bench.clocks[a]? = bench.clocks[b]? ↔ history.Kin a b)
  family : ∀ clock < history.made,
    bench.family? clock = some ⟨.ofNat (history.moved (history.Kin clock))⟩

namespace Keeps

theorem empty : Keeps [] empty where
  clocks := rfl
  timers := rfl
  kin := nofun
  family := nofun

theorem kin_iff (h : Keeps history bench) (ha : a < history.made)
    (hb : b < history.made) :
    bench.clocks[a]? = bench.clocks[b]? ↔ history.Kin a b := by
  rcases Nat.lt_trichotomy a b with hlt | rfl | hlt
  · rw [eq_comm, h.kin b hb a hlt]
    exact ⟨.symm, .symm⟩
  · exact iff_of_true rfl (History.kin_iff.mpr rfl)
  · exact h.kin a ha b hlt

theorem placed (h : Keeps history bench) (hclock : clock < history.made) :
    ∃ place < bench.families.length, bench.clocks[clock]? = some place := by
  obtain ⟨place, hplace, hfamily⟩ := Option.bind_eq_some_iff.mp (h.family clock hclock)
  exact ⟨place, (List.getElem?_eq_some_iff.mp hfamily).1, hplace⟩

theorem reading?_eq (h : Keeps history bench) (hclock : clock < history.made) :
    bench.reading? clock
      = some (.ofMicros (history.moved (history.Kin clock) % 2 ^ 64)) := by
  rw [reading?, h.family clock hclock, Option.map_some, ManualClock.now_ofNat]

theorem reading?_of_kin (h : Keeps history bench) (hkin : history.Kin a b) :
    bench.reading? a = bench.reading? b := by
  by_cases ha : a < history.made
  · apply reading?_congr
    rw [family?, family?, (h.kin_iff ha (hkin.lt ha)).mpr hkin]
  · have hb : ¬b < history.made := fun hb => ha (hkin.symm.lt hb)
    have hsame := History.kin_iff.mp hkin
    rw [founder_of_made_le (Nat.le_of_not_lt ha),
      founder_of_made_le (Nat.le_of_not_lt hb)] at hsame
    rw [hsame]

theorem reading?_of_not_kin (h : Keeps history bench)
    (hmove : op.move? = some (clock, step)) (happly : bench.apply op = some bench')
    (hkin : ¬history.Kin clock b) :
    bench'.reading? b = bench.reading? b := by
  rw [apply_of_move hmove] at happly
  obtain ⟨place, hplace, rfl⟩ := Option.map_eq_some_iff.mp happly
  have hclock : clock < history.made := h.clocks ▸ (List.getElem?_eq_some_iff.mp hplace).1
  have hother : bench.clocks[b]? ≠ some place := by
    intro heq
    have hb : b < history.made := h.clocks ▸ (List.getElem?_eq_some_iff.mp heq).1
    exact hkin ((h.kin_iff hclock hb).mp (hplace.trans heq.symm))
  apply reading?_congr
  rw [family?_modify]
  simp only [hother, if_false, Option.map_id']

theorem apply_move (h : Keeps history bench) (hfeasible : Feasible (op :: history))
    (hmove : op.move? = some (clock, step)) (hclock : clock < history.made) :
    ∃ bench', bench.apply op = some bench' ∧ Keeps (op :: history) bench' := by
  obtain ⟨place, -, hplace⟩ := h.placed hclock
  have happly : bench.apply op = some { bench with
      families := bench.families.modify place fun c => c.advanceMicros (.ofNat step) } := by
    rw [apply_of_move hmove, move, hplace]
    rfl
  refine ⟨_, happly, ?_⟩
  have hmade : made (op :: history) = history.made := made_of_move hmove
  constructor
  case clocks => exact h.clocks.trans hmade.symm
  case timers => exact h.timers.trans (started_of_move hmove).symm
  case kin =>
    intro a ha b hb
    rw [hmade] at ha
    exact (h.kin a ha b hb).trans (kin_cons op ha (Nat.lt_trans hb ha)).symm
  case family =>
    intro a ha
    rw [hmade] at ha
    have hfamily : bench.clocks[a]? = some place ↔ Kin (op :: history) a clock := by
      rw [← hplace, h.kin_iff ha hclock, kin_cons op ha hclock]
    rw [family?_modify, h.family a ha, hfeasible.moved_kin_move hmove ha,
      Option.map_some]
    by_cases hkin : Kin (op :: history) a clock
    · rw [if_pos hkin, if_pos (hfamily.mpr hkin), ManualClock.advanceMicros_ofNat]
    · rw [if_neg hkin, if_neg (mt hfamily.mp hkin), Nat.zero_add]

/-- One more clock, at a place that is that of its kin. -/
theorem grown {families : List ManualClock} (h : Keeps history bench)
    (hfeasible : Feasible (op :: history)) (hstill : op.move? = none)
    (hmade : made (op :: history) = history.made + 1)
    (hstarted : started (op :: history) = history.started)
    (hfamilies : bench.families <+: families)
    (hkin : ∀ b < history.made,
      (some place = bench.clocks[b]? ↔ Kin (op :: history) history.made b))
    (hcount : families[place]?
      = some ⟨.ofNat (moved (op :: history) (Kin (op :: history) history.made))⟩) :
    Keeps (op :: history) ⟨families, bench.clocks ++ [place], bench.timers⟩ := by
  have hold : ∀ a < history.made, (bench.clocks ++ [place])[a]? = bench.clocks[a]? :=
    fun a ha => List.getElem?_append_left (h.clocks ▸ ha)
  have hnew : (bench.clocks ++ [place])[history.made]? = some place := by
    rw [← h.clocks, List.getElem?_concat_length]
  constructor
  case clocks => rw [hmade, List.length_append, h.clocks]; rfl
  case timers => exact h.timers.trans hstarted.symm
  case kin =>
    intro a ha b hb
    rw [hmade] at ha
    show (bench.clocks ++ [place])[a]? = (bench.clocks ++ [place])[b]? ↔ _
    rcases Nat.lt_succ_iff_lt_or_eq.mp ha with ha | rfl
    · have hb' := Nat.lt_trans hb ha
      rw [hold a ha, hold b hb', kin_cons op ha hb']
      exact h.kin a ha b hb
    · rw [hnew, hold b hb]
      exact hkin b hb
  case family =>
    intro a ha
    rw [hmade] at ha
    rcases Nat.lt_succ_iff_lt_or_eq.mp ha with ha | rfl
    · rw [hfeasible.moved_kin_still hstill ha]
      obtain ⟨more, rfl⟩ := hfamilies
      exact family?_append (h.family a ha) more [place] bench.timers
    · rw [family?, hnew]
      exact hcount

theorem apply_new (h : Keeps history bench) (hfeasible : Feasible (.new :: history)) :
    ∃ bench', bench.apply .new = some bench' ∧ Keeps (.new :: history) bench' := by
  refine ⟨_, rfl, h.grown hfeasible rfl rfl rfl (List.prefix_append _ _) ?_ ?_⟩
  · intro b hb
    obtain ⟨place, hlt, hplace⟩ := h.placed hb
    rw [hplace, Option.some.injEq]
    exact iff_of_false (Nat.ne_of_gt hlt) (not_kin_new hb)
  · rw [List.getElem?_concat_length, moved_cons_of_still rfl,
      Feasible.moved_eq_zero hfeasible.2 fun b hb => not_kin_new hb]
    rfl

theorem apply_clone (h : Keeps history bench)
    (hfeasible : Feasible (.clone parent :: history)) :
    ∃ bench', bench.apply (.clone parent) = some bench' ∧
      Keeps (.clone parent :: history) bench' := by
  have hparent : parent < history.made := hfeasible.1 parent rfl
  obtain ⟨place, -, hplace⟩ := h.placed hparent
  have hfamily := h.family parent hparent
  rw [family?, hplace] at hfamily
  refine ⟨_, ClockBench.apply_clone hplace,
    h.grown hfeasible rfl rfl rfl (List.prefix_refl _) ?_ ?_⟩
  · intro b hb
    rw [← hplace, h.kin_iff hparent hb, kin_clone hparent hb]
  · rw [moved_cons_of_still rfl,
      Feasible.moved_congr hfeasible.2 fun b hb => kin_clone hparent hb]
    exact hfamily

theorem apply_start (h : Keeps history bench)
    (hfeasible : Feasible (.start clock :: history)) :
    ∃ bench', bench.apply (.start clock) = some bench' ∧
      Keeps (.start clock :: history) bench' := by
  refine ⟨_, ClockBench.apply_start (h.reading?_eq (hfeasible.1 clock rfl)), ?_⟩
  constructor
  case clocks => exact h.clocks
  case timers => exact List.length_append.trans (congrArg (· + 1) h.timers)
  case kin =>
    intro a (ha : a < history.made) b hb
    rw [kin_cons (.start clock) ha (Nat.lt_trans hb ha)]
    exact h.kin a ha b hb
  case family =>
    intro a ha
    rw [hfeasible.moved_kin_still rfl ha]
    exact h.family a ha

theorem apply (h : Keeps history bench) (hfeasible : Feasible (op :: history)) :
    ∃ bench', bench.apply op = some bench' ∧ Keeps (op :: history) bench' := by
  cases op with
  | advance clock by_ => exact h.apply_move hfeasible rfl (hfeasible.1 clock rfl)
  | advanceMicros clock step => exact h.apply_move hfeasible rfl (hfeasible.1 clock rfl)
  | new => exact h.apply_new hfeasible
  | clone parent => exact h.apply_clone hfeasible
  | start clock => exact h.apply_start hfeasible

end Keeps

end

/-! ## Readings -/

namespace History

variable {history later since earlier : History} {op : Op} {clock : Nat}
  {bench bench' : ClockBench}

theorem bench?_cons (hbench : history.bench? = some bench)
    (happly : bench.apply op = some bench') : bench? (op :: history) = some bench' := by
  rw [bench?, hbench]
  exact happly

theorem Feasible.keeps (h : history.Feasible) :
    ∃ bench, history.bench? = some bench ∧ Keeps history bench := by
  induction history with
  | nil => exact ⟨_, rfl, .empty⟩
  | cons op earlier ih =>
      obtain ⟨bench, hbench, hkeeps⟩ := ih h.2
      obtain ⟨bench', happly, hkeeps'⟩ := hkeeps.apply h
      exact ⟨bench', bench?_cons hbench happly, hkeeps'⟩

theorem Feasible.shown?_eq (h : history.Feasible) (hclock : clock < history.made) :
    history.shown? clock
      = some (.ofMicros (history.moved (history.Kin clock) % 2 ^ 64)) := by
  obtain ⟨bench, hbench, hkeeps⟩ := h.keeps
  rw [shown?, hbench]
  exact hkeeps.reading?_eq hclock

theorem nanos_ofMicros_mod (count : Nat) :
    (Duration.ofMicros (count % 2 ^ 64)).nanos = count % 2 ^ 64 * 1000 :=
  Duration.nanos_ofMicros (Nat.le_sub_one_of_lt (Nat.mod_lt count (by decide)))

theorem unwrapped_cons :
    since.Unwrapped clock (op :: later) ↔
      (∀ before ∈ shown? (later ++ since) clock,
        ∀ after ∈ shown? (op :: later ++ since) clock, before.nanos ≤ after.nanos) ∧
        since.Unwrapped clock later := by
  constructor
  · intro h
    exact ⟨h op later List.suffix_rfl, fun op' ops hsuffix =>
      h op' ops (hsuffix.trans (List.suffix_cons op later))⟩
  · rintro ⟨hlast, hlater⟩ op' ops hsuffix
    rcases List.suffix_cons_iff.mp hsuffix with heq | hsuffix
    · cases heq
      exact hlast
    · exact hlater op' ops hsuffix

/-- A reading that did not go back counts the same number of full words. -/
theorem Feasible.unwrapped_iff (h : Feasible (later ++ since))
    (hclock : clock < since.made) :
    since.Unwrapped clock later ↔
      moved (later ++ since) (Kin (later ++ since) clock) / 2 ^ 64
        = since.moved (since.Kin clock) / 2 ^ 64 := by
  induction later with
  | nil => exact iff_of_true (fun op ops hsuffix => by simp at hsuffix) rfl
  | cons op later ih =>
      rw [List.cons_append] at h
      have hbefore := Nat.lt_of_lt_of_le hclock (made_le_append later since)
      have hafter := Nat.lt_of_lt_of_le hbefore (made_le_cons op _)
      have hmore := Feasible.moved_kin_append later h.2 hclock
      obtain ⟨step, hlt, hstep⟩ := h.moved_kin_cons hbefore
      rw [unwrapped_cons, ih h.2, List.cons_append, Feasible.shown?_eq h.2 hbefore,
        h.shown?_eq hafter]
      simp only [Option.mem_some_iff, forall_eq', nanos_ofMicros_mod]
      -- a step is less than a word, so the reading goes back just when a word gets full
      rw [hstep]
      omega

/-! ## Timers -/

theorem timers_grow (h : bench.apply op = some bench') :
    bench.timers <+: bench'.timers := by
  cases op with
  | advance clock by_ =>
      obtain ⟨place, -, rfl⟩ := Option.map_eq_some_iff.mp h
      exact List.prefix_refl _
  | advanceMicros clock step =>
      obtain ⟨place, -, rfl⟩ := Option.map_eq_some_iff.mp h
      exact List.prefix_refl _
  | new =>
      cases h
      exact List.prefix_refl _
  | clone parent =>
      obtain ⟨place, -, rfl⟩ := Option.map_eq_some_iff.mp h
      exact List.prefix_refl _
  | start clock =>
      obtain ⟨now, -, rfl⟩ := Option.map_eq_some_iff.mp h
      exact List.prefix_append _ _

theorem timers_grow_append (hfirst : history.bench? = some bench)
    (hlast : bench? (later ++ history) = some bench') :
    bench.timers <+: bench'.timers := by
  induction later generalizing bench' with
  | nil =>
      rw [List.nil_append, hfirst, Option.some.injEq] at hlast
      exact hlast ▸ List.prefix_refl _
  | cons op later ih =>
      obtain ⟨between, hbetween, happly⟩ := Option.bind_eq_some_iff.mp hlast
      exact (ih hbetween).trans (timers_grow happly)

/-- A timer keeps the reading at its start. -/
theorem Feasible.timer (h : Feasible (later ++ .start clock :: earlier))
    (hbench : bench? (later ++ .start clock :: earlier) = some bench) :
    bench.timers[earlier.started]?
      = some (.start (.ofMicros (earlier.moved (earlier.Kin clock) % 2 ^ 64))) := by
  obtain ⟨hclock, hearlier⟩ := h.of_append
  obtain ⟨before, hbefore, hkeeps⟩ := Feasible.keeps hearlier
  have hstart := bench?_cons hbefore
    (ClockBench.apply_start (hkeeps.reading?_eq (hclock clock rfl)))
  obtain ⟨more, hmore⟩ := timers_grow_append hstart hbench
  rw [← hmore, List.append_assoc, ← hkeeps.timers,
    List.getElem?_append_right (Nat.le_refl _), Nat.sub_self]
  rfl

theorem elapsed?_eq {timer : Nat} {t : Timer} {now : Duration}
    (ht : bench.timers[timer]? = some t) (hnow : bench.reading? clock = some now) :
    bench.elapsed? timer clock = some (t.elapsed now) := by
  rw [elapsed?, ht, hnow]

/-- Now and at its start the count of a timer's clock is what its family was moved by.
    The difference is what it was moved by since, just when no word got full. -/
theorem Feasible.elapsed {other : Nat} (h : Feasible (later ++ .start clock :: earlier))
    (hbench : bench? (later ++ .start clock :: earlier) = some bench)
    (hkeeps : Keeps (later ++ .start clock :: earlier) bench)
    (hkin : Kin (later ++ .start clock :: earlier) clock other) :
    ∃ time, bench.elapsed? earlier.started other = some time ∧
      (time.nanos = later.moved (Kin (later ++ .start clock :: earlier) clock) * 1000 ↔
        Unwrapped (.start clock :: earlier) clock later) := by
  have hclock : clock < made (.start clock :: earlier) := h.of_append.1 clock rfl
  have hnow := hkeeps.reading?_eq (Nat.lt_of_lt_of_le hclock (made_le_append later _))
  rw [hkeeps.reading?_of_kin hkin] at hnow
  refine ⟨_, elapsed?_eq (h.timer hbench) hnow, ?_⟩
  have hsince := h.moved_kin_append later hclock
  have hstart := h.of_append.moved_kin_still rfl (h.of_append.1 clock rfl)
  rw [h.unwrapped_iff hclock, hstart, Timer.elapsed, Timer.start,
    Duration.nanos_saturatingSub, nanos_ofMicros_mod, nanos_ofMicros_mod]
  rw [hstart] at hsince
  rw [hsince]
  omega

end History

/-- What the clocks and timers of a bench show after a history. -/
structure ShowsTime (history : History) (bench : ClockBench) : Prop where
  /-- A clock shows what the moves of its family add up to, in one word. -/
  reading : ∀ clock < history.made,
    bench.reading? clock
      = some (.ofMicros (history.moved (history.Kin clock) % 2 ^ 64))
  /-- Kin show the same. -/
  kin : ∀ a b, history.Kin a b → bench.reading? a = bench.reading? b
  /-- To move a clock changes no reading outside its family. -/
  others : ∀ op clock step other bench', op.move? = some (clock, step) →
    bench.apply op = some bench' → ¬history.Kin clock other →
    bench'.reading? other = bench.reading? other
  /-- A timer shows, on any clock of the family it was started on, what the family was
      moved by since then, just when the reading has not wrapped around since. -/
  elapsed : ∀ (later earlier : History) clock other,
    history = later ++ .start clock :: earlier → history.Kin clock other →
    ∃ time, bench.elapsed? earlier.started other = some time ∧
      (time.nanos = later.moved (history.Kin clock) * 1000 ↔
        History.Unwrapped (.start clock :: earlier) clock later)
  /-- No timer shows more than the clock it is read on. -/
  elapsed_le : ∀ timer < history.started, ∀ clock < history.made,
    ∃ time now, bench.elapsed? timer clock = some time ∧
      bench.reading? clock = some now ∧ time.nanos ≤ now.nanos

/-- After anything done with clocks that were there, clocks and timers show the time of
    their families. -/
theorem families_show_time (history : History) (h : history.Feasible) :
    ∃ bench, history.bench? = some bench ∧ ShowsTime history bench := by
  obtain ⟨bench, hbench, hkeeps⟩ := h.keeps
  refine ⟨bench, hbench, ?_⟩
  constructor
  case reading => exact fun clock hclock => hkeeps.reading?_eq hclock
  case kin => exact fun a b hkin => hkeeps.reading?_of_kin hkin
  case others =>
    intro op clock step other bench' hmove happly hkin
    exact hkeeps.reading?_of_not_kin hmove happly hkin
  case elapsed =>
    rintro later earlier clock other rfl hkin
    exact h.elapsed hbench hkeeps hkin
  case elapsed_le =>
    intro timer htimer clock hclock
    have ht := List.getElem?_eq_getElem (hkeeps.timers.symm ▸ htimer)
    have hnow := hkeeps.reading?_eq hclock
    exact ⟨_, _, History.elapsed?_eq ht hnow, hnow, Nat.sub_le _ _⟩

/-- A clone of a clone and a clock of another family.  The reading of the family wraps
    around, then a timer is started, and a duration counts its whole microseconds. -/
theorem families_show_time_of_wrapped :
    let history : History :=
      [.advance 0 ⟨2999, by decide⟩, .advanceMicros 3 7, .start 2, .new,
        .advanceMicros 1 6, .clone 1, .advance 0 ⟨Duration.limit, by decide⟩, .clone 0, .new]
    history.Feasible ∧ history.Kin 2 0 ∧ ¬history.Kin 2 3 ∧
      history.moved (history.Kin 2) = 2 ^ 64 + 7 ∧
      history.shown? 1 = some (.ofMicros 7) ∧
      ∃ bench, history.bench? = some bench ∧ ShowsTime history bench := by
  intro history
  exact ⟨by decide, by decide, by decide, by decide, by decide +kernel,
    families_show_time history (by decide)⟩

end ClockBench

end Provenance
