import Provenance.Proofs.Interceptor.Journal
import Provenance.Proofs.Interceptor.Metered

/-! # The time of an operation

    An operation is timed from its first reading of the clock to its last.  Over
    a metered library, that is the time that the meter has seen pass, and what is
    booked as the library's is what the meter has seen it take.  A successful
    operation books both (`Billed`); one that fails books neither, and whatever
    is charged to a list of the registry was idle time (`Resting`).

    On its way to success, an operation keeps the time of the library beside the
    meter (`Underway`).  Each part of an operation has one rule that says so. -/

namespace Provenance

/-- What is charged to a list is all that is added to the lists. -/
theorem Overhead.totalNanos_addList_le (o : Overhead) (charge : Charge)
    (elapsed : Duration) :
    Duration.totalNanos (o.addList charge elapsed).lists
      ≤ Duration.totalNanos o.lists + elapsed.nanos := by
  have hadd : ∀ d : Duration,
      (d.saturatingAdd elapsed).nanos ≤ d.nanos + elapsed.nanos :=
    fun d => Nat.min_le_left _ _
  cases charge with
  | containers =>
      have h := hadd o.containers
      simp only [addList, lists, Duration.totalNanos, List.foldr_cons]
      omega
  | objects kind =>
      have h := hadd (o.objects.get kind)
      cases kind <;>
        simp only [addList, lists, Duration.totalNanos, PerKind.toList, Kind.all,
          PerKind.modify, PerKind.get, List.map_cons, List.map_nil,
          List.foldr_cons, List.foldr_nil] at h ⊢ <;>
        omega

namespace Interceptor

variable {ω η τ ε α : Type}

/-- Nothing of the time of an operation is booked, but for idle time that was
    charged to lists. -/
structure Resting (i j : Interceptor ω τ) (idle : Nat) : Prop
    extends i.Untimed j where
  config_eq : j.config = i.config
  lists_le : Duration.totalNanos j.overhead.lists
    ≤ Duration.totalNanos i.overhead.lists + idle

/-- What a successful operation booked, when a meter was with it.  Its time was
    kept under its name, or found no place. -/
structure Billed (memory : Memory) (name : String) (i j : Interceptor ω τ)
    (m : Meter) (ev : List Event) : Prop where
  stats_eq : j.stats = (StatsTable.accumulate memory name m.elapsed i.stats).state
  dropped : (StatsTable.accumulate memory name m.elapsed i.stats).outcome.isValue
    = false → ∃ text, .timingDropped name text ∈ ev
  config_eq : j.config = i.config
  lists_le : Duration.totalNanos j.overhead.lists
    ≤ Duration.totalNanos i.overhead.lists + m.idle
  library_eq : i.config.recordOverhead = true → j.overhead.library.nanos
    = min (i.overhead.library.nanos + m.spent) Duration.limit
  interception_eq : i.config.recordOverhead = true →
    j.overhead.interception.nanos = min
      (i.overhead.interception.nanos + (m.elapsed.nanos - m.spent)) Duration.limit

section

variable [Host ω] {i j : Interceptor (Metered ω) τ} {ev : List Event}
  {timer : Timer} {spent calls : Nat}
  {E : ε → Interceptor (Metered ω) τ → List Event → Prop}
  {F : Fault → Interceptor (Metered ω) τ → List Event → Prop}

omit [Host ω] in
theorem resting_refl (i : Interceptor (Metered ω) τ) :
    Resting i i i.world.meter.idle :=
  ⟨.refl i, rfl, Nat.le_add_right _ _⟩

omit [Host ω] in
theorem Resting.meter (h : Resting i j j.world.meter.idle) {w : Metered ω}
    (hw : j.world.meter.idle ≤ w.meter.idle) :
    Resting i { j with world := w } w.meter.idle :=
  ⟨⟨h.stats_eq, h.library_eq, h.interception_eq⟩, h.config_eq,
    Nat.le_trans h.lists_le (Nat.add_le_add_left hw _)⟩

/-- An operation on its way: nothing is booked yet, and the meter shows what the
    library took since the first reading. -/
structure Underway (i : Interceptor (Metered ω) τ) (timer : Timer)
    (spent calls : Nat) (j : Interceptor (Metered ω) τ) : Prop
    extends Resting i j j.world.meter.idle where
  started_eq : timer.started = (Host.now i.world.world).1
  shows : j.world.meter.Shows timer.started spent calls

/-! ## Parts of an operation -/

theorem startTimer_underway (hi : i.world.meter = .new) :
    (startTimer : Call (Interceptor (Metered ω) τ) ε Timer).Ensures i ev
      (fun timer j _ => Underway i timer 0 0 j) E F := by
  rw [ensures_startTimer]
  refine ⟨(resting_refl i).meter (Meter.idle_le_read _ _), rfl, ?_⟩
  show (i.world.meter.read (Host.now i.world.world).1).Shows _ 0 0
  rw [hi]
  exact Meter.shows_read_new _

/-- A call of the library, between two readings. -/
theorem callLibrary_underway {op : Operation}
    {f : Metered ω → Except Cause α × Metered ω} (hf : Metered.Counted f)
    (h : Underway i timer spent calls j) :
    (callLibrary op f).Ensures j ev
      (fun r j' _ => Underway i timer (spent + r.2.nanos) (calls + 1) j')
      (fun _ j' _ => Resting i j' j'.world.meter.idle) F := by
  have hrest := h.toResting.meter (w := (Host.now j.world).2)
    (Meter.idle_le_read _ _)
  have hmeter : ∀ {r w}, f (Host.now j.world).2 = (r, w) →
      w.meter = (j.world.meter.read (Host.now j.world.world).1).call :=
    fun hw => (congrArg (fun r => r.2.meter) hw).symm.trans (hf _)
  have hidle : ∀ {r w}, f (Host.now j.world).2 = (r, w) →
      (Host.now j.world).2.meter.idle ≤ w.meter.idle :=
    fun hw => Nat.le_of_eq (congrArg Meter.idle (hmeter hw)).symm
  refine callLibrary_ensures ?_ fun cause w hw => hrest.meter (hidle hw)
  intro a w hw
  refine ⟨(hrest.meter (hidle hw)).meter (Meter.idle_le_read _ _), h.started_eq, ?_⟩
  show (w.meter.read (Host.now w.world).1).Shows _ _ _
  rw [hmeter hw]
  exact (h.shows.read _).read_call _

/-- The sum of two times, if it is one, is what both amount to. -/
theorem addTimes_underway {a b : Duration}
    (h : Underway i timer (a.nanos + b.nanos) calls j) :
    (addTimes a b).Ensures j ev (fun sum j' _ => Underway i timer sum.nanos calls j')
      E (fun _ j' _ => Resting i j' j'.world.meter.idle) := by
  rw [ensures_addTimes]
  cases hsum : a.add? b with
  | some sum =>
      rw [Duration.add?_eq_some_iff.mp hsum] at h
      exact h
  | none => exact h.toResting

/-- Work on the registry that leaves the meter alone. -/
def Unmetered (work : Call (Metered ω × Registry τ Empty) ε α) : Prop :=
  ∀ m, work.Keeps fun s _ => s.1.meter = m

omit [Host ω] in
theorem Resting.charge (h : Resting i j j.world.meter.idle) (charge : Charge)
    (elapsed : Duration) {idle : Nat}
    (hidle : j.world.meter.idle + elapsed.nanos ≤ idle) {w : Metered ω}
    {reg : Registry τ Empty} :
    Resting i { j with
      world := w, registry := reg
      overhead := j.overhead.addList charge elapsed } idle := by
  have hlists := j.overhead.totalNanos_addList_le charge elapsed
  have hle := h.lists_le
  refine ⟨⟨h.stats_eq, ?_, ?_⟩, h.config_eq, ?_⟩
  · cases charge <;> exact h.library_eq
  · cases charge <;> exact h.interception_eq
  · dsimp only
    omega

/-- The time charged to a list lies between two readings without a call. -/
theorem charged_resting {charge : Charge}
    {work : Call (Metered ω × Registry τ Empty) ε α} (hwork : Unmetered work)
    (h : Resting i j j.world.meter.idle) :
    (charged charge work).Ensures j ev
      (fun _ j' _ => Resting i j' j'.world.meter.idle ∧
        ∀ first spent calls, j.world.meter.Shows first spent calls →
          j'.world.meter.Shows first spent calls)
      (fun _ j' _ => Resting i j' j'.world.meter.idle)
      (fun _ j' _ => Resting i j' j'.world.meter.idle) := by
  -- the work leaves the meter where the timer was started
  have hafter : ∀ s : Metered ω × Registry τ Empty,
      s.1.meter = j.world.meter.read (Host.now j.world.world).1 →
      Resting i (j.afterWork charge (.start (Host.now j.world).1) s)
        (j.afterWork charge (.start (Host.now j.world).1) s).world.meter.idle ∧
      ∀ first spent calls, j.world.meter.Shows first spent calls →
        (j.afterWork charge (.start (Host.now j.world).1) s).world.meter.Shows
          first spent calls := by
    rintro ⟨⟨w, m⟩, reg⟩ rfl
    rw [afterWork]
    by_cases hc : j.config.recordOverhead = true
    · rw [if_pos hc]
      refine ⟨h.charge charge _ ?_, fun _ _ _ hshows => (hshows.read _).read _⟩
      exact Nat.add_le_add_right (Meter.idle_le_read _ _) _
    · rw [if_neg hc]
      exact ⟨⟨⟨h.stats_eq, h.library_eq, h.interception_eq⟩, h.config_eq,
        Nat.le_trans h.lists_le (Nat.add_le_add_left (Meter.idle_le_read _ _) _)⟩,
        fun _ _ _ hshows => hshows.read _⟩
  rw [ensures_charged]
  refine (hwork _ _ ev rfl).mono (fun _ s _ hs => hafter s hs)
    (fun _ s _ hs => (hafter s hs).1) ?_
  rintro f ⟨⟨w, m⟩, reg⟩ _ rfl
  exact ⟨⟨h.stats_eq, h.library_eq, h.interception_eq⟩, h.config_eq,
    Nat.le_trans h.lists_le (Nat.add_le_add_left (Meter.idle_le_read _ _) _)⟩

theorem charged_underway {charge : Charge}
    {work : Call (Metered ω × Registry τ Empty) ε α} (hwork : Unmetered work)
    (h : Underway i timer spent calls j) :
    (charged charge work).Ensures j ev (fun _ j' _ => Underway i timer spent calls j')
      (fun _ j' _ => Resting i j' j'.world.meter.idle)
      (fun _ j' _ => Resting i j' j'.world.meter.idle) :=
  (charged_resting hwork h.toResting).mono
    (fun _ _ _ hj => ⟨hj.1, h.started_eq, hj.2 _ _ _ h.shows⟩) (fun _ _ _ h => h)
    fun _ _ _ h => h

/-! ## The end of an operation -/

omit [Host ω] in
/-- The time of an operation is kept, or told to be dropped. -/
theorem keepTime_billed {memory : Memory} {op : Operation} {total : Duration} :
    (keepTime memory op total : Call (Interceptor (Metered ω) τ) ε Unit).Ensures j ev
      (fun _ j' ev' =>
        j' = { j with
          stats := (StatsTable.accumulate memory op.name total j.stats).state } ∧
        ((StatsTable.accumulate memory op.name total j.stats).outcome.isValue
          = false → ∃ text, .timingDropped op.name text ∈ ev'))
      E F := by
  rw [keepTime, Call.ensures_bind, Call.ensures_attempt, onStats,
    Call.ensures_focus]
  refine ((Call.ensures_ending _ j.stats ev).and
    (StatsTable.update_quiet j.stats memory op.name _ ev)).mono ?_ ?_
    fun _ _ _ h => h.2.elim
  · rintro a _ ev' ⟨⟨ho, rfl⟩, -⟩
    rw [Call.ensures_pure]
    refine ⟨rfl, fun hdropped => ?_⟩
    have hvalue : (StatsTable.accumulate memory op.name total j.stats).outcome
      = .value a := ho
    rw [hvalue] at hdropped
    cases hdropped
  · rintro e _ ev' ⟨⟨-, rfl⟩, -⟩
    rw [Call.ensures_emit]
    exact ⟨rfl, fun _ =>
      ⟨e.message, List.mem_append_right _ (List.mem_singleton_self _)⟩⟩

/-- A successful operation, with the meter that was with it. -/
structure Finished (memory : Memory) (name : String) (calls : Nat)
    (i j : Interceptor (Metered ω) τ) (ev : List Event) : Prop
    extends Billed memory name i j j.world.meter ev where
  shows : j.world.meter.Shows (Host.now i.world.world).1 j.world.meter.spent calls

/-- An operation books what the meter shows. -/
theorem finish_billed {memory : Memory} {op : Operation} {library : Duration}
    (h : Underway i timer library.nanos calls j) :
    (finish memory op timer library :
      Call (Interceptor (Metered ω) τ) ε Unit).Ensures j ev
      (fun _ j' ev' => Finished memory op.name calls i j' ev') E F := by
  have hshows := h.shows.read (Host.now j.world.world).1
  have htotal : timer.elapsed (Host.now j.world).1
      = (j.world.meter.read (Host.now j.world.world).1).elapsed :=
    hshows.elapsed_eq.symm
  rw [h.started_eq] at hshows
  have hspent := hshows.spent_eq
  rw [← hspent] at hshows
  have hlists := Nat.le_trans h.lists_le
    (Nat.add_le_add_left (Meter.idle_le_read _ (Host.now j.world.world).1) _)
  rw [finish, Call.ensures_bind, ensures_readClock, Call.ensures_bind, htotal]
  refine keepTime_billed.mono ?_ (fun _ _ _ h => h) fun _ _ _ h => h
  rintro _ _ ev' ⟨rfl, hdropped⟩
  dsimp only at hdropped ⊢
  rw [h.stats_eq] at hdropped ⊢
  rw [Call.ensures_bind, Call.ensures_state]
  by_cases hc : j.config.recordOverhead = true
  · rw [if_pos hc, Call.ensures_modify]
    refine ⟨⟨rfl, hdropped, h.config_eq, hlists, fun _ => ?_, fun _ => ?_⟩, hshows⟩
    · show min (j.overhead.library.nanos + library.nanos) _ = _
      rw [h.library_eq, ← hspent]
      rfl
    · show min (j.overhead.interception.nanos + (_ - library.nanos)) _ = _
      rw [h.interception_eq, ← hspent]
      rfl
  · rw [if_neg hc, Call.ensures_pure]
    rw [h.config_eq] at hc
    exact ⟨⟨rfl, hdropped, h.config_eq, hlists, fun hr => absurd hr hc,
      fun hr => absurd hr hc⟩, hshows⟩

/-- A call that is timed: it books its time under a name if it succeeds, after so
    many calls of the library, and else it books nothing. -/
def Takes (memory : Memory) (name : String) (calls : Nat)
    (i : Interceptor (Metered ω) τ) (x : Call (Interceptor (Metered ω) τ) ε α) :
    Prop :=
  x.Ensures i [] (fun _ j ev => Finished memory name calls i j ev)
    (fun _ j _ => Resting i j j.world.meter.idle)
    (fun _ j _ => Resting i j j.world.meter.idle)

section

variable {memory : Memory} {name : String} {x : Call (Interceptor (Metered ω) τ) ε α}

theorem Takes.map {β : Type} (f : α → β) (h : Takes memory name calls i x) :
    Takes memory name calls i (f <$> x) := by
  rw [Takes, Call.ensures_map]
  exact h

theorem Takes.mapError {ε' : Type} (f : ε → ε') (h : Takes memory name calls i x) :
    Takes memory name calls i (x.mapError f) := by
  rw [Takes, Call.ensures_mapError]
  exact h

/-- What is refused at once takes no time. -/
theorem takes_fail (e : ε) :
    Takes memory name calls i (Call.fail e : Call (Interceptor (Metered ω) τ) ε α) := by
  rw [Takes, Call.ensures_fail]
  exact resting_refl i

end

end

/-! ## The operations -/

section

variable [Library ω η τ] [Host ω] {i j : Interceptor (Metered ω) τ} {ev : List Event}
  {timer : Timer} {spent calls : Nat} {memory : Memory}

omit [Library ω η τ] [Host ω] in
theorem unmetered_alone (x : Call (Registry τ Empty) ε α) :
    Unmetered (Registry.alone x : Call (Metered ω × Registry τ Empty) ε α) :=
  fun _ => Call.keeps_of_state fun _ h => h

omit [Host ω] in
theorem unmetered_trackIn (memory : Memory) (home reported : ContainerId)
    (kind : Kind) (token : τ) (name : Option String) (raw : η) :
    Unmetered (Registry.trackIn memory home reported kind token name raw :
      Call (Metered ω × Registry τ Empty) RegistryError NodeHandle) := fun m =>
  Registry.trackIn_keeps (P := fun (w : Metered ω) _ => w.meter = m)
    (Metered.compare_keeps m) (fun _ _ _ h => h) memory home reported kind token
    name raw

omit [Library ω η τ] [Host ω] in
theorem onWorld_resting {f : Metered ω → Except ε α × Metered ω}
    (hf : Metered.Counted f) :
    (onWorld (Call.ofTry f) : Call (Interceptor (Metered ω) τ) ε α).Keeps
      fun j _ => Resting i j j.world.meter.idle := by
  intro j ev h
  rw [ensures_onWorld_ofTry]
  have hmeter := hf j.world
  rcases hw : f j.world with ⟨e | a, w⟩
  · rw [hw] at hmeter
    exact h.meter (Nat.le_of_eq (congrArg Meter.idle hmeter).symm)
  · rw [hw] at hmeter
    exact h.meter (Nat.le_of_eq (congrArg Meter.idle hmeter).symm)

omit [Host ω] in
theorem discard_resting (kind : Kind) (raw : η) :
    (discard kind raw : Call (Interceptor (Metered ω) τ) ε Unit).Keeps
      fun j _ => Resting i j j.world.meter.idle :=
  keeps_discard (onWorld_resting (Metered.counted_call _))

omit [Host ω] in
theorem discardContainer_resting (raw : η) :
    (discardContainer raw : Call (Interceptor (Metered ω) τ) ε Unit).Keeps
      fun j _ => Resting i j j.world.meter.idle :=
  keeps_discardContainer (onWorld_resting (Metered.counted_call _))

omit [Library ω η τ] in
theorem releaseHandle_underway {op : Operation} {proxy : Proxy η}
    {rejected : String → Event} {f : Metered ω → Except Cause Unit × Metered ω}
    (hf : Metered.Counted f) (h : Underway i timer spent calls j) :
    (releaseHandle op proxy rejected f).Ensures j ev
      (fun elapsed j' _ => Underway i timer (spent + elapsed.nanos) (calls + 1) j')
      (fun _ j' _ => Resting i j' j'.world.meter.idle)
      (fun _ j' _ => Resting i j' j'.world.meter.idle) := by
  rw [releaseHandle, Call.ensures_bind, Call.ensures_attempt]
  refine (callLibrary_underway hf h).mono ?_ ?_ fun _ _ _ h => h
  · rintro ⟨_, elapsed⟩ j' _ hj'
    dsimp only
    rw [Call.ensures_pure]
    exact hj'
  · intro e j' _ hj'
    dsimp only
    rw [Call.ensures_bind, Call.ensures_emit, Call.ensures_fail]
    exact hj'

/-- Charged work may be all that is left to do before the end. -/
theorem charged_finish_underway {β : Type} {charge : Charge}
    {work : Call (Metered ω × Registry τ Empty) ε α} {op : Operation}
    {f : α → β} (library : Duration) (hwork : Unmetered work)
    (h : Underway i timer library.nanos calls j) :
    (charged charge work >>= fun a =>
      finish memory op timer library >>= fun _ => pure (f a) :
      Call (Interceptor (Metered ω) τ) ε β).Ensures j ev
      (fun _ j' ev' => Finished memory op.name calls i j' ev')
      (fun _ j' _ => Resting i j' j'.world.meter.idle)
      (fun _ j' _ => Resting i j' j'.world.meter.idle) := by
  refine (charged_underway hwork h).bind fun a j₁ _ h₁ => ?_
  refine (finish_billed h₁).bind fun _ j₂ _ h₂ => ?_
  rw [Call.ensures_pure]
  exact h₂

theorem registerContainer_underway (op : Operation) (name : String) (raw : η)
    {before : Duration} (h : Underway i timer before.nanos calls j) :
    (registerContainer memory op name raw before).Ensures j ev
      (fun r j' _ => Underway i timer r.2.nanos (calls + 1) j')
      (fun _ j' _ => Resting i j' j'.world.meter.idle)
      (fun _ j' _ => Resting i j' j'.world.meter.idle) := by
  refine (callLibrary_underway (Metered.counted_call _) h).bind ?_
  rintro ⟨id, elapsed⟩ j₁ _ h₁
  refine (addTimes_underway h₁).bind fun library j₂ _ h₂ => ?_
  refine (charged_underway (fun m => (unmetered_alone _ m).mapError _) h₂).bind
    fun _ j₃ _ h₃ => ?_
  rw [Call.ensures_pure]
  exact h₃

/-- A file costs a call to open it and one to ask for its container. -/
theorem openFile_takes (access : Access) (name : String) (hi : i.world.meter = .new) :
    Takes memory (Operation.file access).name 2 i
      (openFile memory access name : Call _ _ (Proxy η)) := by
  refine (startTimer_underway hi).bind fun timer j₁ _ h₁ => ?_
  refine (callLibrary_underway (Metered.counted_call _) h₁).bind ?_
  rintro ⟨raw, elapsed⟩ j₂ _ h₂
  rw [Nat.zero_add] at h₂
  rw [Call.ensures_bind, Call.ensures_onError]
  refine (registerContainer_underway _ name raw h₂).mono ?_
    (fun _ j' ev h => discardContainer_resting raw j' ev h) fun _ _ _ h => h
  rintro ⟨id, library⟩ j₃ _ h₃
  refine (finish_billed h₃).bind fun _ j₄ _ h₄ => ?_
  rw [Call.ensures_bind, Call.ensures_state, Call.ensures_pure]
  exact h₄

theorem closeFile_takes (proxy : Proxy η) (hi : i.world.meter = .new) :
    Takes memory Operation.closeFile.name 1 i (closeFile memory proxy) := by
  rw [closeFile]
  cases proxy.target with
  | object node => exact takes_fail _
  | container id =>
      refine (startTimer_underway hi).bind fun timer j₁ _ h₁ => ?_
      refine (releaseHandle_underway (Metered.counted_call _) h₁).bind
        fun library j₂ _ h₂ => ?_
      rw [Nat.zero_add] at h₂
      exact charged_finish_underway _ (unmetered_alone _) h₂

omit [Library ω η τ] in
theorem pin_takes (proxy : Proxy η) (hi : i.world.meter = .new) :
    Takes memory Operation.pin.name 0 i (pin memory proxy) := by
  refine (startTimer_underway hi).bind fun timer j₁ _ h₁ => ?_
  exact charged_finish_underway .zero
    (fun m => (unmetered_alone _ m).mapError _) h₁

omit [Library ω η τ] in
theorem unpin_takes (context : WrapContext) (hi : i.world.meter = .new) :
    Takes memory Operation.unpin.name 0 i
      (unpin memory context : Call (Interceptor (Metered ω) τ) ε Nat) := by
  refine (startTimer_underway hi).bind fun timer j₁ _ h₁ => ?_
  exact charged_finish_underway .zero (unmetered_alone _) h₁

theorem closeObject_takes (proxy : Proxy η) {name : String}
    (hname : ∀ node, proxy.target = .object node →
      (Operation.closeObject node.kind).name = name) (hi : i.world.meter = .new) :
    Takes memory name 1 i (closeObject memory proxy) := by
  rw [closeObject]
  cases htarget : proxy.target with
  | container id => exact takes_fail _
  | object node =>
      rw [← hname node htarget]
      refine (startTimer_underway hi).bind fun timer j₁ _ h₁ => ?_
      refine (releaseHandle_underway (Metered.counted_call _) h₁).bind
        fun library j₂ _ h₂ => ?_
      rw [Nat.zero_add] at h₂
      exact charged_finish_underway _ (unmetered_alone _) h₂

omit [Library ω η τ] in
theorem unwrapObject_takes (proxy : Proxy η) (hi : i.world.meter = .new) :
    Takes memory Operation.unwrap.name 0 i (unwrapObject memory proxy) := by
  rw [unwrapObject]
  cases proxy.target with
  | container id => exact takes_fail _
  | object node =>
      refine (startTimer_underway hi).bind fun timer j₁ _ h₁ => ?_
      exact charged_finish_underway .zero (unmetered_alone _) h₁

omit [Library ω η τ] in
theorem transfer_takes (op : Operation) (proxy : Proxy η)
    {move : Metered ω → Except Cause Unit × Metered ω} (hmove : Metered.Counted move)
    (record : NodeHandle → Duration → Call (Registry τ Empty) RegistryError Nat)
    (hi : i.world.meter = .new) :
    Takes memory op.name 1 i (transfer memory op proxy move record) := by
  rw [Takes, transfer, Call.ensures_bind, Call.ensures_ofExcept]
  cases datasetNode op proxy with
  | error e => exact resting_refl i
  | ok node =>
      refine (startTimer_underway hi).bind fun timer j₁ _ h₁ => ?_
      refine (callLibrary_underway hmove h₁).bind ?_
      rintro ⟨⟨⟩, library⟩ j₂ _ h₂
      rw [Nat.zero_add] at h₂
      exact charged_finish_underway _ (fun m => (unmetered_alone _ m).mapError _) h₂

theorem wrapUnder_takes (op : Operation) (home : WrapContext) (raw : η)
    (kind : Kind) (name : Option String) (hi : i.world.meter = .new) :
    Takes memory op.name 1 i (wrapUnder memory op home raw kind name) := by
  refine (startTimer_underway hi).bind fun timer j₁ _ h₁ => ?_
  rw [Call.ensures_bind, Call.ensures_onError]
  refine (callLibrary_underway (Metered.counted_call _) h₁).mono ?_
    (fun _ j' ev h => discard_resting kind raw j' ev h) fun _ _ _ h => h
  rintro ⟨info, library⟩ j₂ _ h₂
  rw [Nat.zero_add] at h₂
  rw [Call.ensures_bind, Call.ensures_onError]
  refine (charged_underway (fun m => (unmetered_trackIn memory _ _ kind _ name raw
    m).mapError _) h₂).mono ?_ (fun _ j' ev h => discard_resting kind raw j' ev h)
    fun _ _ _ h => h
  intro node j₃ _ h₃
  refine (finish_billed h₃).bind fun _ j₄ _ h₄ => ?_
  rw [Call.ensures_pure]
  exact h₄

/-- Only a dataset is asked for its shape. -/
theorem askShape_underway (op : Operation) (kind : Kind) (raw : η)
    (h : Underway i timer spent calls j) :
    (askShape op kind raw).Ensures j ev
      (fun r j' _ => Underway i timer (spent + r.2.nanos)
        (calls + if kind = .dataset then 1 else 0) j')
      (fun _ j' _ => Resting i j' j'.world.meter.idle)
      (fun _ j' _ => Resting i j' j'.world.meter.idle) := by
  cases kind with
  | dataset =>
      refine (callLibrary_underway (Metered.counted_call _) h).bind ?_
      rintro ⟨shape, elapsed⟩ j₁ _ h₁
      rw [Call.ensures_pure]
      exact h₁
  | group => exact h
  | datatype => exact h
  | attr => exact h

theorem describeObject_underway (op : Operation) (node : NodeHandle)
    (access : Access) (raw : η) (h : Underway i timer spent calls j) :
    (describeObject memory op node access raw).Ensures j ev
      (fun elapsed j' _ => Underway i timer (spent + elapsed.nanos)
        (calls + if node.kind = .dataset then 1 else 0) j')
      (fun _ j' _ => Resting i j' j'.world.meter.idle)
      (fun _ j' _ => Resting i j' j'.world.meter.idle) := by
  refine (askShape_underway op node.kind raw h).bind ?_
  rintro ⟨shape, elapsed⟩ j₁ _ h₁
  refine (charged_underway (fun m => (unmetered_alone _ m).mapError _) h₁).bind
    fun _ j₂ _ h₂ => ?_
  rw [Call.ensures_pure]
  exact h₂

theorem undoTracking_resting (kind : Kind) (node : NodeHandle) (raw : η) :
    (undoTracking kind node raw : Call (Interceptor (Metered ω) τ) ε Unit).Keeps
      fun j _ => Resting i j j.world.meter.idle := by
  refine Call.Keeps.bind (fun j ev h => ?_) fun _ => discard_resting kind raw
  exact (charged_resting (unmetered_alone _) h).mono (fun _ _ _ h => h.1)
    (fun _ _ _ h => h) fun _ _ _ h => h

theorem openTracked_underway (access : Access) (parent : Proxy η) (kind : Kind)
    (name : String) (hi : i.world.meter = .new) :
    (openTracked memory access parent kind name).Ensures i ev
      (fun found j _ => Underway i found.timer found.library.nanos 2 j)
      (fun _ j _ => Resting i j j.world.meter.idle)
      (fun _ j _ => Resting i j j.world.meter.idle) := by
  refine (startTimer_underway hi).bind fun timer j₁ _ h₁ => ?_
  refine (callLibrary_underway (Metered.counted_call _) h₁).bind ?_
  rintro ⟨raw, opening⟩ j₂ _ h₂
  rw [Nat.zero_add] at h₂
  rw [Call.ensures_bind, Call.ensures_onError]
  refine (callLibrary_underway (Metered.counted_call _) h₂).mono ?_
    (fun _ j' ev h => discard_resting kind raw j' ev h) fun _ _ _ h => h
  rintro ⟨info, asking⟩ j₃ _ h₃
  refine (addTimes_underway h₃).bind fun library j₄ _ h₄ => ?_
  rw [Call.ensures_bind, Call.ensures_onError]
  refine (charged_underway (fun m => (unmetered_trackIn memory _ _ kind _ (some name)
    raw m).mapError _) h₄).mono ?_ (fun _ j' ev h => discard_resting kind raw j' ev h)
    fun _ _ _ h => h
  intro node j₅ _ h₅
  rw [Call.ensures_pure]
  exact h₅

/-- What is tracked is of the kind that was asked for. -/
theorem openTracked_kind {held : Multiset Reference} (access : Access)
    (parent : Proxy η) (kind : Kind) (name : String)
    {i : Interceptor ω τ} (h : i.registry.Consistent held) :
    (openTracked memory access parent kind name).Ensures i ev
      (fun found _ _ => found.node.kind = kind) (fun _ _ _ => True)
      (fun _ _ _ => True) := by
  have hunworldly := unworldly_untouched i
  refine hunworldly.startTimer_keeps.ensures_bind (.refl i) (fun _ _ _ => trivial)
    fun timer j ev hj => ?_
  refine (hunworldly.callLibrary_keeps _ _).ensures_bind hj (fun _ _ _ => trivial)
    fun raw j ev hj => ?_
  refine ((hunworldly.callLibrary_keeps _ _).onError
    (hunworldly.discard_keeps kind raw.1)).ensures_bind hj (fun _ _ _ => trivial)
    fun info j ev hj => ?_
  refine (addTimes_keeps (P := fun j _ => i.Untouched j) _ _).ensures_bind hj
    (fun _ _ _ => trivial) fun library j ev hj => ?_
  rw [Call.ensures_bind, Call.ensures_onError]
  refine (trackObject_tracked memory _ info.1 kind (some name) raw.1 h hj).mono ?_ ?_
    fun _ _ _ h => h
  · rintro node j' _ ⟨-, ht⟩
    rw [Call.ensures_pure]
    exact ht.place.2
  · exact fun _ j' ev' _ => (Call.ensures_ending _ j' ev').mono
      (fun _ _ _ _ => trivial) (fun _ _ _ _ => trivial) fun _ _ _ _ => trivial

/-- A dataset costs a third call, for its shape. -/
theorem openObject_takes {held : Multiset Reference} (access : Access)
    (parent : Proxy η) (kind : Kind) (name : String) (hi : i.world.meter = .new)
    (h : i.registry.Consistent held) :
    Takes memory (Operation.object access kind).name
      (2 + if kind = .dataset then 1 else 0) i
      (openObject memory access parent kind name) := by
  rw [openObject_eq]
  refine Call.Ensures.bind (((openTracked_underway access parent kind name hi).and
    (openTracked_kind access parent kind name h)).mono (fun _ _ _ h => h)
    (fun _ _ _ h => h.1) fun _ _ _ h => h.1) ?_
  rintro found j₁ _ ⟨h₁, rfl⟩
  rw [describeFound, Call.ensures_bind, Call.ensures_onError]
  refine (describeObject_underway _ found.node access found.raw h₁).mono ?_
    (fun _ j' ev h => undoTracking_resting _ found.node found.raw j' ev h)
    fun _ _ _ h => h
  intro describing j₂ _ h₂
  refine (addTimes_underway h₂).bind fun library j₃ _ h₃ => ?_
  refine (finish_billed h₃).bind fun _ j₄ _ h₄ => ?_
  rw [Call.ensures_bind, Call.ensures_state, Call.ensures_pure]
  exact h₄

end

/-! ## What an operation books -/

namespace Op

variable [Library ω η τ] [Host ω] {i : Interceptor (Metered ω) τ}

/-- The name that the time of an operation is kept under. -/
def name : Op η → String
  | openFile access _ => (Operation.file access).name
  | closeFile _ => Operation.closeFile.name
  | openObject access _ kind _ => (Operation.object access kind).name
  | closeObject proxy =>
      match proxy.target with
      | .object node => (Operation.closeObject node.kind).name
      | .container _ => closeObjectName
  | readDataset .. => Operation.readDataset.name
  | writeDataset .. => Operation.writeDataset.name
  | pin _ => Operation.pin.name
  | unpin _ => Operation.unpin.name
  | wrapObject .. => Operation.wrap.name
  | completeRequest .. => Operation.complete.name
  | unwrapObject _ => Operation.unwrap.name

/-- The calls of the library that a successful operation makes. -/
def calls : Op η → Nat
  | openFile .. => 2
  | openObject _ _ kind _ => 2 + if kind = .dataset then 1 else 0
  | closeFile _ => 1
  | closeObject _ => 1
  | readDataset .. => 1
  | writeDataset .. => 1
  | wrapObject .. => 1
  | completeRequest .. => 1
  | pin _ => 0
  | unpin _ => 0
  | unwrapObject _ => 0

/-- Every operation takes the time that the meter shows. -/
theorem run_takes {held : Multiset Reference} (memory : Memory) (op : Op η)
    (hi : i.world.meter = .new) (h : i.registry.Consistent held) :
    Takes memory op.name op.calls i (op.run memory) := by
  cases op with
  | openFile access name => exact ((openFile_takes access name hi).mapError _).map _
  | closeFile proxy => exact ((closeFile_takes proxy hi).mapError _).map _
  | openObject access parent kind name =>
      exact ((openObject_takes access parent kind name hi h).mapError _).map _
  | closeObject proxy =>
      refine ((closeObject_takes proxy (fun node hnode => ?_) hi).mapError _).map _
      rw [name, hnode]
  | readDataset proxy selected =>
      exact ((transfer_takes _ proxy (Metered.counted_call _) _ hi).mapError _).map _
  | writeDataset proxy selected =>
      exact ((transfer_takes _ proxy (Metered.counted_call _) _ hi).mapError _).map _
  | pin proxy => exact ((pin_takes proxy hi).mapError _).map _
  | unpin context => exact (unpin_takes context hi).map _
  | wrapObject raw kind context =>
      exact ((wrapUnder_takes _ context raw kind none hi).mapError _).map _
  | completeRequest parent raw kind name =>
      exact ((wrapUnder_takes _ _ raw kind name hi).mapError _).map _
  | unwrapObject proxy => exact ((unwrapObject_takes proxy hi).mapError _).map _

end Op

end Interceptor

end Provenance
