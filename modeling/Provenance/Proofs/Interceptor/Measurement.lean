import Provenance.Proofs.Interceptor.Ownership
import Provenance.Proofs.Interceptor.Parallel
import Provenance.Proofs.Library.Requests

/-! # What is measured changes nothing

    Two interceptors over equal libraries and clocks may keep their statistics
    in tables of different sizes, and one of them may measure its own
    bookkeeping where the other does not.  All that this changes in an
    operation are steps that nobody waits for (`Silent`): readings of the clock,
    the statistics and the overhead.  So the parts of their operations agree
    (`InStep.parallel`), and runs of the two never come apart
    (`Paired.agree`). -/

namespace Provenance

variable {ω η τ ρ ε α : Type}

/-- The event does not tell of a time that was measured. -/
def Event.untimed : Event → Bool
  | timingDropped .. => false
  | _ => true

/-- The time that a step takes by the clock of the world. -/
def timeOf [Host ω] (f : ω → α × ω) (w : ω) : Duration :=
  (Timer.start (Host.now w).1).elapsed (Host.now (f (Host.now w).2).2).1

/-- Two steps have the same answer from related worlds, take the same time, and
    leave related worlds. -/
structure Timed [Host ω] (R : ω → ω → Prop) (f g : ω → α × ω) : Prop where
  answer : ∀ w w', R w w' → (f w).1 = (g w').1 ∧ R (f w).2 (g w').2
  time : ∀ w w', R w w' → timeOf f w = timeOf g w'

/-- Related worlds have equal libraries and equal clocks.  One of the clocks
    may be read more often than the other. -/
structure InStep [Library ω η τ] [Host ω] (R : ω → ω → Prop) : Prop
    extends Services fun _ (f g : ω → _) => Timed R f g where
  compare : Identity.Agree (η := η) (τ := τ) Event.untimed R
  connector : ∀ w w', R w w' → Library.connector w = Library.connector w'
  now_left : ∀ w w', R w w' → R (Host.now w).2 w'
  now_right : ∀ w w', R w w' → R w (Host.now w').2

namespace Interceptor

/-! ## Measuring -/

/-- The relation does not see that an interceptor measures: it is about the
    registry and the world alone, and the clock may be read. -/
def Blind [Host ω] (S : Interceptor ω τ → ρ → Prop) : Prop :=
  ∀ i j t, j.registry = i.registry →
    (j.world = i.world ∨ j.world = (Host.now i.world).2) → S i t → S j t

section

variable [Host ω] {S : Interceptor ω τ → ρ → Prop} (hS : Blind S)

include hS

theorem Blind.readClock {seen : Event → Bool} :
    (readClock : Call (Interceptor ω τ) ε Duration).Silent seen S := by
  refine Call.silent_of_ensures fun i => ?_
  rw [ensures_readClock]
  exact ⟨fun t => hS i _ t rfl (Or.inr rfl), rfl⟩

theorem Blind.startTimer {seen : Event → Bool} :
    (startTimer : Call (Interceptor ω τ) ε Timer).Silent seen S := by
  refine Call.silent_of_ensures fun i => ?_
  rw [ensures_startTimer]
  exact ⟨fun t => hS i _ t rfl (Or.inr rfl), rfl⟩

theorem Blind.finish (memory : Memory) (op : Operation) (timer : Timer)
    (library : Duration) :
    (finish memory op timer library : Call (Interceptor ω τ) ε Unit).Silent
      Event.untimed S := by
  refine Call.silent_of_ensures fun i => ?_
  refine (finish_ensures (V := fun s ev =>
    (∀ j t, (j.world, j.registry) = s → S i t → S j t) ∧
      ev.filter Event.untimed = []) ?_ ?_ ?_).mono
    (fun _ j _ ⟨h, hev⟩ => ⟨fun t => h j t rfl, hev⟩)
    (fun _ _ _ h => h) fun _ _ _ h => h
  · rintro w reg ev ⟨h, hev⟩
    refine ⟨fun j t hj ht => ?_, hev⟩
    obtain ⟨hw, hreg⟩ := Prod.mk.inj hj
    exact hS { j with world := w } j t rfl (Or.inr hw) (h _ t (by rw [hreg]) ht)
  · rintro s ev text ⟨h, hev⟩
    refine ⟨h, ?_⟩
    rw [List.filter_append, hev]
    rfl
  · refine ⟨fun j t hj => ?_, rfl⟩
    obtain ⟨hw, hreg⟩ := Prod.mk.inj hj
    exact hS i j t hreg (Or.inl hw)

/-- Whether bookkeeping time is charged does not matter to what follows. -/
theorem Blind.charging {seen : Event → Bool} {E : ε → Prop} {β : Type}
    {Q : α → β → Prop} (charge : Charge) (timer : Timer) {r : Except ε α}
    {y : Call ρ ε β} (h : (Call.ofExcept r).Agree seen S E Q y) :
    (do
      if (← Call.state).config.recordOverhead then
        let now ← Interceptor.readClock
        Call.modify fun i =>
          { i with overhead := i.overhead.addList charge (timer.elapsed now) }
      Call.ofExcept r : Call (Interceptor ω τ) ε α).Agree seen S E Q y := by
  refine Call.silent_state.bind_left fun i => ?_
  by_cases hc : i.config.recordOverhead = true
  · rw [if_pos hc]
    refine hS.readClock.bind_left fun now => ?_
    refine Call.Silent.bind_left (Call.silent_modify fun j t hj => ?_) fun _ => h
    exact hS j _ t rfl (Or.inl rfl) hj
  · rw [if_neg hc]
    exact h

end

/-! ## The parts of an operation -/

/-- Related worlds and equal registries; the statistics, the overhead and the
    configurations may differ. -/
def Alike (R : ω → ω → Prop) (i j : Interceptor ω τ) : Prop :=
  R i.world j.world ∧ i.registry = j.registry

theorem callLibrary_apply [Host ω] (op : Operation) (f : ω → Except Cause α × ω)
    (i : Interceptor ω τ) :
    callLibrary op f i =
      match f (Host.now i.world).2 with
      | (.ok a, w) =>
          ⟨.value (a, timeOf f i.world), { i with world := (Host.now w).2 }, []⟩
      | (.error cause, w) =>
          ⟨.error (.library op.name cause), { i with world := w }, []⟩ := by
  rcases hf : f (Host.now i.world).2 with ⟨cause | a, w⟩
  · simp [callLibrary, startTimer, readClock, onWorld, Call.map_apply,
      Call.focus, Call.bind_apply, Call.ofStep, Call.mapError, Call.ofTry, hf,
      Outcome.map, Outcome.mapError]
  · simp [callLibrary, startTimer, readClock, onWorld, Call.map_apply,
      Call.focus, Call.bind_apply, Call.ofStep, Call.mapError, Call.ofTry, hf,
      Outcome.map, Outcome.mapError, timeOf]

section

variable [Library ω η τ] [Host ω] {R : ω → ω → Prop} {seen : Event → Bool}

theorem blind_left (hR : InStep R) :
    Blind (Alike R : Interceptor ω τ → Interceptor ω τ → Prop) := by
  rintro i i' j hreg hw ⟨hij, heq⟩
  refine ⟨?_, hreg.trans heq⟩
  rcases hw with hw | hw
  · rw [hw]
    exact hij
  · rw [hw]
    exact hR.now_left _ _ hij

theorem blind_right (hR : InStep R) :
    Blind fun (j i : Interceptor ω τ) => Alike R i j := by
  rintro j j' i hreg hw ⟨hij, heq⟩
  refine ⟨?_, heq.trans hreg.symm⟩
  rcases hw with hw | hw
  · rw [hw]
    exact hij
  · rw [hw]
    exact hR.now_right _ _ hij

omit [Host ω] in
theorem onWorld_alike {E : ε → Prop} {x y : Call ω ε α}
    (h : x.Agree seen R E Eq y) :
    (onWorld x).Agree seen (Alike R : Interceptor ω τ → Interceptor ω τ → Prop)
      E Eq (onWorld y) :=
  h.focus (fun _ _ h => h.1) fun _ _ _ _ h hw => ⟨hw, h.2⟩

theorem callLibrary_alike (hR : InStep R) (op : Operation)
    {f g : ω → Except Cause α × ω} (h : Timed R f g) :
    (callLibrary op f).Agree seen
      (Alike R : Interceptor ω τ → Interceptor ω τ → Prop)
      InterceptError.Unmeasured Eq (callLibrary op g) := by
  rintro i j ⟨hw, hreg⟩
  obtain ⟨hanswer, hstate⟩ := h.answer _ _
    (hR.now_left _ _ (hR.now_right _ _ hw))
  rw [callLibrary_apply, callLibrary_apply, h.time _ _ hw]
  generalize f (Host.now i.world).2 = r, g (Host.now j.world).2 = r'
    at hanswer hstate ⊢
  rcases r with ⟨r, w⟩
  rcases r' with ⟨r', w'⟩
  obtain rfl : r = r' := hanswer
  cases r with
  | ok a =>
      exact ⟨.value rfl, ⟨hR.now_left _ _ (hR.now_right _ _ hstate), hreg⟩, rfl⟩
  | error cause => exact ⟨.error nofun, ⟨hstate, hreg⟩, rfl⟩

theorem charged_alike (hR : InStep R) {E : ε → Prop} (charge : Charge)
    {x y : Call (ω × Registry τ Empty) ε α}
    (h : x.Agree seen (Registry.Beside R) E Eq y) :
    (charged charge x).Agree seen (Alike R) E Eq (charged charge y) := by
  refine (blind_left hR).startTimer.bind_left fun t => ?_
  refine (blind_right hR).startTimer.bind_right fun t' => ?_
  have hwork : (onRegistry x).Agree seen (Alike R) E Eq (onRegistry y) :=
    h.focus (fun _ _ h => h) fun _ _ _ _ _ h => h
  refine hwork.attempt.bind fun r r' hr => ?_
  refine (blind_left hR).charging charge t ?_
  exact ((blind_right hR).charging charge t' (Call.agree_ofExcept hr).symm).symm

/-- Over equal libraries and clocks, the parts of an operation agree, but for
    what is measured. -/
theorem parallel_alike (hR : InStep R) :
    Parallel Event.untimed (fun _ f g => Timed R f g) R
      (Alike R : Interceptor ω τ → Interceptor ω τ → Prop)
      fun _ _ => True where
  toServices := hR.toServices
  compare := hR.compare
  connector := fun _ _ h => hR.connector _ _ h.1
  timer := (blind_left hR).startTimer.agree (blind_right hR).startTimer
  call := callLibrary_alike hR
  untimed := fun h => onWorld_alike (Call.agree_ofTry h.answer)
  charge := charged_alike hR
  ending := fun memory op _ _ library _ =>
    ((blind_left hR).finish memory op _ library).agree
      ((blind_right hR).finish memory op _ library)

end

/-! ## Runs -/

section

variable [Library ω η τ] [Host ω] {R : ω → ω → Prop} {i j : Interceptor ω τ}

/-- The states that two runs reach side by side.  They start with
    configurations that differ at most in what is measured and where it is
    reported, over related worlds, and are asked for the same operations.
    Between two operations, the worlds may become any others that are
    related. -/
inductive Paired (R : ω → ω → Prop) :
    Interceptor ω τ → Interceptor ω τ → Prop
  | start (memory : Memory) {config config' : Config} {w w' : ω}
      {i j : Interceptor ω τ}
      (hname : config.placeholderName = config'.placeholderName) (hw : R w w')
      (h : ofConfig memory config w = .ok i)
      (h' : ofConfig memory config' w' = .ok j) : Paired R i j
  | step {i j : Interceptor ω τ} (h : Paired R i j) (memory : Memory)
      (op : Op η) : Paired R (op.run memory i).state (op.run memory j).state
  | other {i j : Interceptor ω τ} {w w' : ω} (h : Paired R i j)
      (hw : R w w') : Paired R { i with world := w } { j with world := w' }

theorem Paired.alike (hR : InStep R) (h : Paired R i j) : Alike R i j := by
  induction h with
  | start memory hname hw h h' =>
      obtain ⟨hworld, hreg⟩ := of_ofConfig h
      obtain ⟨hworld', hreg'⟩ := of_ofConfig h'
      refine ⟨by rwa [hworld, hworld'], ?_⟩
      rw [hreg, hreg', Registry.ofConfig, Registry.ofConfig, hname]
  | step _ memory op ih =>
      exact ((parallel_alike hR).run_agree memory op _ _ ih).state
  | other _ hw ih => exact ⟨hw, ih.2⟩

/-- What two interceptors measure, and whether it finds a place, makes no
    difference to anything else.  Side by side over equal libraries and clocks,
    their registries are equal, and each operation has the same outcome, leaves
    equal registries and libraries, and emits the same events but for the times
    dropped.  No operation fails for want of a place in the statistics. -/
theorem Paired.behave_alike (hR : InStep R) (h : Paired R i j) :
    R i.world j.world ∧ i.registry = j.registry ∧
    ∀ (memory : Memory) (op : Op η),
      (op.run memory i).outcome = (op.run memory j).outcome ∧
      R (op.run memory i).state.world (op.run memory j).state.world ∧
      (op.run memory i).state.registry = (op.run memory j).state.registry ∧
      (op.run memory i).events.filter Event.untimed
        = (op.run memory j).events.filter Event.untimed ∧
      ∀ e s, (op.run memory i).outcome = .error e → e.error ≠ .stats s := by
  refine ⟨(h.alike hR).1, (h.alike hR).2, fun memory op => ?_⟩
  obtain ⟨houtcome, ⟨hworld, hreg⟩, hevents⟩ :=
    (parallel_alike hR).run_agree memory op i j (h.alike hR)
  exact ⟨houtcome.eq, hworld, hreg, hevents,
    fun e s he => houtcome.of_error he s⟩

end

end Interceptor

/-! ## Clocks that stand still -/

section

variable [Library ω η τ] [Host ω]

/-- Where the clock does not move by being read, equal worlds have equal
    libraries and clocks. -/
theorem inStep_of_still {P : ω → Prop}
    (hnow : ∀ w, P w → (Host.now w).2 = w)
    (hcompare : ∀ (raw : η) (a b : τ) w, P w →
      P ((Identity.compare raw a b : Call ω _ _) w).state)
    (h : Services fun _ (f g : ω → _) => ∀ w, P w → f w = g w ∧ P (f w).2) :
    InStep fun w w' : ω => w = w' ∧ P w := by
  have hstep : ∀ (α : Type) (f g : ω → Except Cause α × ω),
      (∀ w, P w → f w = g w ∧ P (f w).2) →
      Timed (fun w w' => w = w' ∧ P w) f g := by
    intro α f g hfg
    constructor
    · rintro w _ ⟨rfl, hw⟩
      obtain ⟨heq, hP⟩ := hfg w hw
      rw [← heq]
      exact ⟨rfl, rfl, hP⟩
    · rintro w _ ⟨rfl, hw⟩
      rw [timeOf, timeOf, hnow w hw, (hfg w hw).1]
  refine { h.mono hstep with
    compare := ?_, connector := ?_, now_left := ?_, now_right := ?_ }
  · rintro raw a b w _ ⟨rfl, hw⟩
    exact ⟨.refl _, ⟨rfl, hcompare raw a b w hw⟩, rfl⟩
  · rintro w _ ⟨rfl, -⟩
    rfl
  · rintro w _ ⟨rfl, hw⟩
    rw [hnow w hw]
    exact ⟨rfl, hw⟩
  · rintro w _ ⟨rfl, hw⟩
    rw [hnow w hw]
    exact ⟨rfl, hw⟩

end

namespace InMemory

/-- A call moves the clock by the latency, and leaves the pace of the world
    alone. -/
theorem World.call_pace {α : Type} (service : Service)
    (f : State → Except Cause α × State) (w : World) :
    (World.call service f w).2.clock = w.clock.advance w.latency ∧
      (World.call service f w).2.tick = w.tick ∧
      (World.call service f w).2.latency = w.latency := by
  by_cases hs : service ∈ w.library.failing
  · rw [World.call_of_mem f hs]
    exact ⟨rfl, rfl, rfl⟩
  · rw [World.call_of_not_mem f hs]
    exact ⟨rfl, rfl, rfl⟩

/-- In memory, a clock without a tick does not move by being read. -/
theorem inStep : InStep fun w w' : World => w = w' ∧ w.tick = 0 := by
  have hcall : ∀ {α : Type} (service : Service)
      (f : State → Except Cause α × State) (w : World), w.tick = 0 →
      World.call service f w = World.call service f w ∧
        (World.call service f w).2.tick = 0 :=
    fun service f w hw => ⟨rfl, (World.call_pace service f w).2.1.trans hw⟩
  refine inStep_of_still ?_ ?_
    { container := fun access name => ?_
      closeContainer := fun raw => hcall _ _
      containerId := fun raw => hcall _ _
      object := fun access parent kind name => ?_
      closeObject := fun raw kind => hcall _ _
      objectInfo := fun raw kind => hcall _ _
      datasetShape := fun raw => hcall _ _
      readDataset := fun raw selected => hcall _ _
      writeDataset := fun raw selected => hcall _ _ }
  · rintro ⟨library, ⟨micros⟩, tick, latency, files⟩ (rfl : tick = 0)
    exact congrArg (fun m => (⟨library, ⟨m⟩, 0, latency, files⟩ : World))
      (UInt64.add_zero micros)
  · intro raw a b w hw
    show (World.compare a b w).state.tick = 0
    rw [World.compare_state]
    exact hw
  · cases access with
    | created => exact hcall _ _
    | opened => exact hcall _ _
  · cases access with
    | created => exact hcall _ _
    | opened => exact hcall _ _

/-- One table has room for a single name, and the other grows; one interceptor
    measures its bookkeeping, and the other does not.  The time of a second
    operation is dropped on one side, where it succeeds all the same. -/
theorem behave_alike_of_full_table :
    ∃ (i j : Interceptor World Token) (op : Interceptor.Op Handle),
      Interceptor.Paired (fun w w' : World => w = w' ∧ w.tick = 0) i j ∧
      i.registry = j.registry ∧
      (op.run Memory.addressSpace i).outcome
        = (op.run Memory.addressSpace j).outcome ∧
      (op.run Memory.addressSpace i).outcome.isValue = true ∧
      (op.run Memory.addressSpace i).events
        ≠ (op.run Memory.addressSpace j).events := by
  have hstart := Interceptor.Paired.start
    (R := fun w w' : World => w = w' ∧ w.tick = 0) Memory.addressSpace
    (show { Config.default with
        statsCapacity := 1, recordOverhead := false }.placeholderName
      = { Config.default with
          statsCapacity := 4, statsGrowth := .double }.placeholderName from rfl)
    ⟨rfl, show (World.new ⟨1⟩).tick = 0 from rfl⟩ rfl rfl
  have hfile := hstart.step Memory.addressSpace (.openFile .created "f")
  obtain ⟨-, hreg, hops⟩ := hfile.behave_alike inStep
  exact ⟨_, _, .openObject .created ⟨⟨0x1010, ⟨1⟩⟩, ⟨1⟩, .container ⟨1⟩⟩ .group
    "g", hfile, hreg, (hops Memory.addressSpace _).1, rfl, by decide⟩

end InMemory

end Provenance
