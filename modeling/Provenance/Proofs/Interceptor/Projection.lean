import Provenance.Proofs.Interceptor.Parallel

/-! # Interceptors over a larger world

    A world may hold more than the library and the machine that an interceptor
    works with.  If each of their steps does the same on the larger world as on
    the part of it that they use (`Projects`), then the parts of an operation
    agree, and so does each operation of an interceptor (`Op.run_mirrors`): it
    has the same answer and the same events, and leaves the same
    bookkeeping. -/

namespace Provenance

variable {ω ω' η τ ε α : Type} {p : ω' → ω}

/-- A step on a world is one on a part of it. -/
def StepProjects (p : ω' → ω) (g : ω' → α × ω') (f : ω → α × ω) : Prop :=
  ∀ w, f (p w) = ((g w).1, p (g w).2)

/-- The library and the machine of a world are those of a part of it. -/
structure Projects [Library ω η τ] [Host ω] [Library ω' η τ] [Host ω']
    (p : ω' → ω) : Prop extends Services fun _ g f => StepProjects p g f where
  now : StepProjects p Host.now Host.now
  compare : Identity.Projects (ω := ω) (η := η) (τ := τ) p
  connector : ∀ w, Library.connector (p w) = Library.connector w

theorem StepProjects.apply {g : ω' → α × ω'} {f : ω → α × ω}
    (h : StepProjects p g f) :
    ∀ s t, t = p s → (g s).1 = (f t).1 ∧ (f t).2 = p (g s).2 := by
  rintro s _ rfl
  rw [h s]
  exact ⟨rfl, rfl⟩

namespace Interceptor

/-- The same interceptor over a part of its world. -/
def along (p : ω' → ω) (i : Interceptor ω' τ) : Interceptor ω τ :=
  ⟨p i.world, i.registry, i.stats, i.overhead, i.config⟩

/-! ## The parts of an operation -/

section

variable {seen : Event → Bool} {E : ε → Prop} {Q : α → α → Prop}

theorem onWorld_along {y : Call ω' ε α} {x : Call ω ε α}
    (h : y.Agree seen (fun w' w => w = p w') E Q x) :
    (onWorld y : Call (Interceptor ω' τ) ε α).Agree seen
      (fun i' i => i = along p i') E Q (onWorld x) := by
  refine h.focus ?_ ?_
  · rintro i' _ rfl
    rfl
  · rintro i' _ w' _ rfl rfl
    rfl

theorem onRegistry_along {y : Call (ω' × Registry τ Empty) ε α}
    {x : Call (ω × Registry τ Empty) ε α}
    (h : y.Agree seen (Registry.Beside fun w' w => w = p w') E Q x) :
    (onRegistry y).Agree seen (fun i' i => i = along p i') E Q
      (onRegistry x) := by
  refine h.focus ?_ ?_
  · rintro i' _ rfl
    exact ⟨rfl, rfl⟩
  · rintro i' _ ⟨w', reg'⟩ ⟨w, reg⟩ rfl ⟨hw, hreg⟩
    obtain rfl : w = p w' := hw
    obtain rfl : reg' = reg := hreg
    rfl

theorem keepTime_along (memory : Memory) (op : Operation) (total : Duration) :
    (keepTime memory op total : Call (Interceptor ω' τ) ε Unit).Agree seen
      (fun i' i => i = along p i') E Eq (keepTime memory op total) := by
  have hstats : (onStats (StatsTable.accumulate memory op.name total) :
      Call (Interceptor ω' τ) _ _).Mirrors (along p)
        (onStats (StatsTable.accumulate memory op.name total)) := fun _ => rfl
  refine hstats.agree.attempt.bind fun r r' hr => ?_
  cases hr with
  | ok => exact Call.agree_pure rfl
  | error => exact Call.agree_emit _

variable [Library ω η τ] [Host ω] [Library ω' η τ] [Host ω']

theorem readClock_along (hp : Projects p) :
    (readClock : Call (Interceptor ω' τ) ε Duration).Agree seen
      (fun i' i => i = along p i') E Eq readClock :=
  onWorld_along (Call.agree_ofStep hp.now.apply)

theorem startTimer_along (hp : Projects p) :
    (startTimer : Call (Interceptor ω' τ) ε Timer).Agree seen
      (fun i' i => i = along p i') E Eq startTimer :=
  (readClock_along hp).map _ _ fun _ _ => congrArg _

theorem callLibrary_along (hp : Projects p) (op : Operation)
    {g : ω' → Except Cause α × ω'} {f : ω → Except Cause α × ω}
    (h : StepProjects p g f) :
    (callLibrary op g : Call (Interceptor ω' τ) InterceptError _).Agree seen
      (fun i' i => i = along p i') InterceptError.Unmeasured Eq
      (callLibrary op f) := by
  refine (startTimer_along hp).bind ?_
  rintro timer _ rfl
  refine (onWorld_along ((Call.agree_ofTry h.apply).mapError
    fun _ _ => nofun)).bind ?_
  rintro a _ rfl
  refine (readClock_along hp).bind ?_
  rintro now _ rfl
  exact Call.agree_pure rfl

theorem charged_along (hp : Projects p) (charge : Charge)
    {y : Call (ω' × Registry τ Empty) ε α} {x : Call (ω × Registry τ Empty) ε α}
    (h : y.Agree seen (Registry.Beside fun w' w => w = p w') E Q x) :
    (charged charge y).Agree seen (fun i' i => i = along p i') E Q
      (charged charge x) := by
  refine (startTimer_along hp).bind ?_
  rintro timer _ rfl
  refine (onRegistry_along h).attempt.bind fun r r' hr => ?_
  refine Call.agree_state_bind ?_
  rintro i' _ rfl
  by_cases hc : i'.config.recordOverhead = true
  · rw [if_pos hc,
      if_pos (show (along p i').config.recordOverhead = true from hc)]
    refine (readClock_along hp).bind ?_
    rintro now _ rfl
    refine (Call.agree_modify ?_).bind fun _ _ _ => Call.agree_ofExcept hr
    rintro j' _ rfl
    rfl
  · rw [if_neg hc,
      if_neg (show ¬ (along p i').config.recordOverhead = true from hc)]
    exact Call.agree_ofExcept hr

theorem finish_along (hp : Projects p) (memory : Memory) (op : Operation)
    (timer : Timer) (library : Duration) :
    (finish memory op timer library : Call (Interceptor ω' τ) ε Unit).Agree seen
      (fun i' i => i = along p i') E (fun _ _ => True)
      (finish memory op timer library) := by
  refine (readClock_along hp).bind ?_
  rintro now _ rfl
  refine (keepTime_along memory op _).bind fun _ _ _ => ?_
  refine Call.agree_state_bind ?_
  rintro i' _ rfl
  by_cases hc : i'.config.recordOverhead = true
  · rw [if_pos hc,
      if_pos (show (along p i').config.recordOverhead = true from hc)]
    refine (Call.agree_modify ?_).mono (fun _ h => h) fun _ _ _ => trivial
    rintro j' _ rfl
    rfl
  · rw [if_neg hc,
      if_neg (show ¬ (along p i').config.recordOverhead = true from hc)]
    exact Call.agree_pure trivial

/-! ## The operations -/

theorem parallel_along (hp : Projects p) :
    Parallel seen (fun _ g f => StepProjects p g f) (fun w' w => w = p w')
      (fun (i' : Interceptor ω' τ) i => i = along p i') Eq where
  toServices := hp.toServices
  compare := hp.compare.agree
  connector := by
    rintro i' _ rfl
    exact (hp.connector i'.world).symm
  timer := startTimer_along hp
  call := callLibrary_along hp
  untimed := fun h => onWorld_along (Call.agree_ofTry h.apply)
  charge := charged_along hp
  ending := by
    rintro _ _ memory op t _ library rfl
    exact finish_along hp memory op t library

/-- An operation of an interceptor does over a world what it does over the part
    of the world that its library and its machine use. -/
theorem Op.run_mirrors (hp : Projects p) (memory : Memory) (op : Op η) :
    (op.run memory : Call (Interceptor ω' τ) _ _).Mirrors (along p)
      (op.run memory) :=
  ((parallel_along hp).run_agree memory op).mirrors

end

end Interceptor

end Provenance
