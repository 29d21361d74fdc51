import Provenance.Interceptor.Object
import Provenance.Proofs.Stats.Update

/-! # Contracts of the parts of an operation

    An intercepted operation is put together from a few parts: readings of the
    clock, calls of the library, charged work on the registry, an end.  What is
    proved of operations is about the world, the registry and the events, so
    the contracts of the parts speak of those alone; a condition on them has to
    survive readings of the clock, which happen everywhere. -/

namespace Provenance.Interceptor

variable {ω η τ ε α : Type} [Host ω] {i : Interceptor ω τ} {ev : List Event}
  {E : ε → Interceptor ω τ → List Event → Prop}
  {F : Fault → Interceptor ω τ → List Event → Prop}

/-! ## Time -/

@[simp]
theorem ensures_readClock {V : Duration → Interceptor ω τ → List Event → Prop} :
    readClock.Ensures i ev V E F ↔
      V (Host.now i.world).1 { i with world := (Host.now i.world).2 } ev := by
  rw [readClock, onWorld, Call.ensures_focus, Call.ensures_ofStep]

@[simp]
theorem ensures_startTimer {V : Timer → Interceptor ω τ → List Event → Prop} :
    startTimer.Ensures i ev V E F ↔
      V (.start (Host.now i.world).1)
        { i with world := (Host.now i.world).2 } ev := by
  rw [startTimer, Call.ensures_map, ensures_readClock]

omit [Host ω] in
theorem ensures_addTimes {a b : Duration}
    {V : Duration → Interceptor ω τ → List Event → Prop} :
    (addTimes a b).Ensures i ev V E F ↔
      match a.add? b with
      | some sum => V sum i ev
      | none => F .durationAdd i ev := by
  rw [addTimes]
  cases a.add? b with
  | some sum => exact Call.ensures_pure sum
  | none =>
      rw [Call.ensures_halt, show Fault.durationAdd.events = [] from rfl,
        List.append_nil]

omit [Host ω] in
theorem addTimes_keeps {P : Interceptor ω τ → List Event → Prop}
    (a b : Duration) :
    (addTimes a b : Call (Interceptor ω τ) ε Duration).Keeps P := by
  intro i ev h
  rw [ensures_addTimes]
  cases a.add? b with
  | some sum => exact h
  | none => exact h

/-! ## Calls of the library -/

omit [Host ω] in
theorem ensures_onWorld_ofTry {f : ω → Except ε α × ω}
    {V : α → Interceptor ω τ → List Event → Prop} :
    (onWorld (Call.ofTry f)).Ensures i ev V E F ↔
      match f i.world with
      | (.ok a, w) => V a { i with world := w } ev
      | (.error e, w) => E e { i with world := w } ev := by
  rcases hf : f i.world with ⟨e | a, w⟩ <;>
    simp only [onWorld, Call.ensures_focus, Call.ensures_ofTry, hf]

/-- A call is made between two readings of the clock.  The second reading is
    left out when the call fails. -/
theorem callLibrary_ensures {op : Operation} {f : ω → Except Cause α × ω}
    {V : α × Duration → Interceptor ω τ → List Event → Prop}
    {E : InterceptError → Interceptor ω τ → List Event → Prop}
    (hok : ∀ a w, f (Host.now i.world).2 = (.ok a, w) →
      V (a, (Timer.start (Host.now i.world).1).elapsed (Host.now w).1)
        { i with world := (Host.now w).2 } ev)
    (herror : ∀ cause w, f (Host.now i.world).2 = (.error cause, w) →
      E (.library op.name cause) { i with world := w } ev) :
    (callLibrary op f).Ensures i ev V E F := by
  rw [callLibrary, Call.ensures_bind, ensures_startTimer, Call.ensures_bind,
    onWorld, Call.ensures_focus, Call.ensures_mapError, Call.ensures_ofTry]
  rcases hf : f (Host.now i.world).2 with ⟨cause | a, w⟩
  · exact herror cause w hf
  · dsimp only
    rw [Call.ensures_bind, ensures_readClock, Call.ensures_pure]
    exact hok a w hf

/-! ## Work on the registry -/

/-- The interceptor that charged work leaves, given the world and the registry
    that the work leaves. -/
def afterWork (i : Interceptor ω τ) (charge : Charge) (timer : Timer)
    (s : ω × Registry τ Empty) : Interceptor ω τ :=
  if i.config.recordOverhead = true then
    { i with
      world := (Host.now s.1).2
      registry := s.2
      overhead := i.overhead.addList charge (timer.elapsed (Host.now s.1).1) }
  else { i with world := s.1, registry := s.2 }

/-- The time is charged, or not, before the result of the work is looked at. -/
theorem ensures_charged {charge : Charge}
    {work : Call (ω × Registry τ Empty) ε α}
    {V : α → Interceptor ω τ → List Event → Prop} :
    (charged charge work).Ensures i ev V E F ↔
      work.Ensures ((Host.now i.world).2, i.registry) ev
        (fun a s => V a (i.afterWork charge (.start (Host.now i.world).1) s))
        (fun e s => E e (i.afterWork charge (.start (Host.now i.world).1) s))
        (fun f s => F f { i with world := s.1, registry := s.2 }) := by
  have hend : ∀ (r : Except ε α) (s : ω × Registry τ Empty) (ev' : List Event)
      (timer : Timer),
      (do
        if (← Call.state).config.recordOverhead then
          let now ← readClock
          Call.modify fun i =>
            { i with overhead := i.overhead.addList charge (timer.elapsed now) }
        Call.ofExcept r : Call (Interceptor ω τ) ε α).Ensures
          { i with world := s.1, registry := s.2 } ev' V E F ↔
        (Call.ofExcept r : Call (Interceptor ω τ) ε α).Ensures
          (i.afterWork charge timer s) ev' V E F := by
    intro r s ev' timer
    rw [Call.ensures_bind, Call.ensures_state, afterWork]
    by_cases hc : i.config.recordOverhead = true
    · rw [if_pos hc, if_pos hc, Call.ensures_bind, ensures_readClock,
        Call.ensures_bind, Call.ensures_modify]
    · rw [if_neg hc, if_neg hc]
  rw [charged, Call.ensures_bind, ensures_startTimer, Call.ensures_bind,
    Call.ensures_attempt, onRegistry, Call.ensures_focus]
  have hvalue := fun a => hend (.ok a)
  have herror := fun e => hend (.error e)
  simp only [Call.ensures_ofExcept] at hvalue herror
  simp only [hvalue, herror]

section

variable {V : α → ω × Registry τ Empty → List Event → Prop}
  {E : ε → ω × Registry τ Empty → List Event → Prop}
  {F : Fault → ω × Registry τ Empty → List Event → Prop}

/-- Charged work has the contract of the work itself. -/
theorem charged_ensures {charge : Charge}
    {work : Call (ω × Registry τ Empty) ε α}
    (hV : ∀ a w reg ev, V a (w, reg) ev → V a ((Host.now w).2, reg) ev)
    (hE : ∀ e w reg ev, E e (w, reg) ev → E e ((Host.now w).2, reg) ev)
    (hwork : work.Ensures ((Host.now i.world).2, i.registry) ev V E F) :
    (charged charge work).Ensures i ev
      (fun a j => V a (j.world, j.registry))
      (fun e j => E e (j.world, j.registry))
      (fun f j => F f (j.world, j.registry)) := by
  rw [ensures_charged]
  refine hwork.mono ?_ ?_ fun f s ev' hf => hf
  · intro a s ev' ha
    rw [afterWork]
    by_cases hc : i.config.recordOverhead = true
    · rw [if_pos hc]
      exact hV a _ _ _ ha
    · rw [if_neg hc]
      exact ha
  · intro e s ev' he
    rw [afterWork]
    by_cases hc : i.config.recordOverhead = true
    · rw [if_pos hc]
      exact hE e _ _ _ he
    · rw [if_neg hc]
      exact he

end

/-! ## The end -/

omit [Host ω] in
/-- The statistics take the time of an operation, or drop it with an event. -/
theorem keepTime_ensures {memory : Memory} {op : Operation} {total : Duration}
    {V : ω × Registry τ Empty → List Event → Prop}
    (hdropped : ∀ s ev text, V s ev → V s (ev ++ [.timingDropped op.name text]))
    (h : V (i.world, i.registry) ev) :
    (keepTime memory op total).Ensures i ev
      (fun _ j ev' => V (j.world, j.registry) ev') E F := by
  rw [keepTime, Call.ensures_bind, Call.ensures_attempt, onStats,
    Call.ensures_focus]
  refine (StatsTable.update_quiet i.stats memory op.name _ ev).mono ?_ ?_ ?_
  · rintro _ t _ rfl
    rw [Call.ensures_pure]
    exact h
  · rintro e t _ rfl
    rw [Call.ensures_emit]
    exact hdropped _ _ _ h
  · exact fun _ _ _ h => h.elim

/-- An operation that succeeded always comes to its end. -/
theorem finish_ensures {memory : Memory} {op : Operation} {timer : Timer}
    {library : Duration} {V : ω × Registry τ Empty → List Event → Prop}
    (hnow : ∀ w reg ev, V (w, reg) ev → V ((Host.now w).2, reg) ev)
    (hdropped : ∀ s ev text, V s ev → V s (ev ++ [.timingDropped op.name text]))
    (h : V (i.world, i.registry) ev) :
    (finish memory op timer library).Ensures i ev
      (fun _ j ev' => V (j.world, j.registry) ev') E F := by
  rw [finish, Call.ensures_bind, ensures_readClock, Call.ensures_bind]
  refine (keepTime_ensures hdropped (hnow _ _ _ h)).mono ?_
    (fun _ _ _ h => h) fun _ _ _ h => h
  intro _ j ev' hj
  rw [Call.ensures_bind, Call.ensures_state]
  by_cases hc : j.config.recordOverhead = true
  · rw [if_pos hc, Call.ensures_modify]
    exact hj
  · rw [if_neg hc, Call.ensures_pure]
    exact hj

/-! ## Handles without an entry -/

section

variable [Library ω η τ] {V : ω → List Event → Prop}

omit [Host ω] in
theorem discard_ensures {kind : Kind} {raw : η}
    (hok : ∀ w, Library.closeObject raw kind i.world = (.ok (), w) → V w ev)
    (herror : ∀ cause w, Library.closeObject raw kind i.world = (.error cause, w) →
      V w (ev ++ [.objectReleaseFailed kind cause.text])) :
    (discard kind raw).Ensures i ev
      (fun _ j ev' => V j.world ev' ∧ j.registry = i.registry) E F := by
  rw [discard, Call.ensures_bind, Call.ensures_attempt, ensures_onWorld_ofTry]
  rcases hc : Library.closeObject raw kind i.world with ⟨cause | u, w⟩
  · dsimp only
    rw [Call.ensures_emit]
    exact ⟨herror cause w hc, rfl⟩
  · dsimp only
    rw [Call.ensures_pure]
    exact ⟨hok w hc, rfl⟩

omit [Host ω] in
theorem discardContainer_ensures {raw : η}
    (hok : ∀ w, Library.closeContainer raw i.world = (.ok (), w) → V w ev)
    (herror : ∀ cause w, Library.closeContainer raw i.world = (.error cause, w) →
      V w (ev ++ [.containerReleaseFailed cause.text])) :
    (discardContainer raw).Ensures i ev
      (fun _ j ev' => V j.world ev' ∧ j.registry = i.registry) E F := by
  rw [discardContainer, Call.ensures_bind, Call.ensures_attempt,
    ensures_onWorld_ofTry]
  rcases hc : Library.closeContainer raw i.world with ⟨cause | u, w⟩
  · dsimp only
    rw [Call.ensures_emit]
    exact ⟨herror cause w hc, rfl⟩
  · dsimp only
    rw [Call.ensures_pure]
    exact ⟨hok w hc, rfl⟩

omit [Host ω] in
/-- To discard keeps what a release of the library keeps. -/
theorem keeps_discard {P : Interceptor ω τ → Prop} {kind : Kind} {raw : η}
    (hrelease : (onWorld (Call.ofTry (Library.closeObject raw kind)) :
      Call (Interceptor ω τ) Cause Unit).Keeps fun j _ => P j) :
    (discard kind raw : Call (Interceptor ω τ) ε Unit).Keeps fun j _ => P j := by
  refine hrelease.attempt.bind fun r => ?_
  cases r with
  | ok u => exact Call.keeps_pure _
  | error cause => exact Call.keeps_emit _

omit [Host ω] in
theorem keeps_discardContainer {P : Interceptor ω τ → Prop} {raw : η}
    (hrelease : (onWorld (Call.ofTry (Library.closeContainer raw)) :
      Call (Interceptor ω τ) Cause Unit).Keeps fun j _ => P j) :
    (discardContainer raw : Call (Interceptor ω τ) ε Unit).Keeps fun j _ => P j := by
  refine hrelease.attempt.bind fun r => ?_
  cases r with
  | ok u => exact Call.keeps_pure _
  | error cause => exact Call.keeps_emit _

end

/-- The library's part of a close.  A refusal hands the proxy back with the
    library's reason. -/
theorem releaseHandle_ensures {op : Operation} {proxy : Proxy η}
    {rejected : String → Event} {f : ω → Except Cause Unit × ω}
    {V : Duration → Interceptor ω τ → List Event → Prop}
    {E : CloseError η → Interceptor ω τ → List Event → Prop}
    (hok : ∀ w, f (Host.now i.world).2 = (.ok (), w) →
      V ((Timer.start (Host.now i.world).1).elapsed (Host.now w).1)
        { i with world := (Host.now w).2 } ev)
    (herror : ∀ cause w, f (Host.now i.world).2 = (.error cause, w) →
      E ⟨proxy, .library op.name cause⟩ { i with world := w }
        (ev ++ [rejected (InterceptError.library op.name cause).message])) :
    (releaseHandle op proxy rejected f).Ensures i ev V E F := by
  rw [releaseHandle, Call.ensures_bind, Call.ensures_attempt]
  refine callLibrary_ensures ?_ ?_
  · intro a w hf
    dsimp only
    rw [Call.ensures_pure]
    exact hok w hf
  · intro cause w hf
    dsimp only
    rw [Call.ensures_bind, Call.ensures_emit, Call.ensures_fail]
    exact herror cause w hf

/-! ## Recording an access -/

/-- What is recorded at a node, by its kind, after its container counted the
    access. -/
def recordAtNode (memory : Memory) (node : NodeHandle)
    (shape : Option DatasetShape)
    (count : Call (Registry τ Empty) RegistryError Nat) :
    Call (Registry τ Empty) RegistryError Unit :=
  match node.kind with
  | .dataset =>
      match shape with
      | some s => Registry.setDatasetShape memory node s.typeSize s.dimensions
      | none => pure ()
  | .datatype => do
      let _ ← count
      pure ()
  | .group => do
      let _ ← Registry.recordOp node
      pure ()
  | .attr => do
      let _ ← Registry.recordOp node
      pure ()

omit [Host ω] in
theorem recordAccess_created (memory : Memory) (node : NodeHandle)
    (shape : Option DatasetShape) :
    (recordAccess memory node .created shape :
        Call (Registry τ Empty) RegistryError Unit)
      = Registry.recordCreated node.container node.kind >>= fun _ =>
          recordAtNode memory node shape (Registry.recordCommit node) := rfl

omit [Host ω] in
theorem recordAccess_opened (memory : Memory) (node : NodeHandle)
    (shape : Option DatasetShape) :
    (recordAccess memory node .opened shape :
        Call (Registry τ Empty) RegistryError Unit)
      = Registry.recordAccessed node.container node.kind >>= fun _ =>
          recordAtNode memory node shape (Registry.recordGet node) := rfl

omit [Host ω] in
/-- To record an access keeps what every way of counting keeps. -/
theorem recordAccess_keeps_of_parts {P : Registry τ Empty → List Event → Prop}
    (memory : Memory) {node : NodeHandle} (access : Access)
    (shape : Option DatasetShape)
    (hcreated : (Registry.recordCreated node.container node.kind).Keeps P)
    (haccessed : (Registry.recordAccessed node.container node.kind).Keeps P)
    (hshape : ∀ s : DatasetShape,
      (Registry.setDatasetShape memory node s.typeSize s.dimensions).Keeps P)
    (hcommit : (Registry.recordCommit node).Keeps P)
    (hget : (Registry.recordGet node).Keeps P)
    (hop : (Registry.recordOp node).Keeps P) :
    (recordAccess memory node access shape).Keeps P := by
  -- what is counted at the node depends on its kind
  have hrest : ∀ count : Call (Registry τ Empty) RegistryError Nat,
      count.Keeps P → (recordAtNode memory node shape count).Keeps P := by
    intro count hcount
    cases hkind : node.kind with
    | dataset =>
        cases shape with
        | none =>
            simp only [recordAtNode, hkind]
            exact Call.keeps_pure _
        | some s =>
            simp only [recordAtNode, hkind]
            exact hshape s
    | datatype =>
        simp only [recordAtNode, hkind]
        exact hcount.bind fun _ => Call.keeps_pure _
    | group =>
        simp only [recordAtNode, hkind]
        exact hop.bind fun _ => Call.keeps_pure _
    | attr =>
        simp only [recordAtNode, hkind]
        exact hop.bind fun _ => Call.keeps_pure _
  cases access with
  | created =>
      rw [recordAccess_created]
      exact hcreated.bind fun _ => hrest _ hcommit
  | opened =>
      rw [recordAccess_opened]
      exact haccessed.bind fun _ => hrest _ hget

end Provenance.Interceptor
