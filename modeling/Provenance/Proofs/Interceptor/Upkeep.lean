import Mathlib.Data.Multiset.AddSub
import Provenance.Interceptor.File
import Provenance.Interceptor.Object
import Provenance.Proofs.Interceptor.Pace
import Provenance.Proofs.Interceptor.Parts
import Provenance.Proofs.Registry.Upkeep

/-! # Upkeep of an interceptor's registry

    Each operation of an interceptor takes a registry that counts the
    references held to one that does so again, on every path: what was set up
    before a failure is undone, and nothing else is.  On a steady clock no
    operation faults, except where a comparison of the library does. -/

namespace Provenance

/-- The reference that the proxy of a target holds. -/
def Target.reference : Target → Reference
  | container id => .opened id
  | object node => .tracked node

@[simp]
theorem Target.container_reference (target : Target) :
    target.reference.container = target.containerId := by
  cases target <;> rfl

/-- A failure of the library, of a comparison or of the memory, not of the
    bookkeeping. -/
def InterceptError.Foreign : InterceptError → Prop
  | library _ _ => True
  | registry e => e.Foreign
  | _ => False

namespace Interceptor

variable {ω η τ ε : Type} [Library ω η τ] [Host ω] {i : Interceptor ω τ}
  {held : Multiset Reference} {k d : Nat} {ev : List Event}

/-- In the middle of an operation: the registry counts the references held,
    and the library calls so far took so many nanoseconds. -/
structure Kept (held : Multiset Reference) (k d : Nat)
    (s : ω × Registry τ Empty) : Prop where
  spent : Spent k d s.1
  consistent : s.2.Consistent held

theorem Kept.start (h : i.registry.Consistent held) :
    Kept held 0 0 (i.world, i.registry) :=
  ⟨.zero i.world, h⟩

theorem Kept.passes {w w' : ω} {reg : Registry τ Empty}
    (h : Kept held k d (w, reg)) (hw : Passes w w') : Kept held k d (w', reg) :=
  ⟨h.spent.step hw, h.consistent⟩

theorem Kept.now {w : ω} {reg : Registry τ Empty} (h : Kept held k d (w, reg)) :
    Kept held k d ((Host.now w).2, reg) :=
  h.passes (.now w)

/-- What a fault leaves in the middle of an operation.  On a steady clock it is
    one of a comparison; else references may be left that nobody holds. -/
def Halted (ω : Type) {η τ : Type} [Library ω η τ] [Host ω]
    (held : Multiset Reference) (f : Fault) (reg : Registry τ Empty) : Prop :=
  ∃ leaked, reg.Consistent (leaked + held) ∧
    (SteadyClock ω → leaked = 0 ∧ Identity.Faults ω f)

theorem halted_of_faults {reg : Registry τ Empty} {f : Fault}
    (h : reg.Consistent held) (hf : Identity.Faults ω f) : Halted ω held f reg :=
  ⟨0, (Multiset.zero_add held).symm ▸ h, fun _ => ⟨rfl, hf⟩⟩

theorem halted_of_jump {reg : Registry τ Empty} {f : Fault}
    (leaked : Multiset Reference) (h : reg.Consistent (leaked + held))
    (hs : ¬ SteadyClock ω) : Halted ω held f reg :=
  ⟨leaked, h, fun hs' => absurd hs' hs⟩

theorem keeps_spent (raw : η) (a b : τ) :
    (Identity.compare raw a b).Keeps fun (w : ω) _ => Spent k d w :=
  Call.keeps_of_state fun w h => h.step (.compare raw a b w)

/-! ## Parts -/

/-- A call of the library does not touch the registry, and its time adds up. -/
theorem callLibrary_kept {α : Type} {op : Operation}
    {f : ω → Except Cause α × ω} (hf : ∀ w, Passes w (f w).2)
    (h : Kept held k d (i.world, i.registry)) :
    (callLibrary op f).Ensures i ev
      (fun r j _ => j.registry = i.registry ∧
        Kept held (k + 1) (d + r.2.nanos) (j.world, j.registry))
      (fun e j _ => j.registry = i.registry ∧
        (e.Foreign ∧ ∀ r, e ≠ .registry r) ∧ Kept held k d (j.world, j.registry))
      (fun _ _ _ => False) := by
  refine callLibrary_ensures ?_ ?_
  · intro a w hw
    have hcall := hf (Host.now i.world).2
    rw [hw] at hcall
    exact ⟨rfl, h.spent.elapsed (.step hcall (.refl w)), h.consistent⟩
  · intro cause w hw
    have hcall := hf (Host.now i.world).2
    rw [hw] at hcall
    exact ⟨rfl, ⟨trivial, fun r hr => nomatch hr⟩, h.now.passes hcall⟩

/-- The times that library calls took can only be too long for a duration if
    the clock jumps. -/
theorem addTimes_kept {a b : Duration}
    (h : Kept held k (a.nanos + b.nanos) (i.world, i.registry)) (hk : k ≤ 3) :
    (addTimes a b : Call (Interceptor ω τ) ε Duration).Ensures i ev
      (fun sum j _ => sum.nanos = a.nanos + b.nanos ∧ j = i)
      (fun _ _ _ => False) (fun _ j _ => j = i ∧ ¬ SteadyClock ω) := by
  rw [ensures_addTimes, Duration.add?]
  by_cases hle : a.nanos + b.nanos ≤ Duration.limit
  · rw [dif_pos hle]
    exact ⟨rfl, rfl⟩
  · rw [dif_neg hle]
    exact ⟨rfl, fun hs => hle (h.spent.le_limit hs hk)⟩

/-- Charged work on the registry, from a contract of its own. -/
theorem charged_kept {α : Type} {charge : Charge}
    {work : Call (ω × Registry τ Empty) ε α}
    {V : α → Registry τ Empty → Prop} {E : ε → Registry τ Empty → Prop}
    {F : Fault → Registry τ Empty → Prop}
    (hwork : work.Ensures ((Host.now i.world).2, i.registry) ev
      (fun a s _ => Spent k d s.1 ∧ V a s.2) (fun e s _ => Spent k d s.1 ∧ E e s.2)
      (fun f s _ => F f s.2)) :
    (charged charge work).Ensures i ev
      (fun a j _ => Spent k d j.world ∧ V a j.registry)
      (fun e j _ => Spent k d j.world ∧ E e j.registry)
      (fun f j _ => F f j.registry) :=
  charged_ensures
    (V := fun a s _ => Spent k d s.1 ∧ V a s.2)
    (E := fun e s _ => Spent k d s.1 ∧ E e s.2)
    (F := fun f s _ => F f s.2)
    (fun _ w _ _ h => ⟨h.1.step (.now w), h.2⟩)
    (fun _ w _ _ h => ⟨h.1.step (.now w), h.2⟩) hwork

omit [Library ω η τ] in
/-- Charged work of which only the registry matters. -/
theorem charged_registry {α : Type} {charge : Charge}
    {work : Call (ω × Registry τ Empty) ε α}
    {V : α → Registry τ Empty → Prop} {E : ε → Registry τ Empty → Prop}
    {F : Fault → Registry τ Empty → Prop}
    (hwork : work.Ensures ((Host.now i.world).2, i.registry) ev
      (fun a s _ => V a s.2) (fun e s _ => E e s.2) (fun f s _ => F f s.2)) :
    (charged charge work).Ensures i ev (fun a j _ => V a j.registry)
      (fun e j _ => E e j.registry) (fun f j _ => F f j.registry) :=
  charged_ensures (V := fun a s _ => V a s.2) (E := fun e s _ => E e s.2)
    (F := fun f s _ => F f s.2) (fun _ _ _ _ h => h) (fun _ _ _ _ h => h) hwork

/-- The end of an operation does not touch the registry. -/
theorem finish_kept {memory : Memory} {op : Operation} {timer : Timer}
    {library : Duration} :
    (finish memory op timer library : Call (Interceptor ω τ) ε Unit).Ensures i ev
      (fun _ j _ => j.registry = i.registry) (fun _ _ _ => False)
      (fun _ _ _ => False) :=
  finish_ensures (V := fun s _ => s.2 = i.registry) (fun _ _ _ h => h)
    (fun _ _ _ h => h) rfl

/-- An operation ends with the registry as its work left it. -/
theorem finish_pure_kept {α : Type} {memory : Memory} {op : Operation}
    {timer : Timer} {library : Duration} {a : α} {refs : α → Multiset Reference}
    {E : ε → Interceptor ω τ → List Event → Prop}
    {F : Fault → Interceptor ω τ → List Event → Prop}
    (h : i.registry.Consistent (refs a)) :
    (finish memory op timer library >>= fun _ => pure a :
      Call (Interceptor ω τ) ε α).Ensures i ev
      (fun b j _ => j.registry.Consistent (refs b)) E F := by
  rw [Call.ensures_bind]
  refine finish_kept.mono ?_ (fun _ _ _ h => h.elim) fun _ _ _ h => h.elim
  intro _ j _ hreg
  rw [Call.ensures_pure, hreg]
  exact h

omit [Library ω η τ] in
/-- Charged work that gives references back, from a contract of its own. -/
theorem charged_release {α : Type} {charge : Charge}
    {work : Call (Registry τ Empty) ε α}
    (hwork : work.Ensures i.registry ev
      (fun _ reg ev' => ev' = ev ∧ reg.Consistent held)
      (fun _ _ _ => False) fun _ _ _ => False) :
    (charged charge (Registry.alone work) :
      Call (Interceptor ω τ) ε α).Ensures i ev
      (fun _ j _ => j.registry.Consistent held)
      (fun _ _ _ => False) (fun _ _ _ => False) := by
  refine charged_registry (V := fun _ reg => reg.Consistent held)
    (E := fun _ _ => False) (F := fun _ _ => False) ?_
  rw [Registry.ensures_alone]
  exact hwork.mono (fun _ _ _ h => h.2) (fun _ _ _ h => h) fun _ _ _ h => h

/-- Giving references back may be all that an operation does. -/
theorem release_kept {α β : Type} {charge : Charge}
    {work : Call (Registry τ Empty) ε α} {memory : Memory} {op : Operation}
    {timer : Timer} {library : Duration} {f : α → β}
    {E : ε → Interceptor ω τ → List Event → Prop}
    {F : Fault → Interceptor ω τ → List Event → Prop}
    (hwork : work.Ensures i.registry ev
      (fun _ reg ev' => ev' = ev ∧ reg.Consistent held)
      (fun _ _ _ => False) fun _ _ _ => False) :
    (charged charge (Registry.alone work) >>= fun a =>
      finish memory op timer library >>= fun _ => pure (f a) :
      Call (Interceptor ω τ) ε β).Ensures i ev
      (fun _ j _ => j.registry.Consistent held) E F := by
  rw [Call.ensures_bind]
  refine (charged_release hwork).mono ?_ (fun _ _ _ h => h.elim)
    fun _ _ _ h => h.elim
  exact fun a j _ hj => finish_pure_kept hj

omit [Host ω] in
theorem discard_kept {kind : Kind} {raw : η} :
    (discard kind raw : Call (Interceptor ω τ) ε Unit).Ensures i ev
      (fun _ j _ => j.registry = i.registry) (fun _ _ _ => False)
      (fun _ _ _ => False) :=
  (discard_ensures (V := fun _ _ => True) (fun _ _ => trivial)
    fun _ _ _ => trivial).mono (fun _ _ _ h => h.2) (fun _ _ _ h => h)
    fun _ _ _ h => h

omit [Host ω] in
theorem discardContainer_kept {raw : η} :
    (discardContainer raw : Call (Interceptor ω τ) ε Unit).Ensures i ev
      (fun _ j _ => j.registry = i.registry) (fun _ _ _ => False)
      (fun _ _ _ => False) :=
  (discardContainer_ensures (V := fun _ _ => True) (fun _ _ => trivial)
    fun _ _ _ => trivial).mono (fun _ _ _ h => h.2) (fun _ _ _ h => h)
    fun _ _ _ h => h

/-! ## Files -/

theorem registerContainer_kept (memory : Memory) (op : Operation)
    (name : String) (raw : η) {before : Duration}
    (h : Kept held 1 before.nanos (i.world, i.registry)) :
    (registerContainer memory op name raw before).Ensures i ev
      (fun r j _ => j.registry.Consistent (.opened r.1 ::ₘ held))
      (fun e j _ => j.registry = i.registry ∧ e.Foreign)
      (fun _ j _ => j.registry = i.registry ∧ ¬ SteadyClock ω) := by
  rw [registerContainer, Call.ensures_bind]
  refine (callLibrary_kept (fun w => .containerId raw w) h).mono ?_ ?_
    fun _ _ _ h => h.elim
  · rintro ⟨id, elapsed⟩ j _ ⟨hreg, hj⟩
    rw [Call.ensures_bind]
    refine (addTimes_kept hj (by decide)).mono ?_ (fun _ _ _ h => h.elim)
      fun _ _ _ ⟨hj', hs⟩ => ⟨hj' ▸ hreg, hs⟩
    rintro library _ _ ⟨-, rfl⟩
    rw [Call.ensures_bind]
    refine (charged_registry
      (V := fun _ reg => reg.Consistent (.opened id ::ₘ held))
      (E := fun e reg => reg = i.registry ∧ e.Foreign)
      (F := fun _ _ => False) ?_).mono ?_ (fun _ _ _ h => h)
      fun _ _ _ h => h.elim
    · rw [Call.ensures_mapError, Registry.ensures_alone]
      exact (Registry.openContainer_ensures memory (some name)
        hj.consistent).mono (fun _ reg' _ h => h.2)
        (fun e reg' _ h => ⟨h.2.1.trans hreg, h.2.2.1⟩) fun _ _ _ h => h
    · intro c j' _ hc
      rw [Call.ensures_pure]
      exact hc
  · exact fun e j _ he => ⟨he.1, he.2.1.1⟩

theorem openFile_kept (memory : Memory) (access : Access) (name : String)
    (h : i.registry.Consistent held) :
    (openFile memory access name).Ensures i ev
      (fun p j _ => j.registry.Consistent (p.target.reference ::ₘ held))
      (fun e j _ => j.registry = i.registry ∧ e.Foreign)
      (fun _ j _ => j.registry = i.registry ∧ ¬ SteadyClock ω) := by
  rw [openFile]
  dsimp only
  rw [Call.ensures_bind, ensures_startTimer, Call.ensures_bind]
  refine (callLibrary_kept (fun w => .container access name w)
    (Kept.start h).now).mono ?_ ?_ fun _ _ _ h => h.elim
  · rintro ⟨raw, elapsed⟩ j ev' ⟨hreg, hj⟩
    simp only [Nat.zero_add] at hj
    rw [Call.ensures_bind, Call.ensures_onError]
    refine (registerContainer_kept memory _ name raw hj).mono ?_ ?_
      fun _ _ _ ⟨hreg', hs⟩ => ⟨hreg'.trans hreg, hs⟩
    · rintro ⟨id, library⟩ j' _ hopen
      rw [Call.ensures_bind]
      refine finish_kept.mono ?_ (fun _ _ _ h => h.elim) fun _ _ _ h => h.elim
      intro _ j'' _ hreg'
      rw [Call.ensures_bind, Call.ensures_state, Call.ensures_pure, hreg']
      exact hopen
    · -- the container could not be registered: its handle is closed again
      rintro e j' _ ⟨hreg', he⟩
      refine discardContainer_kept.mono ?_ (fun _ _ _ h => h.elim)
        fun _ _ _ h => h.elim
      exact fun _ j'' _ hreg'' => ⟨hreg''.trans (hreg'.trans hreg), he⟩
  · exact fun e j _ he => ⟨he.1, he.2.1.1⟩

/-- A file proxy that is held can be closed as far as its registry goes. -/
theorem closeFile_kept (memory : Memory) (proxy : Proxy η)
    (h : i.registry.Consistent (proxy.target.reference ::ₘ held)) :
    (closeFile memory proxy).Ensures i ev
      (fun _ j _ => j.registry.Consistent held)
      (fun e j _ => j.registry = i.registry ∧ ∀ r, e.error ≠ .registry r)
      (fun _ _ _ => False) := by
  rw [closeFile]
  cases htarget : proxy.target with
  | object node =>
      dsimp only
      rw [Call.ensures_fail]
      exact ⟨rfl, fun r hr => nomatch hr⟩
  | container id =>
      rw [htarget] at h
      dsimp only
      rw [Call.ensures_bind, ensures_startTimer, Call.ensures_bind]
      refine releaseHandle_ensures ?_ ?_
      · intro w _
        exact release_kept (Registry.closeContainer_ensures _ (Or.inl rfl)
          h.toBalanced fun hget => h.occupied hget)
      · exact fun cause w _ => ⟨rfl, fun r hr => nomatch hr⟩

omit [Library ω η τ] in
/-- The container of a proxy that is held can be pinned. -/
theorem pin_kept (memory : Memory) (proxy : Proxy η)
    (h : i.registry.Consistent held) (hproxy : proxy.target.reference ∈ held) :
    (pin memory proxy).Ensures i ev
      (fun context j _ =>
        j.registry.Consistent (.pinned context.container ::ₘ held))
      (fun _ _ _ => False) (fun _ _ _ => False) := by
  obtain ⟨c, hget⟩ := h.present _ hproxy
  rw [Target.container_reference] at hget
  rw [pin, Call.ensures_bind, ensures_startTimer, Call.ensures_bind]
  refine (charged_registry
    (V := fun _ reg => reg.Consistent (.pinned proxy.target.containerId ::ₘ held))
    (E := fun _ _ => False) (F := fun _ _ => False) ?_).mono ?_
    (fun _ _ _ h => h.elim) fun _ _ _ h => h
  · rw [Call.ensures_mapError, Registry.ensures_alone]
    refine (Registry.pinContainer_ensures h).mono (fun _ _ _ h => h.2) ?_
      fun _ _ _ h => h
    intro e reg' _ ⟨_, _, hnone⟩
    rw [hget] at hnone
    cases hnone
  · exact fun n j _ hj => finish_pure_kept hj

theorem unpin_kept (memory : Memory) (context : WrapContext)
    (h : i.registry.Consistent (.pinned context.container ::ₘ held)) :
    (unpin memory context : Call (Interceptor ω τ) ε Nat).Ensures i ev
      (fun _ j _ => j.registry.Consistent held)
      (fun _ _ _ => False) (fun _ _ _ => False) := by
  rw [unpin, Call.ensures_bind, ensures_startTimer]
  exact release_kept (Registry.closeContainer_ensures _ (Or.inr rfl)
    h.toBalanced fun hget => h.occupied hget)

/-! ## Setting up an object -/

theorem trackObject_kept (memory : Memory) {home : ContainerId}
    (info : ObjectInfo τ) (kind : Kind) (name : Option String) (raw : η)
    (h : Kept held k d (i.world, i.registry))
    (hhome : ∃ c, i.registry.container? home = some c) :
    (trackObject memory home info kind name raw).Ensures i ev
      (fun node j _ => Kept (.tracked node ::ₘ held) k d (j.world, j.registry) ∧
        node.kind = kind)
      (fun e j _ => j.registry = i.registry ∧ e.Foreign)
      (fun f j _ => j.registry = i.registry ∧ Identity.Faults ω f) := by
  obtain ⟨c, hget⟩ := hhome
  rw [trackObject]
  refine (charged_kept (k := k) (d := d)
    (V := fun node reg => reg.Consistent (.tracked node ::ₘ held) ∧
      node.kind = kind)
    (E := fun e reg => reg = i.registry ∧ e.Foreign)
    (F := fun f reg => reg = i.registry ∧ Identity.Faults ω f) ?_).mono ?_ ?_
    fun _ _ _ h => h
  · rw [Call.ensures_mapError]
    refine (Registry.trackIn_ensures keeps_spent memory home info.container kind
      info.token name raw h.consistent h.now.spent).mono ?_ ?_ ?_
    · exact fun node s _ ⟨hw, hnode, hreg⟩ => ⟨hw, hreg, hnode.2⟩
    · rintro e s _ ⟨hw, hreg, he | ⟨-, hnone⟩⟩
      · exact ⟨hw, hreg, he⟩
      · -- the container it is sought from is open
        rw [hget] at hnone
        cases hnone
    · exact fun f s _ ⟨_, hreg, hf⟩ => ⟨hreg, hf⟩
  · exact fun node j _ ⟨hw, hreg, hkind⟩ => ⟨⟨hw, hreg⟩, hkind⟩
  · exact fun e j _ he => he.2

omit [Library ω η τ] [Host ω] in
/-- Only the memory for a shape may be missing. -/
theorem recordAtNode_ensures {reg : Registry τ Empty} (memory : Memory)
    {node : NodeHandle} (shape : Option DatasetShape)
    {count : Call (Registry τ Empty) RegistryError Nat}
    (h : reg.Consistent held) (hnode : .tracked node ∈ held)
    (hcount : node.kind = .datatype → count.Ensures reg ev
      (fun _ reg' _ => reg'.Consistent held) (fun _ _ _ => False)
      (fun _ _ _ => False)) :
    (recordAtNode memory node shape count).Ensures reg ev
      (fun _ reg' _ => reg'.Consistent held)
      (fun e reg' _ => reg'.Consistent held ∧
        e = .outOfMemory Purpose.datasetDimensions.text)
      (fun _ _ _ => False) := by
  -- groups and attributes count the same
  have hop : node.kind = .group ∨ node.kind = .attr →
      (do
        let _ ← Registry.recordOp node
        pure () : Call (Registry τ Empty) RegistryError Unit).Ensures reg ev
        (fun _ reg' _ => reg'.Consistent held)
        (fun e reg' _ => reg'.Consistent held ∧
        e = .outOfMemory Purpose.datasetDimensions.text)
        (fun _ _ _ => False) := by
    intro hkind
    rw [Call.ensures_bind]
    simp only [Call.ensures_pure]
    refine (Registry.recordOp_ensures h hnode).mono (fun _ _ _ h => h.2) ?_
      fun _ _ _ h => h
    exact fun e _ _ he => absurd hkind he.2.2
  cases hkind : node.kind with
  | dataset =>
      cases shape with
      | none =>
          simp only [recordAtNode, hkind]
          rw [Call.ensures_pure]
          exact h
      | some s =>
          simp only [recordAtNode, hkind]
          refine (Registry.setDatasetShape_ensures memory s.typeSize
            s.dimensions h hnode).mono (fun _ _ _ h => h.2) ?_ fun _ _ _ h => h
          rintro e _ _ ⟨-, rfl, he⟩
          exact ⟨h, he hkind⟩
  | datatype =>
      simp only [recordAtNode, hkind]
      rw [Call.ensures_bind]
      simp only [Call.ensures_pure]
      exact (hcount hkind).mono (fun _ _ _ h => h) (fun _ _ _ h => h.elim)
        fun _ _ _ h => h
  | group =>
      simp only [recordAtNode, hkind]
      exact hop (Or.inl hkind)
  | attr =>
      simp only [recordAtNode, hkind]
      exact hop (Or.inr hkind)

omit [Library ω η τ] [Host ω] in
/-- An access can be recorded at a node that is tracked, if there is memory for
    its shape. -/
theorem recordAccess_ensures {reg : Registry τ Empty} (memory : Memory)
    {node : NodeHandle} (access : Access) (shape : Option DatasetShape)
    (h : reg.Consistent held) (hnode : .tracked node ∈ held) :
    (recordAccess memory node access shape).Ensures reg ev
      (fun _ reg' _ => reg'.Consistent held)
      (fun e reg' _ => reg'.Consistent held ∧
        e = .outOfMemory Purpose.datasetDimensions.text)
      (fun _ _ _ => False) := by
  obtain ⟨c, hget⟩ : ∃ c, reg.container? node.container = some c :=
    h.present _ hnode
  cases access with
  | created =>
      rw [recordAccess_created, Call.ensures_bind]
      refine (Registry.recordCreated_ensures h).mono ?_ ?_ fun _ _ _ h => h
      · intro _ reg' ev' ⟨_, h'⟩
        refine recordAtNode_ensures memory shape h' hnode fun hkind => ?_
        exact (Registry.recordCommit_ensures h' hnode).mono (fun _ _ _ h => h.2)
          (fun _ _ _ he => he.2.2 hkind) fun _ _ _ h => h
      · intro e reg' _ ⟨_, _, hnone⟩
        rw [hget] at hnone
        cases hnone
  | opened =>
      rw [recordAccess_opened, Call.ensures_bind]
      refine (Registry.recordAccessed_ensures h).mono ?_ ?_ fun _ _ _ h => h
      · intro _ reg' ev' ⟨_, h'⟩
        refine recordAtNode_ensures memory shape h' hnode fun hkind => ?_
        exact (Registry.recordGet_ensures h' hnode).mono (fun _ _ _ h => h.2)
          (fun _ _ _ he => he.2.2 hkind) fun _ _ _ h => h
      · intro e reg' _ ⟨_, _, hnone⟩
        rw [hget] at hnone
        cases hnone

theorem askShape_kept (op : Operation) (kind : Kind) (raw : η)
    (h : Kept held k d (i.world, i.registry)) :
    (askShape op kind raw).Ensures i ev
      (fun r j _ => Kept held (k + 1) (d + r.2.nanos) (j.world, j.registry))
      (fun e j _ => Kept held k d (j.world, j.registry) ∧ e.Foreign)
      (fun _ _ _ => False) := by
  -- only of a dataset is the library asked
  have hnone : (pure (none, .zero) : Call (Interceptor ω τ) InterceptError
      (Option DatasetShape × Duration)).Ensures i ev
      (fun r j _ => Kept held (k + 1) (d + r.2.nanos) (j.world, j.registry))
      (fun e j _ => Kept held k d (j.world, j.registry) ∧ e.Foreign)
      (fun _ _ _ => False) := by
    rw [Call.ensures_pure]
    exact ⟨h.spent.mono, h.consistent⟩
  cases kind with
  | dataset =>
      rw [askShape, Call.ensures_bind]
      refine (callLibrary_kept (fun w => .datasetShape raw w) h).mono ?_ ?_
        fun _ _ _ h => h
      · intro r j _ ⟨_, hj⟩
        rw [Call.ensures_pure]
        exact hj
      · exact fun e j _ he => ⟨he.2.2, he.2.1.1⟩
  | group => exact hnone
  | datatype => exact hnone
  | attr => exact hnone

theorem describeObject_kept (memory : Memory) (op : Operation)
    {node : NodeHandle} (access : Access) (raw : η)
    (h : Kept held k d (i.world, i.registry)) (hnode : .tracked node ∈ held) :
    (describeObject memory op node access raw).Ensures i ev
      (fun elapsed j _ =>
        Kept held (k + 1) (d + elapsed.nanos) (j.world, j.registry))
      (fun e j _ => j.registry.Consistent held ∧ e.Foreign)
      (fun _ _ _ => False) := by
  rw [describeObject, Call.ensures_bind]
  refine (askShape_kept op node.kind raw h).mono ?_ ?_ fun _ _ _ h => h
  · rintro ⟨shape, elapsed⟩ j _ hj
    rw [Call.ensures_bind]
    refine (charged_kept (k := k + 1) (d := d + elapsed.nanos)
      (V := fun _ reg => reg.Consistent held)
      (E := fun e reg => reg.Consistent held ∧ e.Foreign)
      (F := fun _ _ => False) ?_).mono ?_ ?_ fun _ _ _ h => h
    · rw [Call.ensures_mapError, Registry.ensures_alone]
      refine (recordAccess_ensures memory access shape hj.consistent hnode).mono
        (fun _ _ _ h => ⟨hj.now.spent, h⟩) ?_ fun _ _ _ h => h
      rintro e reg' _ ⟨hreg, rfl⟩
      exact ⟨hj.now.spent, hreg, trivial⟩
    · intro _ j' _ hj'
      rw [Call.ensures_pure]
      exact ⟨hj'.1, hj'.2⟩
    · exact fun e j' _ he => he.2
  · exact fun e j _ he => ⟨he.1.consistent, he.2⟩

theorem undoTracking_kept {kind : Kind} {node : NodeHandle} {raw : η}
    (h : i.registry.Consistent (.tracked node ::ₘ held)) :
    (undoTracking kind node raw : Call (Interceptor ω τ) ε Unit).Ensures i ev
      (fun _ j _ => j.registry.Consistent held) (fun _ _ _ => False)
      (fun _ _ _ => False) := by
  rw [undoTracking, Call.ensures_bind]
  refine (charged_release (Registry.untrack_ensures h)).mono ?_
    (fun _ _ _ h => h) fun _ _ _ h => h
  intro _ j _ hj
  refine discard_kept.mono ?_ (fun _ _ _ h => h) fun _ _ _ h => h
  intro _ j' _ hreg
  rw [hreg]
  exact hj

/-! ## Objects -/

theorem openObject_kept (memory : Memory) (access : Access) (parent : Proxy η)
    (kind : Kind) (name : String) (h : i.registry.Consistent held)
    (hparent : parent.target.reference ∈ held) :
    (openObject memory access parent kind name).Ensures i ev
      (fun p j _ => j.registry.Consistent (p.target.reference ::ₘ held))
      (fun e j _ => j.registry.Consistent held ∧ e.Foreign)
      (fun f j _ => Halted ω held f j.registry) := by
  obtain ⟨c, hget⟩ := h.present _ hparent
  rw [Target.container_reference] at hget
  rw [openObject]
  dsimp only
  rw [Call.ensures_bind, ensures_startTimer, Call.ensures_bind]
  refine (callLibrary_kept (fun w => .object access parent.handle kind name w)
    (Kept.start h).now).mono ?_ ?_ fun _ _ _ h => h.elim
  · rintro ⟨raw, opening⟩ j _ ⟨hreg, hj⟩
    simp only [Nat.zero_add] at hj
    rw [Call.ensures_bind, Call.ensures_onError]
    refine (callLibrary_kept (fun w => .objectInfo raw kind w) hj).mono ?_ ?_
      fun _ _ _ h => h.elim
    · rintro ⟨info, asking⟩ j₁ _ ⟨hreg₁, hj₁⟩
      rw [Call.ensures_bind]
      refine (addTimes_kept hj₁ (by decide)).mono ?_ (fun _ _ _ h => h.elim)
        fun _ _ _ ⟨hj', hs⟩ => hj' ▸ halted_of_jump 0
          ((Multiset.zero_add held).symm ▸ hj₁.consistent) hs
      rintro library _ _ ⟨hlibrary, rfl⟩
      rw [← hlibrary] at hj₁
      rw [Call.ensures_bind, Call.ensures_onError]
      refine (trackObject_kept memory info kind (some name) raw hj₁
        ⟨c, by rw [hreg₁, hreg]; exact hget⟩).mono ?_ ?_ ?_
      · intro node j₂ _ ⟨hj₂, hkind⟩
        rw [Call.ensures_bind, Call.ensures_onError]
        refine (describeObject_kept memory _ access raw hj₂
          (Multiset.mem_cons_self _ held)).mono ?_ ?_ fun _ _ _ h => h.elim
        · intro describing j₃ _ hj₃
          rw [Call.ensures_bind]
          -- if the clock jumped, the node stays behind
          refine (addTimes_kept hj₃ (by decide)).mono ?_ (fun _ _ _ h => h.elim)
            fun _ _ _ ⟨hj', hs⟩ => hj' ▸ halted_of_jump {.tracked node}
              ((Multiset.singleton_add _ held).symm ▸ hj₃.consistent) hs
          rintro total _ _ ⟨-, rfl⟩
          rw [Call.ensures_bind]
          refine finish_kept.mono ?_ (fun _ _ _ h => h.elim)
            fun _ _ _ h => h.elim
          intro _ j₄ _ hreg₄
          rw [Call.ensures_bind, Call.ensures_state, Call.ensures_pure, hreg₄]
          exact hj₃.consistent
        · -- the node is there, but could not be described: it is given back
          intro e j₃ _ ⟨hj₃, he⟩
          exact (undoTracking_kept hj₃).mono (fun _ _ _ h => ⟨h, he⟩)
            (fun _ _ _ h => h.elim) fun _ _ _ h => h.elim
      · -- it is not tracked, and its handle is closed again
        rintro e j₂ _ ⟨hreg₂, he⟩
        refine discard_kept.mono ?_ (fun _ _ _ h => h.elim)
          fun _ _ _ h => h.elim
        intro _ j₃ _ hreg₃
        rw [hreg₃, hreg₂]
        exact ⟨hj₁.consistent, he⟩
      · intro f j₂ _ ⟨hreg₂, hf⟩
        rw [hreg₂]
        exact halted_of_faults hj₁.consistent hf
    · -- nothing is known of the object: its handle is closed again
      rintro e j₁ _ ⟨hreg₁, ⟨he, _⟩, _⟩
      refine discard_kept.mono ?_ (fun _ _ _ h => h.elim) fun _ _ _ h => h.elim
      intro _ j₂ _ hreg₂
      rw [hreg₂, hreg₁, hreg]
      exact ⟨h, he⟩
  · intro e j _ ⟨hreg, ⟨he, _⟩, _⟩
    rw [hreg]
    exact ⟨h, he⟩

theorem wrapUnder_kept (memory : Memory) (op : Operation) (home : WrapContext)
    (raw : η) (kind : Kind) (name : Option String)
    (h : i.registry.Consistent held)
    (hhome : ∃ c, i.registry.container? home.container = some c) :
    (wrapUnder memory op home raw kind name).Ensures i ev
      (fun p j _ => j.registry.Consistent (p.target.reference ::ₘ held))
      (fun e j _ => j.registry = i.registry ∧ e.Foreign)
      (fun f j _ => j.registry = i.registry ∧ Identity.Faults ω f) := by
  obtain ⟨c, hget⟩ := hhome
  rw [wrapUnder, Call.ensures_bind, ensures_startTimer, Call.ensures_bind,
    Call.ensures_onError]
  refine (callLibrary_kept (fun w => .objectInfo raw kind w)
    (Kept.start h).now).mono ?_ ?_ fun _ _ _ h => h.elim
  · rintro ⟨info, library⟩ j _ ⟨hreg, hj⟩
    rw [Call.ensures_bind, Call.ensures_onError]
    refine (trackObject_kept memory info kind name raw hj
      ⟨c, by rw [hreg]; exact hget⟩).mono ?_ ?_ ?_
    · exact fun node j₁ _ ⟨hj₁, _⟩ => finish_pure_kept hj₁.consistent
    · -- it is not tracked, the handle is closed and nothing else was done
      intro e j₁ _ ⟨hreg₁, he⟩
      refine discard_kept.mono ?_ (fun _ _ _ h => h.elim) fun _ _ _ h => h.elim
      exact fun _ j₂ _ hreg₂ => ⟨hreg₂.trans (hreg₁.trans hreg), he⟩
    · exact fun f j₁ _ ⟨hreg₁, hf⟩ => ⟨hreg₁.trans hreg, hf⟩
  · intro e j _ ⟨hreg, ⟨he, _⟩, _⟩
    refine discard_kept.mono ?_ (fun _ _ _ h => h.elim) fun _ _ _ h => h.elim
    exact fun _ j₁ _ hreg₁ => ⟨hreg₁.trans hreg, he⟩

/-- An object proxy that is held can be closed as far as its registry goes. -/
theorem closeObject_kept (memory : Memory) (proxy : Proxy η)
    (h : i.registry.Consistent (proxy.target.reference ::ₘ held)) :
    (closeObject memory proxy).Ensures i ev
      (fun _ j _ => j.registry.Consistent held)
      (fun e j _ => j.registry = i.registry ∧ ∀ r, e.error ≠ .registry r)
      (fun _ _ _ => False) := by
  rw [closeObject]
  cases htarget : proxy.target with
  | container id =>
      dsimp only
      rw [Call.ensures_fail]
      exact ⟨rfl, fun r hr => nomatch hr⟩
  | object node =>
      rw [htarget] at h
      dsimp only
      rw [Call.ensures_bind, ensures_startTimer, Call.ensures_bind]
      refine releaseHandle_ensures ?_ ?_
      · intro w _
        exact release_kept (Registry.untrack_ensures h)
      · exact fun cause w _ => ⟨rfl, fun r hr => nomatch hr⟩

omit [Library ω η τ] in
theorem unwrapObject_kept (memory : Memory) (proxy : Proxy η)
    (h : i.registry.Consistent (proxy.target.reference ::ₘ held)) :
    (unwrapObject memory proxy).Ensures i ev
      (fun _ j _ => j.registry.Consistent held)
      (fun e j _ => j.registry = i.registry ∧ ∀ r, e ≠ .registry r)
      (fun _ _ _ => False) := by
  rw [unwrapObject]
  cases htarget : proxy.target with
  | container id =>
      dsimp only
      rw [Call.ensures_fail]
      exact ⟨rfl, fun r hr => nomatch hr⟩
  | object node =>
      rw [htarget] at h
      dsimp only
      rw [Call.ensures_bind, ensures_startTimer]
      exact release_kept (Registry.untrack_ensures h)

/-! ## Transfers -/

omit [Library ω η τ] [Host ω] in
theorem datasetNode_cases (op : Operation) (proxy : Proxy η) :
    (∃ node, proxy.target = .object node ∧ node.kind = .dataset ∧
      datasetNode op proxy = .ok node) ∨
    datasetNode op proxy = .error (.wrongProxy op.name "dataset") := by
  rw [datasetNode]
  cases htarget : proxy.target with
  | container id => exact Or.inr rfl
  | object node =>
      dsimp only
      by_cases hkind : node.kind = .dataset
      · exact Or.inl ⟨node, rfl, hkind, if_pos hkind⟩
      · exact Or.inr (if_neg hkind)

theorem transfer_kept (memory : Memory) (op : Operation) (proxy : Proxy η)
    {move : ω → Except Cause Unit × ω}
    {record : NodeHandle → Duration → Call (Registry τ Empty) RegistryError Nat}
    (hmove : ∀ w, Passes w (move w).2)
    (hrecord : ∀ {node elapsed ev} {reg : Registry τ Empty},
      node.kind = .dataset → .tracked node ∈ held → reg.Consistent held →
      (record node elapsed).Ensures reg ev
        (fun _ reg' _ => reg'.Consistent held) (fun _ _ _ => False)
        (fun _ _ _ => False))
    (h : i.registry.Consistent held) (hproxy : proxy.target.reference ∈ held) :
    (transfer memory op proxy move record).Ensures i ev
      (fun _ j _ => j.registry.Consistent held)
      (fun e j _ => j.registry = i.registry ∧ ∀ r, e ≠ .registry r)
      (fun _ _ _ => False) := by
  rw [transfer, Call.ensures_bind, Call.ensures_ofExcept]
  rcases datasetNode_cases op proxy with ⟨node, htarget, hkind, hnode⟩ | hnode
  · rw [htarget] at hproxy
    rw [hnode]
    dsimp only
    rw [Call.ensures_bind, ensures_startTimer, Call.ensures_bind]
    refine (callLibrary_kept hmove (Kept.start h).now).mono ?_ ?_
      fun _ _ _ h => h
    · rintro ⟨⟨⟩, library⟩ j _ ⟨hreg, hj⟩
      dsimp only
      rw [Call.ensures_bind]
      refine (charged_registry (V := fun _ reg => reg.Consistent held)
        (E := fun _ _ => False) (F := fun _ _ => False) ?_).mono ?_
        (fun _ _ _ h => h.elim) fun _ _ _ h => h
      · rw [Call.ensures_mapError, Registry.ensures_alone]
        exact hrecord hkind hproxy hj.consistent
      · exact fun bytes j' _ hj' => finish_pure_kept hj'
    · exact fun e j _ he => ⟨he.1, he.2.1.2⟩
  · rw [hnode]
    exact ⟨rfl, fun r hr => nomatch hr⟩

/-- A dataset that is held can be read; only the library may refuse. -/
theorem readDataset_kept (memory : Memory) (proxy : Proxy η)
    (selected : Option Nat) (h : i.registry.Consistent held)
    (hproxy : proxy.target.reference ∈ held) :
    (readDataset memory proxy selected).Ensures i ev
      (fun _ j _ => j.registry.Consistent held)
      (fun e j _ => j.registry = i.registry ∧ ∀ r, e ≠ .registry r)
      (fun _ _ _ => False) := by
  refine transfer_kept memory _ proxy
    (fun w => .readDataset proxy.handle selected w) ?_ h hproxy
  intro node elapsed ev reg hkind hnode hreg
  exact (Registry.recordRead_ensures selected elapsed hreg hnode).mono
    (fun _ _ _ h => h.2) (fun _ _ _ he => he.2.2 hkind) fun _ _ _ h => h

theorem writeDataset_kept (memory : Memory) (proxy : Proxy η)
    (selected : Option Nat) (h : i.registry.Consistent held)
    (hproxy : proxy.target.reference ∈ held) :
    (writeDataset memory proxy selected).Ensures i ev
      (fun _ j _ => j.registry.Consistent held)
      (fun e j _ => j.registry = i.registry ∧ ∀ r, e ≠ .registry r)
      (fun _ _ _ => False) := by
  refine transfer_kept memory _ proxy
    (fun w => .writeDataset proxy.handle selected w) ?_ h hproxy
  intro node elapsed ev reg hkind hnode hreg
  exact (Registry.recordWrite_ensures selected elapsed hreg hnode).mono
    (fun _ _ _ h => h.2) (fun _ _ _ he => he.2.2 hkind) fun _ _ _ h => h

end Interceptor

end Provenance
