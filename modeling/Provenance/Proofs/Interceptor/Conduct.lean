import Provenance.Proofs.Interceptor.Upkeep
import Provenance.Proofs.Registry.Conduct

/-! # What intercepted operations write

    An intercepted operation comes to its registry only through the operations
    of that registry.  So a condition that outlasts writes on some terms
    (`Terms.Preserve`) outlasts every operation that stays within these terms,
    however the operation ends: what counts or pins may write on any, what
    gives references back needs terms on which nodes may go.

    Operations that track an object make nodes, and are not among these. -/

namespace Provenance

namespace Registry

variable {τ : Type} {reg₀ reg reg' : Registry τ Empty}

/-- Terms that leave an operation all its freedom, as long as no two nodes of a
    list get one token. -/
def Terms.free : Terms τ :=
  ⟨(· ≠ ·), fun _ _ _ => True, fun _ => True, fun _ => True⟩

/-- Terms on which nodes come in or go are none. -/
def Terms.still : Terms τ :=
  ⟨(· ≠ ·), fun _ _ _ => False, fun _ => False, fun _ => False⟩

theorem Writes.free (h : Writes Terms.still reg reg') :
    Writes Terms.free reg reg' :=
  h.mono (fun h => h) (fun _ => trivial) (fun _ => trivial) fun _ => trivial

/-- A condition outlasts whatever is written on some terms. -/
def Terms.Preserve (t : Terms τ) (R : Registry τ Empty → Prop) : Prop :=
  ∀ ⦃reg reg'⦄, Writes t reg reg' → R reg → R reg'

theorem Terms.free_preserve (reg₀ : Registry τ Empty) :
    Terms.free.Preserve (Writes Terms.free reg₀) :=
  fun _ _ hw h => h.trans hw

theorem keeps_of_writes {α ε : Type} {t : Terms τ}
    {R : Registry τ Empty → Prop} (hR : t.Preserve R)
    {x : Call (Registry τ Empty) ε α}
    (hx : ∀ reg, Writes t reg (x reg).state) : x.Keeps fun reg _ => R reg :=
  Call.keeps_of_state fun reg h => hR (hx reg) h

theorem keeps_alone {ω α ε : Type} {R : Registry τ Empty → Prop}
    {x : Call (Registry τ Empty) ε α} (hx : x.Keeps fun reg _ => R reg) :
    (alone x : Call (ω × Registry τ Empty) ε α).Keeps fun s _ => R s.2 := by
  rintro ⟨w, reg⟩ ev h
  rw [ensures_alone]
  exact hx reg ev h

end Registry

namespace Interceptor

open Registry (Terms)

variable {ω η τ ε α β : Type} [Library ω η τ] [Host ω] {i : Interceptor ω τ}
  {ev : List Event} {R : Registry τ Empty → Prop} {t : Terms τ}

/-! ## Parts that leave the registry alone -/

omit [Library ω η τ] in
theorem startTimer_leaves :
    (startTimer : Call (Interceptor ω τ) ε Timer).Keeps
      fun i _ => R i.registry := by
  intro i ev h
  rw [ensures_startTimer]
  exact h

omit [Library ω η τ] in
theorem callLibrary_leaves (op : Operation) (f : ω → Except Cause α × ω) :
    (callLibrary op f : Call (Interceptor ω τ) InterceptError _).Keeps
      fun i _ => R i.registry := by
  intro i ev h
  exact callLibrary_ensures (fun _ _ _ => h) fun _ _ _ => h

omit [Library ω η τ] in
theorem finish_leaves (memory : Memory) (op : Operation) (timer : Timer)
    (library : Duration) :
    (finish memory op timer library : Call (Interceptor ω τ) ε Unit).Keeps
      fun i _ => R i.registry := by
  intro i ev h
  exact finish_ensures (V := fun s _ => R s.2) (fun _ _ _ h => h)
    (fun _ _ _ h => h) h

omit [Host ω] in
theorem discard_leaves (kind : Kind) (raw : η) :
    (discard kind raw : Call (Interceptor ω τ) ε Unit).Keeps
      fun i _ => R i.registry := by
  intro i ev h
  refine discard_kept.mono ?_ (fun _ _ _ h => h.elim) fun _ _ _ h => h.elim
  intro _ j _ hreg
  rw [hreg]
  exact h

omit [Host ω] in
theorem discardContainer_leaves (raw : η) :
    (discardContainer raw : Call (Interceptor ω τ) ε Unit).Keeps
      fun i _ => R i.registry := by
  intro i ev h
  refine discardContainer_kept.mono ?_ (fun _ _ _ h => h.elim)
    fun _ _ _ h => h.elim
  intro _ j _ hreg
  rw [hreg]
  exact h

omit [Library ω η τ] in
theorem releaseHandle_leaves (op : Operation) (proxy : Proxy η)
    (rejected : String → Event) (f : ω → Except Cause Unit × ω) :
    (releaseHandle op proxy rejected f :
      Call (Interceptor ω τ) (CloseError η) Duration).Keeps
        fun i _ => R i.registry := by
  intro i ev h
  exact releaseHandle_ensures (fun _ _ => h) fun _ _ _ => h

/-! ## Parts that write to the registry -/

omit [Library ω η τ] in
theorem charged_leaves {charge : Charge} {work : Call (ω × Registry τ Empty) ε α}
    (hwork : work.Keeps fun s _ => R s.2) :
    (charged charge work).Keeps fun i _ => R i.registry := by
  intro i ev h
  exact charged_registry (V := fun _ => R) (E := fun _ => R) (F := fun _ => R)
    (hwork _ ev h)

omit [Library ω η τ] in
/-- Work on the registry may be all that an operation does. -/
theorem charged_finish_leaves {charge : Charge}
    {work : Call (ω × Registry τ Empty) ε α} {memory : Memory} {op : Operation}
    {timer : Timer} {library : Duration} {f : α → β}
    (hwork : work.Keeps fun s _ => R s.2) :
    (charged charge work >>= fun a =>
      finish memory op timer library >>= fun _ => pure (f a) :
      Call (Interceptor ω τ) ε β).Keeps fun i _ => R i.registry :=
  (charged_leaves hwork).bind fun _ =>
    (finish_leaves memory op timer library).bind fun _ => Call.keeps_pure _

omit [Library ω η τ] [Host ω] in
theorem recordAccess_preserves (hR : t.Preserve R) (memory : Memory)
    (node : NodeHandle) (access : Access) (shape : Option DatasetShape) :
    (recordAccess memory node access shape :
      Call (Registry τ Empty) RegistryError Unit).Keeps fun reg _ => R reg := by
  refine recordAccess_keeps_of_parts memory access shape ?_ ?_ (fun s => ?_)
    ?_ ?_ ?_
  · exact Registry.keeps_of_writes hR fun _ => Registry.recordCreated_writes _ _
  · exact Registry.keeps_of_writes hR fun _ => Registry.recordAccessed_writes _ _
  · exact Registry.keeps_of_writes hR fun _ => Registry.onDataset_writes
  · exact Registry.keeps_of_writes hR fun _ => Registry.recordCommit_writes node
  · exact Registry.keeps_of_writes hR fun _ => Registry.recordGet_writes node
  · exact Registry.keeps_of_writes hR fun _ => Registry.recordOp_writes node

theorem askShape_leaves (op : Operation) (kind : Kind) (raw : η) :
    (askShape op kind raw : Call (Interceptor ω τ) InterceptError
      (Option DatasetShape × Duration)).Keeps fun i _ => R i.registry := by
  cases kind with
  | dataset => exact (callLibrary_leaves op _).bind fun _ => Call.keeps_pure _
  | group => exact Call.keeps_pure _
  | datatype => exact Call.keeps_pure _
  | attr => exact Call.keeps_pure _

theorem describeObject_preserves (hR : t.Preserve R) (memory : Memory)
    (op : Operation) (node : NodeHandle) (access : Access) (raw : η) :
    (describeObject memory op node access raw :
      Call (Interceptor ω τ) InterceptError Duration).Keeps
        fun i _ => R i.registry := by
  refine (askShape_leaves op node.kind raw).bind fun r => ?_
  refine (charged_leaves ?_).bind fun _ => Call.keeps_pure _
  exact (Registry.keeps_alone
    (recordAccess_preserves hR memory node access r.1)).mapError _

omit [Library ω η τ] [Host ω] in
theorem untrack_preserves (hR : Terms.free.Preserve R) (node : NodeHandle) :
    (Registry.untrack node : Call (Registry τ Empty) ε (Release Empty)).Keeps
      fun reg _ => R reg :=
  Registry.keeps_of_writes hR fun _ =>
    Registry.untrack_writes (fun _ _ _ => trivial) fun _ _ => trivial

omit [Library ω η τ] [Host ω] in
theorem closeContainer_preserves (hR : Terms.free.Preserve R) (id : ContainerId) :
    (Registry.closeContainer id :
      Call (Registry τ Empty) ε (Release Empty)).Keeps fun reg _ => R reg :=
  Registry.keeps_of_writes hR fun _ =>
    Registry.closeContainer_writes id fun _ _ => trivial

theorem undoTracking_preserves (hR : Terms.free.Preserve R) (kind : Kind)
    (node : NodeHandle) (raw : η) :
    (undoTracking kind node raw : Call (Interceptor ω τ) ε Unit).Keeps
      fun i _ => R i.registry :=
  (charged_leaves (Registry.keeps_alone (untrack_preserves hR node))).bind fun _ =>
    discard_leaves kind raw

/-! ## Operations -/

theorem registerContainer_preserves (hR : t.Preserve R) (memory : Memory)
    (op : Operation) (name : String) (raw : η) (before : Duration) :
    (registerContainer memory op name raw before :
      Call (Interceptor ω τ) InterceptError (ContainerId × Duration)).Keeps
        fun i _ => R i.registry := by
  refine (callLibrary_leaves op _).bind fun r => ?_
  refine (addTimes_keeps before r.2).bind fun library => ?_
  refine (charged_leaves ?_).bind fun _ => Call.keeps_pure _
  exact (Registry.keeps_alone (Registry.keeps_of_writes hR fun _ =>
    Registry.openContainer_writes memory r.1 (some name))).mapError _

/-- An open file is a container to its proxy. -/
theorem openFile_preserves (hR : t.Preserve R) (memory : Memory) (access : Access)
    (name : String) (h : R i.registry) :
    (openFile memory access name :
      Call (Interceptor ω τ) InterceptError (Proxy η)).Ensures i ev
      (fun p j _ => (∃ id, p.target = .container id) ∧ R j.registry)
      (fun _ j _ => R j.registry) (fun _ j _ => R j.registry) := by
  rw [openFile]
  refine startTimer_leaves.ensures_bind h (fun _ _ h => h)
    fun timer j ev hj => ?_
  refine (callLibrary_leaves _ _).ensures_bind hj (fun _ _ h => h)
    fun r j ev hj => ?_
  refine ((registerContainer_preserves hR memory _ name r.1 r.2).onError
    (discardContainer_leaves r.1)).ensures_bind hj (fun _ _ h => h)
    fun e j ev hj => ?_
  refine (finish_leaves memory _ timer e.2).ensures_bind hj (fun _ _ h => h)
    fun _ j ev hj => ?_
  rw [Call.ensures_bind, Call.ensures_state, Call.ensures_pure]
  exact ⟨⟨e.1, rfl⟩, hj⟩

/-- To close a file keeps what the release of its container keeps. -/
theorem closeFile_leaves (memory : Memory) (proxy : Proxy η)
    (hclose : ∀ {ε : Type} (id : ContainerId), (Registry.closeContainer id :
      Call (Registry τ Empty) ε (Release Empty)).Keeps fun reg _ => R reg) :
    (closeFile memory proxy :
      Call (Interceptor ω τ) (CloseError η) Nat).Keeps
        fun i _ => R i.registry := by
  rw [closeFile]
  cases proxy.target with
  | object node => exact Call.keeps_fail _
  | container id =>
      refine startTimer_leaves.bind fun timer => ?_
      refine (releaseHandle_leaves _ _ _ _).bind fun library => ?_
      exact charged_finish_leaves (Registry.keeps_alone (hclose id))

theorem closeFile_preserves (hR : Terms.free.Preserve R) (memory : Memory)
    (proxy : Proxy η) :
    (closeFile memory proxy :
      Call (Interceptor ω τ) (CloseError η) Nat).Keeps
        fun i _ => R i.registry :=
  closeFile_leaves memory proxy fun id => closeContainer_preserves hR id

omit [Library ω η τ] in
/-- To pin a container keeps what its registry keeps when it does so. -/
theorem pin_leaves (memory : Memory) (proxy : Proxy η)
    (hpin : ∀ id, (Registry.pinContainer id :
      Call (Registry τ Empty) RegistryError Nat).Keeps fun reg _ => R reg) :
    (pin memory proxy :
      Call (Interceptor ω τ) InterceptError WrapContext).Keeps
        fun i _ => R i.registry :=
  startTimer_leaves.bind fun _ => charged_finish_leaves
    ((Registry.keeps_alone (hpin _)).mapError _)

omit [Library ω η τ] in
theorem pin_preserves (hR : t.Preserve R) (memory : Memory) (proxy : Proxy η) :
    (pin memory proxy :
      Call (Interceptor ω τ) InterceptError WrapContext).Keeps
        fun i _ => R i.registry :=
  pin_leaves memory proxy fun _ => Registry.keeps_of_writes hR fun _ =>
    Registry.pinContainer_writes _

omit [Library ω η τ] in
/-- To give up a pin keeps what the release of its container keeps. -/
theorem unpin_leaves (memory : Memory) (context : WrapContext)
    (hclose : ∀ id, (Registry.closeContainer id :
      Call (Registry τ Empty) ε (Release Empty)).Keeps fun reg _ => R reg) :
    (unpin memory context : Call (Interceptor ω τ) ε Nat).Keeps
      fun i _ => R i.registry :=
  startTimer_leaves.bind fun _ => charged_finish_leaves
    (Registry.keeps_alone (hclose context.container))

omit [Library ω η τ] in
theorem unpin_preserves (hR : Terms.free.Preserve R) (memory : Memory)
    (context : WrapContext) :
    (unpin memory context : Call (Interceptor ω τ) ε Nat).Keeps
      fun i _ => R i.registry :=
  unpin_leaves memory context fun id => closeContainer_preserves hR id

omit [Library ω η τ] in
theorem transfer_preserves (hR : t.Preserve R) (memory : Memory) (op : Operation)
    (proxy : Proxy η) {move : ω → Except Cause Unit × ω}
    {record : NodeHandle → Duration → Call (Registry τ Empty) RegistryError Nat}
    (hrecord : ∀ (node : NodeHandle) (elapsed : Duration)
      (reg : Registry τ Empty),
      Registry.Writes t reg (record node elapsed reg).state) :
    (transfer memory op proxy move record).Keeps fun i _ => R i.registry := by
  refine (Call.keeps_ofExcept _).bind fun node => ?_
  refine startTimer_leaves.bind fun timer => ?_
  refine (callLibrary_leaves op _).bind fun r => charged_finish_leaves ?_
  exact (Registry.keeps_alone
    (Registry.keeps_of_writes hR (hrecord node r.2))).mapError _

/-- To close an object keeps what the release of its node keeps. -/
theorem closeObject_leaves (memory : Memory) (proxy : Proxy η)
    (huntrack : ∀ {ε : Type} (node : NodeHandle), (Registry.untrack node :
      Call (Registry τ Empty) ε (Release Empty)).Keeps fun reg _ => R reg) :
    (closeObject memory proxy :
      Call (Interceptor ω τ) (CloseError η) Nat).Keeps
        fun i _ => R i.registry := by
  rw [closeObject]
  cases proxy.target with
  | container id => exact Call.keeps_fail _
  | object node =>
      refine startTimer_leaves.bind fun timer => ?_
      refine (releaseHandle_leaves _ _ _ _).bind fun library => ?_
      exact charged_finish_leaves (Registry.keeps_alone (huntrack node))

theorem closeObject_preserves (hR : Terms.free.Preserve R) (memory : Memory)
    (proxy : Proxy η) :
    (closeObject memory proxy :
      Call (Interceptor ω τ) (CloseError η) Nat).Keeps
        fun i _ => R i.registry :=
  closeObject_leaves memory proxy fun node => untrack_preserves hR node

omit [Library ω η τ] in
/-- To unwrap an object keeps what the release of its node keeps. -/
theorem unwrapObject_leaves (memory : Memory) (proxy : Proxy η)
    (huntrack : ∀ {ε : Type} (node : NodeHandle), (Registry.untrack node :
      Call (Registry τ Empty) ε (Release Empty)).Keeps fun reg _ => R reg) :
    (unwrapObject memory proxy :
      Call (Interceptor ω τ) InterceptError η).Keeps
        fun i _ => R i.registry := by
  rw [unwrapObject]
  cases proxy.target with
  | container id => exact Call.keeps_fail _
  | object node =>
      refine startTimer_leaves.bind fun timer => ?_
      exact charged_finish_leaves (Registry.keeps_alone (huntrack node))

omit [Library ω η τ] in
theorem unwrapObject_preserves (hR : Terms.free.Preserve R) (memory : Memory)
    (proxy : Proxy η) :
    (unwrapObject memory proxy :
      Call (Interceptor ω τ) InterceptError η).Keeps
        fun i _ => R i.registry :=
  unwrapObject_leaves memory proxy fun node => untrack_preserves hR node

end Interceptor

end Provenance
