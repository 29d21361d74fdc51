import Provenance.Interceptor.Op
import Provenance.Proofs.Registry.Beside
import Provenance.Proofs.Registry.Undo

/-! # Interceptors in parallel

    An operation of an interceptor is put together from a few parts: it starts
    a timer, calls the library, works on the registry, and keeps its time at
    the end.  Where two interceptors agree part by part (`Parallel`), each
    operation of one agrees with the same operation of the other
    (`Parallel.run`).  What it is about them that agrees is left open. -/

namespace Provenance

variable {ω ω' η τ ρ ε α : Type} {seen : Event → Bool}

/-- The error has nothing to do with the statistics. -/
def InterceptError.Unmeasured (e : InterceptError) : Prop := ∀ s, e ≠ .stats s

/-- Each step of a library is related to the same step of another. -/
structure Services [Library ω η τ] [Library ω' η τ]
    (Step : ∀ α : Type, (ω → Except Cause α × ω) →
      (ω' → Except Cause α × ω') → Prop) : Prop where
  container : ∀ access name,
    Step η (Library.container access name) (Library.container access name)
  closeContainer : ∀ raw : η,
    Step Unit (Library.closeContainer raw) (Library.closeContainer raw)
  containerId : ∀ raw : η,
    Step ContainerId (Library.containerId raw) (Library.containerId raw)
  object : ∀ access (parent : η) kind name,
    Step η (Library.object access parent kind name)
      (Library.object access parent kind name)
  closeObject : ∀ (raw : η) kind,
    Step Unit (Library.closeObject raw kind) (Library.closeObject raw kind)
  objectInfo : ∀ (raw : η) kind,
    Step (ObjectInfo τ) (Library.objectInfo raw kind)
      (Library.objectInfo raw kind)
  datasetShape : ∀ raw : η,
    Step DatasetShape (Library.datasetShape raw) (Library.datasetShape raw)
  readDataset : ∀ (raw : η) selected,
    Step Unit (Library.readDataset raw selected)
      (Library.readDataset raw selected)
  writeDataset : ∀ (raw : η) selected,
    Step Unit (Library.writeDataset raw selected)
      (Library.writeDataset raw selected)

theorem Services.mono [Library ω η τ] [Library ω' η τ]
    {Step Step' : ∀ α : Type, (ω → Except Cause α × ω) →
      (ω' → Except Cause α × ω') → Prop} (h : Services Step)
    (hstep : ∀ α f g, Step α f g → Step' α f g) : Services Step' where
  container := fun access name => hstep _ _ _ (h.container access name)
  closeContainer := fun raw => hstep _ _ _ (h.closeContainer raw)
  containerId := fun raw => hstep _ _ _ (h.containerId raw)
  object := fun access parent kind name =>
    hstep _ _ _ (h.object access parent kind name)
  closeObject := fun raw kind => hstep _ _ _ (h.closeObject raw kind)
  objectInfo := fun raw kind => hstep _ _ _ (h.objectInfo raw kind)
  datasetShape := fun raw => hstep _ _ _ (h.datasetShape raw)
  readDataset := fun raw selected => hstep _ _ _ (h.readDataset raw selected)
  writeDataset := fun raw selected => hstep _ _ _ (h.writeDataset raw selected)

/-! ## The operations -/

namespace Interceptor

theorem addTimes_agree {S : Interceptor ω τ → Interceptor ω' τ → Prop}
    {E : ε → Prop} (a b : Duration) :
    (addTimes a b : Call (Interceptor ω τ) ε Duration).Agree seen S E Eq
      (addTimes a b) := by
  rw [addTimes, addTimes]
  cases a.add? b with
  | some sum => exact Call.agree_pure rfl
  | none => exact Call.agree_halt _

variable [Library ω η τ] [Host ω] [Library ω' η τ] [Host ω']

/-- The parts of an operation agree.  The interceptors are related by `S`,
    their worlds by `R`, their timers by `T`, and the steps of their libraries
    by `Step`. -/
structure Parallel (seen : Event → Bool)
    (Step : ∀ α : Type, (ω → Except Cause α × ω) →
      (ω' → Except Cause α × ω') → Prop)
    (R : ω → ω' → Prop) (S : Interceptor ω τ → Interceptor ω' τ → Prop)
    (T : Timer → Timer → Prop) : Prop extends Services Step where
  compare : Identity.Agree (η := η) (τ := τ) seen R
  connector : ∀ i j, S i j →
    Library.connector i.world = Library.connector j.world
  timer : ∀ {ε : Type} {E : ε → Prop},
    (startTimer : Call (Interceptor ω τ) ε Timer).Agree seen S E T startTimer
  call : ∀ {α : Type} (op : Operation)
    {f : ω → Except Cause α × ω} {g : ω' → Except Cause α × ω'}, Step α f g →
    (callLibrary op f).Agree seen S InterceptError.Unmeasured Eq
      (callLibrary op g)
  untimed : ∀ {α : Type}
    {f : ω → Except Cause α × ω} {g : ω' → Except Cause α × ω'}, Step α f g →
    (onWorld (Call.ofTry f)).Agree seen S (fun _ => True) Eq
      (onWorld (Call.ofTry g))
  charge : ∀ {ε α : Type} {E : ε → Prop} (charge : Charge)
    {x : Call (ω × Registry τ Empty) ε α}
    {y : Call (ω' × Registry τ Empty) ε α},
    x.Agree seen (Registry.Beside R) E Eq y →
    (charged charge x).Agree seen S E Eq (charged charge y)
  ending : ∀ {ε : Type} {E : ε → Prop} (memory : Memory) (op : Operation)
    {t t' : Timer} (library : Duration), T t t' →
    (finish memory op t library : Call (Interceptor ω τ) ε Unit).Agree seen S E
      (fun _ _ => True) (finish memory op t' library)

variable {Step : ∀ α : Type, (ω → Except Cause α × ω) →
    (ω' → Except Cause α × ω') → Prop}
  {R : ω → ω' → Prop} {S : Interceptor ω τ → Interceptor ω' τ → Prop}
  {T : Timer → Timer → Prop} (h : Parallel seen Step R S T)

include h

/-! ### Parts -/

theorem Parallel.discard_agree {E : ε → Prop} (kind : Kind) (raw : η) :
    (discard kind raw : Call (Interceptor ω τ) ε Unit).Agree seen S E Eq
      (discard kind raw) := by
  refine (h.untimed (h.closeObject raw kind)).attempt.bind fun r r' hr => ?_
  cases hr with
  | ok => exact Call.agree_pure rfl
  | error => exact Call.agree_emit _

theorem Parallel.discardContainer_agree {E : ε → Prop} (raw : η) :
    (discardContainer raw : Call (Interceptor ω τ) ε Unit).Agree seen S E Eq
      (discardContainer raw) := by
  refine (h.untimed (h.closeContainer raw)).attempt.bind fun r r' hr => ?_
  cases hr with
  | ok => exact Call.agree_pure rfl
  | error => exact Call.agree_emit _

theorem Parallel.releaseHandle_agree (op : Operation) (proxy : Proxy η)
    (rejected : String → Event) {f : ω → Except Cause Unit × ω}
    {g : ω' → Except Cause Unit × ω'} (hstep : Step Unit f g) :
    (releaseHandle op proxy rejected f).Agree seen S
      (fun e => e.error.Unmeasured) Eq (releaseHandle op proxy rejected g) := by
  refine (h.call op hstep).attempt.bind fun r r' hr => ?_
  cases hr with
  | ok heq => exact Call.agree_pure (congrArg Prod.snd heq)
  | error he => exact (Call.agree_emit _).bind fun _ _ _ => Call.agree_fail he

/-- Work on the registry that does not fail. -/
theorem Parallel.charged_unfailing {E : ε → Prop} (charge : Charge)
    {x : Call (Registry τ Empty) ε α} (hx : x.Unfailing) :
    (charged charge (Registry.alone x) : Call (Interceptor ω τ) ε α).Agree seen S
      E Eq (charged charge (Registry.alone x)) :=
  h.charge charge (Registry.alone_agree_of_unfailing hx)

/-- Work on the registry whose errors are passed on. -/
theorem Parallel.charged_passing (charge : Charge)
    {x : Call (ω × Registry τ Empty) RegistryError α}
    {y : Call (ω' × Registry τ Empty) RegistryError α}
    (hx : x.Agree seen (Registry.Beside R) (fun _ => True) Eq y) :
    (charged charge (x.mapError .registry)).Agree seen S
      InterceptError.Unmeasured Eq (charged charge (y.mapError .registry)) :=
  h.charge charge (hx.mapError fun _ _ => nofun)

/-- The end of an operation. -/
theorem Parallel.finish_agree {E : ε → Prop} (memory : Memory)
    (op : Operation) {t t' : Timer} (ht : T t t') (library : Duration) (a : α) :
    (finish memory op t library >>= fun _ => pure a :
      Call (Interceptor ω τ) ε α).Agree seen S E Eq
      (finish memory op t' library >>= fun _ => pure a) :=
  (h.ending memory op library ht).bind fun _ _ _ => Call.agree_pure rfl

/-- The end of an operation that opens a handle. -/
theorem Parallel.finish_opened {E : ε → Prop} (memory : Memory)
    (op : Operation) {t t' : Timer} (ht : T t t') (library : Duration) (raw : η)
    (target : Target) :
    (do
      finish memory op t library
      let i ← Call.state
      pure ⟨raw, Library.connector i.world, target⟩ :
      Call (Interceptor ω τ) ε (Proxy η)).Agree seen S E Eq (do
        finish memory op t' library
        let i ← Call.state
        pure ⟨raw, Library.connector i.world, target⟩) := by
  refine (h.ending memory op library ht).bind fun _ _ _ => ?_
  refine Call.agree_state_bind fun i j hij => Call.agree_pure ?_
  rw [h.connector i j hij]

/-! ### Files -/

theorem Parallel.registerContainer_agree (memory : Memory) (op : Operation)
    (name : String) (raw : η) (before : Duration) :
    (registerContainer memory op name raw before).Agree seen S
      InterceptError.Unmeasured Eq
      (registerContainer memory op name raw before) := by
  refine (h.call op (h.containerId raw)).bind ?_
  rintro ⟨id, elapsed⟩ _ rfl
  refine (addTimes_agree before elapsed).bind ?_
  rintro library _ rfl
  exact (h.charged_passing _ (Registry.alone_agree _)).bind fun _ _ _ =>
    Call.agree_pure rfl

theorem Parallel.openFile_agree (memory : Memory) (access : Access)
    (name : String) :
    (openFile memory access name).Agree seen S InterceptError.Unmeasured Eq
      (openFile memory access name) := by
  refine h.timer.bind fun t t' ht => ?_
  refine (h.call _ (h.container access name)).bind ?_
  rintro ⟨raw, elapsed⟩ _ rfl
  refine ((h.registerContainer_agree memory _ name raw elapsed).onError
    (h.discardContainer_agree raw)).bind ?_
  rintro ⟨id, library⟩ _ rfl
  exact h.finish_opened memory _ ht library raw _

theorem Parallel.closeFile_agree (memory : Memory) (proxy : Proxy η) :
    (closeFile memory proxy).Agree seen S (fun e => e.error.Unmeasured) Eq
      (closeFile memory proxy) := by
  rw [closeFile, closeFile]
  cases proxy.target with
  | object node => exact Call.agree_fail nofun
  | container id =>
      refine h.timer.bind fun t t' ht => ?_
      refine (h.releaseHandle_agree _ _ _ (h.closeContainer _)).bind ?_
      rintro library _ rfl
      refine (h.charged_unfailing _ (Registry.closeContainer_unfailing id)).bind ?_
      rintro release _ rfl
      exact h.finish_agree memory _ ht library _

theorem Parallel.pin_agree (memory : Memory) (proxy : Proxy η) :
    (pin memory proxy).Agree seen S InterceptError.Unmeasured Eq
      (pin memory proxy) := by
  refine h.timer.bind fun t t' ht => ?_
  refine (h.charged_passing _ (Registry.alone_agree _)).bind fun _ _ _ => ?_
  exact h.finish_agree memory _ ht _ _

theorem Parallel.unpin_agree {E : ε → Prop} (memory : Memory)
    (context : WrapContext) :
    (unpin memory context : Call (Interceptor ω τ) ε Nat).Agree seen S E Eq
      (unpin memory context) := by
  refine h.timer.bind fun t t' ht => ?_
  refine (h.charged_unfailing _ (Registry.closeContainer_unfailing _)).bind ?_
  rintro release _ rfl
  exact h.finish_agree memory _ ht _ _

/-! ### Objects -/

theorem Parallel.trackObject_agree (memory : Memory) (home : ContainerId)
    (info : ObjectInfo τ) (kind : Kind) (name : Option String) (raw : η) :
    (trackObject memory home info kind name raw).Agree seen S
      InterceptError.Unmeasured Eq
      (trackObject memory home info kind name raw) :=
  h.charged_passing _ (Registry.trackIn_agree h.compare _ _ _ _ _ _ _)

theorem Parallel.askShape_agree (op : Operation) (kind : Kind) (raw : η) :
    (askShape op kind raw).Agree seen S InterceptError.Unmeasured Eq
      (askShape op kind raw) := by
  cases kind with
  | dataset =>
      refine (h.call op (h.datasetShape raw)).bind ?_
      rintro ⟨shape, elapsed⟩ _ rfl
      exact Call.agree_pure rfl
  | group => exact Call.agree_pure rfl
  | datatype => exact Call.agree_pure rfl
  | attr => exact Call.agree_pure rfl

theorem Parallel.describeObject_agree (memory : Memory) (op : Operation)
    (node : NodeHandle) (access : Access) (raw : η) :
    (describeObject memory op node access raw).Agree seen S
      InterceptError.Unmeasured Eq
      (describeObject memory op node access raw) := by
  refine (h.askShape_agree op node.kind raw).bind ?_
  rintro ⟨shape, elapsed⟩ _ rfl
  exact (h.charged_passing _ (Registry.alone_agree _)).bind fun _ _ _ =>
    Call.agree_pure rfl

theorem Parallel.undoTracking_agree {E : ε → Prop} (kind : Kind)
    (node : NodeHandle) (raw : η) :
    (undoTracking kind node raw : Call (Interceptor ω τ) ε Unit).Agree seen S E
      Eq (undoTracking kind node raw) :=
  (h.charged_unfailing _ (Registry.untrack_unfailing node)).bind fun _ _ _ =>
    h.discard_agree kind raw

theorem Parallel.openObject_agree (memory : Memory) (access : Access)
    (parent : Proxy η) (kind : Kind) (name : String) :
    (openObject memory access parent kind name).Agree seen S
      InterceptError.Unmeasured Eq
      (openObject memory access parent kind name) := by
  -- the same calls in the same order, with the same way back from each
  refine h.timer.bind fun t t' ht => ?_
  refine (h.call _ (h.object access parent.handle kind name)).bind ?_
  rintro ⟨raw, opening⟩ _ rfl
  refine ((h.call _ (h.objectInfo raw kind)).onError
    (h.discard_agree kind raw)).bind ?_
  rintro ⟨info, asking⟩ _ rfl
  refine (addTimes_agree opening asking).bind ?_
  rintro library _ rfl
  refine ((h.trackObject_agree memory _ info kind _ raw).onError
    (h.discard_agree kind raw)).bind ?_
  rintro node _ rfl
  refine ((h.describeObject_agree memory _ node access raw).onError
    (h.undoTracking_agree kind node raw)).bind ?_
  rintro describing _ rfl
  refine (addTimes_agree library describing).bind ?_
  rintro total _ rfl
  exact h.finish_opened memory _ ht total raw _

theorem Parallel.wrapUnder_agree (memory : Memory) (op : Operation)
    (home : WrapContext) (raw : η) (kind : Kind) (name : Option String) :
    (wrapUnder memory op home raw kind name).Agree seen S
      InterceptError.Unmeasured Eq
      (wrapUnder memory op home raw kind name) := by
  refine h.timer.bind fun t t' ht => ?_
  refine ((h.call _ (h.objectInfo raw kind)).onError
    (h.discard_agree kind raw)).bind ?_
  rintro ⟨info, library⟩ _ rfl
  refine ((h.trackObject_agree memory _ info kind name raw).onError
    (h.discard_agree kind raw)).bind ?_
  rintro node _ rfl
  exact h.finish_agree memory _ ht library _

theorem Parallel.closeObject_agree (memory : Memory) (proxy : Proxy η) :
    (closeObject memory proxy).Agree seen S (fun e => e.error.Unmeasured) Eq
      (closeObject memory proxy) := by
  rw [closeObject, closeObject]
  cases proxy.target with
  | container id => exact Call.agree_fail nofun
  | object node =>
      refine h.timer.bind fun t t' ht => ?_
      refine (h.releaseHandle_agree _ _ _ (h.closeObject _ _)).bind ?_
      rintro library _ rfl
      refine (h.charged_unfailing _ (Registry.untrack_unfailing node)).bind ?_
      rintro release _ rfl
      exact h.finish_agree memory _ ht library _

theorem Parallel.unwrapObject_agree (memory : Memory) (proxy : Proxy η) :
    (unwrapObject memory proxy).Agree seen S InterceptError.Unmeasured Eq
      (unwrapObject memory proxy) := by
  rw [unwrapObject, unwrapObject]
  cases proxy.target with
  | container id => exact Call.agree_fail nofun
  | object node =>
      refine h.timer.bind fun t t' ht => ?_
      refine (h.charged_unfailing _ (Registry.untrack_unfailing node)).bind
        fun _ _ _ => ?_
      exact h.finish_agree memory _ ht _ _

/-! ### Transfers -/

omit [Library ω η τ] [Host ω] [Library ω' η τ] [Host ω'] h in
theorem datasetNode_agree (op : Operation) (proxy : Proxy η) :
    Except.Agree InterceptError.Unmeasured Eq (datasetNode op proxy)
      (datasetNode op proxy) := by
  rw [datasetNode]
  cases proxy.target with
  | container id => exact .error nofun
  | object node =>
      dsimp only
      by_cases hkind : node.kind = .dataset
      · rw [if_pos hkind]
        exact .ok rfl
      · rw [if_neg hkind]
        exact .error nofun

theorem Parallel.transfer_agree (memory : Memory) (op : Operation)
    (proxy : Proxy η) {f : ω → Except Cause Unit × ω}
    {g : ω' → Except Cause Unit × ω'} (hstep : Step Unit f g)
    (record : NodeHandle → Duration →
      Call (Registry τ Empty) RegistryError Nat) :
    (transfer memory op proxy f record).Agree seen S InterceptError.Unmeasured
      Eq (transfer memory op proxy g record) := by
  refine (Call.agree_ofExcept (datasetNode_agree op proxy)).bind ?_
  rintro node _ rfl
  refine h.timer.bind fun t t' ht => ?_
  refine (h.call op hstep).bind ?_
  rintro ⟨⟨⟩, library⟩ _ rfl
  refine (h.charged_passing _ (Registry.alone_agree _)).bind ?_
  rintro bytes _ rfl
  exact h.finish_agree memory _ ht library _

/-! ### All operations -/

omit [Library ω η τ] [Host ω] [Library ω' η τ] [Host ω'] h in
theorem failed_agree {x : Call (Interceptor ω τ) InterceptError α}
    {y : Call (Interceptor ω' τ) InterceptError α}
    (hx : x.Agree seen S InterceptError.Unmeasured Eq y) (f : α → Answer η) :
    (f <$> x.mapError Refusal.failed).Agree seen S
      (fun e : Refusal η => e.error.Unmeasured) Eq
      (f <$> y.mapError Refusal.failed) := by
  have herror : (x.mapError Refusal.failed).Agree seen S
      (fun e : Refusal η => e.error.Unmeasured) Eq
      (y.mapError Refusal.failed) := hx.mapError fun _ he => he
  exact herror.map f f fun _ _ => congrArg f

omit [Library ω η τ] [Host ω] [Library ω' η τ] [Host ω'] h in
theorem notClosed_agree {x : Call (Interceptor ω τ) (CloseError η) α}
    {y : Call (Interceptor ω' τ) (CloseError η) α}
    (hx : x.Agree seen S (fun e => e.error.Unmeasured) Eq y)
    (f : α → Answer η) :
    (f <$> x.mapError Refusal.notClosed).Agree seen S
      (fun e => e.error.Unmeasured) Eq (f <$> y.mapError Refusal.notClosed) := by
  have herror : (x.mapError Refusal.notClosed).Agree seen S
      (fun e => e.error.Unmeasured) Eq (y.mapError Refusal.notClosed) :=
    hx.mapError fun _ he => he
  exact herror.map f f fun _ _ => congrArg f

/-- Each operation of one interceptor agrees with that of the other, and no
    error of it is of the statistics. -/
theorem Parallel.run_agree (memory : Memory) (op : Op η) :
    (op.run memory : Call (Interceptor ω τ) _ _).Agree seen S
      (fun e => e.error.Unmeasured) Eq (op.run memory) := by
  cases op with
  | openFile access name =>
      exact failed_agree (h.openFile_agree memory access name) _
  | closeFile proxy => exact notClosed_agree (h.closeFile_agree memory proxy) _
  | openObject access parent kind name =>
      exact failed_agree (h.openObject_agree memory access parent kind name) _
  | closeObject proxy =>
      exact notClosed_agree (h.closeObject_agree memory proxy) _
  | readDataset proxy selected =>
      exact failed_agree (h.transfer_agree memory _ proxy
        (h.readDataset proxy.handle selected) _) _
  | writeDataset proxy selected =>
      exact failed_agree (h.transfer_agree memory _ proxy
        (h.writeDataset proxy.handle selected) _) _
  | pin proxy => exact failed_agree (h.pin_agree memory proxy) _
  | unpin context =>
      exact (h.unpin_agree memory context).map _ _ fun _ _ => congrArg _
  | wrapObject raw kind context =>
      exact failed_agree
        (h.wrapUnder_agree memory _ context raw kind none) _
  | completeRequest parent raw kind name =>
      exact failed_agree (h.wrapUnder_agree memory _ _ raw kind name) _
  | unwrapObject proxy =>
      exact failed_agree (h.unwrapObject_agree memory proxy) _

end Interceptor

end Provenance
