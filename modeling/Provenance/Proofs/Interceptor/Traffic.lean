import Provenance.Interceptor.File
import Provenance.Interceptor.Object
import Provenance.Proofs.Interceptor.Parts
import Provenance.Proofs.Registry.Quiet

/-! # The traffic of raw handles

    A library issues raw handles and is asked to close them.  Whatever follows
    that traffic (`Follows`) sees each operation of an interceptor make the
    same: an operation that sets up an entry has one handle entrusted to it,
    and either returns it in a proxy or has it closed, on each of its paths; a
    close asks for its own handle, once.

    Nothing is assumed of the registry here, so the handle is left alone only
    where an operation faults. -/

namespace Provenance

/-- A step in the traffic of raw handles.  A handle is closed as an object of a
    kind or, without a kind, as a container. -/
inductive Traffic (η : Type) where
  | issued (raw : η)
  | closed (sort : Option Kind) (raw : η) (accepted : Bool)
  /-- The handle that could not be closed is given up. -/
  | lost

/-- The traffic of a call that opens a handle. -/
def Traffic.opened {η : Type} : Except Cause η → List (Traffic η)
  | .ok raw => [.issued raw]
  | .error _ => []

/-- The traffic of a handle that is closed because no proxy is made for it. -/
def Traffic.discarded {η : Type} (sort : Option Kind) (raw : η) :
    Bool → List (Traffic η)
  | true => [.closed sort raw true]
  | false => [.closed sort raw false, .lost]

/-- The event of a handle given up without being closed. -/
def Event.tellsLoss : Event → Bool
  | containerReleaseFailed _ => true
  | objectReleaseFailed _ _ => true
  | _ => false

section

variable {ω η τ ε α : Type} [Library ω η τ] [Host ω]

/-- A condition that follows the traffic of handles: it moves with each step of
    it, and with nothing else that a world does or that is emitted. -/
structure Follows (P : List (Traffic η) → ω → List Event → Prop) : Prop where
  now : ∀ {log w ev}, P log w ev → P log (Host.now w).2 ev
  compare : ∀ {log} raw a b, (Identity.compare raw a b).Keeps (P log)
  containerId : ∀ {log w ev} raw, P log w ev →
    P log (Library.containerId raw w).2 ev
  objectInfo : ∀ {log w ev} raw kind, P log w ev →
    P log (Library.objectInfo raw kind w).2 ev
  datasetShape : ∀ {log w ev} raw, P log w ev →
    P log (Library.datasetShape raw w).2 ev
  readDataset : ∀ {log w ev} raw selected, P log w ev →
    P log (Library.readDataset raw selected w).2 ev
  writeDataset : ∀ {log w ev} raw selected, P log w ev →
    P log (Library.writeDataset raw selected w).2 ev
  container : ∀ {log w ev} access name, P log w ev →
    P (log ++ Traffic.opened (Library.container access name w).1)
      (Library.container access name w).2 ev
  object : ∀ {log w ev} access parent kind name, P log w ev →
    P (log ++ Traffic.opened (Library.object access parent kind name w).1)
      (Library.object access parent kind name w).2 ev
  closeContainer : ∀ {log w ev} raw, P log w ev →
    P (log ++ [.closed none raw (Library.closeContainer raw w).1.isOk])
      (Library.closeContainer raw w).2 ev
  closeObject : ∀ {log w ev} raw kind, P log w ev →
    P (log ++ [.closed (some kind) raw (Library.closeObject raw kind w).1.isOk])
      (Library.closeObject raw kind w).2 ev
  loss : ∀ {log w ev} e, e.tellsLoss = true → P log w ev →
    P (log ++ [.lost]) w (ev ++ [e])
  event : ∀ {log w ev} e, e.tellsLoss = false → P log w ev →
    P log w (ev ++ [e])

theorem Follows.unmoved {P : List (Traffic η) → ω → List Event → Prop}
    (h : Follows P) (log : List (Traffic η)) (w : ω) :
    Registry.Unmoved (P log w) := by
  intro f ev hw
  cases f with
  | invariant broken => exact h.event _ rfl hw
  | zeroDivisor => simpa [Fault.events] using hw
  | durationSum => simpa [Fault.events] using hw
  | durationAdd => simpa [Fault.events] using hw

namespace Interceptor

variable {P : List (Traffic η) → ω → List Event → Prop} {log : List (Traffic η)}
  {i : Interceptor ω τ} {ev : List Event}

/-- Where an operation that opens a handle fails: nothing was opened, or the
    handle was discarded. -/
def Undone (P : List (Traffic η) → ω → List Event → Prop) (sort : Option Kind)
    (log : List (Traffic η)) (w : ω) (ev : List Event) : Prop :=
  P log w ev ∨ ∃ raw accepted,
    P (log ++ .issued raw :: Traffic.discarded sort raw accepted) w ev

/-- Where an operation that opens a handle faults. -/
def Abandoned (P : List (Traffic η) → ω → List Event → Prop)
    (log : List (Traffic η)) (w : ω) (ev : List Event) : Prop :=
  P log w ev ∨ ∃ raw, P (log ++ [.issued raw]) w ev

/-! ## Parts without traffic -/

theorem startTimer_keeps (hP : Follows P) :
    (startTimer : Call (Interceptor ω τ) ε Timer).Keeps
      fun i => P log i.world := by
  intro i ev h
  rw [ensures_startTimer]
  exact hP.now h

theorem callLibrary_keeps (hP : Follows P) (op : Operation)
    {f : ω → Except Cause α × ω}
    (hf : ∀ {w ev}, P log w ev → P log (f w).2 ev) :
    (callLibrary op f : Call (Interceptor ω τ) InterceptError (α × Duration)).Keeps
      fun i => P log i.world := by
  intro i ev h
  have hcall := hf (hP.now h)
  refine callLibrary_ensures ?_ ?_
  · intro a w hw
    rw [hw] at hcall
    exact hP.now hcall
  · intro cause w hw
    rw [hw] at hcall
    exact hcall

theorem charged_keeps (hP : Follows P) {charge : Charge}
    {work : Call (ω × Registry τ Empty) ε α}
    (hwork : work.Keeps fun s => P log s.1) :
    (charged charge work).Keeps fun i => P log i.world := by
  intro i ev h
  exact charged_ensures (V := fun _ s => P log s.1) (E := fun _ s => P log s.1)
    (F := fun _ s => P log s.1) (fun _ _ _ _ h => hP.now h)
    (fun _ _ _ _ h => hP.now h) (hwork _ ev (hP.now h))

/-- Charged work that has no errors. -/
theorem charged_traffic (hP : Follows P) {charge : Charge}
    {work : Call (ω × Registry τ Empty) ε α}
    (hwork : work.Ensures ((Host.now i.world).2, i.registry) ev
      (fun _ s ev' => P log s.1 ev') (fun _ _ _ => False)
      (fun _ s ev' => P log s.1 ev')) :
    (charged charge work).Ensures i ev (fun _ j ev' => P log j.world ev')
      (fun _ _ _ => False) (fun _ j ev' => P log j.world ev') :=
  charged_ensures (V := fun _ s => P log s.1) (E := fun _ _ _ => False)
    (F := fun _ s => P log s.1) (fun _ _ _ _ h => hP.now h)
    (fun _ _ _ _ h => h) hwork

theorem finish_traffic (hP : Follows P) {memory : Memory} {op : Operation}
    {timer : Timer} {library : Duration} (h : P log i.world ev) :
    (finish memory op timer library : Call (Interceptor ω τ) ε Unit).Ensures i ev
      (fun _ j ev' => P log j.world ev') (fun _ _ _ => False)
      (fun _ _ _ => False) :=
  finish_ensures (V := fun s => P log s.1) (fun _ _ _ h => hP.now h)
    (fun _ _ _ h => hP.event _ rfl h) h

theorem finish_pure_traffic (hP : Follows P) {memory : Memory} {op : Operation}
    {timer : Timer} {library : Duration} {a : α} (h : P log i.world ev) :
    (finish memory op timer library >>= fun _ => pure a :
      Call (Interceptor ω τ) ε α).Ensures i ev
      (fun b j ev' => b = a ∧ P log j.world ev') (fun _ _ _ => False)
      (fun _ _ _ => False) := by
  rw [Call.ensures_bind]
  refine (finish_traffic hP h).mono ?_ (fun _ _ _ h => h) fun _ _ _ h => h
  intro _ j ev' hj
  rw [Call.ensures_pure]
  exact ⟨rfl, hj⟩

/-- Giving references back to the registry asks the library for nothing. -/
theorem release_traffic {β : Type} (hP : Follows P) {charge : Charge}
    {work : Call (Registry τ Empty) ε α} {memory : Memory} {op : Operation}
    {timer : Timer} {library : Duration} {f : α → β}
    (hwork : work.Ensures i.registry ev
      (fun _ _ => P log (Host.now i.world).2) (fun _ _ _ => False)
      (fun _ _ => P log (Host.now i.world).2)) :
    (charged charge (Registry.alone work) >>= fun a =>
      finish memory op timer library >>= fun _ => pure (f a) :
      Call (Interceptor ω τ) ε β).Ensures i ev
      (fun b j ev' => (∃ a, b = f a) ∧ P log j.world ev')
      (fun _ _ _ => False) (fun _ j ev' => P log j.world ev') := by
  rw [Call.ensures_bind]
  refine (charged_traffic hP ?_).mono ?_ (fun _ _ _ h => h) fun _ _ _ h => h
  · rw [Registry.ensures_alone]
    exact hwork
  · intro a j ev' hj
    exact (finish_pure_traffic hP hj).mono (fun b j' _ h => ⟨⟨a, h.1⟩, h.2⟩)
      (fun _ _ _ h => h) fun _ _ _ h => h.elim

theorem finish_keeps (hP : Follows P) {memory : Memory} {op : Operation}
    {timer : Timer} {library : Duration} :
    (finish memory op timer library : Call (Interceptor ω τ) ε Unit).Keeps
      fun i => P log i.world := fun _ _ h =>
  (finish_traffic hP h).mono (fun _ _ _ h => h) (fun _ _ _ h => h.elim)
    fun _ _ _ h => h.elim

theorem registerContainer_keeps (hP : Follows P) (memory : Memory)
    (op : Operation) (name : String) (raw : η) (before : Duration) :
    (registerContainer memory op name raw before :
      Call (Interceptor ω τ) InterceptError (ContainerId × Duration)).Keeps
        fun i => P log i.world := by
  refine (callLibrary_keeps hP op (hP.containerId raw)).bind fun r => ?_
  refine (addTimes_keeps before r.2).bind fun library => ?_
  refine (charged_keeps hP ?_).bind fun _ => Call.keeps_pure _
  exact (Registry.alone_keeps fun w =>
    Registry.openContainer_keeps memory r.1 (some name)).mapError _

theorem pin_keeps (hP : Follows P) (memory : Memory) (proxy : Proxy η) :
    (pin memory proxy :
      Call (Interceptor ω τ) InterceptError WrapContext).Keeps
        fun i => P log i.world := by
  refine (startTimer_keeps hP).bind fun timer => ?_
  refine (charged_keeps hP ?_).bind fun _ =>
    (finish_keeps hP).bind fun _ => Call.keeps_pure _
  exact (Registry.alone_keeps fun w =>
    Registry.pinContainer_keeps proxy.target.containerId).mapError _

theorem unpin_traffic (hP : Follows P) (memory : Memory) (context : WrapContext)
    (h : P log i.world ev) :
    (unpin memory context : Call (Interceptor ω τ) ε Nat).Ensures i ev
      (fun _ j ev' => P log j.world ev') (fun _ _ _ => False)
      (fun _ j ev' => P log j.world ev') := by
  rw [unpin, Call.ensures_bind, ensures_startTimer]
  refine (release_traffic hP ?_).mono (fun _ _ _ h => h.2) (fun _ _ _ h => h)
    fun _ _ _ h => h
  exact Registry.closeContainer_quiet (hP.unmoved log _) context.container _
    (hP.now (hP.now h))

theorem trackObject_keeps (hP : Follows P) (memory : Memory)
    (home : ContainerId) (info : ObjectInfo τ) (kind : Kind)
    (name : Option String) (raw : η) :
    (trackObject memory home info kind name raw :
      Call (Interceptor ω τ) InterceptError NodeHandle).Keeps
        fun i => P log i.world := by
  refine charged_keeps hP ?_
  exact (Registry.trackIn_keeps hP.compare (hP.unmoved log) memory home
    info.container kind info.token name raw).mapError _

omit [Library ω η τ] [Host ω] in
theorem recordAccess_keeps {Q : List Event → Prop} (hQ : Registry.Unmoved Q)
    (memory : Memory) (node : NodeHandle) (access : Access)
    (shape : Option DatasetShape) :
    (recordAccess memory node access shape :
      Call (Registry τ Empty) RegistryError Unit).Keeps fun _ => Q :=
  recordAccess_keeps_of_parts memory access shape
    (Registry.onContainer_keeps _ _) (Registry.onContainer_keeps _ _)
    (fun _ => Registry.onDataset_keeps hQ node _)
    (Registry.onCounters_keeps hQ node _) (Registry.onCounters_keeps hQ node _)
    (Registry.onCounters_keeps hQ node _)

theorem askShape_keeps (hP : Follows P) (op : Operation) (kind : Kind)
    (raw : η) :
    (askShape op kind raw : Call (Interceptor ω τ) InterceptError
      (Option DatasetShape × Duration)).Keeps fun i => P log i.world := by
  cases kind with
  | dataset =>
      exact (callLibrary_keeps hP op (hP.datasetShape raw)).bind fun _ =>
        Call.keeps_pure _
  | group => exact Call.keeps_pure _
  | datatype => exact Call.keeps_pure _
  | attr => exact Call.keeps_pure _

theorem describeObject_keeps (hP : Follows P) (memory : Memory)
    (op : Operation) (node : NodeHandle) (access : Access) (raw : η) :
    (describeObject memory op node access raw :
      Call (Interceptor ω τ) InterceptError Duration).Keeps
        fun i => P log i.world := by
  refine (askShape_keeps hP op node.kind raw).bind fun r => ?_
  refine (charged_keeps hP ?_).bind fun _ => Call.keeps_pure _
  exact (Registry.alone_keeps fun w =>
    recordAccess_keeps (hP.unmoved log w) memory node access r.1).mapError _

/-- Whoever unwraps a proxy gets its own handle. -/
theorem unwrapObject_traffic (hP : Follows P) (memory : Memory)
    (proxy : Proxy η) (h : P log i.world ev) :
    (unwrapObject memory proxy : Call (Interceptor ω τ) InterceptError η).Ensures
      i ev (fun raw j ev' => raw = proxy.handle ∧ P log j.world ev')
      (fun _ j ev' => P log j.world ev') (fun _ j ev' => P log j.world ev') := by
  rw [unwrapObject]
  cases proxy.target with
  | container id =>
      dsimp only
      rw [Call.ensures_fail]
      exact h
  | object node =>
      dsimp only
      rw [Call.ensures_bind, ensures_startTimer]
      refine (release_traffic hP ?_).mono ?_ (fun _ _ _ h => h.elim)
        fun _ _ _ h => h
      · exact Registry.untrack_quiet (hP.unmoved log _) node _
          (hP.now (hP.now h))
      · rintro raw j ev' ⟨⟨_, rfl⟩, hj⟩
        exact ⟨rfl, hj⟩

theorem transfer_keeps (hP : Follows P) (memory : Memory) (op : Operation)
    (proxy : Proxy η) {move : ω → Except Cause Unit × ω}
    {record : NodeHandle → Duration → Call (Registry τ Empty) RegistryError Nat}
    (hmove : ∀ {w ev}, P log w ev → P log (move w).2 ev)
    (hrecord : ∀ (w : ω) (node : NodeHandle) (elapsed : Duration),
      (record node elapsed).Keeps fun _ => P log w) :
    (transfer memory op proxy move record).Keeps fun i => P log i.world := by
  refine (Call.keeps_ofExcept _).bind fun node => ?_
  refine (startTimer_keeps hP).bind fun timer => ?_
  refine (callLibrary_keeps hP op hmove).bind fun r => ?_
  refine (charged_keeps hP ?_).bind fun _ =>
    (finish_keeps hP).bind fun _ => Call.keeps_pure _
  exact (Registry.alone_keeps fun w => hrecord w node r.2).mapError _

/-! ## Handles that are closed -/

/-- A handle without a proxy is closed, or given up if that is refused. -/
theorem discard_traffic (hP : Follows P) (kind : Kind) (raw : η)
    (h : P log i.world ev) :
    (discard kind raw : Call (Interceptor ω τ) ε Unit).Ensures i ev
      (fun _ j ev' => ∃ accepted,
        P (log ++ Traffic.discarded (some kind) raw accepted) j.world ev')
      (fun _ _ _ => False) (fun _ _ _ => False) := by
  have hclose := hP.closeObject raw kind h
  refine (discard_ensures (V := fun w ev' => ∃ accepted,
    P (log ++ Traffic.discarded (some kind) raw accepted) w ev') ?_ ?_).mono
    (fun _ _ _ h => h.1) (fun _ _ _ h => h) fun _ _ _ h => h
  · intro w hw
    rw [hw] at hclose
    exact ⟨true, hclose⟩
  · -- the library keeps a handle that nobody has, and the warning says so
    intro cause w hw
    rw [hw] at hclose
    have hloss := hP.loss (.objectReleaseFailed kind cause.text) rfl hclose
    rw [List.append_assoc] at hloss
    exact ⟨false, hloss⟩

theorem discardContainer_traffic (hP : Follows P) (raw : η)
    (h : P log i.world ev) :
    (discardContainer raw : Call (Interceptor ω τ) ε Unit).Ensures i ev
      (fun _ j ev' => ∃ accepted,
        P (log ++ Traffic.discarded none raw accepted) j.world ev')
      (fun _ _ _ => False) (fun _ _ _ => False) := by
  have hclose := hP.closeContainer raw h
  refine (discardContainer_ensures (V := fun w ev' => ∃ accepted,
    P (log ++ Traffic.discarded none raw accepted) w ev') ?_ ?_).mono
    (fun _ _ _ h => h.1) (fun _ _ _ h => h) fun _ _ _ h => h
  · intro w hw
    rw [hw] at hclose
    exact ⟨true, hclose⟩
  · intro cause w hw
    rw [hw] at hclose
    have hloss := hP.loss (.containerReleaseFailed cause.text) rfl hclose
    rw [List.append_assoc] at hloss
    exact ⟨false, hloss⟩

theorem undoTracking_traffic (hP : Follows P) (kind : Kind) (node : NodeHandle)
    (raw : η) (h : P log i.world ev) :
    (undoTracking kind node raw : Call (Interceptor ω τ) ε Unit).Ensures i ev
      (fun _ j ev' => ∃ accepted,
        P (log ++ Traffic.discarded (some kind) raw accepted) j.world ev')
      (fun _ _ _ => False) (fun _ j ev' => P log j.world ev') := by
  rw [undoTracking, Call.ensures_bind]
  refine (charged_traffic hP ?_).mono ?_ (fun _ _ _ h => h)
    fun _ _ _ h => h
  · rw [Registry.ensures_alone]
    exact Registry.untrack_quiet (hP.unmoved log _) node _ (hP.now h)
  · intro _ j ev' hj
    exact (discard_traffic hP kind raw hj).mono (fun _ _ _ h => h)
      (fun _ _ _ h => h) fun _ _ _ h => h.elim

/-- The library's part of a close asks for the handle of the proxy, once. -/
theorem releaseHandle_traffic (hP : Follows P) {op : Operation}
    {proxy : Proxy η} {rejected : String → Event} {sort : Option Kind}
    {f : ω → Except Cause Unit × ω}
    (hf : ∀ {w ev}, P log w ev →
      P (log ++ [.closed sort proxy.handle (f w).1.isOk]) (f w).2 ev)
    (hrejected : ∀ text, (rejected text).tellsLoss = false) (h : P log i.world ev) :
    (releaseHandle op proxy rejected f : Call (Interceptor ω τ) (CloseError η)
        Duration).Ensures i ev
      (fun _ j ev' => P (log ++ [.closed sort proxy.handle true]) j.world ev')
      (fun e j ev' => e.proxy = proxy ∧
        P (log ++ [.closed sort proxy.handle false]) j.world ev')
      (fun _ _ _ => False) := by
  have hclose := hf (hP.now h)
  refine releaseHandle_ensures ?_ ?_
  · intro w hw
    rw [hw] at hclose
    exact hP.now hclose
  · intro cause w hw
    rw [hw] at hclose
    exact ⟨rfl, hP.event _ (hrejected _) hclose⟩

/-! ## Files -/

theorem openFile_traffic (hP : Follows P) (memory : Memory) (access : Access)
    (name : String) (h : P log i.world ev) :
    (openFile memory access name : Call (Interceptor ω τ) InterceptError
        (Proxy η)).Ensures i ev
      (fun p j ev' => P (log ++ [.issued p.handle]) j.world ev')
      (fun _ j ev' => Undone P none log j.world ev')
      (fun _ j ev' => Abandoned P log j.world ev') := by
  rw [openFile]
  dsimp only
  rw [Call.ensures_bind, ensures_startTimer, Call.ensures_bind]
  have hopen := hP.container access name (hP.now (hP.now h))
  refine callLibrary_ensures ?_ ?_
  · intro raw w hw
    rw [hw, Traffic.opened] at hopen
    dsimp only
    rw [Call.ensures_bind, Call.ensures_onError]
    refine (registerContainer_keeps hP memory _ name raw _ _ _
      (hP.now hopen)).mono ?_ ?_ ?_
    · rintro ⟨id, library⟩ j ev' hj
      rw [Call.ensures_bind]
      refine (finish_traffic hP hj).mono ?_ (fun _ _ _ h => h.elim)
        fun _ _ _ h => h.elim
      intro _ j' ev'' hj'
      rw [Call.ensures_bind, Call.ensures_state, Call.ensures_pure]
      exact hj'
    · -- the container could not be registered: its handle is closed again
      intro e j ev' hj
      refine (discardContainer_traffic hP raw hj).mono ?_
        (fun _ _ _ h => h.elim) fun _ _ _ h => h.elim
      rintro _ j' ev'' ⟨accepted, hj'⟩
      rw [List.append_assoc] at hj'
      exact Or.inr ⟨raw, accepted, hj'⟩
    · exact fun f j ev' hj => Or.inr ⟨raw, hj⟩
  · intro cause w hw
    rw [hw, Traffic.opened, List.append_nil] at hopen
    exact Or.inl hopen

/-- A close asks the library for its own handle, and only if the proxy is one
    of a container. -/
theorem closeFile_traffic (hP : Follows P) (memory : Memory) (proxy : Proxy η)
    (h : P log i.world ev) :
    (closeFile memory proxy : Call (Interceptor ω τ) (CloseError η) Nat).Ensures
      i ev
      (fun _ j ev' => (∃ id, proxy.target = .container id) ∧
        P (log ++ [.closed none proxy.handle true]) j.world ev')
      (fun e j ev' => e.proxy = proxy ∧ match proxy.target with
        | .container _ => P (log ++ [.closed none proxy.handle false]) j.world ev'
        | .object _ => P log j.world ev')
      (fun _ j ev' => (∃ id, proxy.target = .container id) ∧
        P (log ++ [.closed none proxy.handle true]) j.world ev') := by
  rw [closeFile]
  cases htarget : proxy.target with
  | object node =>
      dsimp only
      rw [Call.ensures_fail]
      exact ⟨rfl, h⟩
  | container id =>
      dsimp only
      rw [Call.ensures_bind, ensures_startTimer, Call.ensures_bind]
      refine (releaseHandle_traffic hP (hP.closeContainer proxy.handle)
        (fun _ => rfl) (hP.now h)).mono ?_ (fun _ _ _ h => h)
        fun _ _ _ h => h.elim
      intro library j ev' hj
      -- the library closed it, what is left concerns the registry alone
      refine (release_traffic hP ?_).mono (fun _ _ _ h => ⟨⟨id, rfl⟩, h.2⟩)
        (fun _ _ _ h => h.elim) fun _ _ _ h => ⟨⟨id, rfl⟩, h⟩
      exact Registry.closeContainer_quiet (hP.unmoved _ _) id _ (hP.now hj)

/-! ## Objects -/

theorem openObject_traffic (hP : Follows P) (memory : Memory) (access : Access)
    (parent : Proxy η) (kind : Kind) (name : String) (h : P log i.world ev) :
    (openObject memory access parent kind name :
        Call (Interceptor ω τ) InterceptError (Proxy η)).Ensures i ev
      (fun p j ev' => P (log ++ [.issued p.handle]) j.world ev')
      (fun _ j ev' => Undone P (some kind) log j.world ev')
      (fun _ j ev' => Abandoned P log j.world ev') := by
  rw [openObject]
  dsimp only
  rw [Call.ensures_bind, ensures_startTimer, Call.ensures_bind]
  have hopen := hP.object access parent.handle kind name (hP.now (hP.now h))
  refine callLibrary_ensures ?_ ?_
  · intro raw w hw
    rw [hw, Traffic.opened] at hopen
    -- whatever fails from here on, the new handle is closed again
    have hundone : ∀ {w ev'} (accepted : Bool),
        P (log ++ [.issued raw] ++ Traffic.discarded (some kind) raw accepted)
          w ev' → Undone P (some kind) log w ev' := by
      intro w ev' accepted hw
      rw [List.append_assoc] at hw
      exact Or.inr ⟨raw, accepted, hw⟩
    rw [Call.ensures_bind, Call.ensures_onError]
    refine (callLibrary_keeps hP _ (hP.objectInfo raw kind) _ _
      (hP.now hopen)).mono ?_ ?_ fun _ _ _ h => Or.inr ⟨raw, h⟩
    · rintro ⟨info, asking⟩ j ev' hj
      rw [Call.ensures_bind, ensures_addTimes]
      cases Duration.add? _ asking with
      | none => exact Or.inr ⟨raw, hj⟩
      | some library =>
          dsimp only
          rw [Call.ensures_bind, Call.ensures_onError]
          refine (trackObject_keeps hP memory _ info kind (some name) raw _ _
            hj).mono ?_ ?_ fun _ _ _ h => Or.inr ⟨raw, h⟩
          · intro node j ev' hj
            rw [Call.ensures_bind, Call.ensures_onError]
            refine (describeObject_keeps hP memory _ node access raw _ _
              hj).mono ?_ ?_ fun _ _ _ h => Or.inr ⟨raw, h⟩
            · intro describing j ev' hj
              rw [Call.ensures_bind, ensures_addTimes]
              cases library.add? describing with
              | none => exact Or.inr ⟨raw, hj⟩
              | some total =>
                  dsimp only
                  rw [Call.ensures_bind]
                  refine (finish_traffic hP hj).mono ?_ (fun _ _ _ h => h.elim)
                    fun _ _ _ h => h.elim
                  intro _ j ev' hj
                  rw [Call.ensures_bind, Call.ensures_state, Call.ensures_pure]
                  exact hj
            · intro e j ev' hj
              exact (undoTracking_traffic hP kind node raw hj).mono
                (fun _ _ _ ⟨accepted, h⟩ => hundone accepted h)
                (fun _ _ _ h => h.elim) fun _ _ _ h => Or.inr ⟨raw, h⟩
          · intro e j ev' hj
            exact (discard_traffic hP kind raw hj).mono
              (fun _ _ _ ⟨accepted, h⟩ => hundone accepted h)
              (fun _ _ _ h => h.elim) fun _ _ _ h => h.elim
    · intro e j ev' hj
      exact (discard_traffic hP kind raw hj).mono
        (fun _ _ _ ⟨accepted, h⟩ => hundone accepted h)
        (fun _ _ _ h => h.elim) fun _ _ _ h => h.elim
  · intro cause w hw
    rw [hw, Traffic.opened, List.append_nil] at hopen
    exact Or.inl hopen

/-- A raw handle that is handed in to be wrapped is returned in its proxy, or
    discarded. -/
theorem wrapUnder_traffic (hP : Follows P) (memory : Memory) (op : Operation)
    (home : WrapContext) (raw : η) (kind : Kind) (name : Option String)
    (h : P log i.world ev) :
    (wrapUnder memory op home raw kind name :
        Call (Interceptor ω τ) InterceptError (Proxy η)).Ensures i ev
      (fun p j ev' => p.handle = raw ∧ P log j.world ev')
      (fun _ j ev' => ∃ accepted,
        P (log ++ Traffic.discarded (some kind) raw accepted) j.world ev')
      (fun _ j ev' => P log j.world ev') := by
  rw [wrapUnder, Call.ensures_bind, ensures_startTimer, Call.ensures_bind,
    Call.ensures_onError]
  refine (callLibrary_keeps hP op (hP.objectInfo raw kind) _ _
    (hP.now h)).mono ?_ ?_ fun _ _ _ h => h
  · rintro ⟨info, library⟩ j ev' hj
    rw [Call.ensures_bind, Call.ensures_onError]
    refine (trackObject_keeps hP memory _ info kind name raw _ _ hj).mono ?_ ?_
      fun _ _ _ h => h
    · intro node j ev' hj
      refine (finish_pure_traffic hP hj).mono ?_ (fun _ _ _ h => h.elim)
        fun _ _ _ h => h.elim
      rintro p j ev' ⟨rfl, hj⟩
      exact ⟨rfl, hj⟩
    · intro e j ev' hj
      exact (discard_traffic hP kind raw hj).mono (fun _ _ _ h => h)
        (fun _ _ _ h => h.elim) fun _ _ _ h => h.elim
  · intro e j ev' hj
    exact (discard_traffic hP kind raw hj).mono (fun _ _ _ h => h)
      (fun _ _ _ h => h.elim) fun _ _ _ h => h.elim

theorem closeObject_traffic (hP : Follows P) (memory : Memory) (proxy : Proxy η)
    (h : P log i.world ev) :
    (closeObject memory proxy : Call (Interceptor ω τ) (CloseError η) Nat).Ensures
      i ev
      (fun _ j ev' => ∃ node, proxy.target = .object node ∧
        P (log ++ [.closed (some node.kind) proxy.handle true]) j.world ev')
      (fun e j ev' => e.proxy = proxy ∧ match proxy.target with
        | .object node =>
            P (log ++ [.closed (some node.kind) proxy.handle false]) j.world ev'
        | .container _ => P log j.world ev')
      (fun _ j ev' => ∃ node, proxy.target = .object node ∧
        P (log ++ [.closed (some node.kind) proxy.handle true]) j.world ev') := by
  rw [closeObject]
  cases htarget : proxy.target with
  | container id =>
      dsimp only
      rw [Call.ensures_fail]
      exact ⟨rfl, h⟩
  | object node =>
      dsimp only
      rw [Call.ensures_bind, ensures_startTimer, Call.ensures_bind]
      refine (releaseHandle_traffic hP (hP.closeObject proxy.handle node.kind)
        (fun _ => rfl) (hP.now h)).mono ?_ (fun _ _ _ h => h)
        fun _ _ _ h => h.elim
      intro library j ev' hj
      -- the library closed it, what is left concerns the registry alone
      refine (release_traffic hP ?_).mono (fun _ _ _ h => ⟨node, rfl, h.2⟩)
        (fun _ _ _ h => h.elim) fun _ _ _ h => ⟨node, rfl, h⟩
      exact Registry.untrack_quiet (hP.unmoved _ _) node _ (hP.now hj)

end Interceptor

end

end Provenance
