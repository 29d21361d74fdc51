import Provenance.Proofs.Interceptor.Ownership
import Provenance.Proofs.Registry.Undo

/-! # What a failure leaves

    An operation that ends in an error leaves the bookkeeping as it was.  Most
    operations do their work on the registry last, so nothing is there to undo
    when they fail (`Call.Spares`).  Only opening an object can fail once the
    object is tracked, when the library does not tell its shape; the track is
    then given back (`Tracked.untrack_ensures`).  The time of an operation is
    kept at its end, which a failure never reaches. -/

namespace Provenance

/-- A reference is on something that the registry has. -/
def Reference.Live {τ ρ : Type} (reg : Registry τ ρ) : Reference → Prop
  | opened id => ∃ c, reg.container? id = some c
  | pinned id => ∃ c, reg.container? id = some c
  | tracked node => ∃ n, reg.node? node = some n

namespace Interceptor

variable {ω η τ ε α : Type} {i j : Interceptor ω τ} {ev : List Event}
  {held : Multiset Reference}

/-- Nothing of the time of an operation is kept. -/
structure Untimed (i j : Interceptor ω τ) : Prop where
  stats_eq : j.stats = i.stats
  library_eq : j.overhead.library = i.overhead.library
  interception_eq : j.overhead.interception = i.overhead.interception

/-- Nothing of an operation is kept. -/
structure Untouched (i j : Interceptor ω τ) : Prop extends i.Untimed j where
  registry_eq : j.registry = i.registry

theorem Untimed.refl (i : Interceptor ω τ) : i.Untimed i := ⟨rfl, rfl, rfl⟩

theorem Untimed.trans {k : Interceptor ω τ} (h : i.Untimed j) (h' : j.Untimed k) :
    i.Untimed k :=
  ⟨h'.stats_eq.trans h.stats_eq, h'.library_eq.trans h.library_eq,
    h'.interception_eq.trans h.interception_eq⟩

theorem Untouched.refl (i : Interceptor ω τ) : i.Untouched i := ⟨.refl i, rfl⟩

/-- A condition that has nothing to do with the world. -/
def Unworldly (P : Interceptor ω τ → Prop) : Prop :=
  ∀ j w, P j → P { j with world := w }

theorem unworldly_untimed (i : Interceptor ω τ) : Unworldly i.Untimed :=
  fun _ _ h => ⟨h.stats_eq, h.library_eq, h.interception_eq⟩

theorem unworldly_untouched (i : Interceptor ω τ) : Unworldly i.Untouched :=
  fun _ w h => ⟨unworldly_untimed i _ w h.toUntimed, h.registry_eq⟩

/-! ## Parts -/

theorem addTimes_unfailing (a b : Duration) :
    (addTimes a b : Call (Interceptor ω τ) ε Duration).Unfailing := by
  intro i ev
  rw [ensures_addTimes]
  cases a.add? b <;> trivial

section

variable {P : Interceptor ω τ → Prop} (hP : Unworldly P)

include hP

theorem Unworldly.onWorld_keeps (x : Call ω ε α) :
    (onWorld x : Call (Interceptor ω τ) ε α).Keeps fun j _ => P j := by
  refine Call.keeps_of_state fun j h => ?_
  exact hP j _ h

theorem Unworldly.discard_keeps [Library ω η τ] (kind : Kind) (raw : η) :
    (discard kind raw : Call (Interceptor ω τ) ε Unit).Keeps fun j _ => P j :=
  keeps_discard (hP.onWorld_keeps _)

theorem Unworldly.discardContainer_keeps [Library ω η τ] (raw : η) :
    (discardContainer raw : Call (Interceptor ω τ) ε Unit).Keeps
      fun j _ => P j :=
  keeps_discardContainer (hP.onWorld_keeps _)

variable [Host ω]

theorem Unworldly.startTimer_keeps :
    (startTimer : Call (Interceptor ω τ) ε Timer).Keeps fun j _ => P j := by
  intro j ev h
  rw [ensures_startTimer]
  exact hP j _ h

theorem Unworldly.callLibrary_keeps (op : Operation)
    (f : ω → Except Cause α × ω) :
    (callLibrary op f : Call (Interceptor ω τ) InterceptError _).Keeps
      fun j _ => P j :=
  fun j _ h => callLibrary_ensures (fun _ _ _ => hP j _ h) fun _ _ _ => hP j _ h

theorem Unworldly.releaseHandle_keeps (op : Operation) (proxy : Proxy η)
    (rejected : String → Event) (f : ω → Except Cause Unit × ω) :
    (releaseHandle op proxy rejected f :
      Call (Interceptor ω τ) (CloseError η) Duration).Keeps fun j _ => P j :=
  fun j _ h => releaseHandle_ensures (fun _ _ => hP j _ h) fun _ _ _ => hP j _ h

end

section

variable [Host ω]

/-- Bookkeeping time is kept apart from that of operations. -/
theorem charged_untimed (i : Interceptor ω τ) (charge : Charge)
    (work : Call (ω × Registry τ Empty) ε α) :
    (charged charge work).Keeps fun j _ => i.Untimed j := by
  intro j ev h
  have hafter : ∀ (timer : Timer) (s : ω × Registry τ Empty),
      i.Untimed (j.afterWork charge timer s) := by
    intro timer s
    rw [afterWork]
    by_cases hc : j.config.recordOverhead = true
    · rw [if_pos hc]
      cases charge with
      | containers => exact ⟨h.stats_eq, h.library_eq, h.interception_eq⟩
      | objects kind => exact ⟨h.stats_eq, h.library_eq, h.interception_eq⟩
    · rw [if_neg hc]
      exact ⟨h.stats_eq, h.library_eq, h.interception_eq⟩
  rw [ensures_charged]
  exact (Call.ensures_ending work _ ev).mono (fun _ s _ _ => hafter _ s)
    (fun _ s _ _ => hafter _ s)
    fun _ _ _ _ => ⟨h.stats_eq, h.library_eq, h.interception_eq⟩

/-- Charged work that leaves the registry alone where it fails. -/
theorem charged_spares (charge : Charge)
    {work : Call (ω × Registry τ Empty) ε α}
    (hwork : work.Spares fun s _ => s.2 = i.registry) :
    (charged charge work).Spares fun j _ => i.Untouched j := by
  intro j ev h
  have hreg : ((Host.now j.world).2, j.registry).2 = i.registry := h.registry_eq
  have hcharged : (charged charge work).Ensures j ev (fun _ _ _ => True)
      (fun _ j' _ => j'.registry = i.registry) fun _ _ _ => True :=
    charged_registry (V := fun _ _ => True) (E := fun _ reg => reg = i.registry)
      (F := fun _ _ => True) (hwork ((Host.now j.world).2, j.registry) ev hreg)
  refine (hcharged.and (charged_untimed i charge work j ev h.toUntimed)).mono
    (fun _ _ _ _ => trivial) ?_ fun _ _ _ _ => trivial
  exact fun e j' _ ⟨hreg, hj'⟩ => ⟨hj', hreg⟩

theorem charged_unfailing (charge : Charge)
    {work : Call (ω × Registry τ Empty) ε α} (hwork : work.Unfailing) :
    (charged charge work).Unfailing := fun i ev =>
  charged_registry (i := i) (V := fun _ _ => True) (E := fun _ _ => False)
    (F := fun _ _ => True) (hwork _ ev)

theorem finish_unfailing (memory : Memory) (op : Operation) (timer : Timer)
    (library : Duration) :
    (finish memory op timer library :
      Call (Interceptor ω τ) ε Unit).Unfailing := fun _ _ =>
  finish_ensures (V := fun _ _ => True) (fun _ _ _ _ => trivial)
    (fun _ _ _ _ => trivial) trivial

/-- Once the library has let go, giving references back ends an operation. -/
theorem release_unfailing {β : Type} {charge : Charge}
    {work : Call (Registry τ Empty) ε α} (hwork : work.Unfailing)
    (memory : Memory) (op : Operation) (timer : Timer) (library : Duration)
    (f : α → β) :
    (charged charge (Registry.alone work) >>= fun a =>
      finish memory op timer library >>= fun _ => pure (f a) :
      Call (Interceptor ω τ) ε β).Unfailing :=
  (charged_unfailing charge (Registry.unfailing_alone hwork)).bind fun _ =>
    (finish_unfailing memory op timer library).bind fun _ =>
      Call.unfailing_pure _

end

/-! ## Operations that fail before they do anything -/

section

variable [Library ω η τ] [Host ω]

theorem registerContainer_spares (memory : Memory) (op : Operation)
    (name : String) (raw : η) (before : Duration) :
    (registerContainer memory op name raw before).Spares
      fun (j : Interceptor ω τ) _ => i.Untouched j :=
  ((unworldly_untouched i).callLibrary_keeps _ _).bind_spares fun (_, _) =>
    (addTimes_keeps _ _).bind_spares fun _ =>
      (charged_spares _ ((Registry.spares_alone
        (Registry.openContainer_spares memory _ _)).mapError _)).bind fun _ =>
          Call.unfailing_pure _

theorem openFile_spares (memory : Memory) (access : Access) (name : String) :
    (openFile memory access name : Call _ _ (Proxy η)).Spares
      fun (j : Interceptor ω τ) _ => i.Untouched j :=
  (unworldly_untouched i).startTimer_keeps.bind_spares fun _ =>
    ((unworldly_untouched i).callLibrary_keeps _ _).bind_spares fun (raw, _) =>
      ((registerContainer_spares memory _ name raw _).onError
        ((unworldly_untouched i).discardContainer_keeps raw)).bind fun (_, _) =>
          (finish_unfailing memory _ _ _).bind fun _ =>
            Call.unfailing_state.bind fun _ => Call.unfailing_pure _

/-- A close is refused before anything is given back. -/
theorem closeFile_spares (memory : Memory) (proxy : Proxy η) :
    (closeFile memory proxy).Spares
      fun (j : Interceptor ω τ) _ => i.Untouched j := by
  rw [closeFile]
  cases proxy.target with
  | object node => exact (Call.keeps_fail _).spares
  | container id =>
      exact (unworldly_untouched i).startTimer_keeps.bind_spares fun _ =>
        ((unworldly_untouched i).releaseHandle_keeps _ _ _ _).bind_spares fun _ =>
          (release_unfailing (Registry.closeContainer_unfailing id) memory _ _ _
            _).spares

omit [Library ω η τ] in
theorem pin_spares (memory : Memory) (proxy : Proxy η) :
    (pin memory proxy).Spares fun (j : Interceptor ω τ) _ => i.Untouched j :=
  (unworldly_untouched i).startTimer_keeps.bind_spares fun _ =>
    (charged_spares _ ((Registry.spares_alone
      (Registry.pinContainer_spares _)).mapError _)).bind fun _ =>
        (finish_unfailing memory _ _ _).bind fun _ => Call.unfailing_pure _

omit [Library ω η τ] in
theorem unpin_spares (memory : Memory) (context : WrapContext) :
    (unpin memory context : Call (Interceptor ω τ) ε Nat).Spares
      fun j _ => i.Untouched j :=
  (unworldly_untouched i).startTimer_keeps.bind_spares fun _ =>
    (release_unfailing (Registry.closeContainer_unfailing _) memory _ _ _
      _).spares

theorem trackObject_spares (memory : Memory) (home : ContainerId)
    (info : ObjectInfo τ) (kind : Kind) (name : Option String) (raw : η) :
    (trackObject memory home info kind name raw).Spares
      fun (j : Interceptor ω τ) _ => i.Untouched j :=
  charged_spares _ ((Registry.trackIn_spares memory home info.container kind
    info.token name raw).mapError _)

theorem wrapUnder_spares (memory : Memory) (op : Operation) (home : WrapContext)
    (raw : η) (kind : Kind) (name : Option String) :
    (wrapUnder memory op home raw kind name).Spares
      fun (j : Interceptor ω τ) _ => i.Untouched j :=
  (unworldly_untouched i).startTimer_keeps.bind_spares fun _ =>
    (((unworldly_untouched i).callLibrary_keeps _ _).onError
      ((unworldly_untouched i).discard_keeps kind raw)).bind_spares fun (_, _) =>
        ((trackObject_spares memory _ _ kind name raw).onError
          ((unworldly_untouched i).discard_keeps kind raw)).bind fun _ =>
            (finish_unfailing memory _ _ _).bind fun _ => Call.unfailing_pure _

theorem closeObject_spares (memory : Memory) (proxy : Proxy η) :
    (closeObject memory proxy).Spares
      fun (j : Interceptor ω τ) _ => i.Untouched j := by
  rw [closeObject]
  cases proxy.target with
  | container id => exact (Call.keeps_fail _).spares
  | object node =>
      exact (unworldly_untouched i).startTimer_keeps.bind_spares fun _ =>
        ((unworldly_untouched i).releaseHandle_keeps _ _ _ _).bind_spares fun _ =>
          (release_unfailing (Registry.untrack_unfailing node) memory _ _ _
            _).spares

omit [Library ω η τ] in
theorem unwrapObject_spares (memory : Memory) (proxy : Proxy η) :
    (unwrapObject memory proxy).Spares
      fun (j : Interceptor ω τ) _ => i.Untouched j := by
  rw [unwrapObject]
  cases proxy.target with
  | container id => exact (Call.keeps_fail _).spares
  | object node =>
      exact (unworldly_untouched i).startTimer_keeps.bind_spares fun _ =>
        (release_unfailing (Registry.untrack_unfailing node) memory _ _ _
          _).spares

omit [Library ω η τ] in
theorem transfer_spares (memory : Memory) (op : Operation) (proxy : Proxy η)
    (move : ω → Except Cause Unit × ω)
    {record : NodeHandle → Duration → Call (Registry τ Empty) RegistryError Nat}
    (hrecord : ∀ node elapsed,
      (record node elapsed).Spares fun reg _ => reg = i.registry) :
    (transfer memory op proxy move record).Spares
      fun (j : Interceptor ω τ) _ => i.Untouched j :=
  (Call.keeps_ofExcept _).bind_spares fun node =>
    (unworldly_untouched i).startTimer_keeps.bind_spares fun _ =>
      ((unworldly_untouched i).callLibrary_keeps _ _).bind_spares fun ((), _) =>
        (charged_spares _ ((Registry.spares_alone
          (hrecord node _)).mapError _)).bind fun _ =>
            (finish_unfailing memory _ _ _).bind fun _ => Call.unfailing_pure _

theorem readDataset_spares (memory : Memory) (proxy : Proxy η)
    (selected : Option Nat) :
    (readDataset memory proxy selected).Spares
      fun (j : Interceptor ω τ) _ => i.Untouched j := by
  rw [readDataset]
  exact transfer_spares memory _ proxy _ fun node _ =>
    Registry.onDataset_spares node _

theorem writeDataset_spares (memory : Memory) (proxy : Proxy η)
    (selected : Option Nat) :
    (writeDataset memory proxy selected).Spares
      fun (j : Interceptor ω τ) _ => i.Untouched j := by
  rw [writeDataset]
  exact transfer_spares memory _ proxy _ fun node _ =>
    Registry.onDataset_spares node _

/-! ## Opening an object -/

/-- The library did not tell the shape of a dataset to an operation. -/
def ShapeRefused (ω : Type) {η τ : Type} [Library ω η τ] (op : Operation)
    (e : InterceptError) : Prop :=
  ∃ cause, e = .library op.name cause ∧
    ∃ (raw : η) (w : ω), (Library.datasetShape raw w).1 = .error cause

/-- There was no memory for the shape of a dataset. -/
def shapeless : InterceptError :=
  .registry (.outOfMemory Purpose.datasetDimensions.text)

theorem askShape_fails (op : Operation) (kind : Kind) (raw : η) :
    (askShape op kind raw).Ensures i ev (fun _ j _ => i.Untouched j)
      (fun e j _ => i.Untouched j ∧ kind = .dataset ∧ ShapeRefused ω op e)
      (fun _ _ _ => True) := by
  have hunworldly := unworldly_untouched i
  cases kind with
  | dataset =>
      rw [askShape, Call.ensures_bind]
      refine callLibrary_ensures (fun shape w _ => ?_) fun cause w hw => ?_
      · rw [Call.ensures_pure]
        exact hunworldly i _ (.refl i)
      · exact ⟨hunworldly i _ (.refl i), rfl, cause, rfl, raw, _,
          congrArg Prod.fst hw⟩
  | group => exact .refl i
  | datatype => exact .refl i
  | attr => exact .refl i

/-- An object that is tracked can be described, unless the library refuses its
    shape or there is no memory for it. -/
theorem describeObject_fails (memory : Memory) (op : Operation)
    {node : NodeHandle} (access : Access) (raw : η)
    (h : i.registry.Consistent held) (hnode : .tracked node ∈ held) :
    (describeObject memory op node access raw).Ensures i ev
      (fun _ _ _ => True)
      (fun e j _ => e = shapeless ∨
        i.Untouched j ∧ node.kind = .dataset ∧ ShapeRefused ω op e)
      (fun _ _ _ => True) := by
  rw [describeObject, Call.ensures_bind]
  refine (askShape_fails op node.kind raw).mono ?_ (fun _ _ _ he => Or.inr he)
    fun _ _ _ h => h
  rintro ⟨shape, elapsed⟩ j _ hj
  rw [Call.ensures_bind]
  refine (charged_registry (V := fun _ _ => True) (E := fun e _ => e = shapeless)
    (F := fun _ _ => True) ?_).mono ?_ (fun _ _ _ he => Or.inl he)
    fun _ _ _ h => h
  · rw [Call.ensures_mapError, Registry.ensures_alone, hj.registry_eq]
    exact (recordAccess_ensures memory access shape h hnode).mono
      (fun _ _ _ _ => trivial) (fun _ _ _ he => congrArg _ he.2)
      fun _ _ _ h => h.elim
  · intro _ j' _ _
    rw [Call.ensures_pure]
    trivial

theorem trackObject_tracked (memory : Memory) (home : ContainerId)
    (info : ObjectInfo τ) (kind : Kind) (name : Option String) (raw : η)
    (h : i.registry.Consistent held) (hj : i.Untouched j) :
    (trackObject memory home info kind name raw).Ensures j ev
      (fun node j' _ => i.Untimed j' ∧ Registry.Tracked ω memory i.registry
        info.container kind info.token name node j'.registry)
      (fun _ j' _ => i.Untouched j') (fun _ _ _ => True) := by
  have hwork : ((Registry.trackIn memory home info.container kind info.token
      name raw).mapError InterceptError.registry).Ensures
      ((Host.now j.world).2, j.registry) ev
      (fun node s _ => Registry.Tracked ω memory i.registry info.container kind
        info.token name node s.2)
      (fun _ s _ => s.2 = i.registry) (fun _ _ _ => True) := by
    rw [Call.ensures_mapError, hj.registry_eq]
    exact (Registry.trackIn_tracked Identity.compare_keeps_true memory home
      info.container kind info.token name raw
      (fun hget => (h.entry hget).toSound) trivial).mono
      (fun _ _ _ h => h.2) (fun _ _ _ h => h.2.1) fun _ _ _ _ => trivial
  exact ((charged_registry (V := fun node reg => Registry.Tracked ω memory
    i.registry info.container kind info.token name node reg)
    (E := fun _ reg => reg = i.registry) (F := fun _ _ => True) hwork).and
      (charged_untimed i _ _ j ev hj.toUntimed)).mono
    (fun _ _ _ h => ⟨h.2, h.1⟩) (fun _ _ _ h => ⟨h.2, h.1⟩)
    fun _ _ _ _ => trivial

theorem undoTracking_unfailing (kind : Kind) (node : NodeHandle) (raw : η) :
    (undoTracking kind node raw :
      Call (Interceptor ω τ) ε Unit).Unfailing :=
  (charged_unfailing _ (Registry.unfailing_alone
    (Registry.untrack_unfailing node))).bind fun _ _ _ =>
      discard_kept.mono (fun _ _ _ _ => trivial) (fun _ _ _ h => h)
        fun _ _ _ h => h.elim

/-- The entries are as before the object was tracked, but for an access of a
    node that was there already. -/
theorem undoTracking_undoes {memory : Memory} {id : ContainerId} {kind : Kind}
    {token : τ} {name : Option String} {node : NodeHandle} (raw : η)
    (h : i.registry.Consistent held) (hj : i.Untimed j)
    (ht : Registry.Tracked ω memory i.registry id kind token name node
      j.registry) :
    (undoTracking kind node raw : Call (Interceptor ω τ) ε Unit).Ensures j ev
      (fun _ j' _ => i.Untimed j' ∧
        (j'.registry.containers = i.registry.containers ∨
          i.registry.SeenAgain kind j'.registry))
      (fun _ _ _ => False) (fun _ _ _ => False) := by
  have hwork : (Registry.alone (Registry.untrack node) :
      Call (ω × Registry τ Empty) ε (Release Empty)).Ensures
      ((Host.now j.world).2, j.registry) ev
      (fun _ s _ => s.2.containers = i.registry.containers ∨
        i.registry.SeenAgain kind s.2)
      (fun _ _ _ => False) (fun _ _ _ => False) := by
    rw [Registry.ensures_alone]
    exact ht.untrack_ensures h
  rw [undoTracking, Call.ensures_bind]
  refine ((charged_registry (V := fun _ reg => reg.containers
    = i.registry.containers ∨ i.registry.SeenAgain kind reg)
    (E := fun _ _ => False) (F := fun _ _ => False) hwork).and
      (charged_untimed i _ _ j ev hj)).mono ?_ (fun _ _ _ h => h.1.elim)
    fun _ _ _ h => h.1.elim
  -- closing the handle leaves both alone
  rintro _ j₁ ev₁ ⟨hcontainers, hj₁⟩
  refine (discard_kept.and ((unworldly_untimed i).discard_keeps kind raw j₁ ev₁
    hj₁)).mono ?_ (fun _ _ _ h => h.1) fun _ _ _ h => h.1
  rintro _ j₂ _ ⟨hreg, hj₂⟩
  rw [hreg]
  exact ⟨hj₂, hcontainers⟩

theorem openObject_fails (memory : Memory) (access : Access) (parent : Proxy η)
    (kind : Kind) (name : String) (h : i.registry.Consistent held) :
    (openObject memory access parent kind name).Ensures i ev
      (fun _ _ _ => True)
      (fun e j _ => e = shapeless ∨ i.Untimed j ∧
        (j.registry.containers = i.registry.containers ∨
          kind = .dataset ∧ ShapeRefused ω (.object access kind) e ∧
            i.registry.SeenAgain .dataset j.registry))
      (fun _ _ _ => True) := by
  have hunworldly := unworldly_untouched i
  -- until the object is tracked, nothing is kept
  have hleft : ∀ {e : InterceptError} {j : Interceptor ω τ}, i.Untouched j →
      e = shapeless ∨ i.Untimed j ∧
        (j.registry.containers = i.registry.containers ∨
          kind = .dataset ∧ ShapeRefused ω (.object access kind) e ∧
            i.registry.SeenAgain .dataset j.registry) := fun hj =>
    Or.inr ⟨hj.toUntimed, Or.inl (by rw [hj.registry_eq])⟩
  rw [openObject]
  dsimp only
  rw [Call.ensures_bind]
  refine (hunworldly.startTimer_keeps i ev (.refl i)).mono ?_
    (fun _ _ _ hj => hleft hj) fun _ _ _ _ => trivial
  intro timer j ev hj
  rw [Call.ensures_bind]
  refine (hunworldly.callLibrary_keeps _ _ j ev hj).mono ?_
    (fun _ _ _ hj => hleft hj) fun _ _ _ _ => trivial
  rintro ⟨raw, opening⟩ j ev hj
  dsimp only
  rw [Call.ensures_bind]
  refine (((hunworldly.callLibrary_keeps _ _).onError
    (hunworldly.discard_keeps kind raw)) j ev hj).mono ?_
    (fun _ _ _ hj => hleft hj) fun _ _ _ _ => trivial
  rintro ⟨info, asking⟩ j ev hj
  dsimp only
  rw [Call.ensures_bind]
  refine (addTimes_keeps _ _ j ev hj).mono ?_
    (fun _ _ _ hj => hleft hj) fun _ _ _ _ => trivial
  intro library j ev hj
  rw [Call.ensures_bind, Call.ensures_onError]
  refine (trackObject_tracked memory _ info kind (some name) raw h hj).mono ?_ ?_
    fun _ _ _ h => h
  · rintro node j ev ⟨hj, ht⟩
    rw [Call.ensures_bind, Call.ensures_onError]
    refine (describeObject_fails memory _ access raw (ht.consistent h)
      (Multiset.mem_cons_self _ held)).mono ?_ ?_ fun _ _ _ h => h
    · intro describing j₁ ev₁ _
      have hend : (addTimes library describing >>= fun library =>
          finish memory (.object access kind) timer library >>= fun _ =>
            Call.state >>= fun i => pure ⟨raw, Library.connector i.world,
              .object node⟩ :
          Call (Interceptor ω τ) InterceptError (Proxy η)).Unfailing :=
        (addTimes_unfailing _ _).bind fun _ =>
          (finish_unfailing memory _ _ _).bind fun _ =>
            Call.unfailing_state.bind fun _ => Call.unfailing_pure _
      exact (hend j₁ ev₁).mono (fun _ _ _ h => h) (fun _ _ _ h => h.elim)
        fun _ _ _ h => h
    · rintro e j₁ ev₁ (rfl | ⟨hj₁, hkind, he⟩)
      · exact (undoTracking_unfailing kind node raw j₁ ev₁).mono
          (fun _ _ _ _ => Or.inl rfl) (fun _ _ _ h => h.elim) fun _ _ _ h => h
      · obtain rfl : kind = .dataset := ht.place.2.symm.trans hkind
        rw [← hj₁.registry_eq] at ht
        refine (undoTracking_undoes raw h (hj.trans hj₁.toUntimed) ht).mono ?_
          (fun _ _ _ h => h.elim) fun _ _ _ h => h.elim
        rintro _ j₂ _ ⟨hj₂, hcontainers | hseen⟩
        · exact Or.inr ⟨hj₂, Or.inl hcontainers⟩
        · exact Or.inr ⟨hj₂, Or.inr ⟨rfl, he, hseen⟩⟩
  · intro e j ev hj
    exact (hunworldly.discard_keeps kind raw j ev hj).mono
      (fun _ _ _ hj => hleft hj) (fun _ _ _ hj => hleft hj) fun _ _ _ _ => trivial

/-! ## What a failure leaves -/

/-- The bookkeeping before and after an operation that failed: none of its time
    is kept, and the entries are the same.  Only a node that was there already
    may have one access more, if it is that of a dataset to be opened whose
    shape the library did not tell. -/
structure Op.Restored (op : Op η) (e : InterceptError) (i j : Interceptor ω τ) :
    Prop extends i.Untimed j where
  entries : j.registry.containers = i.registry.containers ∨
    (∃ access parent name, op = .openObject access parent .dataset name ∧
      ShapeRefused ω (.object access .dataset) e) ∧
    i.registry.SeenAgain .dataset j.registry

omit [Host ω] in
theorem Op.restored_of_untouched (op : Op η) (e : InterceptError)
    (h : i.Untouched j) : op.Restored e i j :=
  ⟨h.toUntimed, Or.inl (by rw [h.registry_eq])⟩

/-- Operations restore what they fail to do, except where there is no memory
    for the shape of a dataset. -/
theorem Op.run_fails (memory : Memory) (op : Op η)
    (h : i.registry.Consistent held) :
    (op.run memory).Ensures i [] (fun _ _ _ => True)
      (fun e j _ => e.error = shapeless ∨ op.Restored e.error i j)
      (fun _ _ _ => True) := by
  -- most operations fail before they do anything
  have hspared : (op.run memory).Spares (fun j _ => i.Untouched j) →
      (op.run memory).Ensures i [] (fun _ _ _ => True)
        (fun e j _ => e.error = shapeless ∨ op.Restored e.error i j)
        (fun _ _ _ => True) := fun hx =>
    (hx i [] (.refl i)).mono (fun _ _ _ h => h)
      (fun _ _ _ hj => Or.inr (op.restored_of_untouched _ hj)) fun _ _ _ h => h
  cases op with
  | openFile access name =>
      exact hspared (((openFile_spares memory access name).mapError _).map _)
  | closeFile proxy =>
      exact hspared (((closeFile_spares memory proxy).mapError _).map _)
  | openObject access parent kind name =>
      rw [run, Call.ensures_map, Call.ensures_mapError]
      refine (openObject_fails memory access parent kind name h).mono
        (fun _ _ _ h => h) ?_ fun _ _ _ h => h
      rintro e j _ (he | ⟨hj, hcontainers | ⟨rfl, he, hseen⟩⟩)
      · exact Or.inl he
      · exact Or.inr ⟨hj, Or.inl hcontainers⟩
      · exact Or.inr ⟨hj, Or.inr ⟨⟨access, parent, name, rfl, he⟩, hseen⟩⟩
  | closeObject proxy =>
      exact hspared (((closeObject_spares memory proxy).mapError _).map _)
  | readDataset proxy selected =>
      exact hspared (((readDataset_spares memory proxy selected).mapError _).map _)
  | writeDataset proxy selected =>
      exact hspared (((writeDataset_spares memory proxy selected).mapError _).map _)
  | pin proxy => exact hspared (((pin_spares memory proxy).mapError _).map _)
  | unpin context => exact hspared ((unpin_spares memory context).map _)
  | wrapObject raw kind context =>
      exact hspared (((wrapUnder_spares memory .wrap context raw kind
        none).mapError _).map _)
  | completeRequest parent raw kind name =>
      exact hspared (((wrapUnder_spares memory .complete
        ⟨parent.connector, parent.target.containerId⟩ raw kind
        name).mapError _).map _)
  | unwrapObject proxy =>
      exact hspared (((unwrapObject_spares memory proxy).mapError _).map _)

/-- What is owned is still there. -/
def Asset.Valid (reg : Registry τ Empty) (a : Asset η) : Prop :=
  a.reference.Live reg

omit [Host ω] in
theorem Op.Restored.container?_iff {op : Op η} {e : InterceptError}
    (hop : op.Restored e i j) (h : i.registry.Consistent held)
    (id : ContainerId) :
    (∃ c, j.registry.container? id = some c) ↔
      ∃ c, i.registry.container? id = some c := by
  rcases hop.entries with hcontainers | ⟨-, hseen⟩
  · rw [Registry.container?_congr hcontainers]
  · exact hseen.container?_iff h id

omit [Host ω] in
theorem Op.Restored.live {op : Op η} {e : InterceptError}
    (hop : op.Restored e i j) (h : i.registry.Consistent held) {r : Reference}
    (hr : r ∈ held) : r.Live j.registry := by
  cases r with
  | opened id => exact (hop.container?_iff h id).mpr (h.present _ hr)
  | pinned id => exact (hop.container?_iff h id).mpr (h.present _ hr)
  | tracked node =>
      obtain ⟨n, hn⟩ := (h.node_iff node).mpr hr
      rcases hop.entries with hcontainers | ⟨-, hseen⟩
      · exact ⟨n, (Registry.node?_congr hcontainers node).trans hn⟩
      · exact hseen.node?_isSome h hn

/-- In every state that a run reaches, an operation that ends in an error,
    whatever failed in it, leaves the bookkeeping as it was: the statistics and
    the totals of the library and of the interception, and every entry of the
    registry, but for one access of a node whose dataset could not be described.
    No container came in or went, and what is owned is still there.  A dataset
    whose shape finds no memory is left out. -/
theorem Reached.failure_restores {owned : Multiset (Asset η)}
    (h : Reached owned i) (memory : Memory) (op : Op η) {e : Refusal η}
    (he : (op.run memory i).outcome = .error e) (hmemory : e.error ≠ shapeless) :
    op.Restored e.error i (op.run memory i).state ∧
    (∀ id, (∃ c, (op.run memory i).state.registry.container? id = some c) ↔
      ∃ c, i.registry.container? id = some c) ∧
    ∀ a ∈ owned, a.Valid (op.run memory i).state.registry := by
  obtain ⟨others, hreg⟩ := h.exists_consistent
  have hop := ((Op.run_fails memory op hreg).error he).resolve_left hmemory
  refine ⟨hop, hop.container?_iff hreg, fun a ha => hop.live hreg ?_⟩
  exact Multiset.mem_add.mpr (Or.inl (reference_mem_references ha))

/-- A dataset that has a proxy is opened once more, and the library does not tell
    its shape: the proxy is still valid, and one access was counted. -/
theorem failure_restores_of_refused_shape :
    ∃ i j : Interceptor InMemory.World Token,
      (Op.openObject .opened ⟨⟨0x1010, ⟨1⟩⟩, ⟨1⟩, .container ⟨1⟩⟩ .dataset "d" :
        Op InMemory.Handle).Restored
        (.library "dataset_open" ⟨"injected failure in dataset_shape"⟩) i j ∧
      (Asset.proxy ⟨⟨0x1020, ⟨1⟩⟩, ⟨1⟩, .object ⟨⟨1⟩, .dataset, ⟨1⟩⟩⟩ :
        Asset InMemory.Handle).Valid j.registry ∧
      (i.registry.node? ⟨⟨1⟩, .dataset, ⟨1⟩⟩).map Node.accesses = some 1 ∧
      (j.registry.node? ⟨⟨1⟩, .dataset, ⟨1⟩⟩).map Node.accesses = some 2 := by
  have hstart := Reached.start Memory.addressSpace
    { Config.default with statsCapacity := 1 } (InMemory.World.new ⟨1⟩) rfl
  have hfile := hstart.step Memory.addressSpace
    (.openFile .created "f" : Op InMemory.Handle) 0 0 rfl
  have hobject := hfile.step Memory.addressSpace
    (.openObject .created ⟨⟨0x1010, ⟨1⟩⟩, ⟨1⟩, .container ⟨1⟩⟩ .dataset "d" :
      Op InMemory.Handle) 0
    {.proxy ⟨⟨0x1010, ⟨1⟩⟩, ⟨1⟩, .container ⟨1⟩⟩}
    ⟨rfl, Multiset.mem_singleton_self _⟩
  have hfailing := hobject.other { InMemory.World.new ⟨1⟩ with
    library := { InMemory.State.new ⟨1⟩ with
      objects := [(⟨⟨1⟩, .dataset, "d"⟩, ⟨0x1020, ⟨1⟩⟩)]
      failing := [.datasetShape] } }
  have hrestores := hfailing.failure_restores Memory.addressSpace
    (.openObject .opened ⟨⟨0x1010, ⟨1⟩⟩, ⟨1⟩, .container ⟨1⟩⟩ .dataset "d") rfl
    (by nofun)
  exact ⟨_, _, hrestores.1,
    hrestores.2.2 _ (Multiset.mem_add.mpr (Or.inl (Multiset.mem_singleton_self _))),
    rfl, rfl⟩

end

end Interceptor

end Provenance
