import Provenance.Proofs.Interceptor.Conduct
import Provenance.Proofs.Interceptor.Measurement
import Provenance.Proofs.Interceptor.Rollback
import Provenance.Proofs.Registry.Tallies

/-! # What operations are counted as

    An operation leaves a few marks in the tallies of its registry, at most one
    of each sort (`Op.marks`).  Which ones can be told from the operation, its
    outcome, the node that it tracked on its way and the shape that the library
    told it.  One kind of failure leaves a mark that it should not: a container
    counts an object before there is memory for its shape, and goes on counting
    it where there is none (`Op.strayMarks`).  However an operation on what is
    owned ends, its registry is tallied with these marks and with no others
    (`Op.run_tallied`).

    An operation that tracks a node does so after some calls of the library and
    before it counts anything, so it is taken apart there (`openObject_eq`,
    `wrapUnder_eq`). -/

namespace Provenance

/-- The value of a call, if it ended with one. -/
def Outcome.value? {ε α : Type} : Outcome ε α → Option α
  | value a => some a
  | _ => none

namespace Interceptor

open Registry (Tallied Within)

variable {ω η τ ε : Type} [Library ω η τ] [Host ω] {i : Interceptor ω τ}
  {held : Multiset Reference} {k d : Nat} {ev : List Event}

/-! ## Up to tracking, and on from there -/

/-- An object that was tracked, in the middle of an operation. -/
structure Found (η : Type) where
  timer : Timer
  raw : η
  node : NodeHandle
  /-- The time spent in the library so far. -/
  library : Duration

/-- Create or open an object, and track it. -/
def openTracked (memory : Memory) (access : Access) (parent : Proxy η)
    (kind : Kind) (name : String) :
    Call (Interceptor ω τ) InterceptError (Found η) := do
  let op := Operation.object access kind
  let timer ← startTimer
  let (raw, opening) ←
    callLibrary op (Library.object access parent.handle kind name)
  let (info, asking) ← (callLibrary op (Library.objectInfo raw kind)).onError
    (discard kind raw)
  let library ← addTimes opening asking
  let home := parent.target.containerId
  let node ← (trackObject memory home info kind (some name) raw).onError
    (discard kind raw)
  pure ⟨timer, raw, node, library⟩

/-- Record the access to a tracked object, and come to the end. -/
def describeFound (memory : Memory) (access : Access) (kind : Kind)
    (found : Found η) : Call (Interceptor ω τ) InterceptError (Proxy η) := do
  let op := Operation.object access kind
  let describing ← (describeObject memory op found.node access
    found.raw).onError (undoTracking kind found.node found.raw)
  let library ← addTimes found.library describing
  finish memory op found.timer library
  let i ← Call.state
  pure ⟨found.raw, Library.connector i.world, .object found.node⟩

theorem openObject_eq (memory : Memory) (access : Access) (parent : Proxy η)
    (kind : Kind) (name : String) :
    (openObject memory access parent kind name :
      Call (Interceptor ω τ) InterceptError (Proxy η))
      = openTracked memory access parent kind name >>=
          describeFound memory access kind := by
  rw [openObject, openTracked]
  simp only [Call.bind_assoc, Call.pure_bind]
  rfl

/-- Ask what a raw handle is of, and track it. -/
def wrapTracked (memory : Memory) (op : Operation) (home : WrapContext) (raw : η)
    (kind : Kind) (name : Option String) :
    Call (Interceptor ω τ) InterceptError (Found η) := do
  let timer ← startTimer
  let (info, library) ← (callLibrary op (Library.objectInfo raw kind)).onError
    (discard kind raw)
  let node ← (trackObject memory home.container info kind name raw).onError
    (discard kind raw)
  pure ⟨timer, raw, node, library⟩

theorem wrapUnder_eq (memory : Memory) (op : Operation) (home : WrapContext)
    (raw : η) (kind : Kind) (name : Option String) :
    (wrapUnder memory op home raw kind name :
      Call (Interceptor ω τ) InterceptError (Proxy η))
      = wrapTracked memory op home raw kind name >>= fun found =>
          finish memory op found.timer found.library >>= fun _ =>
            pure ⟨found.raw, home.connector, .object found.node⟩ := by
  rw [wrapUnder, wrapTracked]
  simp only [Call.bind_assoc, Call.pure_bind]

/-! ## Tracking -/

theorem trackObject_tallied (memory : Memory) {home : ContainerId}
    (info : ObjectInfo τ) (kind : Kind) (name : Option String) (raw : η)
    (h : Kept held k d (i.world, i.registry))
    (hhome : ∃ c, i.registry.container? home = some c) :
    (trackObject memory home info kind name raw).Ensures i ev
      (fun node j _ => Kept (.tracked node ::ₘ held) k d (j.world, j.registry) ∧
        Tallied [.tracked node] i.registry j.registry)
      (fun _ j _ => j.registry = i.registry)
      (fun _ j _ => j.registry = i.registry) := by
  refine ((trackObject_kept memory info kind name raw h hhome).and
    (trackObject_tracked memory home info kind name raw h.consistent
      (.refl i))).mono ?_ (fun _ _ _ he => he.1.1) fun _ _ _ hf => hf.1.1
  rintro node j _ ⟨⟨hj, -⟩, -, ht⟩
  exact ⟨hj, ht.tallied h.consistent.orderly⟩

/-- Nothing is counted before the object is tracked. -/
theorem openTracked_tallied (memory : Memory) (access : Access)
    (parent : Proxy η) (kind : Kind) (name : String)
    (h : i.registry.Consistent held) (hparent : parent.target.reference ∈ held) :
    (openTracked memory access parent kind name).Ensures i ev
      (fun found j _ => Kept (.tracked found.node ::ₘ held) 2 found.library.nanos
          (j.world, j.registry) ∧
        Tallied [.tracked found.node] i.registry j.registry)
      (fun _ j _ => j.registry = i.registry)
      (fun _ j _ => j.registry = i.registry) := by
  obtain ⟨c, hget⟩ := h.present _ hparent
  rw [Target.container_reference] at hget
  rw [openTracked]
  dsimp only
  rw [Call.ensures_bind, ensures_startTimer, Call.ensures_bind]
  refine (callLibrary_kept (fun w => .object access parent.handle kind name w)
    (Kept.start h).now).mono ?_ (fun _ _ _ he => he.1) fun _ _ _ h => h.elim
  rintro ⟨raw, opening⟩ j _ ⟨hreg, hj⟩
  simp only [Nat.zero_add] at hj
  rw [Call.ensures_bind, Call.ensures_onError]
  refine (callLibrary_kept (fun w => .objectInfo raw kind w) hj).mono ?_
    (fun _ j' ev he => discard_leaves (R := (· = i.registry)) kind raw j' ev
      (he.1.trans hreg)) fun _ _ _ h => h.elim
  rintro ⟨info, asking⟩ j₁ _ ⟨hreg₁, hj₁⟩
  rw [Call.ensures_bind]
  refine (addTimes_kept hj₁ (by decide)).mono ?_ (fun _ _ _ h => h.elim)
    fun _ _ _ ⟨hj', _⟩ => hj' ▸ hreg₁.trans hreg
  rintro library _ _ ⟨hlibrary, rfl⟩
  rw [← hlibrary] at hj₁
  rw [Call.ensures_bind, Call.ensures_onError]
  refine (trackObject_tallied memory info kind (some name) raw hj₁
    ⟨c, by rw [hreg₁, hreg]; exact hget⟩).mono ?_
    (fun _ j' ev he => discard_leaves (R := (· = i.registry)) kind raw j' ev
      (he.trans (hreg₁.trans hreg)))
    fun _ _ _ hf => hf.trans (hreg₁.trans hreg)
  rintro node j₂ _ ⟨hj₂, ht⟩
  rw [Call.ensures_pure]
  refine ⟨hj₂, ?_⟩
  rw [hreg₁, hreg] at ht
  exact ht

/-! ## Recording an access -/

section

variable {reg reg₀ : Registry τ Empty} {node : NodeHandle} {marks : List Mark}

omit [Library ω η τ] [Host ω]

/-- What is recorded at a node is one entry, if it is counted at a datatype as
    that entry. -/
theorem recordAtNode_tallied (memory : Memory) (access : Access)
    {shape : Option DatasetShape}
    {count : Call (Registry τ Empty) RegistryError Nat}
    (hcount : count.Ensures reg ev
      (fun _ reg' _ => Tallied [.entered node (.accessed access shape)] reg reg' ∧
        Within reg reg')
      (fun _ reg' _ => reg' = reg) (fun _ reg' _ => reg' = reg))
    (hshape : node.kind = .dataset → shape ≠ none) (hs : reg.Orderly) :
    (recordAtNode memory node shape count).Ensures reg ev
      (fun _ reg' _ => Tallied [.entered node (.accessed access shape)] reg reg' ∧
        Within reg reg')
      (fun _ reg' _ => reg' = reg) (fun _ reg' _ => reg' = reg) := by
  have hop : (Registry.recordOp node : Call (Registry τ Empty) _ _).Ensures reg ev
      _ _ _ := Registry.recordOp_tallied node access shape hs
  cases hkind : node.kind with
  | dataset =>
      cases shape with
      | none => exact absurd rfl (hshape hkind)
      | some s =>
          simp only [recordAtNode, hkind]
          exact Registry.setDatasetShape_tallied memory node access s hs
  | datatype =>
      simp only [recordAtNode, hkind]
      rw [Call.ensures_bind]
      simp only [Call.ensures_pure]
      exact hcount
  | group =>
      simp only [recordAtNode, hkind]
      rw [Call.ensures_bind]
      simp only [Call.ensures_pure]
      exact hop
  | attr =>
      simp only [recordAtNode, hkind]
      rw [Call.ensures_bind]
      simp only [Call.ensures_pure]
      exact hop

/-- The container counts the access before the node does, which may find no
    memory. -/
theorem recordAccess_tallied (memory : Memory) (access : Access)
    {shape : Option DatasetShape} (hshape : node.kind = .dataset → shape ≠ none)
    (h : reg.Consistent held) (hnode : .tracked node ∈ held) :
    (recordAccess memory node access shape).Ensures reg ev
      (fun _ reg' _ => Tallied [.entered node (.accessed access shape),
          .counted access node.container node.kind] reg reg' ∧ Within reg reg')
      (fun _ reg' _ => Tallied [.counted access node.container node.kind] reg reg' ∧
        Within reg reg')
      (fun _ _ _ => False) := by
  obtain ⟨c, hget⟩ : ∃ c, reg.container? node.container = some c :=
    h.present _ hnode
  -- after the container counted, with what is counted at a datatype
  have hrest : ∀ {reg₁ : Registry τ Empty} {ev₁ : List Event}
      {count : Call (Registry τ Empty) RegistryError Nat},
      Tallied [.counted access node.container node.kind] reg reg₁ →
      Within reg reg₁ →
      count.Ensures reg₁ ev₁
        (fun _ reg' _ => Tallied [.entered node (.accessed access shape)] reg₁ reg' ∧
          Within reg₁ reg')
        (fun _ reg' _ => reg' = reg₁) (fun _ reg' _ => reg' = reg₁) →
      reg₁.Consistent held →
      (recordAtNode memory node shape count).Ensures reg₁ ev₁
        (fun _ reg' _ => Tallied [.entered node (.accessed access shape),
            .counted access node.container node.kind] reg reg' ∧
          Within reg reg')
        (fun _ reg' _ =>
          Tallied [.counted access node.container node.kind] reg reg' ∧
            Within reg reg')
        (fun _ _ _ => True) := by
    intro reg₁ ev₁ count ht hw hcount h₁
    refine (recordAtNode_tallied memory access hcount hshape h₁.orderly).mono ?_ ?_
      fun _ _ _ _ => trivial
    · rintro _ reg' _ ⟨ht', hw'⟩
      exact ⟨ht.trans ht' hw', hw.trans hw'⟩
    · rintro _ reg' _ rfl
      exact ⟨ht, hw⟩
  have htally : (recordAccess memory node access shape).Ensures reg ev
      (fun _ reg' _ => Tallied [.entered node (.accessed access shape),
          .counted access node.container node.kind] reg reg' ∧ Within reg reg')
      (fun _ reg' _ => Tallied [.counted access node.container node.kind] reg reg' ∧
        Within reg reg')
      (fun _ _ _ => True) := by
    cases access with
    | created =>
        rw [recordAccess_created, Call.ensures_bind]
        refine ((Registry.recordCreated_ensures h).and
          (Registry.recordCreated_tallied _ _ h.orderly)).mono ?_ ?_
          fun _ _ _ h => h.1.elim
        · rintro _ reg₁ ev₁ ⟨⟨-, h₁⟩, ht, hw⟩
          exact hrest ht hw (Registry.recordCommit_tallied node shape h₁.orderly) h₁
        · rintro _ reg₁ _ ⟨⟨-, -, hnone⟩, -⟩
          rw [hget] at hnone
          cases hnone
    | opened =>
        rw [recordAccess_opened, Call.ensures_bind]
        refine ((Registry.recordAccessed_ensures h).and
          (Registry.recordAccessed_tallied _ _ h.orderly)).mono ?_ ?_
          fun _ _ _ h => h.1.elim
        · rintro _ reg₁ ev₁ ⟨⟨-, h₁⟩, ht, hw⟩
          exact hrest ht hw (Registry.recordGet_tallied node shape h₁.orderly) h₁
        · rintro _ reg₁ _ ⟨⟨-, -, hnone⟩, -⟩
          rw [hget] at hnone
          cases hnone
  exact ((recordAccess_ensures memory access shape h hnode).and htally).mono
    (fun _ _ _ h => h.2) (fun _ _ _ h => h.2) fun _ _ _ h => h.1

end

/-- The shape that the library tells of a raw handle, if it is asked and does. -/
def told (op : Operation) (kind : Kind) (raw : η) (i : Interceptor ω τ) :
    Option DatasetShape :=
  (askShape op kind raw i).outcome.value?.bind Prod.fst

/-- The library tells the shape of a dataset, or the call fails. -/
theorem askShape_told (op : Operation) (kind : Kind) (raw : η) :
    (askShape op kind raw).Ensures i ev
      (fun r _ _ => r.1 = told op kind raw i ∧ (kind = .dataset → r.1 ≠ none))
      (fun e _ _ => e ≠ shapeless) (fun _ _ _ => True) := by
  have hsome : (askShape op kind raw : Call (Interceptor ω τ) InterceptError
      (Option DatasetShape × Duration)).Ensures i ev
      (fun r _ _ => kind = .dataset → r.1 ≠ none)
      (fun e _ _ => e ≠ shapeless) (fun _ _ _ => True) := by
    cases kind with
    | dataset =>
        rw [askShape, Call.ensures_bind]
        refine callLibrary_ensures (fun shape w _ => ?_) fun cause w _ he => ?_
        · rw [Call.ensures_pure]
          exact fun _ => Option.some_ne_none shape
        · cases he
    | group => exact fun h => absurd h (by decide)
    | datatype => exact fun h => absurd h (by decide)
    | attr => exact fun h => absurd h (by decide)
  refine ((Call.ensures_ending _ i ev).and hsome).mono ?_ (fun _ _ _ h => h.2)
    fun _ _ _ h => h.2
  rintro r j _ ⟨⟨ho, -⟩, hr⟩
  refine ⟨?_, hr⟩
  rw [told, ho]
  rfl

/-- A described object is counted with the shape that the library tells.  One
    that cannot be described is counted by its container if only the memory for
    the shape was missing. -/
theorem describeObject_tallied (memory : Memory) (op : Operation)
    {node : NodeHandle} (access : Access) (raw : η)
    (h : Kept held k d (i.world, i.registry)) (hnode : .tracked node ∈ held) :
    (describeObject memory op node access raw).Ensures i ev
      (fun elapsed j _ =>
        Kept held (k + 1) (d + elapsed.nanos) (j.world, j.registry) ∧
        Tallied [.entered node (.accessed access (told op node.kind raw i)),
          .counted access node.container node.kind] i.registry j.registry ∧
        Within i.registry j.registry)
      (fun e j _ => j.registry.Consistent held ∧
        Tallied (if e = shapeless then
          [.counted access node.container node.kind] else [])
          i.registry j.registry ∧ Within i.registry j.registry)
      (fun _ _ _ => False) := by
  have htally : (describeObject memory op node access raw).Ensures i ev
      (fun _ j _ => Tallied
          [.entered node (.accessed access (told op node.kind raw i)),
            .counted access node.container node.kind] i.registry j.registry ∧
        Within i.registry j.registry)
      (fun e j _ => Tallied (if e = shapeless then
          [.counted access node.container node.kind] else [])
          i.registry j.registry ∧ Within i.registry j.registry)
      (fun _ _ _ => True) := by
    rw [describeObject, Call.ensures_bind]
    refine ((askShape_told op node.kind raw).and
      (askShape_fails op node.kind raw)).mono ?_ ?_ fun _ _ _ _ => trivial
    · rintro ⟨shape, elapsed⟩ j _ ⟨⟨rfl, hshape⟩, hj⟩
      rw [Call.ensures_bind]
      refine (charged_registry
        (V := fun _ reg => Tallied
          [.entered node (.accessed access (told op node.kind raw i)),
            .counted access node.container node.kind] i.registry reg ∧
          Within i.registry reg)
        (E := fun e reg => e = shapeless ∧
          Tallied [.counted access node.container node.kind] i.registry reg ∧
          Within i.registry reg)
        (F := fun _ _ => True) ?_).mono ?_ ?_ fun _ _ _ h => h
      · rw [Call.ensures_mapError, Registry.ensures_alone, hj.registry_eq]
        refine ((recordAccess_ensures memory access _ h.consistent hnode).and
          (recordAccess_tallied memory access hshape h.consistent hnode)).mono
          (fun _ _ _ h => h.2) ?_ fun _ _ _ h => h.1.elim
        rintro e reg' _ ⟨⟨-, rfl⟩, ht⟩
        exact ⟨rfl, ht⟩
      · intro _ j' _ hj'
        rw [Call.ensures_pure]
        exact hj'
      · rintro e j' _ ⟨rfl, hj'⟩
        rw [if_pos rfl]
        exact hj'
    · rintro e j _ ⟨hne, hj, -⟩
      rw [if_neg hne, hj.registry_eq]
      exact ⟨.refl _, .refl _⟩
  exact ((describeObject_kept memory op access raw h hnode).and htally).mono
    (fun _ _ _ h => h) (fun _ _ _ h => ⟨h.1.1, h.2⟩) fun _ _ _ h => h.1

/-- To undo a tracking counts nothing more. -/
theorem undoTracking_uncounted (kind : Kind) (node : NodeHandle) (raw : η)
    {reg₀ : Registry τ Empty} :
    (undoTracking kind node raw : Call (Interceptor ω τ) ε Unit).Keeps
      fun i _ => Registry.Uncounted reg₀ i.registry :=
  (charged_leaves (Registry.keeps_alone (Registry.keeps_uncounted fun _ =>
    Registry.untrack_uncounted node))).bind fun _ => discard_leaves kind raw

/-- On a steady clock, an object that was tracked is described, or its tracking
    is undone. -/
theorem describeFound_tallied (hs : SteadyClock ω) (memory : Memory)
    (access : Access) (kind : Kind) {found : Found η}
    (h : Kept (.tracked found.node ::ₘ held) 2 found.library.nanos
      (i.world, i.registry)) :
    (describeFound memory access kind found).Ensures i ev
      (fun p j _ => p.target = .object found.node ∧
        Tallied [.entered found.node (.accessed access
            (told (.object access kind) found.node.kind found.raw i)),
          .counted access found.node.container found.node.kind]
          i.registry j.registry ∧ Within i.registry j.registry)
      (fun e j _ => Tallied (if e = shapeless then
          [.counted access found.node.container found.node.kind] else [])
          i.registry j.registry ∧ Within i.registry j.registry)
      (fun _ _ _ => False) := by
  rw [describeFound, Call.ensures_bind, Call.ensures_onError]
  refine (describeObject_tallied memory _ access found.raw h
    (Multiset.mem_cons_self _ held)).mono ?_ ?_ fun _ _ _ h => h
  · rintro describing j _ ⟨hj, ht, hw⟩
    rw [Call.ensures_bind]
    refine (addTimes_kept hj (by decide)).mono ?_ (fun _ _ _ h => h.elim)
      fun _ _ _ ⟨_, hjump⟩ => hjump hs
    rintro total _ _ ⟨-, rfl⟩
    rw [Call.ensures_bind]
    refine finish_kept.mono ?_ (fun _ _ _ h => h.elim) fun _ _ _ h => h.elim
    intro _ j' _ hreg
    rw [Call.ensures_bind, Call.ensures_state, Call.ensures_pure, hreg]
    exact ⟨rfl, ht, hw⟩
  · -- the node is given back
    rintro e j ev' ⟨hj, ht, hw⟩
    refine ((undoTracking_kept hj).and (undoTracking_uncounted kind found.node
      found.raw j ev' (.refl hj.orderly))).mono ?_ (fun _ _ _ h => h.1.elim)
      fun _ _ _ h => h.1.elim
    rintro _ j' _ ⟨-, hundo⟩
    exact ⟨ht.trans hundo.tallied hundo.within, hw.trans hundo.within⟩

/-! ## The marks of an operation -/

namespace Op

/-- The object that an operation tracked, if it came to that. -/
def found? (memory : Memory) (i : Interceptor ω τ) : Op η → Option (Found η)
  | openObject access parent kind name =>
      (openTracked memory access parent kind name i).outcome.value?
  | wrapObject raw kind context =>
      (wrapTracked memory .wrap context raw kind none i).outcome.value?
  | completeRequest parent raw kind name =>
      (wrapTracked memory .complete ⟨parent.connector, parent.target.containerId⟩
        raw kind name i).outcome.value?
  | _ => none

/-- The shape that the library told an operation of the object that it created
    or opened. -/
def shape? (memory : Memory) (i : Interceptor ω τ) : Op η → Option DatasetShape
  | openObject access parent kind name =>
      let tracking := openTracked memory access parent kind name i
      tracking.outcome.value?.bind fun found =>
        told (.object access kind) found.node.kind found.raw tracking.state
  | _ => none

/-- An operation that tracks a node, be it undone later, counts as an access of
    that node. -/
def trackMarks (memory : Memory) (i : Interceptor ω τ) (op : Op η) : List Mark :=
  (op.found? memory i).elim [] fun found => [.tracked found.node]

/-- A container counts the objects that were created or opened in it. -/
def countMarks : Op η → Outcome (Refusal η) (Answer η) → List Mark
  | openObject access _ _ _, .value (.proxy p) =>
      p.target.node?.elim [] fun node =>
        [.counted access node.container node.kind]
  | _, _ => []

/-- Where there is no memory for the shape of an object, its container has
    counted it already, and still does when the object is given up. -/
def strayMarks (memory : Memory) (i : Interceptor ω τ) :
    Op η → Outcome (Refusal η) (Answer η) → List Mark
  | openObject access parent kind name, .error (.failed e) =>
      if e = shapeless then
        ((openObject access parent kind name).found? memory i).elim [] fun found =>
          [.counted access found.node.container found.node.kind]
      else []
  | _, _ => []

/-- A node takes an entry for each object that was created or opened and
    resolved to it, and for each transfer through one of its proxies.  The time
    of a transfer is that of the library. -/
def entryMarks (memory : Memory) (i : Interceptor ω τ) :
    Op η → Outcome (Refusal η) (Answer η) → List Mark
  | openObject access parent kind name, .value (.proxy p) =>
      p.target.node?.elim [] fun node =>
        [.entered node (.accessed access
          ((openObject access parent kind name).shape? memory i))]
  | readDataset p selected, .value (.bytes bytes) =>
      p.target.node?.elim [] fun node =>
        [.entered node (.read bytes
          (timeOf (Library.readDataset p.handle selected) (Host.now i.world).2))]
  | writeDataset p selected, .value (.bytes bytes) =>
      p.target.node?.elim [] fun node =>
        [.entered node (.written bytes
          (timeOf (Library.writeDataset p.handle selected) (Host.now i.world).2))]
  | _, _ => []

/-- What an operation that ends so is counted as, the last mark in front. -/
def marks (memory : Memory) (i : Interceptor ω τ) (op : Op η)
    (outcome : Outcome (Refusal η) (Answer η)) : List Mark :=
  op.entryMarks memory i outcome ++ op.countMarks outcome
    ++ op.trackMarks memory i

/-- All that the registry is tallied with. -/
def tallyMarks (memory : Memory) (i : Interceptor ω τ) (op : Op η)
    (outcome : Outcome (Refusal η) (Answer η)) : List Mark :=
  op.strayMarks memory i outcome ++ op.marks memory i outcome

end Op

/-! ## Other operations -/

theorem registerContainer_tallied (memory : Memory) (op : Operation)
    (name : String) (raw : η) (before : Duration) (hs : i.registry.Orderly) :
    (registerContainer memory op name raw before :
      Call (Interceptor ω τ) InterceptError (ContainerId × Duration)).Ensures i ev
      (fun _ j _ => Tallied [] i.registry j.registry)
      (fun _ j _ => Tallied [] i.registry j.registry)
      (fun _ j _ => Tallied [] i.registry j.registry) := by
  rw [registerContainer]
  refine (callLibrary_leaves (R := (· = i.registry)) op _).ensures_bind rfl
    (fun _ _ hj => .of_eq hj) fun r j ev hj => ?_
  refine (addTimes_keeps (P := fun j _ => j.registry = i.registry) before
    r.2).ensures_bind hj (fun _ _ hj => .of_eq hj) fun library j ev hj => ?_
  rw [Call.ensures_bind]
  refine (charged_registry (V := fun _ reg => Tallied [] i.registry reg)
    (E := fun _ reg => Tallied [] i.registry reg)
    (F := fun _ reg => Tallied [] i.registry reg) ?_).mono ?_ (fun _ _ _ h => h)
    fun _ _ _ h => h
  · rw [Call.ensures_mapError, Registry.ensures_alone]
    have hopen := Registry.openContainer_tallied memory r.1 (some name) hs
    rw [← hj] at hopen ⊢
    exact (Call.ensures_ending _ _ _).mono (fun _ _ _ h => h.2 ▸ hopen)
      (fun _ _ _ h => h.2 ▸ hopen) fun _ _ _ h => h.2 ▸ hopen
  · intro _ j' _ hj'
    rw [Call.ensures_pure]
    exact hj'

theorem openFile_tallied (memory : Memory) (access : Access) (name : String)
    (hs : i.registry.Orderly) :
    (openFile memory access name :
      Call (Interceptor ω τ) InterceptError (Proxy η)).Ensures i ev
      (fun _ j _ => Tallied [] i.registry j.registry)
      (fun _ j _ => Tallied [] i.registry j.registry)
      (fun _ j _ => Tallied [] i.registry j.registry) := by
  rw [openFile]
  refine (startTimer_leaves (R := (· = i.registry))).ensures_bind rfl
    (fun _ _ hj => .of_eq hj) fun timer j ev hj => ?_
  refine (callLibrary_leaves (R := (· = i.registry)) _ _).ensures_bind hj
    (fun _ _ hj => .of_eq hj) fun r j ev hj => ?_
  rw [Call.ensures_bind, Call.ensures_onError]
  have hregister : (registerContainer memory (.file access) name r.1 r.2 :
      Call (Interceptor ω τ) _ _).Ensures j ev _ _ _ :=
    registerContainer_tallied memory _ name r.1 r.2 (hj ▸ hs)
  rw [hj] at hregister
  refine hregister.mono ?_ ?_ fun _ _ _ h => h
  · intro e j ev hj
    refine (finish_leaves (R := fun reg => Tallied [] i.registry reg) memory _
      timer e.2).ensures_bind hj (fun _ _ h => h) fun _ j ev hj => ?_
    rw [Call.ensures_bind, Call.ensures_state, Call.ensures_pure]
    exact hj
  · exact fun _ j ev hj => discardContainer_leaves r.1 j ev hj

omit [Library ω η τ] in
/-- A transfer through the proxy of a dataset does at its node what it records
    there, with the time that the library took. -/
theorem transfer_records (memory : Memory) (op : Operation) (proxy : Proxy η)
    {move : ω → Except Cause Unit × ω}
    {record : NodeHandle → Duration → Call (Registry τ Empty) RegistryError Nat}
    {V : NodeHandle → Nat → Registry τ Empty → Prop}
    (hrecord : ∀ (node : NodeHandle) (ev : List Event),
      (record node (timeOf move (Host.now i.world).2)).Ensures i.registry ev
        (fun bytes reg' _ => V node bytes reg')
        (fun _ reg' _ => reg' = i.registry)
        (fun _ reg' _ => reg' = i.registry)) :
    (transfer memory op proxy move record).Ensures i ev
      (fun bytes j _ => ∃ node, proxy.target = .object node ∧
        V node bytes j.registry)
      (fun _ j _ => j.registry = i.registry)
      (fun _ j _ => j.registry = i.registry) := by
  rw [transfer, Call.ensures_bind, Call.ensures_ofExcept]
  rcases datasetNode_cases op proxy with ⟨node, htarget, -, hnode⟩ | hnode
  · rw [hnode]
    dsimp only
    rw [Call.ensures_bind, ensures_startTimer, Call.ensures_bind]
    refine callLibrary_ensures (fun a w hw => ?_) fun cause w _ => rfl
    have htime : timeOf move (Host.now i.world).2
        = (Timer.start (Host.now (Host.now i.world).2).1).elapsed (Host.now w).1 := by
      rw [timeOf, hw]
    dsimp only
    rw [← htime, Call.ensures_bind]
    refine (charged_registry (V := fun bytes => V node bytes)
      (E := fun _ reg => reg = i.registry) (F := fun _ reg => reg = i.registry)
      ?_).mono ?_ (fun _ _ _ h => h) fun _ _ _ h => h
    · rw [Call.ensures_mapError, Registry.ensures_alone]
      exact hrecord node _
    · intro bytes j _ hj
      rw [Call.ensures_bind]
      refine finish_kept.mono ?_ (fun _ _ _ h => h.elim) fun _ _ _ h => h.elim
      intro _ j' _ hreg
      rw [Call.ensures_pure, hreg]
      exact ⟨node, htarget, hj⟩
  · rw [hnode]

/-- To wrap a handle counts as an access of its node, if it is tracked. -/
theorem wrapTracked_tallied (memory : Memory) (op : Operation)
    (home : WrapContext) (raw : η) (kind : Kind) (name : Option String)
    (h : i.registry.Consistent held)
    (hhome : ∃ c, i.registry.container? home.container = some c) :
    (wrapTracked memory op home raw kind name).Ensures i ev
      (fun found j _ => Tallied [.tracked found.node] i.registry j.registry)
      (fun _ j _ => j.registry = i.registry)
      (fun _ j _ => j.registry = i.registry) := by
  obtain ⟨c, hget⟩ := hhome
  rw [wrapTracked, Call.ensures_bind, ensures_startTimer, Call.ensures_bind,
    Call.ensures_onError]
  refine (callLibrary_kept (fun w => .objectInfo raw kind w)
    (Kept.start h).now).mono ?_
    (fun _ j ev he => discard_leaves (R := (· = i.registry)) kind raw j ev he.1)
    fun _ _ _ h => h.elim
  rintro ⟨info, library⟩ j _ ⟨hreg, hj⟩
  rw [Call.ensures_bind, Call.ensures_onError]
  refine (trackObject_tallied memory info kind name raw hj
    ⟨c, by rw [hreg]; exact hget⟩).mono ?_
    (fun _ j' ev he => discard_leaves (R := (· = i.registry)) kind raw j' ev
      (he.trans hreg)) fun _ _ _ hf => hf.trans hreg
  rintro node j' _ ⟨-, ht⟩
  rw [Call.ensures_pure]
  rw [hreg] at ht
  exact ht

/-! ## One operation -/

namespace Op

variable {op : Op η} {memory : Memory}

/-- What fails enters nothing at a node. -/
theorem entryMarks_of_failed {o : Outcome (Refusal η) (Answer η)}
    (ho : o.isValue = false) : op.entryMarks memory i o = [] := by
  cases o with
  | value a => cases ho
  | error e => cases op <;> rfl
  | fault f => cases op <;> rfl

theorem countMarks_of_failed {o : Outcome (Refusal η) (Answer η)}
    (ho : o.isValue = false) : op.countMarks o = [] := by
  cases o with
  | value a => cases ho
  | error e => cases op <;> rfl
  | fault f => cases op <;> rfl

theorem strayMarks_failed (access : Access) (parent : Proxy η) (kind : Kind)
    (name : String) (e : InterceptError) :
    (openObject access parent kind name).strayMarks memory i (.error (.failed e))
      = if e = shapeless then
          ((openObject access parent kind name).found? memory i).elim []
            fun found => [.counted access found.node.container found.node.kind]
        else [] := rfl

theorem strayMarks_value (a : Answer η) :
    op.strayMarks memory i (.value a) = [] := by
  cases op <;> rfl

/-- A mark is left astray only where an object was tracked and there was no memory
    for its shape.  It counts the object in its container. -/
theorem of_mem_strayMarks {o : Outcome (Refusal η) (Answer η)} {mark : Mark}
    (hmark : mark ∈ op.strayMarks memory i o) :
    o = .error (.failed shapeless) ∧ ∃ found access,
      op.found? memory i = some found ∧
      mark = .counted access found.node.container found.node.kind := by
  cases op with
  | openObject access parent kind name =>
      rcases o with a | e | f
      · cases hmark
      · cases e with
        | notClosed e => cases hmark
        | failed e =>
            rw [strayMarks_failed] at hmark
            by_cases he : e = shapeless
            · rw [if_pos he] at hmark
              cases hfound : (openObject access parent kind name).found? memory i with
              | none =>
                  rw [hfound] at hmark
                  cases hmark
              | some found =>
                  rw [hfound] at hmark
                  exact ⟨by rw [he], found, access, rfl, List.mem_singleton.mp hmark⟩
            · rw [if_neg he] at hmark
              cases hmark
      · cases hmark
  | _ => cases hmark

theorem strayMarks_eq_nil {o : Outcome (Refusal η) (Answer η)}
    (h : o = .error (.failed shapeless) → op.found? memory i = none) :
    op.strayMarks memory i o = [] := by
  refine List.eq_nil_iff_forall_not_mem.mpr fun mark hmark => ?_
  obtain ⟨ho, found, -, hfound, -⟩ := of_mem_strayMarks hmark
  rw [h ho] at hfound
  cases hfound

/-- No node is counted astray. -/
theorem node?_of_mem_strayMarks {o : Outcome (Refusal η) (Answer η)} {mark : Mark}
    (hmark : mark ∈ op.strayMarks memory i o) : mark.node? = none := by
  obtain ⟨-, found, access, -, rfl⟩ := of_mem_strayMarks hmark
  rfl

theorem tallyMarks_value (a : Answer η) :
    op.tallyMarks memory i (.value a) = op.marks memory i (.value a) := by
  rw [tallyMarks, strayMarks_value, List.nil_append]

/-- What fails is counted as an access of the node that it tracked, if it came to
    that. -/
theorem marks_of_failed {o : Outcome (Refusal η) (Answer η)}
    (ho : o.isValue = false) : op.marks memory i o = op.trackMarks memory i := by
  rw [marks, entryMarks_of_failed ho, countMarks_of_failed ho]
  rfl

/-- An operation that did not come to tracking anything counts as nothing if it
    fails. -/
theorem tallied_of_not_found {o : Outcome (Refusal η) (Answer η)}
    {reg : Registry τ Empty} (hfound : op.found? memory i = none)
    (ho : o.isValue = false) (hreg : reg = i.registry) :
    Tallied (op.tallyMarks memory i o) i.registry reg := by
  have hnil : op.tallyMarks memory i o = [] := by
    rw [tallyMarks, strayMarks_eq_nil fun _ => hfound, marks_of_failed ho, trackMarks,
      hfound]
    rfl
  rw [hnil]
  exact .of_eq hreg

theorem openObject_tallied (hs : SteadyClock ω) (access : Access)
    (parent : Proxy η) (kind : Kind) (name : String)
    (h : i.registry.Consistent held) (hparent : parent.target.reference ∈ held) :
    ((openObject access parent kind name).run memory).Ensures i []
      (fun a j _ => Tallied
        ((openObject access parent kind name).tallyMarks memory i (.value a))
        i.registry j.registry)
      (fun e j _ => Tallied
        ((openObject access parent kind name).tallyMarks memory i (.error e))
        i.registry j.registry)
      (fun f j _ => Tallied
        ((openObject access parent kind name).tallyMarks memory i (.fault f))
        i.registry j.registry) := by
  rw [run, Call.ensures_map, Call.ensures_mapError, openObject_eq,
    Call.ensures_bind]
  refine ((Call.ensures_ending _ i []).and
    (openTracked_tallied memory access parent kind name h hparent)).mono ?_ ?_ ?_
  · rintro found j ev ⟨⟨ho, rfl⟩, hj, ht⟩
    have hfound : (openObject access parent kind name).found? memory i
        = some found := by
      rw [found?, ho]
      rfl
    have hshape : (openObject access parent kind name).shape? memory i
        = told (.object access kind) found.node.kind found.raw
          (openTracked memory access parent kind name i).state := by
      rw [shape?, ho]
      rfl
    refine (describeFound_tallied hs memory access kind hj).mono ?_ ?_
      fun _ _ _ h => h.elim
    · rintro p j' _ ⟨htarget, ht', hw⟩
      have hall := ht.trans ht' hw
      rw [tallyMarks_value, marks, trackMarks, hfound, countMarks, entryMarks, htarget,
        hshape]
      exact hall
    · rintro e j' _ ⟨ht', hw⟩
      have hall := ht.trans ht' hw
      rw [tallyMarks, strayMarks_failed, marks_of_failed rfl, trackMarks, hfound]
      exact hall
  · rintro e j _ ⟨⟨ho, -⟩, hreg⟩
    exact tallied_of_not_found (by rw [found?, ho]; rfl) rfl hreg
  · rintro f j _ ⟨⟨ho, -⟩, hreg⟩
    exact tallied_of_not_found (by rw [found?, ho]; rfl) rfl hreg

/-- An operation that wraps a handle, from the call that tracks it. -/
theorem wraps_tallied {x : Call (Interceptor ω τ) InterceptError (Proxy η)}
    {wrapping : Operation} {home : WrapContext} {raw : η} {kind : Kind}
    {name : Option String}
    (hx : x = wrapUnder memory wrapping home raw kind name)
    (hfound : op.found? memory i
      = (wrapTracked memory wrapping home raw kind name i).outcome.value?)
    (hentry : ∀ p, op.entryMarks memory i (.value (.proxy p)) = [])
    (hcount : ∀ p, op.countMarks (.value (.proxy p)) = [])
    (h : i.registry.Consistent held)
    (hhome : ∃ c, i.registry.container? home.container = some c) :
    (Answer.proxy <$> x.mapError (Refusal.failed : _ → Refusal η)).Ensures i []
      (fun a j _ => Tallied (op.tallyMarks memory i (.value a)) i.registry j.registry)
      (fun e j _ => Tallied (op.tallyMarks memory i (.error e)) i.registry j.registry)
      (fun f j _ => Tallied (op.tallyMarks memory i (.fault f)) i.registry
        j.registry) := by
  rw [Call.ensures_map, Call.ensures_mapError, hx, wrapUnder_eq, Call.ensures_bind]
  refine ((Call.ensures_ending _ i []).and
    (wrapTracked_tallied memory wrapping home raw kind name h hhome)).mono ?_ ?_ ?_
  · rintro found j ev ⟨⟨ho, -⟩, ht⟩
    rw [Call.ensures_bind]
    refine finish_kept.mono ?_ (fun _ _ _ h => h.elim) fun _ _ _ h => h.elim
    intro _ j' _ hreg
    rw [Call.ensures_pure, hreg, tallyMarks_value, marks, trackMarks, hfound, ho,
      hentry, hcount]
    exact ht
  · rintro e j _ ⟨⟨ho, -⟩, hreg⟩
    exact tallied_of_not_found (by rw [hfound, ho]; rfl) rfl hreg
  · rintro f j _ ⟨⟨ho, -⟩, hreg⟩
    exact tallied_of_not_found (by rw [hfound, ho]; rfl) rfl hreg

/-- An operation that fails is at most counted where it was tracked. -/
theorem eq_tracked_of_mem_marks {o : Outcome (Refusal η) (Answer η)} {mark : Mark}
    (hmark : mark ∈ op.marks memory i o) (ho : o.isValue = false) :
    ∃ node, mark = .tracked node := by
  rw [marks_of_failed ho, trackMarks] at hmark
  cases hfound : op.found? memory i with
  | none =>
      rw [hfound] at hmark
      cases hmark
  | some found =>
      rw [hfound] at hmark
      exact ⟨found.node, List.mem_singleton.mp hmark⟩

/-- A transfer, from the call that does it. -/
theorem transfers_tallied {x : Call (Interceptor ω τ) InterceptError Nat}
    {move : ω → Except Cause Unit × ω} {proxy : Proxy η}
    {entry : Nat → Duration → Entry}
    (hx : x.Ensures i []
      (fun bytes j _ => ∃ node, proxy.target = .object node ∧
        Tallied [.entered node (entry bytes (timeOf move (Host.now i.world).2))]
          i.registry j.registry)
      (fun _ j _ => j.registry = i.registry)
      (fun _ j _ => j.registry = i.registry))
    (hentry : ∀ bytes, op.entryMarks memory i (.value (.bytes bytes))
      = proxy.target.node?.elim [] fun node =>
          [.entered node (entry bytes (timeOf move (Host.now i.world).2))])
    (hcount : ∀ bytes, op.countMarks (.value (.bytes bytes)) = [])
    (hfound : op.found? memory i = none) :
    (Answer.bytes <$> x.mapError (Refusal.failed : _ → Refusal η)).Ensures i []
      (fun a j _ => Tallied (op.tallyMarks memory i (.value a)) i.registry j.registry)
      (fun e j _ => Tallied (op.tallyMarks memory i (.error e)) i.registry j.registry)
      (fun f j _ => Tallied (op.tallyMarks memory i (.fault f)) i.registry
        j.registry) := by
  rw [Call.ensures_map, Call.ensures_mapError]
  refine hx.mono ?_ ?_ ?_
  · rintro bytes j _ ⟨node, htarget, ht⟩
    rw [tallyMarks_value, marks, trackMarks, hfound, hentry, hcount, htarget]
    exact ht
  · intro e j _ hreg
    exact tallied_of_not_found hfound rfl hreg
  · intro f j _ hreg
    exact tallied_of_not_found hfound rfl hreg

/-- An operation that counts nothing, from the call that does it. -/
theorem counts_nothing {α : Type} {x : Call (Interceptor ω τ) (Refusal η) α}
    {answer : α → Answer η}
    (hx : x.Keeps fun j _ => Registry.Uncounted i.registry j.registry)
    (hmarks : ∀ o, op.tallyMarks memory i o = []) (hs : i.registry.Orderly) :
    (answer <$> x).Ensures i []
      (fun a j _ => Tallied (op.tallyMarks memory i (.value a)) i.registry j.registry)
      (fun e j _ => Tallied (op.tallyMarks memory i (.error e)) i.registry j.registry)
      (fun f j _ => Tallied (op.tallyMarks memory i (.fault f)) i.registry
        j.registry) := by
  rw [Call.ensures_map]
  simp only [hmarks]
  exact (hx i [] (.refl hs)).mono (fun _ _ _ h => h.tallied)
    (fun _ _ _ h => h.tallied) fun _ _ _ h => h.tallied

/-- On a steady clock, an operation on what is owned is tallied with its marks,
    however it ends, and with those that it leaves astray. -/
theorem run_tallied (hs : SteadyClock ω) (memory : Memory)
    {spent rest : Multiset (Asset η)}
    (hop : op.Backed spent rest)
    (h : i.registry.Consistent (references (spent + rest))) :
    Tallied (op.tallyMarks memory i (op.run memory i).outcome) i.registry
      (op.run memory i).state.registry := by
  have hmem : ∀ {a : Asset η}, a ∈ rest →
      a.reference ∈ references (spent + rest) := fun ha =>
    reference_mem_references (Multiset.mem_add.mpr (Or.inr ha))
  have hclose : ∀ {ε : Type} (id : ContainerId), (Registry.closeContainer id :
      Call (Registry τ Empty) ε (Release Empty)).Keeps
        fun reg _ => Registry.Uncounted i.registry reg := fun id =>
    Registry.keeps_uncounted fun _ => Registry.closeContainer_uncounted id
  have huntrack : ∀ {ε : Type} (node : NodeHandle), (Registry.untrack node :
      Call (Registry τ Empty) ε (Release Empty)).Keeps
        fun reg _ => Registry.Uncounted i.registry reg := fun node =>
    Registry.keeps_uncounted fun _ => Registry.untrack_uncounted node
  have hrun : (op.run memory).Ensures i []
      (fun a j _ => Tallied (op.tallyMarks memory i (.value a)) i.registry j.registry)
      (fun e j _ => Tallied (op.tallyMarks memory i (.error e)) i.registry j.registry)
      (fun f j _ => Tallied (op.tallyMarks memory i (.fault f)) i.registry
        j.registry) := by
    cases op with
    | openFile access name =>
        rw [run, Call.ensures_map, Call.ensures_mapError]
        exact openFile_tallied memory access name h.orderly
    | closeFile proxy =>
        exact counts_nothing ((closeFile_leaves memory proxy hclose).mapError _)
          (fun _ => rfl) h.orderly
    | openObject access parent kind name =>
        exact openObject_tallied hs access parent kind name h (hmem hop.2)
    | closeObject proxy =>
        exact counts_nothing ((closeObject_leaves memory proxy huntrack).mapError _)
          (fun _ => rfl) h.orderly
    | readDataset proxy selected =>
        exact transfers_tallied
          (transfer_records memory _ proxy fun node _ =>
            (Registry.recordRead_tallied node selected _ h.orderly).mono
              (fun _ _ _ h => h.1) (fun _ _ _ h => h) fun _ _ _ h => h)
          (fun _ => rfl) (fun _ => rfl) rfl
    | writeDataset proxy selected =>
        exact transfers_tallied
          (transfer_records memory _ proxy fun node _ =>
            (Registry.recordWrite_tallied node selected _ h.orderly).mono
              (fun _ _ _ h => h.1) (fun _ _ _ h => h) fun _ _ _ h => h)
          (fun _ => rfl) (fun _ => rfl) rfl
    | pin proxy =>
        exact counts_nothing ((pin_leaves memory proxy fun id =>
          Registry.keeps_uncounted fun _ =>
            Registry.pinContainer_uncounted id).mapError _)
          (fun _ => rfl) h.orderly
    | unpin context =>
        exact counts_nothing (unpin_leaves memory context hclose)
          (fun _ => rfl) h.orderly
    | wrapObject raw kind context =>
        exact wraps_tallied rfl rfl (fun _ => rfl) (fun _ => rfl) h
          (h.present _ (hmem hop.2))
    | completeRequest parent raw kind name =>
        have hhome := h.present _ (hmem hop.2)
        rw [Asset.reference, Target.container_reference] at hhome
        exact wraps_tallied rfl rfl (fun _ => rfl) (fun _ => rfl) h hhome
    | unwrapObject proxy =>
        exact counts_nothing ((unwrapObject_leaves memory proxy huntrack).mapError _)
          (fun _ => rfl) h.orderly
  rcases ho : (op.run memory i).outcome with a | e | f
  · exact hrun.value ho
  · exact hrun.error ho
  · exact hrun.fault ho

end Op

end Interceptor

end Provenance
