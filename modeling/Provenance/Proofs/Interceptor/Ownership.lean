import Mathlib.Data.Multiset.MapFold
import Provenance.Interceptor.Op
import Provenance.Library.InMemory
import Provenance.Proofs.Interceptor.Upkeep
import Provenance.Proofs.Registry.Conservation

/-! # Ownership of proxies

    The callers of an interceptor own the proxies and contexts that it issued
    and that they did not give up since.  Over every run, whatever the library
    answers and whichever of its calls fail, the registry counts exactly what
    is owned.  So no operation faults on its bookkeeping, none finds a
    container closed or a node of the wrong kind, and nothing that the library
    released is refused by the registry.

    The invariant is that the registry is consistent with the references of
    what is owned; one operation keeps it (`Op.run_keeps`), hence every run
    does (`Reached.consistent`).  On a clock that jumps, an operation can also
    halt with a reference left over, so there may be others beside what is owned
    (`Op.run_counts`, `Reached.exists_consistent`). -/

namespace Provenance.Interceptor

variable {ω η τ : Type} {i : Interceptor ω τ}

/-- What a caller of an interceptor can own. -/
inductive Asset (η : Type) where
  | proxy (proxy : Proxy η)
  | context (context : WrapContext)

/-- What is owned is counted in the registry: a container proxy as an open of
    its container, an object proxy as a track of its node, a context as a pin. -/
def Asset.reference : Asset η → Reference
  | proxy p => p.target.reference
  | context c => .pinned c.container

/-- The references of all that is owned. -/
def references (owned : Multiset (Asset η)) : Multiset Reference :=
  owned.map Asset.reference

@[simp]
theorem references_singleton_add (a : Asset η) (owned : Multiset (Asset η)) :
    references ({a} + owned) = a.reference ::ₘ references owned := by
  rw [references, Multiset.map_add, Multiset.map_singleton,
    Multiset.singleton_add]
  rfl

theorem references_singleton_add_add (a : Asset η) (owned : Multiset (Asset η))
    (others : Multiset Reference) :
    references ({a} + owned) + others
      = a.reference ::ₘ (references owned + others) := by
  rw [references_singleton_add, Multiset.cons_add]

theorem reference_mem_references {a : Asset η} {owned : Multiset (Asset η)}
    (h : a ∈ owned) : a.reference ∈ references owned :=
  Multiset.mem_map_of_mem _ h

namespace Op

/-- An operation on what its caller owns: what it gives up is `spent`, and
    what it only uses is in the `rest`. -/
def Backed (spent rest : Multiset (Asset η)) : Op η → Prop
  | closeFile proxy => spent = {.proxy proxy}
  | closeObject proxy => spent = {.proxy proxy}
  | unwrapObject proxy => spent = {.proxy proxy}
  | unpin context => spent = {.context context}
  | openObject _ parent _ _ => spent = 0 ∧ .proxy parent ∈ rest
  | readDataset proxy _ => spent = 0 ∧ .proxy proxy ∈ rest
  | writeDataset proxy _ => spent = 0 ∧ .proxy proxy ∈ rest
  | pin proxy => spent = 0 ∧ .proxy proxy ∈ rest
  | wrapObject _ _ context => spent = 0 ∧ .context context ∈ rest
  | completeRequest parent _ _ _ => spent = 0 ∧ .proxy parent ∈ rest
  | openFile _ _ => spent = 0

/-- The operation sets up the entry of a container or of an object. -/
def SetsUp : Op η → Prop
  | openFile .. => True
  | openObject .. => True
  | wrapObject .. => True
  | completeRequest .. => True
  | _ => False

end Op

/-- What an answer issues. -/
def Answer.issued : Answer η → Multiset (Asset η)
  | proxy p => {.proxy p}
  | context c => {.context c}
  | remaining _ => 0
  | bytes _ => 0
  | raw _ => 0

/-- What is owned after an operation.  What was to be given up is only gone if
    the operation succeeded. -/
def settled (spent rest : Multiset (Asset η)) :
    Outcome (Refusal η) (Answer η) → Multiset (Asset η)
  | .value a => a.issued + rest
  | _ => spent + rest

/-! ## One operation -/

section

variable [Library ω η τ] [Host ω] {spent rest : Multiset (Asset η)}
  {others : Multiset Reference}

/-- An operation that sets up an entry, from the contract of its work. -/
theorem Op.keeps_of_setsUp {op : Op η}
    {x : Call (Interceptor ω τ) InterceptError (Proxy η)} (hop : op.SetsUp)
    (hspent : spent = 0)
    (hx : x.Ensures i []
      (fun p j _ =>
        j.registry.Consistent (p.target.reference ::ₘ (references rest + others)))
      (fun e j _ => j.registry.Consistent (references rest + others) ∧ e.Foreign)
      (fun f j _ => Halted ω (references rest + others) f j.registry)) :
    (Answer.proxy <$> x.mapError (Refusal.failed : _ → Refusal η)).Ensures i []
      (fun a j _ => j.registry.Consistent (references (a.issued + rest) + others))
      (fun e j _ => j.registry.Consistent (references (spent + rest) + others) ∧
        ∀ r, e.error = .registry r → r.Foreign ∧ op.SetsUp)
      (fun f j _ => Halted ω (references (spent + rest) + others) f j.registry) := by
  rw [Call.ensures_map, Call.ensures_mapError, hspent, Multiset.zero_add]
  refine hx.mono ?_ ?_ fun _ _ _ h => h
  · intro p j _ hj
    rw [Answer.issued, references_singleton_add_add]
    exact hj
  · intro e j _ ⟨hj, he⟩
    refine ⟨hj, ?_⟩
    rintro r rfl
    exact ⟨he, hop⟩

/-- An operation that issues nothing, from the contract of its work: it gives
    up what is spent, or leaves the registry alone. -/
theorem Op.keeps_of_issues_none {α ε : Type} {op : Op η}
    {x : Call (Interceptor ω τ) ε α} {answer : α → Answer η}
    {refusal : ε → Refusal η} (hanswer : ∀ a, (answer a).issued = 0)
    (h : i.registry.Consistent (references (spent + rest) + others))
    (hx : x.Ensures i []
      (fun _ j _ => j.registry.Consistent (references rest + others))
      (fun e j _ => j.registry = i.registry ∧
        ∀ r, (refusal e).error ≠ .registry r)
      (fun _ _ _ => False)) :
    (answer <$> x.mapError refusal).Ensures i []
      (fun a j _ => j.registry.Consistent (references (a.issued + rest) + others))
      (fun e j _ => j.registry.Consistent (references (spent + rest) + others) ∧
        ∀ r, e.error = .registry r → r.Foreign ∧ op.SetsUp)
      (fun f j _ => Halted ω (references (spent + rest) + others) f j.registry) := by
  rw [Call.ensures_map, Call.ensures_mapError]
  refine hx.mono ?_ ?_ fun _ _ _ h => h.elim
  · intro a j _ hj
    rw [hanswer, Multiset.zero_add]
    exact hj
  · intro e j _ ⟨hreg, he⟩
    rw [hreg]
    exact ⟨h, fun r hr => absurd hr (he r)⟩

/-- An operation on what its caller owns keeps the registry in step with what
    is owned, beside what else it counts.  Only setting up an entry can fail in
    the registry, for reasons outside the bookkeeping. -/
theorem Op.run_counts (memory : Memory) (op : Op η) (hop : op.Backed spent rest)
    (h : i.registry.Consistent (references (spent + rest) + others)) :
    (op.run memory).Ensures i []
      (fun a j _ => j.registry.Consistent (references (a.issued + rest) + others))
      (fun e j _ => j.registry.Consistent (references (spent + rest) + others) ∧
        ∀ r, e.error = .registry r → r.Foreign ∧ op.SetsUp)
      (fun f j _ => Halted ω (references (spent + rest) + others) f j.registry) := by
  have hfree : spent = 0 → i.registry.Consistent (references rest + others) := by
    rintro rfl
    rwa [Multiset.zero_add] at h
  -- a failure that leaves the registry alone
  have hsame : spent = 0 → ∀ {j : Interceptor ω τ}, j.registry = i.registry →
      j.registry.Consistent (references rest + others) := by
    intro hspent j hreg
    rw [hreg]
    exact hfree hspent
  have hmem : ∀ {a : Asset η}, a ∈ rest →
      a.reference ∈ references rest + others := fun ha =>
    Multiset.mem_add.mpr (Or.inl (reference_mem_references ha))
  cases op with
  | openFile access name =>
      refine keeps_of_setsUp trivial hop
        ((openFile_kept memory access name (hfree hop)).mono
          (fun _ _ _ h => h) ?_ ?_)
      · exact fun e j _ ⟨hreg, he⟩ => ⟨hsame hop hreg, he⟩
      · exact fun f j _ ⟨hreg, hs⟩ => halted_of_jump 0
          ((Multiset.zero_add _).symm ▸ hsame hop hreg) hs
  | closeFile proxy =>
      obtain rfl : spent = {.proxy proxy} := hop
      have hheld := h
      rw [references_singleton_add_add] at hheld
      exact keeps_of_issues_none (fun _ => rfl) h
        (closeFile_kept memory proxy hheld)
  | openObject access parent kind name =>
      obtain ⟨hspent, hparent⟩ := hop
      exact keeps_of_setsUp trivial hspent
        (openObject_kept memory access parent kind name (hfree hspent)
          (hmem hparent))
  | closeObject proxy =>
      obtain rfl : spent = {.proxy proxy} := hop
      have hheld := h
      rw [references_singleton_add_add] at hheld
      exact keeps_of_issues_none (fun _ => rfl) h
        (closeObject_kept memory proxy hheld)
  | readDataset proxy selected =>
      obtain ⟨hspent, hproxy⟩ := hop
      exact keeps_of_issues_none (fun _ => rfl) h
        (readDataset_kept memory proxy selected (hfree hspent) (hmem hproxy))
  | writeDataset proxy selected =>
      obtain ⟨hspent, hproxy⟩ := hop
      exact keeps_of_issues_none (fun _ => rfl) h
        (writeDataset_kept memory proxy selected (hfree hspent) (hmem hproxy))
  | pin proxy =>
      obtain ⟨hspent, hproxy⟩ := hop
      rw [run, Call.ensures_map, Call.ensures_mapError]
      refine (pin_kept memory proxy (hfree hspent) (hmem hproxy)).mono ?_
        (fun _ _ _ h => h.elim) fun _ _ _ h => h.elim
      intro context j _ hj
      rw [Answer.issued, references_singleton_add_add]
      exact hj
  | unpin context =>
      obtain rfl : spent = {.context context} := hop
      rw [references_singleton_add_add] at h
      rw [run, Call.ensures_map]
      refine (unpin_kept memory context h).mono ?_ (fun _ _ _ h => h.elim)
        fun _ _ _ h => h.elim
      intro n j _ hj
      rw [Answer.issued, Multiset.zero_add]
      exact hj
  | wrapObject raw kind context =>
      obtain ⟨hspent, hcontext⟩ := hop
      have hhome := (hfree hspent).present _ (hmem hcontext)
      refine keeps_of_setsUp trivial hspent
        ((wrapUnder_kept memory .wrap context raw kind none (hfree hspent)
          hhome).mono (fun _ _ _ h => h) ?_ ?_)
      · exact fun e j _ ⟨hreg, he⟩ => ⟨hsame hspent hreg, he⟩
      · exact fun f j _ ⟨hreg, hf⟩ => halted_of_faults (hsame hspent hreg) hf
  | completeRequest parent raw kind name =>
      obtain ⟨hspent, hparent⟩ := hop
      have hhome := (hfree hspent).present _ (hmem hparent)
      rw [Asset.reference, Target.container_reference] at hhome
      refine keeps_of_setsUp trivial hspent
        ((wrapUnder_kept memory .complete
          ⟨parent.connector, parent.target.containerId⟩ raw kind name
          (hfree hspent) hhome).mono (fun _ _ _ h => h) ?_ ?_)
      · exact fun e j _ ⟨hreg, he⟩ => ⟨hsame hspent hreg, he⟩
      · exact fun f j _ ⟨hreg, hf⟩ => halted_of_faults (hsame hspent hreg) hf
  | unwrapObject proxy =>
      obtain rfl : spent = {.proxy proxy} := hop
      have hheld := h
      rw [references_singleton_add_add] at hheld
      exact keeps_of_issues_none (fun _ => rfl) h
        (unwrapObject_kept memory proxy hheld)

/-- On a steady clock, the registry counts exactly what is owned after an
    operation, and only a comparison faults. -/
theorem Op.run_keeps (hs : SteadyClock ω) (memory : Memory) (op : Op η)
    (hop : op.Backed spent rest)
    (h : i.registry.Consistent (references (spent + rest))) :
    (op.run memory).Ensures i []
      (fun a j _ => j.registry.Consistent (references (a.issued + rest)))
      (fun e j _ => j.registry.Consistent (references (spent + rest)) ∧
        ∀ r, e.error = .registry r → r.Foreign ∧ op.SetsUp)
      (fun f j _ => j.registry.Consistent (references (spent + rest)) ∧
        Identity.Faults ω f) := by
  have hcounts : i.registry.Consistent (references (spent + rest) + 0) := by
    rwa [Multiset.add_zero]
  have hrun := Op.run_counts memory op hop hcounts
  simp only [Multiset.add_zero] at hrun
  refine hrun.mono (fun _ _ _ h => h) (fun _ _ _ h => h) ?_
  rintro f j _ ⟨leaked, hreg, hleaked⟩
  obtain ⟨rfl, hf⟩ := hleaked hs
  rw [Multiset.zero_add] at hreg
  exact ⟨hreg, hf⟩

/-! ## Every run -/

/-- The states that a run can reach, with what is then owned: it starts with a
    new interceptor, each operation works on what is owned, and between two
    operations the world may become any other. -/
inductive Reached : Multiset (Asset η) → Interceptor ω τ → Prop
  | start (memory : Memory) (config : Config) (w : ω) {i : Interceptor ω τ}
      (h : ofConfig memory config w = .ok i) : Reached 0 i
  | step {i : Interceptor ω τ} (memory : Memory) (op : Op η)
      (spent rest : Multiset (Asset η)) (h : Reached (spent + rest) i)
      (hop : op.Backed spent rest) :
      Reached (settled spent rest (op.run memory i).outcome)
        (op.run memory i).state
  | other {owned : Multiset (Asset η)} {i : Interceptor ω τ} (w : ω)
      (h : Reached owned i) : Reached owned { i with world := w }

omit [Library ω η τ] [Host ω] in
theorem of_ofConfig {memory : Memory} {config : Config} {w : ω}
    (h : ofConfig memory config w = .ok i) :
    i.world = w ∧ i.registry = .ofConfig config := by
  rw [ofConfig] at h
  cases hstats : StatsTable.ofConfig memory config with
  | ok stats =>
      rw [hstats] at h
      cases h
      exact ⟨rfl, rfl⟩
  | error e =>
      rw [hstats] at h
      cases h

theorem Reached.consistent {owned : Multiset (Asset η)} (hs : SteadyClock ω)
    (h : Reached owned i) : i.registry.Consistent (references owned) := by
  induction h with
  | start memory config w h =>
      rw [(of_ofConfig h).2]
      exact Registry.consistent_ofConfig config
  | @step i memory op spent rest _ hop ih =>
      have hrun := Op.run_keeps hs memory op hop ih
      rcases ho : (op.run memory i).outcome with a | e | f
      · exact hrun.value ho
      · exact (hrun.error ho).1
      · exact (hrun.fault ho).1
  | other w _ ih => exact ih

/-- On any clock, the registry counts what is owned, and may count references
    that were left over where the clock jumped. -/
theorem Reached.exists_consistent {owned : Multiset (Asset η)}
    (h : Reached owned i) :
    ∃ others, i.registry.Consistent (references owned + others) := by
  induction h with
  | start memory config w h =>
      rw [(of_ofConfig h).2]
      exact ⟨0, Registry.consistent_ofConfig config⟩
  | @step i memory op spent rest _ hop ih =>
      obtain ⟨others, ih⟩ := ih
      have hrun := Op.run_counts memory op hop ih
      rcases ho : (op.run memory i).outcome with a | e | f
      · exact ⟨others, hrun.value ho⟩
      · exact ⟨others, (hrun.error ho).1⟩
      · obtain ⟨leaked, hreg, -⟩ := hrun.fault ho
        rw [Multiset.add_comm, Multiset.add_assoc] at hreg
        exact ⟨others + leaked, hreg⟩
  | other w _ ih => exact ih

/-- In every state that a run reaches, the registry counts what is owned.  No
    operation on what is owned ends in a fault, unless a comparison of the
    library does, and the registry only ever fails operations that set up an
    entry, for reasons outside the bookkeeping. -/
theorem Reached.bookkeeping {owned : Multiset (Asset η)} (hs : SteadyClock ω)
    (h : Reached owned i) :
    i.registry.Accounted (references owned) ∧
      ∀ (memory : Memory) (op : Op η) (spent rest : Multiset (Asset η)),
        owned = spent + rest → op.Backed spent rest →
        (∀ f, (op.run memory i).outcome = .fault f → Identity.Faults ω f) ∧
        (∀ e r, (op.run memory i).outcome = .error e → e.error = .registry r →
          r.Foreign ∧ op.SetsUp) := by
  refine ⟨(h.consistent hs).accounted, ?_⟩
  rintro memory op spent rest rfl hop
  have hrun := Op.run_keeps hs memory op hop (h.consistent hs)
  exact ⟨fun f hf => (hrun.fault hf).2, fun e r he hr => (hrun.error he).2 r hr⟩

/-- A file is opened, an object created in it, and the file opened once more
    and closed once. -/
theorem bookkeeping_of_shared_file :
    ∃ i : Interceptor InMemory.World Token,
      Reached
        ({.proxy ⟨⟨0x1020, ⟨1⟩⟩, ⟨1⟩, .object ⟨⟨1⟩, .group, ⟨1⟩⟩⟩}
          + {.proxy ⟨⟨0x1010, ⟨1⟩⟩, ⟨1⟩, .container ⟨1⟩⟩}) i ∧
        i.registry.Accounted
          ({.tracked ⟨⟨1⟩, .group, ⟨1⟩⟩} + {.opened ⟨1⟩}) := by
  have hs : SteadyClock InMemory.World := Or.inl fun w => ⟨w.clock, rfl⟩
  have hstart := Reached.start Memory.addressSpace
    { Config.default with statsCapacity := 1 } (InMemory.World.new ⟨1⟩) rfl
  have hfile := hstart.step Memory.addressSpace
    (.openFile .created "f" : Op InMemory.Handle) 0 0 rfl
  have hobject := hfile.step Memory.addressSpace
    (.openObject .created ⟨⟨0x1010, ⟨1⟩⟩, ⟨1⟩, .container ⟨1⟩⟩ .group "g" :
      Op InMemory.Handle) 0
    {.proxy ⟨⟨0x1010, ⟨1⟩⟩, ⟨1⟩, .container ⟨1⟩⟩}
    ⟨rfl, Multiset.mem_singleton_self _⟩
  have hagain := hobject.step Memory.addressSpace
    (.openFile .opened "f" : Op InMemory.Handle) 0
    ({.proxy ⟨⟨0x1020, ⟨1⟩⟩, ⟨1⟩, .object ⟨⟨1⟩, .group, ⟨1⟩⟩⟩}
      + {.proxy ⟨⟨0x1010, ⟨1⟩⟩, ⟨1⟩, .container ⟨1⟩⟩}) rfl
  have hclosed := hagain.step Memory.addressSpace
    (.closeFile ⟨⟨0x1030, ⟨1⟩⟩, ⟨1⟩, .container ⟨1⟩⟩ : Op InMemory.Handle)
    {.proxy ⟨⟨0x1030, ⟨1⟩⟩, ⟨1⟩, .container ⟨1⟩⟩}
    ({.proxy ⟨⟨0x1020, ⟨1⟩⟩, ⟨1⟩, .object ⟨⟨1⟩, .group, ⟨1⟩⟩⟩}
      + {.proxy ⟨⟨0x1010, ⟨1⟩⟩, ⟨1⟩, .container ⟨1⟩⟩}) rfl
  exact ⟨_, hclosed, (hclosed.bookkeeping hs).1⟩

end

end Provenance.Interceptor
