import Mathlib.Data.Multiset.AddSub
import Provenance.Proofs.Registry.Upkeep
import Provenance.Registry.Op

/-! # Conservation of references

    The clients of a registry hold what its operations handed out and what they
    did not yet give back.  Over every run, in which operations come in any
    order and only give back what is held, the registry counts exactly the
    references held: an entry is there as long as there is a reference to it,
    and no operation finds its bookkeeping broken.

    The invariant is `Consistent`; one operation keeps it (`Op.run_ensures`),
    hence every run does (`Reached.consistent`).  What it says about single
    containers and nodes is `Accounted`. -/

namespace Provenance

/-! ## References in all -/

namespace Reference

variable {id : ContainerId} {held refs : Multiset Reference}

theorem holds_cons_of_not_isHold {r : Reference} (h : ¬ r.IsHold id) :
    holds (r ::ₘ held) id = holds held id := by
  rw [holds, holds, Multiset.count_cons_of_ne fun heq => h (Or.inl heq.symm),
    Multiset.count_cons_of_ne fun heq => h (Or.inr heq.symm)]

theorem holds_le_card (held : Multiset Reference) (id : ContainerId) :
    holds held id ≤ held.card := by
  induction held using Multiset.induction with
  | empty => simp [holds]
  | cons r held ih =>
      rw [Multiset.card_cons]
      by_cases hr : r.IsHold id
      · rw [holds_cons_of_isHold hr]
        exact Nat.succ_le_succ ih
      · rw [holds_cons_of_not_isHold hr]
        exact Nat.le_succ_of_le ih

/-- The opens and pins of a container come on top of any other references. -/
theorem holds_add_card_le (id : ContainerId) (hle : refs ≤ held)
    (hrefs : ∀ r ∈ refs, ¬ r.IsHold id) :
    holds held id + refs.card ≤ held.card := by
  obtain ⟨others, rfl⟩ := Multiset.le_iff_exists_add.mp hle
  have ho : refs.count (opened id) = 0 :=
    Multiset.count_eq_zero.mpr fun hmem => hrefs _ hmem (Or.inl rfl)
  have hp : refs.count (pinned id) = 0 :=
    Multiset.count_eq_zero.mpr fun hmem => hrefs _ hmem (Or.inr rfl)
  have hholds : holds (refs + others) id = holds others id := by
    rw [holds, holds, Multiset.count_add, Multiset.count_add, ho, hp]
    omega
  have hcard := holds_le_card others id
  rw [hholds, Multiset.card_add]
  omega

end Reference

namespace Container

variable {τ ρ : Type} {held : Multiset Reference} {next : Nat}
  {id : ContainerId} {c : Container τ ρ}

/-- One reference for each node of a container. -/
def nodeReferences (id : ContainerId) (c : Container τ ρ) : List Reference :=
  Kind.all.flatMap fun k =>
    (c.nodes.get k).entries.map fun e => .tracked ⟨id, k, e.1⟩

theorem length_nodeReferences (id : ContainerId) (c : Container τ ρ) :
    (c.nodeReferences id).length = c.nodeCount := by
  simp [nodeReferences, nodeCount, IdMap.size, List.length_flatMap,
    List.sum_eq_foldr, List.foldr_map]

theorem nodup_nodeReferences (id : ContainerId) (c : Container τ ρ) :
    (c.nodeReferences id).Nodup := by
  refine List.nodup_flatMap.mpr ⟨fun k _ => ?_, ?_⟩
  · refine List.Pairwise.map _ ?_ (c.nodes.get k).ascending
    intro a b hlt heq
    have hid : a.1 = b.1 := by
      simpa using heq
    rw [hid] at hlt
    exact Nat.lt_irrefl _ hlt
  · refine List.Pairwise.imp ?_ (by decide : Kind.all.Nodup)
    intro k k' hne r hr hr'
    obtain ⟨e, -, rfl⟩ := List.mem_map.mp hr
    obtain ⟨e', -, heq⟩ := List.mem_map.mp hr'
    have hk : k' = k ∧ e'.1 = e.1 := by
      simpa using heq
    exact hne hk.1.symm

theorem of_mem_nodeReferences {r : Reference} (hr : r ∈ c.nodeReferences id) :
    ∃ k m n, c.node? k m = some n ∧ r = .tracked ⟨id, k, m⟩ := by
  obtain ⟨k, -, hr⟩ := List.mem_flatMap.mp hr
  obtain ⟨⟨m, n⟩, he, rfl⟩ := List.mem_map.mp hr
  exact ⟨k, m, n, IdMap.get?_eq_some_iff.mpr he, rfl⟩

/-- No count of a balanced entry passes the number of references held, so with
    fewer than `2 ^ 32` of those it fits a word of 32 bits. -/
theorem Balanced.refcount_le_card (h : c.Balanced held next id) :
    c.refcount ≤ held.card := by
  have hle : (c.nodeReferences id : Multiset Reference) ≤ held := by
    refine (Multiset.le_iff_subset
      (Multiset.coe_nodup.mpr (nodup_nodeReferences id c))).mpr ?_
    intro r hr
    obtain ⟨k, m, n, hn, rfl⟩ := of_mem_nodeReferences hr
    refine Multiset.count_pos.mp ?_
    rw [h.count_tracked hn]
    exact h.referenced hn
  have hcard := Reference.holds_add_card_le id hle fun r hr => by
    obtain ⟨k, m, n, -, rfl⟩ := of_mem_nodeReferences hr
    rintro (heq | heq) <;> cases heq
  rw [Multiset.coe_card, length_nodeReferences] at hcard
  rw [h.refcount_eq]
  exact hcard

end Container

/-! ## What a consistent registry tells -/

namespace Registry

variable {ω η τ ρ : Type} {reg : Registry τ ρ} {held spent rest : Multiset Reference}

/-- The registry is as the references held say: which containers and nodes
    there are, and how many references each of them counts. -/
structure Accounted (held : Multiset Reference) (reg : Registry τ ρ) : Prop where
  /-- A container is open while it is opened, pinned or has a node. -/
  container_iff : ∀ id, (∃ c, reg.container? id = some c) ↔
    .opened id ∈ held ∨ .pinned id ∈ held ∨
      ∃ node n, node.container = id ∧ reg.node? node = some n
  /-- Its count is that of its opens, its pins and its nodes of all kinds. -/
  refcount_eq : ∀ {id c}, reg.container? id = some c →
    c.refcount = held.count (.opened id) + held.count (.pinned id)
      + c.nodeCount
  /-- A node is there while its handle is tracked. -/
  node_iff : ∀ node, (∃ n, reg.node? node = some n) ↔ .tracked node ∈ held
  /-- Its count is that of its tracks. -/
  nodeRefcount_eq : ∀ {node n}, reg.node? node = some n →
    n.handle = node ∧ n.refcount = held.count (.tracked node)
  /-- No count passes the number of references held. -/
  bounded : ∀ {id c}, reg.container? id = some c → c.refcount ≤ held.card ∧
    ∀ {k m n}, c.node? k m = some n → n.refcount ≤ held.card

/-- A node is there just when it is tracked. -/
theorem Balanced.node_iff (h : reg.Balanced held) (node : NodeHandle) :
    (∃ n, reg.node? node = some n) ↔ .tracked node ∈ held := by
  constructor
  · rintro ⟨n, hn⟩
    obtain ⟨c, hget, hn⟩ := node?_eq_some_iff.mp hn
    refine Multiset.count_pos.mp ?_
    rw [(h.entry hget).count_tracked hn]
    exact (h.entry hget).referenced hn
  · intro hmem
    obtain ⟨c, hget⟩ : ∃ c, reg.container? node.container = some c :=
      h.present _ hmem
    obtain ⟨n, hn⟩ := (h.entry hget).exists_node hmem
    exact ⟨n, node?_eq_some_iff.mpr ⟨c, hget, hn⟩⟩

/-- A container with references is opened, pinned or has a node. -/
theorem Balanced.exists_reference (h : reg.Balanced held) {id : ContainerId}
    {c : Container τ ρ} (hget : reg.container? id = some c)
    (hpos : 0 < c.refcount) : ∃ r ∈ held, r.container = id := by
  by_cases ho : .opened id ∈ held
  · exact ⟨_, ho, rfl⟩
  by_cases hp : .pinned id ∈ held
  · exact ⟨_, hp, rfl⟩
  have hcount := (h.entry hget).refcount_eq
  rw [Reference.holds, Multiset.count_eq_zero.mpr ho,
    Multiset.count_eq_zero.mpr hp, ← Container.length_nodeReferences id] at hcount
  obtain ⟨r, hr⟩ := List.exists_mem_of_length_pos (l := c.nodeReferences id)
    (by omega)
  obtain ⟨k, m, n, hn, rfl⟩ := Container.of_mem_nodeReferences hr
  exact ⟨_, (h.node_iff ⟨id, k, m⟩).mp ⟨n, node?_eq_some_iff.mpr ⟨c, hget, hn⟩⟩,
    rfl⟩

theorem Consistent.accounted (h : reg.Consistent held) : reg.Accounted held where
  container_iff id := by
    constructor
    · rintro ⟨c, hget⟩
      obtain ⟨r, hr, rfl⟩ := h.exists_reference hget (h.occupied hget)
      cases r with
      | opened id => exact Or.inl hr
      | pinned id => exact Or.inr (Or.inl hr)
      | tracked node =>
          obtain ⟨n, hn⟩ := (h.node_iff node).mpr hr
          exact Or.inr (Or.inr ⟨node, n, rfl, hn⟩)
    · rintro (ho | hp | ⟨node, n, rfl, hn⟩)
      · exact h.present _ ho
      · exact h.present _ hp
      · exact (node?_eq_some_iff.mp hn).imp fun c hc => hc.1
  refcount_eq hget := (h.entry hget).refcount_eq
  node_iff := h.node_iff
  nodeRefcount_eq hn := by
    obtain ⟨c, hget, hn⟩ := node?_eq_some_iff.mp hn
    exact ⟨(h.entry hget).handle_eq hn, ((h.entry hget).count_tracked hn).symm⟩
  bounded hget := by
    refine ⟨(h.entry hget).refcount_le_card, fun hn => ?_⟩
    rw [← (h.entry hget).count_tracked hn]
    exact Multiset.count_le_card _ _

/-! ### What is left at the end -/

theorem mem_leaks_iff {l : Leak} :
    l ∈ reg.leaks ↔ ∃ id c, reg.container? id = some c ∧ leak c = l := by
  rw [leaks, List.mem_map]
  constructor
  · rintro ⟨c, hc, hl⟩
    obtain ⟨id, hget⟩ := IdMap.mem_values_iff.mp hc
    exact ⟨id, c, hget, hl⟩
  · rintro ⟨id, c, hget, hl⟩
    exact ⟨c, IdMap.mem_values_iff.mpr ⟨id, hget⟩, hl⟩

/-- Nothing leaks just when nothing is held. -/
theorem Consistent.leaks_eq_nil_iff (h : reg.Consistent held) :
    reg.leaks = [] ↔ held = 0 := by
  constructor
  · intro hnil
    refine Multiset.eq_zero_of_forall_notMem fun r hr => ?_
    obtain ⟨c, hget⟩ := h.present r hr
    have hmem : leak c ∈ reg.leaks := mem_leaks_iff.mpr ⟨_, c, hget, rfl⟩
    rw [hnil] at hmem
    exact List.not_mem_nil hmem
  · rintro rfl
    refine List.eq_nil_iff_forall_not_mem.mpr fun l hl => ?_
    obtain ⟨id, c, hget, -⟩ := mem_leaks_iff.mp hl
    obtain ⟨r, hr, -⟩ := h.exists_reference hget (h.occupied hget)
    exact Multiset.notMem_zero r hr

/-- Where only opens of containers are held, a container leaks with the opens
    of it and without nodes. -/
theorem Consistent.leak_of_opened (h : reg.Consistent held)
    (hopened : ∀ r ∈ held, ∃ id, r = .opened id) {l : Leak}
    (hl : l ∈ reg.leaks) :
    .opened l.id ∈ held ∧ l.refcount = held.count (.opened l.id) ∧
      ∀ k, l.counts.get k = 0 := by
  obtain ⟨id, c, hget, rfl⟩ := mem_leaks_iff.mp hl
  have hentry := h.entry hget
  obtain rfl : c.id = id := hentry.id_eq
  have hpinned : .pinned c.id ∉ held := by
    intro hr
    obtain ⟨id, heq⟩ := hopened _ hr
    cases heq
  have hnodes : c.nodeReferences c.id = [] := by
    refine List.eq_nil_iff_forall_not_mem.mpr fun r hr => ?_
    obtain ⟨k, m, n, hn, rfl⟩ := Container.of_mem_nodeReferences hr
    obtain ⟨id, heq⟩ := hopened _ ((h.node_iff ⟨c.id, k, m⟩).mp
      ⟨n, node?_eq_some_iff.mpr ⟨c, hget, hn⟩⟩)
    cases heq
  have hcount : c.nodeCount = 0 := by
    rw [← Container.length_nodeReferences c.id, hnodes]
    rfl
  have hrefcount : c.refcount = held.count (.opened c.id) := by
    rw [hentry.refcount_eq, hcount, Reference.holds,
      Multiset.count_eq_zero.mpr hpinned]
    rfl
  refine ⟨?_, hrefcount, fun k => ?_⟩
  · refine Multiset.count_pos.mp ?_
    rw [show (leak c).id = c.id from rfl, ← hrefcount]
    exact h.occupied hget
  · have hsize : (c.nodes.get k).size ≤ c.nodeCount := by
      rw [Container.nodeCount]
      cases k <;> simp only [Kind.all, List.foldr_cons, List.foldr_nil] <;> omega
    rw [show (leak c).counts = c.counts from rfl, hentry.counts_eq]
    omega

/-- A check of the registry does not change it. -/
theorem verifyOpenThings_ensures {ev : List Event} (containers datasets : Nat) :
    (verifyOpenThings containers datasets).Ensures reg ev
      (fun _ reg' _ => reg' = reg) (fun _ reg' _ => reg' = reg)
      (fun _ _ _ => False) := by
  simp only [Call.Ensures, verifyOpenThings]
  by_cases h : reg.containerCount = containers ∧
      reg.openNodeCount .dataset = datasets
  · rw [if_pos h]
  · rw [if_neg h]

/-! ## One operation -/

namespace Op

/-- An operation that the references held allow: what it gives back of them is
    `spent`, and what it works on is in the `rest`. -/
def Backed (spent rest : Multiset Reference) : Op η τ ρ → Prop
  | closeContainer id => ∃ r : Reference, r.IsHold id ∧ spent = {r}
  | untrack node => spent = {.tracked node}
  | setDatasetShape node _ _ => spent = 0 ∧ .tracked node ∈ rest
  | recordRead node _ _ => spent = 0 ∧ .tracked node ∈ rest
  | recordWrite node _ _ => spent = 0 ∧ .tracked node ∈ rest
  | recordCommit node => spent = 0 ∧ .tracked node ∈ rest
  | recordGet node => spent = 0 ∧ .tracked node ∈ rest
  | recordOp node => spent = 0 ∧ .tracked node ∈ rest
  | _ => spent = 0

/-- The reference that an answer hands out, if any. -/
def gained : Op η τ ρ → Answer τ ρ → Multiset Reference
  | openContainer id _, _ => {.opened id}
  | pinContainer id, _ => {.pinned id}
  | track .., .node handle => {.tracked handle}
  | trackIn .., .node handle => {.tracked handle}
  | _, _ => 0

/-- The references held after an operation: what it was given is only gone if
    it succeeded. -/
def settled (op : Op η τ ρ) (spent rest : Multiset Reference) :
    Outcome RegistryError (Answer τ ρ) → Multiset Reference
  | .value a => op.gained a + rest
  | _ => spent + rest

section

variable [Identity ω η τ] {w : ω}

/-- An operation on the registry alone, from a contract of its own. -/
theorem ensures_map_alone {α : Type} {op : Op η τ ρ}
    {x : Call (Registry τ ρ) RegistryError α} {g : α → Answer τ ρ}
    {E : RegistryError → Prop}
    (hg : ∀ a, op.gained (g a) + rest = held)
    (hx : x.Ensures reg [] (fun _ reg' ev' => ev' = [] ∧ reg'.Consistent held)
      (fun e reg' ev' => ev' = [] ∧ reg' = reg ∧ E e) fun _ _ _ => False) :
    (g <$> (alone x : Call (ω × Registry τ ρ) RegistryError α)).Ensures (w, reg) []
      (fun a s _ => s.2.Consistent (op.gained a + rest))
      (fun _ s _ => s.2 = reg)
      (fun f s _ => s.2 = reg ∧ Identity.Faults ω f) := by
  rw [Call.ensures_map, ensures_alone]
  refine hx.mono ?_ ?_ fun _ _ _ h => h.elim
  · intro a reg' ev' ⟨_, hreg⟩
    rw [hg]
    exact hreg
  · exact fun e reg' ev' ⟨_, hreg, _⟩ => hreg

/-- Operations that the references held allow keep a registry consistent.
    One that fails leaves it as it was, and one that faults does so only where
    a comparison of the library did. -/
theorem run_ensures (memory : Memory) (op : Op η τ ρ)
    (hop : op.Backed spent rest) (h : reg.Consistent (spent + rest)) :
    (op.run memory).Ensures (w, reg) []
      (fun a s _ => s.2.Consistent (op.gained a + rest))
      (fun _ s _ => s.2 = reg)
      (fun f s _ => s.2 = reg ∧ Identity.Faults ω f) := by
  have hfree : spent = 0 → reg.Consistent rest := by
    rintro rfl
    rwa [Multiset.zero_add] at h
  have hzero : (0 : Multiset Reference) + rest = rest := Multiset.zero_add rest
  cases op with
  | openContainer id name =>
      exact ensures_map_alone (fun _ => Multiset.singleton_add _ rest)
        (openContainer_ensures memory name (hfree hop))
  | pinContainer id =>
      exact ensures_map_alone (fun _ => Multiset.singleton_add _ rest)
        (pinContainer_ensures (hfree hop))
  | closeContainer id =>
      obtain ⟨r, hr, rfl⟩ := hop
      rw [Multiset.singleton_add] at h
      exact ensures_map_alone (E := fun _ => True) (fun _ => hzero)
        ((closeContainer_ensures [] hr h.toBalanced fun hget => h.occupied hget).mono
          (fun _ _ _ h => h) (fun _ _ _ h => h.elim) fun _ _ _ h => h)
  | track id kind token name raw =>
      rw [run, Call.ensures_map]
      refine (track_ensures Identity.compare_keeps_true memory id kind token name
        raw (hfree hop) trivial).mono ?_ ?_ ?_
      · intro node s ev' ⟨_, _, hreg⟩
        rw [gained, Multiset.singleton_add]
        exact hreg
      · exact fun e s ev' ⟨_, hreg, _⟩ => hreg
      · exact fun f s ev' ⟨_, hreg⟩ => hreg
  | trackIn home reported kind token name raw =>
      rw [run, Call.ensures_map]
      refine (trackIn_ensures Identity.compare_keeps_true memory home reported
        kind token name raw (hfree hop) trivial).mono ?_ ?_ ?_
      · intro node s ev' ⟨_, _, hreg⟩
        rw [gained, Multiset.singleton_add]
        exact hreg
      · exact fun e s ev' ⟨_, hreg, _⟩ => hreg
      · exact fun f s ev' ⟨_, hreg⟩ => hreg
  | untrack node =>
      rw [show spent = {.tracked node} from hop, Multiset.singleton_add] at h
      exact ensures_map_alone (E := fun _ => True) (fun _ => hzero)
        ((untrack_ensures h).mono (fun _ _ _ h => h) (fun _ _ _ h => h.elim)
          fun _ _ _ h => h)
  | setDatasetShape node typeSize dimensions =>
      exact ensures_map_alone (g := fun _ => .done) (fun _ => hzero)
        (setDatasetShape_ensures memory typeSize dimensions (hfree hop.1) hop.2)
  | recordRead node selected elapsed =>
      exact ensures_map_alone (fun _ => hzero)
        (recordRead_ensures selected elapsed (hfree hop.1) hop.2)
  | recordWrite node selected elapsed =>
      exact ensures_map_alone (fun _ => hzero)
        (recordWrite_ensures selected elapsed (hfree hop.1) hop.2)
  | recordCommit node =>
      exact ensures_map_alone (fun _ => hzero)
        (recordCommit_ensures (hfree hop.1) hop.2)
  | recordGet node =>
      exact ensures_map_alone (fun _ => hzero)
        (recordGet_ensures (hfree hop.1) hop.2)
  | recordOp node =>
      exact ensures_map_alone (fun _ => hzero)
        (recordOp_ensures (hfree hop.1) hop.2)
  | recordCreated id kind =>
      exact ensures_map_alone (g := fun _ => .done) (fun _ => hzero)
        (recordCreated_ensures (hfree hop))
  | recordAccessed id kind =>
      exact ensures_map_alone (g := fun _ => .done) (fun _ => hzero)
        (recordAccessed_ensures (hfree hop))
  | attach id resource =>
      exact ensures_map_alone (g := fun _ => .done) (fun _ => hzero)
        (attach_ensures memory resource (hfree hop))
  | verifyOpenThings containers datasets =>
      rw [run, Call.ensures_bind, ensures_alone]
      refine (verifyOpenThings_ensures containers datasets).mono ?_
        (fun _ _ _ h => h) fun _ _ _ h => h.elim
      rintro _ reg' ev' rfl
      rw [Call.ensures_pure]
      show reg'.Consistent (0 + rest)
      rw [hzero]
      exact hfree hop

end

end Op

/-! ## Every run -/

section

variable [Identity ω η τ] {w : ω}

/-- The states that a run can reach, with the references then held: it starts
    with an empty registry, each operation gives back and works on what is
    held, and between two operations the world may become any other. -/
inductive Reached : Multiset Reference → ω → Registry τ ρ → Prop
  | start (config : Config) (w : ω) : Reached 0 w (.ofConfig config)
  | step {w : ω} {reg : Registry τ ρ} (memory : Memory) (op : Op η τ ρ)
      (spent rest : Multiset Reference) (h : Reached (spent + rest) w reg)
      (hop : op.Backed spent rest) :
      Reached (op.settled spent rest (op.run memory (w, reg)).outcome)
        (op.run memory (w, reg)).state.1 (op.run memory (w, reg)).state.2
  | other {held : Multiset Reference} {w : ω} {reg : Registry τ ρ} (w' : ω)
      (h : Reached held w reg) : Reached held w' reg

theorem Reached.consistent (h : Reached held w reg) : reg.Consistent held := by
  -- one operation after the other keeps the registry consistent
  induction h with
  | start config w => exact consistent_ofConfig config
  | @step w reg memory op spent rest _ hop ih =>
      have hrun := Op.run_ensures (w := w) memory op hop ih
      rcases ho : (op.run memory (w, reg)).outcome with a | e | f
      · exact hrun.value ho
      · rw [hrun.error ho]
        exact ih
      · rw [(hrun.fault ho).1]
        exact ih
  | other w' _ ih => exact ih

/-- Once every reference is given back, nothing is open. -/
theorem Reached.isEmpty (h : Reached 0 w reg) : reg.isEmpty = true := by
  have hnone : reg.containers.values = [] :=
    List.map_eq_nil_iff.mp (h.consistent.leaks_eq_nil_iff.mpr rfl)
  rw [Registry.isEmpty, containerCount, IdMap.size, List.map_eq_nil_iff.mp hnone]
  rfl

/-- In every state that a run reaches, the registry counts the references held,
    and with none of them held nothing is open.  No operation that those allow
    ends in a fault, unless a comparison of the library does; one that fails
    leaves the registry as it was. -/
theorem Reached.conservation (h : Reached held w reg) :
    reg.Accounted held ∧ (held = 0 → reg.isEmpty = true) ∧
      ∀ (memory : Memory) (op : Op η τ ρ) (spent rest : Multiset Reference),
        held = spent + rest → op.Backed spent rest →
        (∀ f, (op.run memory (w, reg)).outcome = .fault f →
          Identity.Faults ω f) ∧
        (∀ e, (op.run memory (w, reg)).outcome = .error e →
          (op.run memory (w, reg)).state.2 = reg) := by
  refine ⟨h.consistent.accounted, ?_, ?_⟩
  · rintro rfl
    exact h.isEmpty
  · rintro memory op spent rest rfl hop
    have hrun := Op.run_ensures (w := w) memory op hop h.consistent
    exact ⟨fun f hf => (hrun.fault hf).2, fun e he => hrun.error he⟩

/-- A run that tracks an object found in a container that nobody opened, and
    then opens and closes that container. -/
theorem accounted_of_tracked_elsewhere :
    ∃ reg : Registry Token Empty,
      Reached {.tracked ⟨⟨2⟩, .dataset, ⟨1⟩⟩} Bytewise.mk reg ∧
        reg.Accounted {.tracked ⟨⟨2⟩, .dataset, ⟨1⟩⟩} := by
  have htrack := (Reached.start Config.default Bytewise.mk).step
    Memory.addressSpace
    (.trackIn ⟨1⟩ ⟨2⟩ .dataset (.ofAddress 5) none () : Op Unit Token Empty) 0 0
    rfl
  have hopen := htrack.step Memory.addressSpace (.openContainer ⟨2⟩ none) 0
    {.tracked ⟨⟨2⟩, .dataset, ⟨1⟩⟩} rfl
  have hclose := hopen.step Memory.addressSpace (.closeContainer ⟨2⟩)
    {.opened ⟨2⟩} {.tracked ⟨⟨2⟩, .dataset, ⟨1⟩⟩} ⟨.opened ⟨2⟩, Or.inl rfl, rfl⟩
  exact ⟨_, hclose, hclose.conservation.1⟩

end

end Registry

end Provenance
