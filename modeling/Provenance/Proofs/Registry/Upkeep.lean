import Provenance.Proofs.Registry.Tracking
import Provenance.Registry.Record

/-! # Upkeep of a registry

    Each operation takes a consistent registry to a consistent one: what it
    hands out is added to the references held, what it is given is taken away.
    An operation that fails leaves the registry as it was.  Releases that are
    backed by a reference never fail; no operation breaks an invariant, so the
    only faults are those of the comparison itself. -/

namespace Provenance

namespace Registry

variable {ω η τ ρ ε : Type} {reg : Registry τ ρ} {held rest : Multiset Reference}
  {id : ContainerId} {kind : Kind} {ev : List Event}

/-! ## Containers -/

theorem openContainer_ensures (memory : Memory) (name : Option String)
    (h : reg.Consistent held) :
    (openContainer memory id name).Ensures reg ev
      (fun _ reg' ev' => ev' = ev ∧ reg'.Consistent (.opened id ::ₘ held))
      (fun e reg' ev' => ev' = ev ∧ reg' = reg ∧ e.Foreign ∧
        grantsName memory .objectName name = false)
      (fun _ _ _ => False) := by
  have hhold : (Reference.opened id).IsHold id := Or.inl rfl
  have frame : ∀ r : Reference, r.container ≠ id →
      (.opened id ::ₘ held).count r = held.count r :=
    fun r hr => Reference.count_cons_of_container_ne rfl hr held
  simp only [Call.Ensures, openContainer]
  by_cases hm : grantsName memory .objectName name
  · rw [if_pos hm]
    cases hget : reg.container? id with
    | some c =>
        -- it may be one that only a reported object brought in
        have hc := ((h.entry hget).promote name).retain hhold
        exact ⟨List.append_nil _, h.put hc (Nat.succ_pos _) frame⟩
    | none =>
        have hc : (Container.fresh id name false : Container τ ρ).retain.Balanced
            (.opened id ::ₘ held) reg.nextNode id :=
          (Container.balanced_fresh name false fun r hr =>
            h.count_eq_zero hget r hr).retain hhold
        exact ⟨List.append_nil _, h.put hc (Nat.succ_pos _) frame⟩
  · rw [if_neg hm]
    exact ⟨List.append_nil _, rfl, trivial, Bool.eq_false_iff.mpr hm⟩

theorem pinContainer_ensures (h : reg.Consistent held) :
    (pinContainer id).Ensures reg ev
      (fun _ reg' ev' => ev' = ev ∧ reg'.Consistent (.pinned id ::ₘ held))
      (fun _ reg' ev' => ev' = ev ∧ reg' = reg ∧ reg.container? id = none)
      (fun _ _ _ => False) := by
  simp only [Call.Ensures, pinContainer]
  cases hget : reg.container? id with
  | some c =>
      have hc := (h.entry hget).retain (Or.inr rfl : (Reference.pinned id).IsHold id)
      exact ⟨List.append_nil _, h.put hc (Nat.succ_pos _) fun r hr =>
        Reference.count_cons_of_container_ne rfl hr held⟩
  | none => exact ⟨List.append_nil _, rfl, rfl⟩

/-- A release that gives back an open, a pin or the left over reference of a
    node never fails. -/
theorem closeContainer_ensures {r : Reference} (ev : List Event)
    (hr : r.IsHold id) (hb : reg.Balanced (r ::ₘ held))
    (hpos : ∀ {id' c'}, reg.container? id' = some c' → 0 < c'.refcount) :
    (closeContainer id : Call (Registry τ ρ) ε (Release ρ)).Ensures reg ev
      (fun _ reg' ev' => ev' = ev ∧ reg'.Consistent held)
      (fun _ _ _ => False) (fun _ _ _ => False) := by
  have frame : ∀ r' : Reference, r'.container ≠ id →
      held.count r' = (r ::ₘ held).count r' :=
    fun r' hr' => (Reference.count_cons_of_container_ne hr.container_eq hr' held).symm
  obtain ⟨c, hget⟩ := hb.present r (Multiset.mem_cons_self r held)
  rw [hr.container_eq] at hget
  have hentry := hb.entry hget
  have hc := Container.Balanced.release hr hentry
  simp only [Call.Ensures, closeContainer, hget]
  rw [if_neg (Nat.ne_of_gt (hpos hget))]
  by_cases hlast : 0 < c.release.refcount
  · rw [if_pos hlast]
    exact ⟨List.append_nil _,
      consistent_put (hb.put (Nat.le_refl _) hc frame) hc.id_eq hlast
        fun _ hget' => hpos hget'⟩
  · -- the last reference: what is counted in the entry is all zero
    have hzero := Nat.eq_zero_of_not_pos hlast
    rw [if_neg hlast, if_neg (hc.no_children hzero)]
    refine ⟨List.append_nil _, hb.remove (fun r' hr' => hc.notMem hzero hr') frame, ?_⟩
    intro id' c' hget'
    rw [container?_remove] at hget'
    by_cases hid : id = id'
    · rw [if_pos hid] at hget'
      cases hget'
    · rw [if_neg hid] at hget'
      exact hpos hget'

/-! ## Nodes -/

/-- Tracking holds one reference more, on the node that it answers. -/
theorem Tracked.consistent [Identity ω η τ] {memory : Memory} {token : τ}
    {name : Option String} {node : NodeHandle} {reg' : Registry τ ρ}
    (h : Tracked ω memory reg id kind token name node reg')
    (hreg : reg.Consistent held) : reg'.Consistent (.tracked node ::ₘ held) := by
  have frame : ∀ {node : NodeHandle}, (Reference.tracked node).container = id →
      ∀ r : Reference, r.container ≠ id →
        (.tracked node ::ₘ held).count r = held.count r :=
    fun hnode r hr => Reference.count_cons_of_container_ne hnode hr held
  cases h with
  | @reused c n hget hn _ =>
      have hentry := hreg.entry hget
      have hpos : 0 < c.refcount := hreg.occupied hget
      have hc : (c.putNode kind n.again).Balanced
          (.tracked ⟨id, kind, n.id⟩ ::ₘ held) reg.nextNode id := by
        refine hentry.putNode hn rfl (Nat.succ_pos _) ?_ fun r hr =>
          Multiset.count_cons_of_ne hr held
        rw [Multiset.count_cons_self, hentry.count_tracked hn]
        rfl
      exact hreg.put hc hpos (frame rfl)
  | @made c hsite _ _ =>
      have hentry : c.Balanced held reg.nextNode id := by
        rcases hsite with hget | ⟨hget, title, rfl⟩
        · exact hreg.entry hget
        · exact Container.balanced_fresh title true fun r hr =>
            hreg.count_eq_zero hget r hr
      have hc : (c.addNode kind (.first ⟨reg.nextNode⟩ id kind token name)).Balanced
          (.tracked ⟨id, kind, ⟨reg.nextNode⟩⟩ ::ₘ held) (reg.nextNode + 1) id :=
        hentry.addNode token name
      exact consistent_put (hreg.toBalanced.put (Nat.le_succ _) hc (frame rfl))
        hc.id_eq (Nat.succ_pos _) fun _ hget => hreg.occupied hget

section Track

variable [Identity ω η τ] {P : ω → List Event → Prop} {w : ω}

/-- A failure of tracking is one of the comparison or of the memory, or the
    container is not open. -/
theorem track_ensures (hP : ∀ raw a b, (Identity.compare raw a b).Keeps P)
    (memory : Memory) (id : ContainerId) (kind : Kind) (token : τ)
    (name : Option String) (raw : η) (h : reg.Consistent held) (hw : P w ev) :
    (track memory id kind token name raw).Ensures (w, reg) ev
      (fun node s ev' => P s.1 ev' ∧ (node.container = id ∧ node.kind = kind) ∧
        s.2.Consistent (.tracked node ::ₘ held))
      (fun e s ev' => P s.1 ev' ∧ s.2 = reg ∧
        (e.Foreign ∨ reg.container? id = none))
      (fun f s ev' => P s.1 ev' ∧ s.2 = reg ∧ Identity.Faults ω f) := by
  refine (track_tracked hP memory kind token name raw
    (fun hget => (h.entry hget).toSound) hw).mono ?_ ?_ fun _ _ _ h => h
  · exact fun node s ev' ⟨hw', ht⟩ => ⟨hw', ht.place, ht.consistent h⟩
  · exact fun e s ev' ⟨hw', hreg, he⟩ =>
      ⟨hw', hreg, he.imp_left fun ⟨_, he⟩ => he.foreign⟩

/-- A placeholder goes away without a trace when the tracking in it fails. -/
theorem trackIn_ensures (hP : ∀ raw a b, (Identity.compare raw a b).Keeps P)
    (memory : Memory) (home reported : ContainerId) (kind : Kind) (token : τ)
    (name : Option String) (raw : η) (h : reg.Consistent held) (hw : P w ev) :
    (trackIn memory home reported kind token name raw).Ensures (w, reg) ev
      (fun node s ev' => P s.1 ev' ∧
        (node.container = reported ∧ node.kind = kind) ∧
        s.2.Consistent (.tracked node ::ₘ held))
      (fun e s ev' => P s.1 ev' ∧ s.2 = reg ∧ (e.Foreign ∨
        reported = home ∧ reg.container? home = none))
      (fun f s ev' => P s.1 ev' ∧ s.2 = reg ∧ Identity.Faults ω f) := by
  refine (trackIn_tracked hP memory home reported kind token name raw
    (fun hget => (h.entry hget).toSound) hw).mono ?_ ?_ fun _ _ _ h => h
  · exact fun node s ev' ⟨hw', ht⟩ => ⟨hw', ht.place, ht.consistent h⟩
  · exact fun e s ev' ⟨hw', hreg, he⟩ => ⟨hw', hreg, he.foreign⟩

end Track

/-- The last reference on a node takes the node away, and then gives back the
    reference that the node held on its container. -/
theorem untrack_eq_close {node : NodeHandle} {c : Container τ ρ} {n : Node τ}
    (hget : reg.container? node.container = some c)
    (hn : c.node? node.kind node.node = some n) (hlast : ¬ 0 < n.refcount - 1) :
    (untrack node : Call (Registry τ ρ) ε (Release ρ)) reg
      = ((fun release => ⟨0, release.dropped⟩) <$>
          closeContainer node.container)
        (reg.put (c.removeNode node.kind node.node)) := by
  rw [show (((fun release => ⟨0, release.dropped⟩ : Release ρ → Release ρ) <$>
      closeContainer node.container) : Call (Registry τ ρ) ε (Release ρ))
    = closeContainer node.container >>= fun release =>
        pure ⟨0, release.dropped⟩ from rfl, Call.bind_apply]
  simp only [untrack, hget, hn, if_neg hlast]
  rcases (closeContainer node.container : Call (Registry τ ρ) ε (Release ρ))
    (reg.put (c.removeNode node.kind node.node)) with ⟨_ | _ | _, reg', new⟩
    <;> simp [Outcome.map]

/-- A release of a node that is tracked never fails, whichever reference it
    gives back. -/
theorem untrack_ensures {node : NodeHandle}
    (h : reg.Consistent (.tracked node ::ₘ held)) :
    (untrack node : Call (Registry τ ρ) ε (Release ρ)).Ensures reg ev
      (fun _ reg' ev' => ev' = ev ∧ reg'.Consistent held)
      (fun _ _ _ => False) (fun _ _ _ => False) := by
  obtain ⟨id, kind, m⟩ := node
  obtain ⟨c, hget⟩ : ∃ c, reg.container? id = some c :=
    h.present _ (Multiset.mem_cons_self _ held)
  have hentry := h.entry hget
  obtain ⟨n, hn⟩ := hentry.exists_node (Multiset.mem_cons_self _ held)
  have hcount := hentry.count_tracked hn
  rw [Multiset.count_cons_self] at hcount
  have frame : ∀ r : Reference, r.container ≠ id →
      held.count r = (.tracked ⟨id, kind, m⟩ ::ₘ held).count r := fun r hr =>
    (Reference.count_cons_of_container_ne rfl hr held).symm
  have hpos : 0 < c.refcount := h.occupied hget
  by_cases hlast : 0 < n.refcount - 1
  · have hc : (c.putNode kind { n with refcount := n.refcount - 1 }).Balanced
        held reg.nextNode id :=
      hentry.putNode hn rfl hlast (Nat.eq_sub_of_add_eq hcount)
        fun r hr => (Multiset.count_cons_of_ne hr held).symm
    simp only [Call.Ensures, untrack, hget, hn]
    rw [if_pos hlast]
    exact ⟨List.append_nil _, h.put hc hpos frame⟩
  · -- the reference of the node on its container is given back as a pin
    have hput := h.put (hentry.removeNode hn (by omega)) hpos fun r hr =>
      (Reference.count_cons_of_container_ne rfl hr held).trans (frame r hr)
    refine Call.Ensures.of_apply_eq (untrack_eq_close hget hn hlast) ?_
    rw [Call.ensures_map]
    exact closeContainer_ensures ev (Or.inr rfl) hput.toBalanced hput.occupied

/-! ## Counters and resources -/

/-- A change of an entry that leaves its references and its nodes alone. -/
theorem onContainer_ensures {f : Container τ ρ → Container τ ρ}
    (h : reg.Consistent held) (hid : ∀ c, (f c).id = c.id)
    (hcounts : ∀ c, (f c).counts = c.counts)
    (hnodes : ∀ c, (f c).nodes = c.nodes)
    (hrefcount : ∀ c, (f c).refcount = c.refcount) :
    (onContainer id f).Ensures reg ev
      (fun _ reg' ev' => ev' = ev ∧ reg'.Consistent held)
      (fun _ reg' ev' => ev' = ev ∧ reg' = reg ∧ reg.container? id = none)
      (fun _ _ _ => False) := by
  simp only [Call.Ensures, onContainer]
  cases hget : reg.container? id with
  | some c =>
      have hc := (h.entry hget).of_same_nodes (hid c) (hcounts c) (hnodes c)
        (hrefcount c)
      have hpos : 0 < (f c).refcount := by
        rw [hrefcount]
        exact h.occupied hget
      exact ⟨List.append_nil _, h.put hc hpos fun _ _ => rfl⟩
  | none => exact ⟨List.append_nil _, rfl, rfl⟩

theorem attach_ensures (memory : Memory) (resource : ρ)
    (h : reg.Consistent held) :
    (attach memory id resource).Ensures reg ev
      (fun _ reg' ev' => ev' = ev ∧ reg'.Consistent held)
      (fun e reg' ev' => ev' = ev ∧ reg' = reg ∧
        (e.Foreign ∨ reg.container? id = none))
      (fun _ _ _ => False) := by
  simp only [Call.Ensures, attach]
  cases hget : reg.container? id with
  | none => exact ⟨List.append_nil _, rfl, Or.inr rfl⟩
  | some c =>
      by_cases hm : memory.grants .attachments (16 * (c.attachments.length + 1))
      · have hc : { c with attachments := c.attachments ++ [resource] }.Balanced
            held reg.nextNode id :=
          (h.entry hget).of_same_nodes rfl rfl rfl rfl
        have hpos : 0 < c.refcount := h.occupied hget
        simp only [if_pos hm]
        exact ⟨List.append_nil _, h.put hc hpos fun _ _ => rfl⟩
      · simp only [if_neg hm]
        exact ⟨List.append_nil _, trivial, Or.inl trivial⟩

/-- The counters of a tracked node change by `f`, which has the only say in
    errors. -/
theorem onCounters_ensures {α : Type} {node : NodeHandle}
    {f : Counters → Except RegistryError (α × Counters)}
    (h : reg.Consistent held) (hnode : .tracked node ∈ held)
    (hkind : ∀ c a c', f c = .ok (a, c') → c'.kind = c.kind) :
    (onCounters node f).Ensures reg ev
      (fun _ reg' ev' => ev' = ev ∧ reg'.Consistent held)
      (fun e reg' ev' => ev' = ev ∧ reg' = reg ∧
        ∃ c : Counters, c.kind = node.kind ∧ f c = .error e)
      (fun _ _ _ => False) := by
  obtain ⟨id, kind, m⟩ := node
  obtain ⟨c, hget⟩ : ∃ c, reg.container? id = some c := h.present _ hnode
  have hentry := h.entry hget
  obtain ⟨n, hn⟩ := hentry.exists_node hnode
  simp only [Call.Ensures, onCounters, hget, hn]
  rcases hf : f n.counters with e | ⟨a, counters⟩
  · exact ⟨List.append_nil _, rfl, n.counters, hentry.kind_eq hn, hf⟩
  · have hself := hentry.count_tracked hn
    have hrefs := hentry.referenced hn
    have hpos : 0 < c.refcount := h.occupied hget
    have hc : (c.putNode kind { n with counters := counters }).Balanced held
        reg.nextNode id := by
      refine hentry.putNode hn ?_ hrefs hself fun _ _ => rfl
      rw [Node.handle, Node.handle, Node.kind, Node.kind, hkind _ a _ hf]
    exact ⟨List.append_nil _, h.put hc hpos fun _ _ => rfl⟩

theorem onDataset_ensures {α : Type} {node : NodeHandle}
    {f : DatasetCounters → Except RegistryError (α × DatasetCounters)}
    (h : reg.Consistent held) (hnode : .tracked node ∈ held) :
    (onDataset node f).Ensures reg ev
      (fun _ reg' ev' => ev' = ev ∧ reg'.Consistent held)
      (fun e reg' ev' => ev' = ev ∧ reg' = reg ∧
        (node.kind = .dataset → ∃ c, f c = .error e))
      (fun _ _ _ => False) := by
  refine (onCounters_ensures h hnode fun c a c' hf => ?_).mono
    (fun _ _ _ h => h) ?_ fun _ _ _ h => h
  · -- counters of a dataset stay counters of a dataset
    cases c with
    | dataset d =>
        rcases hd : f d with e | ⟨b, d'⟩ <;> simp only [hd] at hf <;> cases hf
        rfl
    | _ => cases hf
  · rintro e reg' ev' ⟨hev, hreg, c, hkind, hf⟩
    refine ⟨hev, hreg, fun hdataset => ?_⟩
    rw [hdataset] at hkind
    cases c with
    | dataset d =>
        rcases hd : f d with e' | _ <;> simp only [hd] at hf <;> cases hf
        exact ⟨d, hd⟩
    | _ => cases hkind

theorem setDatasetShape_ensures (memory : Memory) {node : NodeHandle}
    (typeSize : Nat) (dimensions : List Nat) (h : reg.Consistent held)
    (hnode : .tracked node ∈ held) :
    (setDatasetShape memory node typeSize dimensions).Ensures reg ev
      (fun _ reg' ev' => ev' = ev ∧ reg'.Consistent held)
      (fun e reg' ev' => ev' = ev ∧ reg' = reg ∧
        (node.kind = .dataset → e = .outOfMemory Purpose.datasetDimensions.text))
      (fun _ _ _ => False) := by
  refine (onDataset_ensures h hnode).mono (fun _ _ _ h => h) ?_ fun _ _ _ h => h
  rintro e reg' ev' ⟨hev, hreg, he⟩
  refine ⟨hev, hreg, fun hkind => ?_⟩
  obtain ⟨c, hc⟩ := he hkind
  by_cases hm : memory.grants .datasetDimensions (8 * dimensions.length)
  · rw [if_pos hm] at hc
    cases hc
  · rw [if_neg hm] at hc
    cases hc
    rfl

/-- Counting at a dataset that has no errors of its own only fails at a node of
    another kind. -/
theorem onDataset_ensures_of_ok {α : Type} {node : NodeHandle}
    {f : DatasetCounters → Except RegistryError (α × DatasetCounters)}
    (hf : ∀ c e, f c ≠ .error e) (h : reg.Consistent held)
    (hnode : .tracked node ∈ held) :
    (onDataset node f).Ensures reg ev
      (fun _ reg' ev' => ev' = ev ∧ reg'.Consistent held)
      (fun _ reg' ev' => ev' = ev ∧ reg' = reg ∧ node.kind ≠ .dataset)
      (fun _ _ _ => False) := by
  refine (onDataset_ensures h hnode).mono (fun _ _ _ h => h) ?_ fun _ _ _ h => h
  rintro e reg' ev' ⟨hev, hreg, he⟩
  refine ⟨hev, hreg, fun hkind => ?_⟩
  obtain ⟨c, hc⟩ := he hkind
  exact hf c e hc

theorem recordRead_ensures {node : NodeHandle} (selected : Option Nat)
    (elapsed : Duration) (h : reg.Consistent held)
    (hnode : .tracked node ∈ held) :
    (recordRead node selected elapsed).Ensures reg ev
      (fun _ reg' ev' => ev' = ev ∧ reg'.Consistent held)
      (fun _ reg' ev' => ev' = ev ∧ reg' = reg ∧ node.kind ≠ .dataset)
      (fun _ _ _ => False) :=
  onDataset_ensures_of_ok (fun _ _ => nofun) h hnode

theorem recordWrite_ensures {node : NodeHandle} (selected : Option Nat)
    (elapsed : Duration) (h : reg.Consistent held)
    (hnode : .tracked node ∈ held) :
    (recordWrite node selected elapsed).Ensures reg ev
      (fun _ reg' ev' => ev' = ev ∧ reg'.Consistent held)
      (fun _ reg' ev' => ev' = ev ∧ reg' = reg ∧ node.kind ≠ .dataset)
      (fun _ _ _ => False) :=
  onDataset_ensures_of_ok (fun _ _ => nofun) h hnode

/-- Counting at a node only fails for a kind that does not count so. -/
theorem onCounters_ensures_of_kinds {α : Type} {node : NodeHandle}
    {f : Counters → Except RegistryError (α × Counters)} (kinds : Kind → Prop)
    (hf : ∀ c, match f c with
      | .ok (_, c') => c'.kind = c.kind
      | .error _ => ¬ kinds c.kind)
    (h : reg.Consistent held) (hnode : .tracked node ∈ held) :
    (onCounters node f).Ensures reg ev
      (fun _ reg' ev' => ev' = ev ∧ reg'.Consistent held)
      (fun _ reg' ev' => ev' = ev ∧ reg' = reg ∧ ¬ kinds node.kind)
      (fun _ _ _ => False) := by
  refine (onCounters_ensures h hnode fun c a c' hc => ?_).mono
    (fun _ _ _ h => h) ?_ fun _ _ _ h => h
  · have hok := hf c
    rw [hc] at hok
    exact hok
  · rintro e reg' ev' ⟨hev, hreg, c, hkind, hc⟩
    have herror := hf c
    rw [hc] at herror
    exact ⟨hev, hreg, hkind ▸ herror⟩

theorem recordCommit_ensures {node : NodeHandle} (h : reg.Consistent held)
    (hnode : .tracked node ∈ held) :
    (recordCommit node).Ensures reg ev
      (fun _ reg' ev' => ev' = ev ∧ reg'.Consistent held)
      (fun _ reg' ev' => ev' = ev ∧ reg' = reg ∧ ¬ node.kind = .datatype)
      (fun _ _ _ => False) :=
  onCounters_ensures_of_kinds (· = .datatype)
    (fun c => by cases c <;> simp [Counters.kind]) h hnode

theorem recordGet_ensures {node : NodeHandle} (h : reg.Consistent held)
    (hnode : .tracked node ∈ held) :
    (recordGet node).Ensures reg ev
      (fun _ reg' ev' => ev' = ev ∧ reg'.Consistent held)
      (fun _ reg' ev' => ev' = ev ∧ reg' = reg ∧ ¬ node.kind = .datatype)
      (fun _ _ _ => False) :=
  onCounters_ensures_of_kinds (· = .datatype)
    (fun c => by cases c <;> simp [Counters.kind]) h hnode

theorem recordOp_ensures {node : NodeHandle} (h : reg.Consistent held)
    (hnode : .tracked node ∈ held) :
    (recordOp node).Ensures reg ev
      (fun _ reg' ev' => ev' = ev ∧ reg'.Consistent held)
      (fun _ reg' ev' => ev' = ev ∧ reg' = reg ∧
        ¬ (node.kind = .group ∨ node.kind = .attr))
      (fun _ _ _ => False) :=
  onCounters_ensures_of_kinds (fun k => k = .group ∨ k = .attr)
    (fun c => by cases c <;> simp [Counters.kind]) h hnode

theorem recordCreated_ensures (h : reg.Consistent held) :
    (recordCreated id kind).Ensures reg ev
      (fun _ reg' ev' => ev' = ev ∧ reg'.Consistent held)
      (fun _ reg' ev' => ev' = ev ∧ reg' = reg ∧ reg.container? id = none)
      (fun _ _ _ => False) :=
  onContainer_ensures h (fun _ => rfl) (fun _ => rfl) (fun _ => rfl) fun _ => rfl

theorem recordAccessed_ensures (h : reg.Consistent held) :
    (recordAccessed id kind).Ensures reg ev
      (fun _ reg' ev' => ev' = ev ∧ reg'.Consistent held)
      (fun _ reg' ev' => ev' = ev ∧ reg' = reg ∧ reg.container? id = none)
      (fun _ _ _ => False) :=
  onContainer_ensures h (fun _ => rfl) (fun _ => rfl) (fun _ => rfl) fun _ => rfl

end Registry

end Provenance
