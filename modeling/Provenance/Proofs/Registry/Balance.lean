import Mathlib.Data.Multiset.Count
import Provenance.Proofs.Id.Map
import Provenance.Registry.Basic

/-! # Balance of a registry

    A client holds references: opens and pins on containers, and tracks of
    nodes.  A registry is balanced against the references outstanding when
    each entry counts exactly those on it, a container its nodes besides
    (`Registry.Balanced`).

    Every operation of a registry changes the entry of one container, so
    balance comes down to that entry (`Balanced.put`, `Balanced.remove`) and to
    the few ways in which an entry changes.  These do not ask where the counts
    of an entry come from, so they are stated of references lent on top of what
    it counted before (`Lends`); a balanced entry counted nothing before. -/

namespace Provenance

/-- A reference that a client holds. -/
inductive Reference where
  /-- An open of a container. -/
  | opened (id : ContainerId)
  /-- A pin of a container. -/
  | pinned (id : ContainerId)
  /-- A track of a node. -/
  | tracked (node : NodeHandle)
deriving DecidableEq

namespace Reference

/-- The container whose entry the reference is counted in. -/
def container : Reference → ContainerId
  | opened id => id
  | pinned id => id
  | tracked node => node.container

/-- An open or a pin of a container. -/
def IsHold (id : ContainerId) (r : Reference) : Prop :=
  r = opened id ∨ r = pinned id

/-- The opens and pins of a container. -/
def holds (held : Multiset Reference) (id : ContainerId) : Nat :=
  held.count (opened id) + held.count (pinned id)

theorem IsHold.container_eq {id : ContainerId} {r : Reference}
    (h : r.IsHold id) : r.container = id := by
  rcases h with rfl | rfl <;> rfl

theorem holds_cons_of_isHold {id : ContainerId} {r : Reference}
    (h : r.IsHold id) (held : Multiset Reference) :
    holds (r ::ₘ held) id = holds held id + 1 := by
  rcases h with rfl | rfl
  · simp [holds, Nat.add_right_comm]
  · simp [holds, Nat.add_assoc]

@[simp]
theorem holds_cons_tracked (node : NodeHandle) (held : Multiset Reference)
    (id : ContainerId) : holds (tracked node ::ₘ held) id = holds held id := by
  simp [holds]

theorem count_tracked_cons_of_isHold {id : ContainerId} {r : Reference}
    (h : r.IsHold id) (held : Multiset Reference) (node : NodeHandle) :
    (r ::ₘ held).count (tracked node) = held.count (tracked node) := by
  rcases h with rfl | rfl <;> simp

/-- A reference does not count in the entries of other containers. -/
theorem count_cons_of_container_ne {r r' : Reference} {id : ContainerId}
    (h : r.container = id) (h' : r'.container ≠ id)
    (held : Multiset Reference) : (r ::ₘ held).count r' = held.count r' := by
  refine Multiset.count_cons_of_ne (fun heq => h' ?_) held
  rw [heq, h]

end Reference

/-! ## Entries -/

namespace Container

variable {τ ρ : Type} {next next' : Nat} {id : ContainerId}
  {c : Container τ ρ} {kind : Kind} {n n' : Node τ}

/-- Number of nodes of all kinds. -/
def nodeCount (c : Container τ ρ) : Nat :=
  Kind.all.foldr (fun k sum => (c.nodes.get k).size + sum) 0

/-- References on the node of a kind and number, if there is one. -/
def nodeRefcount (c : Container τ ρ) (kind : Kind) (m : NodeId) : Nat :=
  (c.node? kind m).elim 0 Node.refcount

/-- The entry of a container as its registry keeps it: it counts its nodes,
    each of them answers to its place, was numbered before `next` and has
    references. -/
structure Sound (next : Nat) (id : ContainerId) (c : Container τ ρ) : Prop where
  id_eq : c.id = id
  counts_eq : ∀ k, c.counts.get k = (c.nodes.get k).size
  handle_eq : ∀ {k m n}, c.node? k m = some n → n.handle = ⟨id, k, m⟩
  numbered : ∀ {k m n}, c.node? k m = some n → m.number < next
  referenced : ∀ {k m n}, c.node? k m = some n → 0 < n.refcount

theorem Sound.mono (h : c.Sound next id) (hle : next ≤ next') :
    c.Sound next' id :=
  ⟨h.id_eq, h.counts_eq, h.handle_eq,
    fun hn => Nat.lt_of_lt_of_le (h.numbered hn) hle, h.referenced⟩

/-- Soundness is about the name and the nodes of an entry alone. -/
theorem Sound.of_same_nodes {c' : Container τ ρ} (h : c.Sound next id)
    (hid : c'.id = c.id) (hcounts : c'.counts = c.counts)
    (hnodes : c'.nodes = c.nodes) : c'.Sound next id := by
  obtain ⟨id', name, placeholder, refcount, counts, nodes, _, _, _⟩ := c'
  cases hid
  cases hcounts
  cases hnodes
  exact ⟨h.id_eq, h.counts_eq, h.handle_eq, h.numbered, h.referenced⟩

theorem Sound.number_eq (h : c.Sound next id) {m : NodeId}
    (hn : c.node? kind m = some n) : n.id = m :=
  congrArg NodeHandle.node (h.handle_eq hn)

theorem Sound.kind_eq (h : c.Sound next id) {m : NodeId}
    (hn : c.node? kind m = some n) : n.counters.kind = kind :=
  congrArg NodeHandle.kind (h.handle_eq hn)

theorem Sound.hasChildren_iff (h : c.Sound next id) :
    c.hasChildren = true ↔ 0 < c.nodeCount := by
  have hcounts : c.counts.toList = Kind.all.map fun k => (c.nodes.get k).size :=
    List.map_congr_left fun k _ => h.counts_eq k
  rw [hasChildren, hcounts, nodeCount]
  simp only [Kind.all, List.map_cons, List.map_nil, List.any_cons, List.any_nil,
    List.foldr_cons, List.foldr_nil, Bool.or_false, Bool.or_eq_true,
    decide_eq_true_eq]
  omega

/-! ### Look-ups -/

theorem node?_putNode (c : Container τ ρ) (kind k : Kind) (n : Node τ)
    (m : NodeId) :
    (c.putNode kind n).node? k m
      = if k = kind ∧ n.id = m then some n else c.node? k m := by
  simp only [node?, putNode, PerKind.get_modify]
  by_cases hk : k = kind
  · rw [if_pos hk, IdMap.get?_insert]
    by_cases hm : n.id = m
    · rw [if_pos hm, if_pos ⟨hk, hm⟩]
    · rw [if_neg hm, if_neg fun h => hm h.2]
  · rw [if_neg hk, if_neg fun h => hk h.1]

/-- A look-up finds the node that was put at its place, or an old one. -/
theorem of_node?_putNode {k : Kind} {m : NodeId}
    (h : (c.putNode kind n').node? k m = some n) :
    (k = kind ∧ n'.id = m ∧ n = n') ∨ c.node? k m = some n := by
  rw [node?_putNode] at h
  by_cases hk : k = kind ∧ n'.id = m
  · rw [if_pos hk] at h
    exact Or.inl ⟨hk.1, hk.2, (Option.some.inj h).symm⟩
  · rw [if_neg hk] at h
    exact Or.inr h

theorem id_addNode (c : Container τ ρ) (kind : Kind) (n : Node τ) :
    (c.addNode kind n).id = c.id := rfl

theorem node?_addNode (c : Container τ ρ) (kind k : Kind) (n : Node τ)
    (m : NodeId) :
    (c.addNode kind n).node? k m
      = if k = kind ∧ n.id = m then some n else c.node? k m :=
  node?_putNode c kind k n m

theorem node?_removeNode (c : Container τ ρ) (kind k : Kind) (id m : NodeId) :
    (c.removeNode kind id).node? k m
      = if k = kind ∧ id = m then none else c.node? k m := by
  simp only [node?, removeNode, PerKind.get_modify]
  by_cases hk : k = kind
  · rw [if_pos hk, IdMap.get?_erase]
    by_cases hm : id = m
    · rw [if_pos hm, if_pos ⟨hk, hm⟩]
    · rw [if_neg hm, if_neg fun h => hm h.2]
  · rw [if_neg hk, if_neg fun h => hk h.1]

theorem of_node?_removeNode {k : Kind} {m m' : NodeId}
    (h : (c.removeNode kind m).node? k m' = some n) :
    c.node? k m' = some n := by
  rw [node?_removeNode] at h
  by_cases hk : k = kind ∧ m = m'
  · rw [if_pos hk] at h
    cases h
  · rw [if_neg hk] at h
    exact h

@[simp]
theorem node?_fresh (id : ContainerId) (name : Option String) (b : Bool)
    (k : Kind) (m : NodeId) :
    (fresh id name b : Container τ ρ).node? k m = none := by
  simp [node?, fresh]

/-! ### Numbers of nodes -/

theorem get_size_putNode {m : NodeId} (hn : c.node? kind m = some n)
    (hm : n'.id = m) (k : Kind) :
    ((c.putNode kind n').nodes.get k).size = (c.nodes.get k).size := by
  simp only [putNode, PerKind.get_modify]
  by_cases hk : k = kind
  · subst hk hm
    rw [if_pos rfl, IdMap.size_insert_of_some n' hn]
  · rw [if_neg hk]

theorem get_size_addNode (hn : c.node? kind n.id = none) (k : Kind) :
    ((c.addNode kind n).nodes.get k).size
      = if k = kind then (c.nodes.get k).size + 1 else (c.nodes.get k).size := by
  simp only [addNode, putNode, PerKind.get_modify]
  by_cases hk : k = kind
  · subst hk
    rw [if_pos rfl, if_pos rfl, IdMap.size_insert_of_none n hn]
  · rw [if_neg hk, if_neg hk]

theorem get_size_removeNode {m : NodeId} (hn : c.node? kind m = some n)
    (k : Kind) :
    ((c.removeNode kind m).nodes.get k).size
      = if k = kind then (c.nodes.get k).size - 1 else (c.nodes.get k).size := by
  simp only [removeNode, PerKind.get_modify]
  by_cases hk : k = kind
  · subst hk
    have hsize := IdMap.size_erase_of_some (m := c.nodes.get k) hn
    rw [if_pos rfl, if_pos rfl]
    omega
  · rw [if_neg hk, if_neg hk]

theorem size_pos_of_node? {m : NodeId} (hn : c.node? kind m = some n) :
    0 < (c.nodes.get kind).size := by
  have hsize := IdMap.size_erase_of_some (m := c.nodes.get kind) hn
  omega

@[simp]
theorem nodeCount_fresh (id : ContainerId) (name : Option String) (b : Bool) :
    (fresh id name b : Container τ ρ).nodeCount = 0 := by
  simp [nodeCount, fresh, Kind.all]

theorem nodeCount_putNode {m : NodeId} (hn : c.node? kind m = some n)
    (hm : n'.id = m) : (c.putNode kind n').nodeCount = c.nodeCount := by
  simp only [nodeCount, get_size_putNode hn hm]

theorem nodeCount_addNode (hn : c.node? kind n.id = none) :
    (c.addNode kind n).nodeCount = c.nodeCount + 1 := by
  simp only [nodeCount, get_size_addNode hn, Kind.all, List.foldr_cons,
    List.foldr_nil]
  cases kind <;> simp <;> omega

theorem nodeCount_removeNode {m : NodeId} (hn : c.node? kind m = some n) :
    (c.removeNode kind m).nodeCount + 1 = c.nodeCount := by
  have hpos := size_pos_of_node? hn
  simp only [nodeCount, get_size_removeNode hn, Kind.all, List.foldr_cons,
    List.foldr_nil]
  cases kind <;> simp <;> omega

/-- A container with nodes wherever another one has some has no fewer. -/
theorem nodeCount_le {c' : Container τ ρ}
    (h : ∀ {k m n}, c.node? k m = some n → ∃ n', c'.node? k m = some n') :
    c.nodeCount ≤ c'.nodeCount := by
  have hsize : ∀ k, (c.nodes.get k).size ≤ (c'.nodes.get k).size :=
    fun k => IdMap.size_le fun hn => h hn
  simp only [nodeCount, Kind.all, List.foldr_cons, List.foldr_nil]
  have hgroup := hsize .group
  have hdataset := hsize .dataset
  have hdatatype := hsize .datatype
  have hattr := hsize .attr
  omega

/-! ### Soundness of a changed entry -/

theorem sound_fresh (next : Nat) (id : ContainerId) (name : Option String)
    (b : Bool) : (fresh id name b : Container τ ρ).Sound next id where
  id_eq := rfl
  counts_eq k := by simp [fresh]
  handle_eq hn := by simp at hn
  numbered hn := by simp at hn
  referenced hn := by simp at hn

/-- A node may change in all but its place, as long as it has references. -/
theorem Sound.putNode (h : c.Sound next id) {m : NodeId}
    (hn : c.node? kind m = some n) (hhandle : n'.handle = n.handle)
    (hpos : 0 < n'.refcount) : (c.putNode kind n').Sound next id := by
  have hplace : n'.handle = ⟨id, kind, m⟩ := hhandle.trans (h.handle_eq hn)
  have hm : n'.id = m := congrArg NodeHandle.node hplace
  -- the lists keep their lengths, so only the node itself is to be checked
  refine ⟨h.id_eq, fun k => ?_, fun hx => ?_, fun hx => ?_, fun hx => ?_⟩
  · rw [get_size_putNode hn hm]
    exact h.counts_eq k
  · rcases of_node?_putNode hx with ⟨rfl, rfl, rfl⟩ | hx
    · exact hplace.trans (by rw [hm])
    · exact h.handle_eq hx
  · rcases of_node?_putNode hx with ⟨rfl, rfl, rfl⟩ | hx
    · exact hm ▸ h.numbered hn
    · exact h.numbered hx
  · rcases of_node?_putNode hx with ⟨rfl, rfl, rfl⟩ | hx
    · exact hpos
    · exact h.referenced hx

/-- No node has a number that was not given out yet. -/
theorem Sound.node?_next (h : c.Sound next id) (kind : Kind) :
    c.node? kind ⟨next⟩ = none := by
  cases hn : c.node? kind ⟨next⟩ with
  | none => rfl
  | some n => exact absurd (h.numbered hn) (Nat.lt_irrefl next)

/-- A new node takes the next number. -/
theorem Sound.addNode (h : c.Sound next id) (kind : Kind) (token : τ)
    (name : Option String) :
    (c.addNode kind (.first ⟨next⟩ id kind token name)).Sound (next + 1) id := by
  -- the list of its kind and the count of the entry both grow by one
  refine ⟨h.id_eq, fun k => ?_, fun hx => ?_, fun hx => ?_, fun hx => ?_⟩
  · rw [get_size_addNode (h.node?_next kind)]
    show (c.counts.modify kind (· + 1)).get k = _
    rw [PerKind.get_modify, h.counts_eq]
  · rcases of_node?_putNode hx with ⟨rfl, rfl, rfl⟩ | hx
    · simp [Node.handle, Node.kind, Node.first]
    · exact h.handle_eq hx
  · rcases of_node?_putNode hx with ⟨rfl, rfl, rfl⟩ | hx
    · exact Nat.lt_succ_self next
    · exact Nat.lt_succ_of_lt (h.numbered hx)
  · rcases of_node?_putNode hx with ⟨rfl, rfl, rfl⟩ | hx
    · exact Nat.one_pos
    · exact h.referenced hx

theorem Sound.removeNode (h : c.Sound next id) {m : NodeId}
    (hn : c.node? kind m = some n) : (c.removeNode kind m).Sound next id := by
  refine ⟨h.id_eq, fun k => ?_, fun hx => h.handle_eq (of_node?_removeNode hx),
    fun hx => h.numbered (of_node?_removeNode hx),
    fun hx => h.referenced (of_node?_removeNode hx)⟩
  rw [get_size_removeNode hn]
  show (c.counts.modify kind (· - 1)).get k = _
  rw [PerKind.get_modify, h.counts_eq]

/-! ### References of a changed entry -/

theorem nodeRefcount_of_node? {m : NodeId} (hn : c.node? kind m = some n) :
    c.nodeRefcount kind m = n.refcount := by
  rw [nodeRefcount, hn]
  rfl

@[simp]
theorem nodeRefcount_fresh (id : ContainerId) (name : Option String) (b : Bool)
    (k : Kind) (m : NodeId) :
    (fresh id name b : Container τ ρ).nodeRefcount k m = 0 := by
  rw [nodeRefcount, node?_fresh]
  rfl

theorem nodeRefcount_putNode (c : Container τ ρ) (kind k : Kind) (n : Node τ)
    (m : NodeId) :
    (c.putNode kind n).nodeRefcount k m
      = if k = kind ∧ n.id = m then n.refcount else c.nodeRefcount k m := by
  rw [nodeRefcount, node?_putNode]
  split <;> rfl

theorem nodeRefcount_removeNode (c : Container τ ρ) (kind k : Kind)
    (id m : NodeId) :
    (c.removeNode kind id).nodeRefcount k m
      = if k = kind ∧ id = m then 0 else c.nodeRefcount k m := by
  rw [nodeRefcount, node?_removeNode]
  split <;> rfl

/-! ### Loans on an entry -/

/-- The entry of a container counts the references held on it, on top of those
    that it counted as `base`: itself the further opens, pins and nodes, and
    each node the further tracks. -/
structure Lends (base : Container τ ρ) (held : Multiset Reference) (next : Nat)
    (id : ContainerId) (c : Container τ ρ) : Prop extends c.Sound next id where
  refcount_eq : c.refcount + base.nodeCount
    = base.refcount + Reference.holds held id + c.nodeCount
  nodeRefcount_eq : ∀ k m, c.nodeRefcount k m
    = base.nodeRefcount k m + held.count (.tracked ⟨id, k, m⟩)

variable {base : Container τ ρ} {held held' : Multiset Reference}

/-- Only the references on a container matter to its entry. -/
theorem Lends.mono (h : base.Lends held next id c) (hle : next ≤ next')
    (frame : ∀ r : Reference, r.container = id → held'.count r = held.count r) :
    base.Lends held' next' id c where
  toSound := h.toSound.mono hle
  refcount_eq := by
    rw [h.refcount_eq, Reference.holds, Reference.holds, frame _ rfl,
      frame _ rfl]
  nodeRefcount_eq k m := by
    rw [h.nodeRefcount_eq, frame _ rfl]

/-- Names, statistics and resources do not matter to what is lent. -/
theorem Lends.of_same_nodes {c' : Container τ ρ} (h : base.Lends held next id c)
    (hid : c'.id = c.id) (hcounts : c'.counts = c.counts)
    (hnodes : c'.nodes = c.nodes) (hrefcount : c'.refcount = c.refcount) :
    base.Lends held next id c' where
  toSound := h.toSound.of_same_nodes hid hcounts hnodes
  refcount_eq := by
    rw [hrefcount, h.refcount_eq, nodeCount, nodeCount, hnodes]
  nodeRefcount_eq k m := by
    rw [← h.nodeRefcount_eq, nodeRefcount, nodeRefcount, node?, node?, hnodes]

theorem Lends.promote (h : base.Lends held next id c) (name : Option String) :
    base.Lends held next id (c.promote name) := by
  by_cases hp : c.placeholder
  · rw [show c.promote name
      = { c with placeholder := false, name := name <|> c.name } from if_pos hp]
    exact h.of_same_nodes rfl rfl rfl rfl
  · rw [show c.promote name = c from if_neg hp]
    exact h

theorem Lends.retain (h : base.Lends held next id c) {r : Reference}
    (hr : r.IsHold id) : base.Lends (r ::ₘ held) next id c.retain where
  toSound := h.toSound.of_same_nodes rfl rfl rfl
  refcount_eq := by
    have hcount := h.refcount_eq
    show c.refcount + 1 + base.nodeCount
      = base.refcount + Reference.holds (r ::ₘ held) id + c.nodeCount
    rw [Reference.holds_cons_of_isHold hr]
    omega
  nodeRefcount_eq k m := by
    rw [Reference.count_tracked_cons_of_isHold hr]
    exact h.nodeRefcount_eq k m

/-- A reference that the entry does not owe to its base or to its nodes can be
    given back. -/
theorem Lends.release {r : Reference} (hr : r.IsHold id)
    (h : base.Lends (r ::ₘ held) next id c) (hpos : 0 < c.refcount) :
    base.Lends held next id c.release where
  toSound := h.toSound.of_same_nodes rfl rfl rfl
  refcount_eq := by
    have hcount := h.refcount_eq
    rw [Reference.holds_cons_of_isHold hr] at hcount
    show c.refcount - 1 + base.nodeCount
      = base.refcount + Reference.holds held id + c.nodeCount
    omega
  nodeRefcount_eq k m := by
    rw [← Reference.count_tracked_cons_of_isHold hr]
    exact h.nodeRefcount_eq k m

/-- A node may change in all but its place, if its references follow. -/
theorem Lends.putNode (h : base.Lends held next id c) {m : NodeId}
    (hn : c.node? kind m = some n) (hhandle : n'.handle = n.handle)
    (hpos : 0 < n'.refcount)
    (hself : n'.refcount
      = base.nodeRefcount kind m + held'.count (.tracked ⟨id, kind, m⟩))
    (frame : ∀ r, r ≠ .tracked ⟨id, kind, m⟩ → held'.count r = held.count r) :
    base.Lends held' next id (c.putNode kind n') := by
  have hplace : n'.handle = ⟨id, kind, m⟩ := hhandle.trans (h.handle_eq hn)
  have hm : n'.id = m := congrArg NodeHandle.node hplace
  refine ⟨h.toSound.putNode hn hhandle hpos, ?_, fun k m' => ?_⟩
  · rw [nodeCount_putNode hn hm, Reference.holds, frame _ (by simp),
      frame _ (by simp)]
    exact h.refcount_eq
  · rw [nodeRefcount_putNode, hm]
    by_cases hk : k = kind ∧ m = m'
    · obtain ⟨rfl, rfl⟩ := hk
      rw [if_pos ⟨rfl, rfl⟩, hself]
    · rw [if_neg hk, frame _ fun heq => hk ?_]
      · exact h.nodeRefcount_eq k m'
      · cases heq
        exact ⟨rfl, rfl⟩

/-- A new node brings one reference on its container and is tracked once. -/
theorem Lends.addNode (h : base.Lends held next id c) (token : τ)
    (name : Option String) :
    base.Lends (.tracked ⟨id, kind, ⟨next⟩⟩ ::ₘ held) (next + 1) id
      (c.addNode kind (.first ⟨next⟩ id kind token name)) := by
  have hnone : c.node? kind ⟨next⟩ = none := h.toSound.node?_next kind
  refine ⟨h.toSound.addNode kind token name, ?_, fun k m' => ?_⟩
  · have hcount := h.refcount_eq
    rw [nodeCount_addNode hnone, Reference.holds_cons_tracked]
    show c.refcount + 1 + base.nodeCount = _
    omega
  · rw [show (c.addNode kind (.first ⟨next⟩ id kind token name)).nodeRefcount k m'
      = _ from nodeRefcount_putNode c kind k _ m']
    by_cases hk : k = kind ∧ (Node.first ⟨next⟩ id kind token name).id = m'
    · obtain ⟨rfl, rfl⟩ := hk
      -- nobody tracked the number before, it was not given out yet
      have hcount := h.nodeRefcount_eq k ⟨next⟩
      rw [nodeRefcount, hnone] at hcount
      rw [if_pos ⟨rfl, rfl⟩,
        show (Node.first ⟨next⟩ id k token name).id = ⟨next⟩ from rfl,
        Multiset.count_cons_self, ← Nat.add_assoc, ← hcount]
      rfl
    · rw [if_neg hk, Multiset.count_cons_of_ne fun heq => hk ?_]
      · exact h.nodeRefcount_eq k m'
      · cases heq
        exact ⟨rfl, rfl⟩

/-- Without a node that is tracked once, its reference on the container is
    left over, as if the container were pinned. -/
theorem Lends.removeNode {m : NodeId}
    (h : base.Lends (.tracked ⟨id, kind, m⟩ ::ₘ held) next id c)
    (hn : c.node? kind m = some n) (hlast : n.refcount = 1) :
    base.Lends (.pinned id ::ₘ held) next id (c.removeNode kind m) := by
  refine ⟨h.toSound.removeNode hn, ?_, fun k m' => ?_⟩
  · -- one node less and one pin more: the count of the entry stays
    have hcount := h.refcount_eq
    have hless := nodeCount_removeNode hn
    rw [Reference.holds_cons_tracked] at hcount
    rw [Reference.holds_cons_of_isHold (Or.inr rfl)]
    show c.refcount + base.nodeCount = _
    omega
  · have hcount := h.nodeRefcount_eq k m'
    rw [Reference.count_tracked_cons_of_isHold (Or.inr rfl),
      nodeRefcount_removeNode]
    by_cases hk : k = kind ∧ m = m'
    · obtain ⟨rfl, rfl⟩ := hk
      rw [nodeRefcount_of_node? hn, hlast, Multiset.count_cons_self] at hcount
      rw [if_pos ⟨rfl, rfl⟩]
      omega
    · rw [Multiset.count_cons_of_ne fun heq => hk (by cases heq; exact ⟨rfl, rfl⟩)]
        at hcount
      rw [if_neg hk]
      exact hcount

/-! ### Balance of an entry -/

/-- The entry of a container counts the references held on it: itself its
    opens, its pins and its nodes, and each node its tracks. -/
structure Balanced (held : Multiset Reference) (next : Nat) (id : ContainerId)
    (c : Container τ ρ) : Prop extends c.Sound next id where
  refcount_eq : c.refcount = Reference.holds held id + c.nodeCount
  nodeRefcount_eq : ∀ k m,
    c.nodeRefcount k m = held.count (.tracked ⟨id, k, m⟩)

/-- A balanced entry owes all that it counts to the references held. -/
theorem balanced_iff_lends :
    c.Balanced held next id ↔
      (fresh id none false : Container τ ρ).Lends held next id c := by
  constructor
  · intro h
    refine ⟨h.toSound, ?_, fun k m => ?_⟩
    · rw [nodeCount_fresh, h.refcount_eq]
      exact congrArg (· + c.nodeCount) (Nat.zero_add _).symm
    · rw [nodeRefcount_fresh, Nat.zero_add]
      exact h.nodeRefcount_eq k m
  · intro h
    refine ⟨h.toSound, ?_, fun k m => ?_⟩
    · have hcount := h.refcount_eq
      rw [nodeCount_fresh] at hcount
      exact hcount.trans (congrArg (· + c.nodeCount) (Nat.zero_add _))
    · rw [h.nodeRefcount_eq, nodeRefcount_fresh, Nat.zero_add]

/-- A node whose handle is tracked is there. -/
theorem Balanced.exists_node (h : c.Balanced held next id) {m : NodeId}
    (hr : .tracked ⟨id, kind, m⟩ ∈ held) : ∃ n, c.node? kind m = some n := by
  have hcount := Multiset.count_pos.mpr hr
  rw [← h.nodeRefcount_eq, nodeRefcount] at hcount
  cases hn : c.node? kind m with
  | none =>
      rw [hn] at hcount
      exact absurd hcount (Nat.lt_irrefl 0)
  | some n => exact ⟨n, rfl⟩

theorem Balanced.count_tracked (h : c.Balanced held next id) {m : NodeId}
    (hn : c.node? kind m = some n) :
    held.count (.tracked ⟨id, kind, m⟩) = n.refcount := by
  rw [← h.nodeRefcount_eq, nodeRefcount_of_node? hn]

/-- An entry without references is balanced if nobody holds any. -/
theorem balanced_fresh (name : Option String) (b : Bool)
    (hnone : ∀ r : Reference, r.container = id → held.count r = 0) :
    (fresh id name b : Container τ ρ).Balanced held next id where
  toSound := sound_fresh next id name b
  refcount_eq := by
    rw [nodeCount_fresh, Reference.holds, hnone _ rfl, hnone _ rfl]
    rfl
  nodeRefcount_eq k m := by
    rw [hnone _ rfl, nodeRefcount_fresh]

/-- Names, statistics and resources do not matter to balance. -/
theorem Balanced.of_same_nodes {c' : Container τ ρ}
    (h : c.Balanced held next id) (hid : c'.id = c.id)
    (hcounts : c'.counts = c.counts) (hnodes : c'.nodes = c.nodes)
    (hrefcount : c'.refcount = c.refcount) : c'.Balanced held next id :=
  balanced_iff_lends.mpr
    ((balanced_iff_lends.mp h).of_same_nodes hid hcounts hnodes hrefcount)

theorem Balanced.promote (h : c.Balanced held next id) (name : Option String) :
    (c.promote name).Balanced held next id :=
  balanced_iff_lends.mpr ((balanced_iff_lends.mp h).promote name)

theorem Balanced.retain (h : c.Balanced held next id) {r : Reference}
    (hr : r.IsHold id) : c.retain.Balanced (r ::ₘ held) next id :=
  balanced_iff_lends.mpr ((balanced_iff_lends.mp h).retain hr)

theorem Balanced.release {r : Reference} (hr : r.IsHold id)
    (h : c.Balanced (r ::ₘ held) next id) :
    c.release.Balanced held next id := by
  refine balanced_iff_lends.mpr ((balanced_iff_lends.mp h).release hr ?_)
  rw [h.refcount_eq, Reference.holds_cons_of_isHold hr]
  omega

/-- A node may change in all but its place, if its references follow. -/
theorem Balanced.putNode (h : c.Balanced held next id) {m : NodeId}
    (hn : c.node? kind m = some n) (hhandle : n'.handle = n.handle)
    (hpos : 0 < n'.refcount)
    (hself : held'.count (.tracked ⟨id, kind, m⟩) = n'.refcount)
    (frame : ∀ r, r ≠ .tracked ⟨id, kind, m⟩ → held'.count r = held.count r) :
    (c.putNode kind n').Balanced held' next id := by
  refine balanced_iff_lends.mpr
    ((balanced_iff_lends.mp h).putNode hn hhandle hpos ?_ frame)
  rw [nodeRefcount_fresh, Nat.zero_add, hself]

/-- A new node brings one reference on its container and is tracked once. -/
theorem Balanced.addNode (h : c.Balanced held next id) (token : τ)
    (name : Option String) :
    (c.addNode kind (.first ⟨next⟩ id kind token name)).Balanced
      (.tracked ⟨id, kind, ⟨next⟩⟩ ::ₘ held) (next + 1) id :=
  balanced_iff_lends.mpr ((balanced_iff_lends.mp h).addNode token name)

/-- Without a node that is tracked once, its reference on the container is
    left over, as if the container were pinned. -/
theorem Balanced.removeNode {m : NodeId}
    (h : c.Balanced (.tracked ⟨id, kind, m⟩ ::ₘ held) next id)
    (hn : c.node? kind m = some n) (hlast : n.refcount = 1) :
    (c.removeNode kind m).Balanced (.pinned id ::ₘ held) next id :=
  balanced_iff_lends.mpr ((balanced_iff_lends.mp h).removeNode hn hlast)

/-- A balanced entry without references has no nodes. -/
theorem Balanced.no_children (h : c.Balanced held next id)
    (hzero : c.refcount = 0) : ¬ c.hasChildren = true := by
  have hcount := h.refcount_eq
  rw [h.toSound.hasChildren_iff]
  omega

/-- Nobody refers to a balanced entry without references. -/
theorem Balanced.notMem (h : c.Balanced held next id) (hzero : c.refcount = 0)
    {r : Reference} (hr : r.container = id) : r ∉ held := by
  obtain ⟨ho, hp, hnodes⟩ : held.count (.opened id) = 0 ∧
      held.count (.pinned id) = 0 ∧ c.nodeCount = 0 := by
    have hcount := h.refcount_eq
    rw [Reference.holds] at hcount
    omega
  intro hmem
  cases r with
  | opened _ =>
      cases hr
      exact Multiset.count_eq_zero.mp ho hmem
  | pinned _ =>
      cases hr
      exact Multiset.count_eq_zero.mp hp hmem
  | tracked node =>
      cases hr
      obtain ⟨n, hn⟩ := h.exists_node hmem
      have hsize := nodeCount_removeNode hn
      omega

end Container

/-! ## Registries -/

namespace Registry

variable {τ ρ : Type} {reg : Registry τ ρ} {held held' : Multiset Reference}
  {id : ContainerId} {c : Container τ ρ}

theorem container?_put (reg : Registry τ ρ) (c : Container τ ρ)
    (id : ContainerId) :
    (reg.put c).container? id = if c.id = id then some c else reg.container? id :=
  IdMap.get?_insert reg.containers c.id id c

theorem container?_remove (reg : Registry τ ρ) (id j : ContainerId) :
    (reg.remove id).container? j = if id = j then none else reg.container? j :=
  IdMap.get?_erase reg.containers id j

theorem put_put (reg : Registry τ ρ) {c c' : Container τ ρ} (h : c'.id = c.id) :
    (reg.put c).put c' = reg.put c' := by
  show ({ reg with containers := _ } : Registry τ ρ) = { reg with containers := _ }
  rw [show (reg.put c).containers.insert c'.id c'
    = reg.containers.insert c'.id c' from h ▸ IdMap.insert_insert _ _ _ _]

theorem remove_put (reg : Registry τ ρ) {c : Container τ ρ}
    (h : reg.container? c.id = none) : (reg.put c).remove c.id = reg := by
  show ({ reg with containers := _ } : Registry τ ρ) = reg
  rw [show (reg.put c).containers.erase c.id = reg.containers
    from IdMap.erase_insert _ h]

theorem node?_eq_some_iff {node : NodeHandle} {n : Node τ} :
    reg.node? node = some n ↔ ∃ c, reg.container? node.container = some c ∧
      c.node? node.kind node.node = some n :=
  Option.bind_eq_some_iff

/-- Every entry of the registry counts the references held on it, on top of
    those that it counted as `base`, and no reference is held on a container
    without an entry. -/
structure Lends (base : ContainerId → Container τ ρ) (held : Multiset Reference)
    (reg : Registry τ ρ) : Prop where
  entry : ∀ {id c}, reg.container? id = some c →
    (base id).Lends held reg.nextNode id c
  present : ∀ r ∈ held, ∃ c, reg.container? r.container = some c

theorem Lends.count_eq_zero {base : ContainerId → Container τ ρ}
    (h : reg.Lends base held) (hid : reg.container? id = none) (r : Reference)
    (hr : r.container = id) : held.count r = 0 := by
  refine Multiset.count_eq_zero_of_notMem fun hmem => ?_
  obtain ⟨c, hc⟩ := h.present r hmem
  rw [hr, hid] at hc
  cases hc

/-- To change one entry, with all the references held on it.  Nodes may be
    numbered on the way. -/
theorem Lends.put {base : ContainerId → Container τ ρ} (h : reg.Lends base held)
    {next : Nat} (hnext : reg.nextNode ≤ next)
    (hc : (base id).Lends held' next id c)
    (frame : ∀ r : Reference, r.container ≠ id → held'.count r = held.count r) :
    ({ reg with nextNode := next }.put c).Lends base held' := by
  have hput := container?_put { reg with nextNode := next } c
  rw [hc.id_eq] at hput
  refine ⟨fun {id' c'} hget => ?_, fun r hr => ?_⟩
  · rw [hput] at hget
    by_cases hid : id = id'
    · rw [if_pos hid] at hget
      cases hget
      exact hid ▸ hc
    · rw [if_neg hid] at hget
      refine (h.entry hget).mono hnext fun r hr => frame r ?_
      exact fun heq => hid (heq.symm.trans hr)
  · rw [hput]
    by_cases hid : id = r.container
    · rw [if_pos hid]
      exact ⟨c, rfl⟩
    · rw [if_neg hid]
      refine h.present r (Multiset.count_pos.mp ?_)
      rw [← frame r fun heq => hid heq.symm]
      exact Multiset.count_pos.mpr hr

/-- To leave out an entry that nobody refers to any more. -/
theorem Lends.remove {base : ContainerId → Container τ ρ}
    (h : reg.Lends base held)
    (hnone : ∀ r : Reference, r.container = id → r ∉ held')
    (frame : ∀ r : Reference, r.container ≠ id → held'.count r = held.count r) :
    (reg.remove id).Lends base held' := by
  refine ⟨fun {id' c'} hget => ?_, fun r hr => ?_⟩
  · rw [container?_remove] at hget
    by_cases hid : id = id'
    · rw [if_pos hid] at hget
      cases hget
    · rw [if_neg hid] at hget
      refine (h.entry hget).mono (Nat.le_refl _) fun r hr => frame r ?_
      exact fun heq => hid (heq.symm.trans hr)
  · have hid : id ≠ r.container := fun heq => hnone r heq.symm hr
    rw [container?_remove, if_neg hid]
    refine h.present r (Multiset.count_pos.mp ?_)
    rw [← frame r fun heq => hid heq.symm]
    exact Multiset.count_pos.mpr hr

/-- Every entry of the registry counts the references held on it, and no
    reference is held on a container without an entry. -/
structure Balanced (held : Multiset Reference) (reg : Registry τ ρ) : Prop where
  entry : ∀ {id c}, reg.container? id = some c → c.Balanced held reg.nextNode id
  present : ∀ r ∈ held, ∃ c, reg.container? r.container = some c

/-- A balanced registry owes all that it counts to the references held. -/
theorem balanced_iff_lends :
    reg.Balanced held ↔ reg.Lends (fun id => .fresh id none false) held :=
  ⟨fun h => ⟨fun hget => Container.balanced_iff_lends.mp (h.entry hget), h.present⟩,
    fun h => ⟨fun hget => Container.balanced_iff_lends.mpr (h.entry hget), h.present⟩⟩

/-- A balanced registry in which every entry has references.  This holds
    between operations; in the middle of one, a new entry has none yet. -/
structure Consistent (held : Multiset Reference) (reg : Registry τ ρ) : Prop
    extends reg.Balanced held where
  occupied : ∀ {id c}, reg.container? id = some c → 0 < c.refcount

theorem Balanced.count_eq_zero (h : reg.Balanced held)
    (hid : reg.container? id = none) (r : Reference) (hr : r.container = id) :
    held.count r = 0 :=
  (balanced_iff_lends.mp h).count_eq_zero hid r hr

/-- To change one entry, with all the references held on it, keeps the
    balance.  Nodes may be numbered on the way. -/
theorem Balanced.put (h : reg.Balanced held) {next : Nat}
    (hnext : reg.nextNode ≤ next) (hc : c.Balanced held' next id)
    (frame : ∀ r : Reference, r.container ≠ id → held'.count r = held.count r) :
    ({ reg with nextNode := next }.put c).Balanced held' :=
  balanced_iff_lends.mpr ((balanced_iff_lends.mp h).put hnext
    (Container.balanced_iff_lends.mp hc) frame)

/-- To leave out an entry keeps the balance if nobody refers to it. -/
theorem Balanced.remove (h : reg.Balanced held)
    (hnone : ∀ r : Reference, r.container = id → r ∉ held')
    (frame : ∀ r : Reference, r.container ≠ id → held'.count r = held.count r) :
    (reg.remove id).Balanced held' :=
  balanced_iff_lends.mpr ((balanced_iff_lends.mp h).remove hnone frame)

/-- In a registry whose other entries have references, one entry more with a
    reference. -/
theorem consistent_put (hb : (reg.put c).Balanced held) (hc : c.id = id)
    (hpos : 0 < c.refcount)
    (hothers : ∀ {id' c'}, id ≠ id' → reg.container? id' = some c' →
      0 < c'.refcount) : (reg.put c).Consistent held := by
  refine ⟨hb, fun {id' c'} hget => ?_⟩
  rw [container?_put, hc] at hget
  by_cases hid : id = id'
  · rw [if_pos hid] at hget
    cases hget
    exact hpos
  · rw [if_neg hid] at hget
    exact hothers hid hget

/-- To change one entry of a consistent registry, with all the references held
    on it, as long as some of them are left. -/
theorem Consistent.put (h : reg.Consistent held)
    (hc : c.Balanced held' reg.nextNode id) (hpos : 0 < c.refcount)
    (frame : ∀ r : Reference, r.container ≠ id → held'.count r = held.count r) :
    (reg.put c).Consistent held' :=
  consistent_put (h.toBalanced.put (Nat.le_refl _) hc frame) hc.id_eq hpos
    fun _ hget => h.occupied hget

/-- An empty registry is consistent as long as nothing is held. -/
theorem consistent_ofConfig (config : Config) :
    (Registry.ofConfig config : Registry τ ρ).Consistent 0 where
  entry hget := nomatch hget
  present _ hr := absurd hr (Multiset.notMem_zero _)
  occupied hget := nomatch hget

end Registry

end Provenance
