import Mathlib.Data.Multiset.MapFold
import Provenance.Proofs.Registry.Lifetime
import Provenance.Proofs.Registry.Conservation

/-! # Round trips

    Whoever takes references on a registry and gives each of them back leaves
    the registry as it was, whatever order they are given back in.  The state
    that it starts from may be any that was built without a fault, also one in
    which references were given back that nobody took; so what is counted is
    not who holds what, but what was lent on top of the start
    (`Registry.Lends`).

    Each reference taken adds one to what is lent (`Op.run_lends`), each one
    given back takes one off, and never fails (`Op.run_release`).  When nothing
    is lent any more, only the accesses of nodes may have grown
    (`Lends.revisited`). -/

namespace Provenance

/-! ## What lasts -/

/-- A node over which references are lent: nothing else changes but its
    accesses, which only grow. -/
structure Node.Lasts {τ : Type} (n n' : Node τ) : Prop where
  eq : n' = { n with refcount := n'.refcount, accesses := n'.accesses }
  accesses_le : n.accesses ≤ n'.accesses

/-- A node that was looked up meanwhile: only its accesses differ. -/
structure Node.Revisited {τ : Type} (n n' : Node τ) : Prop where
  eq : n' = { n with accesses := n'.accesses }
  accesses_le : n.accesses ≤ n'.accesses

namespace Node

variable {τ : Type} {n n' n'' : Node τ}

theorem Lasts.refl (n : Node τ) : n.Lasts n := ⟨rfl, Nat.le_refl _⟩

theorem Lasts.trans (h : n.Lasts n') (h' : n'.Lasts n'') : n.Lasts n'' := by
  refine ⟨?_, Nat.le_trans h.accesses_le h'.accesses_le⟩
  rw [h'.eq, h.eq]

theorem lasts_again (n : Node τ) : n.Lasts n.again := ⟨rfl, Nat.le_succ _⟩

theorem Lasts.id_eq (h : n.Lasts n') : n'.id = n.id := by
  rw [h.eq]

theorem Lasts.revisited (h : n.Lasts n') (hrefcount : n'.refcount = n.refcount) :
    n.Revisited n' := by
  refine ⟨?_, h.accesses_le⟩
  rw [h.eq, hrefcount]

end Node

namespace Container

variable {τ ρ : Type} {next next' : Nat} {id : ContainerId} {c c₀ : Container τ ρ}
  {kind : Kind} {m : NodeId} {n n' : Node τ} {held : Multiset Reference}

/-- A container on which references are lent: it keeps all but its counts, and
    its nodes last. -/
structure Lasts (c₀ c : Container τ ρ) : Prop where
  eq : c = { c₀ with refcount := c.refcount, counts := c.counts, nodes := c.nodes }
  node : ∀ {k m n}, c₀.node? k m = some n → ∃ n', c.node? k m = some n' ∧ n.Lasts n'

/-- A container whose nodes were looked up meanwhile: only their accesses
    differ. -/
structure Revisited (c₀ c : Container τ ρ) : Prop where
  eq : c = { c₀ with nodes := c.nodes }
  node : ∀ k m, Option.Rel Node.Revisited (c₀.node? k m) (c.node? k m)

theorem Lasts.refl (c : Container τ ρ) : c.Lasts c :=
  ⟨rfl, fun hn => ⟨_, hn, .refl _⟩⟩

/-- References alone do not matter to what lasts. -/
theorem Lasts.of_refcount (h : c₀.Lasts c) (refcount : Nat) :
    c₀.Lasts { c with refcount := refcount } := by
  refine ⟨?_, h.node⟩
  rw [h.eq]

/-- Only a placeholder is changed by a promotion. -/
theorem Lasts.promote (h : c₀.Lasts c) (name : Option String)
    (hordinary : c₀.placeholder = false) : c₀.Lasts (c.promote name) := by
  have hplaceholder : c.placeholder = false := by
    rw [h.eq]
    exact hordinary
  rw [show c.promote name = c from if_neg (by simp [hplaceholder])]
  exact h

theorem Lasts.putNode (h : c₀.Lasts c) (hn : c.node? kind n.id = some n)
    (hlast : n.Lasts n') : c₀.Lasts (c.putNode kind n') := by
  refine ⟨?_, fun {k m' n₀} hn₀ => ?_⟩
  · rw [h.eq]
    rfl
  · obtain ⟨o, ho, hlasts⟩ := h.node hn₀
    rw [node?_putNode]
    by_cases hk : k = kind ∧ n'.id = m'
    · obtain ⟨rfl, rfl⟩ := hk
      rw [hlast.id_eq, hn] at ho
      cases ho
      exact ⟨n', if_pos ⟨rfl, rfl⟩, hlasts.trans hlast⟩
    · exact ⟨o, (if_neg hk).trans ho, hlasts⟩

/-- A new node stands beside the old ones. -/
theorem Lasts.addNode (h : c₀.Lasts c) (hnone : c.node? kind n.id = none) :
    c₀.Lasts (c.addNode kind n) := by
  refine ⟨?_, fun {k m' n₀} hn₀ => ?_⟩
  · rw [h.eq]
    rfl
  · obtain ⟨o, ho, hlasts⟩ := h.node hn₀
    rw [node?_addNode]
    by_cases hk : k = kind ∧ n.id = m'
    · obtain ⟨rfl, rfl⟩ := hk
      rw [hnone] at ho
      cases ho
    · exact ⟨o, (if_neg hk).trans ho, hlasts⟩

theorem Lasts.removeNode (h : c₀.Lasts c) (hnone : c₀.node? kind m = none) :
    c₀.Lasts (c.removeNode kind m) := by
  refine ⟨?_, fun {k m' n₀} hn₀ => ?_⟩
  · rw [h.eq]
    rfl
  · obtain ⟨o, ho, hlasts⟩ := h.node hn₀
    rw [node?_removeNode]
    by_cases hk : k = kind ∧ m = m'
    · obtain ⟨rfl, rfl⟩ := hk
      rw [hnone] at hn₀
      cases hn₀
    · exact ⟨o, (if_neg hk).trans ho, hlasts⟩

/-- Once nothing is lent on a container any more, it has its old nodes with
    their old references, and no others. -/
theorem Lends.revisited (h : c₀.Lends 0 next id c) (hsound : c₀.Sound next' id)
    (hlasts : c₀.Lasts c) : c₀.Revisited c := by
  have hrefs : ∀ k m, c.nodeRefcount k m = c₀.nodeRefcount k m := fun k m =>
    (h.nodeRefcount_eq k m).trans (by rw [Multiset.count_zero, Nat.add_zero])
  -- a node that was not there has no references
  have hold : ∀ {k m n}, c.node? k m = some n → ∃ n₀, c₀.node? k m = some n₀ := by
    intro k m n hn
    cases hn₀ : c₀.node? k m with
    | some n₀ => exact ⟨n₀, rfl⟩
    | none =>
        have hpos := h.referenced hn
        rw [← nodeRefcount_of_node? hn, hrefs, nodeRefcount, hn₀] at hpos
        exact absurd hpos (Nat.lt_irrefl 0)
  have hnew : ∀ {k m n}, c₀.node? k m = some n → ∃ n', c.node? k m = some n' :=
    fun hn => (hlasts.node hn).imp fun _ hn' => hn'.1
  have hcounts : c.counts = c₀.counts := PerKind.ext_get fun k => by
    rw [h.counts_eq, hsound.counts_eq]
    exact Nat.le_antisymm (IdMap.size_le hold) (IdMap.size_le hnew)
  have hrefcount : c.refcount = c₀.refcount := by
    have hcount := h.refcount_eq
    have hle := nodeCount_le hold
    have hge := nodeCount_le hnew
    rw [Reference.holds, Multiset.count_zero, Multiset.count_zero] at hcount
    omega
  refine ⟨?_, fun k m => ?_⟩
  · rw [hlasts.eq, hcounts, hrefcount]
  · cases hn₀ : c₀.node? k m with
    | some n₀ =>
        obtain ⟨n, hn, hlast⟩ := hlasts.node hn₀
        rw [hn]
        refine .some (hlast.revisited ?_)
        rw [← nodeRefcount_of_node? hn, hrefs, nodeRefcount_of_node? hn₀]
    | none =>
        cases hn : c.node? k m with
        | none => exact .none
        | some n =>
            obtain ⟨n₀, hn₀'⟩ := hold hn
            rw [hn₀] at hn₀'
            cases hn₀'

end Container

/-! ## Loans on a registry -/

/-- What gives a reference back. -/
def Reference.release {η τ ρ : Type} : Reference → Registry.Op η τ ρ
  | opened id => .closeContainer id
  | pinned id => .closeContainer id
  | tracked node => .untrack node

namespace Registry

variable {ω η τ ρ ε : Type} {reg₀ reg reg' : Registry τ ρ}
  {held held' : Multiset Reference} {id : ContainerId} {kind : Kind}
  {c : Container τ ρ} {node : NodeHandle}

/-- The entry of a container, or one that counts nothing if it has none. -/
def entry (reg : Registry τ ρ) (id : ContainerId) : Container τ ρ :=
  (reg.container? id).getD (.fresh id none false)

theorem entry_of_some (hget : reg.container? id = some c) : reg.entry id = c := by
  rw [entry, hget]
  rfl

theorem entry_of_none (hget : reg.container? id = none) :
    reg.entry id = .fresh id none false := by
  rw [entry, hget]
  rfl

/-- All containers of a registry last. -/
def Lasts (reg₀ reg : Registry τ ρ) : Prop :=
  ∀ id c₀, reg₀.container? id = some c₀ →
    ∃ c, reg.container? id = some c ∧ c₀.Lasts c

/-- A registry that is as it was, but for the accesses of nodes that were looked
    up meanwhile. -/
def Revisited (reg₀ reg : Registry τ ρ) : Prop :=
  ∀ id, Option.Rel Container.Revisited (reg₀.container? id) (reg.container? id)

/-- References are lent on a registry: it counts them on top of those that it
    counted before, all that was there lasts, and no container is left behind
    without references. -/
structure Lent (reg₀ : Registry τ ρ) (held : Multiset Reference)
    (reg : Registry τ ρ) : Prop extends reg.Lends reg₀.entry held where
  lasts : reg₀.Lasts reg
  occupied : ∀ {id c}, reg.container? id = some c → 0 < c.refcount

/-- A sound registry without containers that nothing refers to. -/
structure Lender (reg₀ : Registry τ ρ) : Prop extends reg₀.Sound where
  occupied : ∀ {id c}, reg₀.container? id = some c → 0 < c.refcount

theorem Lender.lent (h : reg₀.Lender) : reg₀.Lent 0 reg₀ where
  entry {id c} hget := by
    rw [entry_of_some hget]
    exact ⟨h.entry hget, by simp [Reference.holds], fun k m => by simp⟩
  present r hr := absurd hr (Multiset.notMem_zero r)
  lasts _ _ hget := ⟨_, hget, .refl _⟩
  occupied := h.occupied

theorem Lent.absent (h : reg₀.Lent held reg) (hid : reg.container? id = none) :
    reg₀.container? id = none := by
  cases hget : reg₀.container? id with
  | none => rfl
  | some c₀ =>
      obtain ⟨c, hc, -⟩ := h.lasts _ _ hget
      rw [hid] at hc
      cases hc

theorem Lent.lasts_of_some (h : reg₀.Lent held reg)
    (hget : reg.container? id = some c) {c₀ : Container τ ρ}
    (hget₀ : reg₀.container? id = some c₀) : c₀.Lasts c := by
  obtain ⟨c', hget', hlasts⟩ := h.lasts _ _ hget₀
  rw [hget] at hget'
  cases hget'
  exact hlasts

/-- Nothing is lent on a container that is not there. -/
theorem Lent.fresh (h : reg₀.Lent held reg) (hid : reg.container? id = none)
    (name : Option String) (b : Bool) :
    (reg₀.entry id).Lends held reg.nextNode id (.fresh id name b) := by
  rw [entry_of_none (h.absent hid)]
  exact Container.balanced_iff_lends.mp
    (Container.balanced_fresh name b fun r hr => h.count_eq_zero hid r hr)

/-- To change one entry, with all that is lent on it.  Nodes may be numbered on
    the way. -/
theorem Lent.put (h : reg₀.Lent held reg) {next : Nat}
    (hnext : reg.nextNode ≤ next) (hc : (reg₀.entry id).Lends held' next id c)
    (hlasts : ∀ {c₀}, reg₀.container? id = some c₀ → c₀.Lasts c)
    (hpos : 0 < c.refcount)
    (frame : ∀ r : Reference, r.container ≠ id → held'.count r = held.count r) :
    reg₀.Lent held' ({ reg with nextNode := next }.put c) := by
  have hput := container?_put { reg with nextNode := next } c
  rw [hc.id_eq] at hput
  refine ⟨h.toLends.put hnext hc frame, fun id' c₀ hget => ?_,
    fun {id' c'} hget => ?_⟩
  · rw [hput]
    by_cases hid : id = id'
    · exact ⟨c, if_pos hid, hlasts (hid ▸ hget)⟩
    · rw [if_neg hid]
      exact h.lasts id' c₀ hget
  · rw [hput] at hget
    by_cases hid : id = id'
    · rw [if_pos hid] at hget
      cases hget
      exact hpos
    · rw [if_neg hid] at hget
      exact h.occupied hget

/-- To leave out an entry that was not there before, once nothing is lent on it
    any more. -/
theorem Lent.remove (h : reg₀.Lent held reg) (hnew : reg₀.container? id = none)
    (hnone : ∀ r : Reference, r.container = id → r ∉ held')
    (frame : ∀ r : Reference, r.container ≠ id → held'.count r = held.count r) :
    reg₀.Lent held' (reg.remove id) := by
  refine ⟨h.toLends.remove hnone frame, fun id' c₀ hget => ?_,
    fun {id' c'} hget => ?_⟩
  · have hid : id ≠ id' := by
      rintro rfl
      rw [hnew] at hget
      cases hget
    rw [container?_remove, if_neg hid]
    exact h.lasts id' c₀ hget
  · rw [container?_remove] at hget
    by_cases hid : id = id'
    · rw [if_pos hid] at hget
      cases hget
    · rw [if_neg hid] at hget
      exact h.occupied hget

/-- When nothing is lent any more, the registry is as it was but for the
    accesses of nodes. -/
theorem Lent.revisited (h : reg₀.Lent 0 reg) (hs : reg₀.Lender) :
    reg₀.Revisited reg := by
  intro id
  cases hget : reg.container? id with
  | none =>
      rw [h.absent hget]
      exact .none
  | some c =>
      have hc := h.entry hget
      cases hget₀ : reg₀.container? id with
      | some c₀ =>
          rw [entry_of_some hget₀] at hc
          exact .some (hc.revisited (hs.entry hget₀) (h.lasts_of_some hget hget₀))
      | none =>
          -- a container that came in has no references left
          rw [entry_of_none hget₀] at hc
          have hle := (Container.balanced_iff_lends.mpr hc).refcount_le_card
          have hpos := h.occupied hget
          rw [Multiset.card_zero] at hle
          omega

/-! ## Taking a reference -/

theorem openContainer_lent {ev : List Event} (memory : Memory)
    (name : Option String) (h : reg₀.Lent held reg)
    (hordinary : ∀ {c₀}, reg₀.container? id = some c₀ → c₀.placeholder = false) :
    (openContainer memory id name).Ensures reg ev
      (fun _ reg' _ => reg₀.Lent (.opened id ::ₘ held) reg')
      (fun _ _ _ => True) (fun _ _ _ => True) := by
  have hhold : (Reference.opened id).IsHold id := Or.inl rfl
  have frame : ∀ r : Reference, r.container ≠ id →
      (.opened id ::ₘ held).count r = held.count r :=
    fun r hr => Reference.count_cons_of_container_ne rfl hr held
  simp only [Call.Ensures, openContainer]
  by_cases hm : grantsName memory .objectName name
  · rw [if_pos hm]
    cases hget : reg.container? id with
    | some c =>
        refine h.put (Nat.le_refl _) (((h.entry hget).promote name).retain hhold)
          (fun hget₀ => ?_) (Nat.succ_pos _) frame
        exact ((h.lasts_of_some hget hget₀).promote name
          (hordinary hget₀)).of_refcount _
    | none =>
        refine h.put (Nat.le_refl _) ((h.fresh hget name false).retain hhold)
          (fun hget₀ => ?_) (Nat.succ_pos _) frame
        rw [h.absent hget] at hget₀
        cases hget₀
  · rw [if_neg hm]
    trivial

theorem pinContainer_lent {ev : List Event} (h : reg₀.Lent held reg) :
    (pinContainer id).Ensures reg ev
      (fun _ reg' _ => reg₀.Lent (.pinned id ::ₘ held) reg')
      (fun _ _ _ => True) (fun _ _ _ => True) := by
  simp only [Call.Ensures, pinContainer]
  cases hget : reg.container? id with
  | some c =>
      exact h.put (Nat.le_refl _) ((h.entry hget).retain (Or.inr rfl))
        (fun hget₀ => (h.lasts_of_some hget hget₀).of_refcount _) (Nat.succ_pos _)
        fun r hr => Reference.count_cons_of_container_ne rfl hr held
  | none => trivial

theorem Tracked.lent [Identity ω η τ] {memory : Memory} {token : τ}
    {name : Option String}
    (ht : Tracked ω memory reg id kind token name node reg')
    (h : reg₀.Lent held reg) : reg₀.Lent (.tracked node ::ₘ held) reg' := by
  have frame : ∀ {node : NodeHandle}, (Reference.tracked node).container = id →
      ∀ r : Reference, r.container ≠ id →
        (.tracked node ::ₘ held).count r = held.count r :=
    fun hnode r hr => Reference.count_cons_of_container_ne hnode hr held
  cases ht with
  | @reused c n hget hn _ =>
      have hentry := h.entry hget
      have hc : (reg₀.entry id).Lends (.tracked ⟨id, kind, n.id⟩ ::ₘ held)
          reg.nextNode id (c.putNode kind n.again) := by
        refine hentry.putNode hn rfl (Nat.succ_pos _) ?_ fun r hr =>
          Multiset.count_cons_of_ne hr held
        rw [Multiset.count_cons_self, ← Nat.add_assoc, ← hentry.nodeRefcount_eq,
          Container.nodeRefcount_of_node? hn]
        rfl
      have hpos : 0 < c.refcount := h.occupied hget
      exact h.put (Nat.le_refl _) hc
        (fun hget₀ => (h.lasts_of_some hget hget₀).putNode hn n.lasts_again)
        hpos (frame rfl)
  | @made c hsite _ _ =>
      have hentry : (reg₀.entry id).Lends held reg.nextNode id c := by
        rcases hsite with hget | ⟨hget, title, rfl⟩
        · exact h.entry hget
        · exact h.fresh hget title true
      refine h.put (Nat.le_succ _) (hentry.addNode token name)
        (fun {c₀} hget₀ => ?_) (Nat.succ_pos _) (frame rfl)
      rcases hsite with hget | ⟨hget, -⟩
      · exact (h.lasts_of_some hget hget₀).addNode
          (hentry.toSound.node?_next kind)
      · rw [h.absent hget] at hget₀
        cases hget₀

/-! ## Giving a reference back -/

/-- A reference that was lent can be given back.  The last one on a container
    takes it away, but then it was not there before. -/
theorem closeContainer_lent {ev : List Event} {r : Reference} (hr : r.IsHold id)
    (hs : reg₀.Lender) (h : reg₀.Lent (r ::ₘ held) reg) :
    (closeContainer id : Call (Registry τ ρ) ε (Release ρ)).Ensures reg ev
      (fun _ reg' _ => reg₀.Lent held reg')
      (fun _ _ _ => False) (fun _ _ _ => False) := by
  have frame : ∀ r' : Reference, r'.container ≠ id →
      held.count r' = (r ::ₘ held).count r' := fun r' hr' =>
    (Reference.count_cons_of_container_ne hr.container_eq hr' held).symm
  obtain ⟨c, hget⟩ := h.present r (Multiset.mem_cons_self r held)
  rw [hr.container_eq] at hget
  have hpos := h.occupied hget
  have hc := (h.entry hget).release hr hpos
  simp only [Call.Ensures, closeContainer, hget]
  rw [if_neg (Nat.ne_of_gt hpos)]
  by_cases hlast : 0 < c.release.refcount
  · rw [if_pos hlast]
    exact h.put (Nat.le_refl _) hc
      (fun hget₀ => (h.lasts_of_some hget hget₀).of_refcount _) hlast frame
  · have hnew : reg₀.container? id = none := by
      cases hget₀ : reg₀.container? id with
      | none => rfl
      | some c₀ =>
          -- it still has the references and the nodes that it had before
          have hcount := hc.refcount_eq
          have hoccupied := hs.occupied hget₀
          have hle : c₀.nodeCount ≤ c.release.nodeCount :=
            Container.nodeCount_le fun hn =>
              ((h.lasts_of_some hget hget₀).node hn).imp fun _ h => h.1
          rw [entry_of_some hget₀] at hcount
          omega
    rw [entry_of_none hnew] at hc
    have hb := Container.balanced_iff_lends.mpr hc
    have hzero := Nat.eq_zero_of_not_pos hlast
    rw [if_neg hlast, if_neg (hb.no_children hzero)]
    exact h.remove hnew (fun r' hr' => hb.notMem hzero hr') frame

/-- A track that was lent can be given back.  A node goes with its last track,
    but then it was not there before. -/
theorem untrack_lent {ev : List Event} (hs : reg₀.Lender)
    (h : reg₀.Lent (.tracked node ::ₘ held) reg) :
    (untrack node : Call (Registry τ ρ) ε (Release ρ)).Ensures reg ev
      (fun _ reg' _ => reg₀.Lent held reg')
      (fun _ _ _ => False) (fun _ _ _ => False) := by
  obtain ⟨id, kind, m⟩ := node
  obtain ⟨c, hget⟩ : ∃ c, reg.container? id = some c :=
    h.present _ (Multiset.mem_cons_self _ held)
  have hentry := h.entry hget
  have hcount := hentry.nodeRefcount_eq kind m
  rw [Multiset.count_cons_self] at hcount
  obtain ⟨n, hn⟩ : ∃ n, c.node? kind m = some n := by
    cases hn : c.node? kind m with
    | some n => exact ⟨n, rfl⟩
    | none =>
        rw [Container.nodeRefcount, hn] at hcount
        cases hcount
  rw [Container.nodeRefcount_of_node? hn] at hcount
  have frame : ∀ r : Reference, r.container ≠ id →
      held.count r = (.tracked ⟨id, kind, m⟩ ::ₘ held).count r := fun r hr =>
    (Reference.count_cons_of_container_ne rfl hr held).symm
  have hpos : 0 < c.refcount := h.occupied hget
  by_cases hlast : 0 < n.refcount - 1
  · have hc : (reg₀.entry id).Lends held reg.nextNode id
        (c.putNode kind { n with refcount := n.refcount - 1 }) :=
      hentry.putNode hn rfl hlast (by
        show n.refcount - 1 = _
        omega) fun r hr => (Multiset.count_cons_of_ne hr held).symm
    obtain rfl : n.id = m := hentry.toSound.number_eq hn
    simp only [Call.Ensures, untrack, hget, hn]
    rw [if_pos hlast]
    exact h.put (Nat.le_refl _) hc
      (fun hget₀ => (h.lasts_of_some hget hget₀).putNode hn ⟨rfl, Nat.le_refl _⟩)
      hpos frame
  · -- the reference of the node on its container is given back as a pin
    have hput : reg₀.Lent (.pinned id ::ₘ held) (reg.put (c.removeNode kind m)) := by
      refine h.put (Nat.le_refl _) (hentry.removeNode hn (by omega))
        (fun {c₀} hget₀ => (h.lasts_of_some hget hget₀).removeNode ?_) hpos
        fun r hr => (Reference.count_cons_of_container_ne rfl hr held).trans
          (frame r hr)
      -- a node that was there before has references of its own
      cases hn₀ : c₀.node? kind m with
      | none => rfl
      | some n₀ =>
          have hrefs := (hs.entry hget₀).referenced hn₀
          rw [entry_of_some hget₀, Container.nodeRefcount_of_node? hn₀] at hcount
          omega
    refine Call.Ensures.of_apply_eq (untrack_eq_close hget hn hlast) ?_
    rw [Call.ensures_map]
    exact closeContainer_lent (Or.inr rfl) hs hput

/-! ## Operations -/

/-- An operation that takes a reference. -/
def Op.Acquires : Op η τ ρ → Prop
  | openContainer .. => True
  | pinContainer .. => True
  | track .. => True
  | trackIn .. => True
  | _ => False

/-- The operation does not open a container that was a placeholder. -/
def Op.Ordinary (reg₀ : Registry τ ρ) : Op η τ ρ → Prop
  | openContainer id _ =>
      ∀ {c₀}, reg₀.container? id = some c₀ → c₀.placeholder = false
  | _ => True

variable [Identity ω η τ] {w : ω}

/-- A reference that is taken is lent. -/
theorem Op.run_lent (memory : Memory) {op : Op η τ ρ} (hop : op.Acquires)
    (hordinary : op.Ordinary reg₀) (hs : reg.Sound) (h : reg₀.Lent held reg) :
    (op.run memory).Ensures (w, reg) []
      (fun a s _ => reg₀.Lent (op.gained a + held) s.2)
      (fun _ _ _ => True) (fun _ _ _ => True) := by
  -- a track answers a handle, and lends the reference on its node
  have htracked : ∀ {id kind token name}, op.Tracks id kind token name →
      (∀ node, op.gained (.node node) = {.tracked node}) →
      (op.run memory).Ensures (w, reg) []
        (fun a s _ => reg₀.Lent (op.gained a + held) s.2)
        (fun _ _ _ => True) (fun _ _ _ => True) := by
    intro id kind token name htracks hgained
    refine (run_tracked memory hs htracks).mono ?_ (fun _ _ _ _ => trivial)
      fun _ _ _ _ => trivial
    rintro _ s _ ⟨node, rfl, ht⟩
    rw [hgained, Multiset.singleton_add]
    exact ht.lent h
  cases op with
  | openContainer id name =>
      rw [run, Call.ensures_map, ensures_alone]
      simp only [gained, Multiset.singleton_add]
      exact openContainer_lent memory name h hordinary
  | pinContainer id =>
      rw [run, Call.ensures_map, ensures_alone]
      simp only [gained, Multiset.singleton_add]
      exact pinContainer_lent h
  | track => exact htracked ⟨rfl, rfl, rfl, rfl⟩ fun _ => rfl
  | trackIn => exact htracked ⟨rfl, rfl, rfl, rfl⟩ fun _ => rfl
  | _ => exact hop.elim

/-- A reference that is lent can be given back. -/
theorem Op.run_release (memory : Memory) {r : Reference} (hs : reg₀.Lender)
    (h : reg₀.Lent (r ::ₘ held) reg) :
    ((r.release : Op η τ ρ).run memory).Ensures (w, reg) []
      (fun _ s _ => reg₀.Lent held s.2)
      (fun _ _ _ => False) (fun _ _ _ => False) := by
  cases r with
  | opened id =>
      rw [Reference.release, run, Call.ensures_map, ensures_alone]
      exact closeContainer_lent (Or.inl rfl) hs h
  | pinned id =>
      rw [Reference.release, run, Call.ensures_map, ensures_alone]
      exact closeContainer_lent (Or.inr rfl) hs h
  | tracked node =>
      rw [Reference.release, run, Call.ensures_map, ensures_alone]
      exact untrack_lent hs h

/-! ## Runs -/

/-- A request ends in a fault. -/
def Faults (reg : Registry τ ρ) (r : Request ω η τ ρ) : Prop :=
  ∃ f, (r.perform reg).outcome = .fault f

/-- Every request ends in a value, in the registry that it meets. -/
def Answered (reg : Registry τ ρ) : List (Request ω η τ ρ) → Prop
  | [] => True
  | r :: rest => (∃ a, (r.perform reg).outcome = .value a) ∧
      Answered (r.next reg) rest

/-- The references that requests hand out. -/
def taken (reg : Registry τ ρ) : List (Request ω η τ ρ) → Multiset Reference
  | [] => 0
  | r :: rest => r.op.settled 0 (taken (r.next reg) rest) (r.perform reg).outcome

theorem answered_append {requests later : List (Request ω η τ ρ)} :
    Answered reg (requests ++ later) ↔
      Answered reg requests ∧ Answered (after reg requests) later := by
  induction requests generalizing reg with
  | nil => exact (true_and _).symm ▸ Iff.rfl
  | cons r rest ih => exact (and_congr_right fun _ => ih).trans and_assoc.symm

theorem sometime_append {P : Registry τ ρ → Request ω η τ ρ → Prop}
    {requests later : List (Request ω η τ ρ)} :
    Sometime P reg (requests ++ later) ↔
      Sometime P reg requests ∨ Sometime P (after reg requests) later := by
  induction requests generalizing reg with
  | nil => exact (false_or _).symm ▸ Iff.rfl
  | cons r rest ih => exact (or_congr_right ih).trans or_assoc.symm

/-- What is built without a fault can be lent from. -/
theorem built_lender {config : Config} {requests : List (Request ω η τ ρ)}
    (h : ¬ Sometime Faults (.ofConfig config) requests) :
    (built config requests : Registry τ ρ).Lender where
  toSound := built_sound config requests
  occupied {id c} hget := by
    refine Nat.pos_of_ne_zero fun hzero => h ?_
    obtain ⟨before, r, since, rfl, -, ⟨counts, hfault⟩, -⟩ :=
      exists_fault_of_unreferenced ⟨c, hget, hzero⟩
    exact sometime_append.mpr (Or.inr (Or.inl ⟨_, hfault⟩))

/-- Requests that take references lend them. -/
theorem Lent.after_acquires {requests : List (Request ω η τ ρ)}
    (h : reg₀.Lent held reg) (hs : reg.Sound)
    (hop : ∀ r ∈ requests, r.op.Acquires ∧ r.op.Ordinary reg₀)
    (hanswered : Answered reg requests) :
    reg₀.Lent (taken reg requests + held) (after reg requests) := by
  induction requests generalizing reg held with
  | nil =>
      rw [taken, Multiset.zero_add]
      exact h
  | cons r rest ih =>
      obtain ⟨⟨a, ha⟩, hrest⟩ := hanswered
      obtain ⟨hacquires, hordinary⟩ := hop r List.mem_cons_self
      have hnext := (Op.run_lent r.memory hacquires hordinary hs h).value ha
      have hafter := ih hnext (r.sound hs)
        (fun r' hr' => hop r' (List.mem_cons_of_mem r hr')) hrest
      rw [taken, ha, Op.settled, Multiset.add_comm (r.op.gained a), Multiset.add_assoc]
      exact hafter

/-- Requests that give back references that are lent, in any order, succeed. -/
theorem Lent.after_releases {requests : List (Request ω η τ ρ)}
    (hs : reg₀.Lender) (h : reg₀.Lent held reg) {others : Multiset (Op η τ ρ)}
    (hops : ((requests.map fun r => r.op : List (Op η τ ρ)) :
      Multiset (Op η τ ρ)) + others = held.map Reference.release) :
    Answered reg requests ∧
      ∃ rest, reg₀.Lent rest (after reg requests) ∧
        rest.map Reference.release = others := by
  induction requests generalizing reg held with
  | nil => exact ⟨trivial, held, h, hops.symm.trans (Multiset.zero_add _)⟩
  | cons r rest ih =>
      rw [List.map_cons, ← Multiset.cons_coe, Multiset.cons_add] at hops
      -- it gives back one of the references that are lent
      obtain ⟨ref, hmem, href⟩ := Multiset.mem_map.mp
        (hops ▸ Multiset.mem_cons_self r.op _)
      obtain ⟨held, rfl⟩ := Multiset.exists_cons_of_mem hmem
      rw [Multiset.map_cons, href] at hops
      obtain ⟨a, ha, hnext⟩ :=
        (Op.run_release (η := η) (w := r.world) r.memory hs h).exists_value
      rw [href] at ha hnext
      obtain ⟨hrest, hafter⟩ := ih hnext ((Multiset.cons_inj_right _).mp hops)
      exact ⟨⟨⟨a, ha⟩, hrest⟩, hafter⟩

/-- Along requests that take references, and requests that give them back in
    any order, all that there was before lasts. -/
theorem Lender.lasts_after {acquires releases part : List (Request ω η τ ρ)}
    (hs : reg₀.Lender)
    (hacquires : ∀ r ∈ acquires, r.op.Acquires ∧ r.op.Ordinary reg₀)
    (hanswered : Answered reg₀ acquires)
    (hreleases : ((releases.map fun r => r.op : List (Op η τ ρ)) :
      Multiset (Op η τ ρ)) = (taken reg₀ acquires).map Reference.release)
    (hpart : part <+: acquires ++ releases) : reg₀.Lasts (after reg₀ part) := by
  obtain ⟨last, hlast⟩ := hpart
  rcases List.append_eq_append_iff.mp hlast with
    ⟨since, rfl, -⟩ | ⟨part, rfl, rfl⟩
  · have hlent := hs.lent.after_acquires hs.toSound
      (fun r hr => hacquires r (List.mem_append_left since hr))
      (answered_append.mp hanswered).1
    exact hlent.lasts
  · have hlent := hs.lent.after_acquires hs.toSound hacquires hanswered
    rw [Multiset.add_zero] at hlent
    rw [List.map_append, ← Multiset.coe_add] at hreleases
    obtain ⟨-, rest, hafter, -⟩ := hlent.after_releases hs hreleases
    rw [after_append]
    exact hafter.lasts

/-- From a registry that was built without a fault, take references by any
    requests that succeed, of which none opens a container that was a
    placeholder, and then give each of them back once, in any order.  No release
    fails, all that there was at the start lasts throughout, and in the end the
    registry is as it was at the start but for the accesses of its nodes. -/
theorem round_trip (config : Config)
    (past acquires releases : List (Request ω η τ ρ))
    (hpast : ¬ Sometime Faults (.ofConfig config) past)
    (hacquires : ∀ r ∈ acquires,
      r.op.Acquires ∧ r.op.Ordinary (built config past))
    (hanswered : Answered (built config past) acquires)
    (hreleases : ((releases.map fun r => r.op : List (Op η τ ρ)) :
      Multiset (Op η τ ρ))
        = (taken (built config past) acquires).map Reference.release) :
    Answered (built config (past ++ acquires)) releases ∧
    (∀ part, part <+: acquires ++ releases →
      (built config past).Lasts (built config (past ++ part))) ∧
    (built config past).Revisited (built config (past ++ acquires ++ releases)) := by
  have hs := built_lender hpast
  have hlent := hs.lent.after_acquires hs.toSound hacquires hanswered
  rw [Multiset.add_zero] at hlent
  obtain ⟨hreleased, rest, hafter, hrest⟩ :=
    hlent.after_releases hs ((Multiset.add_zero _).trans hreleases)
  obtain rfl : rest = 0 := Multiset.map_eq_zero.mp hrest
  refine ⟨?_, fun part hpart => ?_, ?_⟩
  · rw [show built config (past ++ acquires) = _ from after_append _ _ _]
    exact hreleased
  · rw [show built config (past ++ part) = _ from after_append _ _ _]
    exact hs.lasts_after hacquires hanswered hreleases hpart
  · rw [show built config (past ++ acquires ++ releases) = _ from
      (after_append _ _ _).trans (congrArg (after · releases) (after_append _ _ _))]
    exact hafter.revisited hs

/-- A container is tracked in before anybody opens it, then opened and pinned,
    while a node that was there is tracked again; all is given back in another
    order. -/
theorem round_trip_of_placeholder :
    ∃ reg reg' : Registry Token Empty, reg.Revisited reg' ∧
      reg'.container? ⟨2⟩ = none ∧
      (reg.node? ⟨⟨1⟩, .dataset, ⟨1⟩⟩).map Node.accesses = some 1 ∧
      (reg'.node? ⟨⟨1⟩, .dataset, ⟨1⟩⟩).map Node.accesses = some 2 := by
  -- the last two references are given back first
  have hreleases : List.Perm
      (([.closeContainer ⟨2⟩, .untrack ⟨⟨1⟩, .dataset, ⟨1⟩⟩] :
          List (Op Unit Token Empty))
        ++ [.untrack ⟨⟨2⟩, .group, ⟨2⟩⟩, .closeContainer ⟨2⟩])
      ([.untrack ⟨⟨2⟩, .group, ⟨2⟩⟩, .closeContainer ⟨2⟩]
        ++ [.closeContainer ⟨2⟩, .untrack ⟨⟨1⟩, .dataset, ⟨1⟩⟩]) :=
    List.perm_append_comm
  have htrip := round_trip (ρ := Empty) Config.default
    [.plain (.openContainer ⟨1⟩ none),
      .plain (.track ⟨1⟩ .dataset (.ofAddress 5) none ())]
    [.plain (.trackIn ⟨1⟩ ⟨2⟩ .group (.ofAddress 6) none ()),
      .plain (.openContainer ⟨2⟩ none), .plain (.pinContainer ⟨2⟩),
      .plain (.track ⟨1⟩ .dataset (.ofAddress 5) none ())]
    [.plain (.closeContainer ⟨2⟩), .plain (.untrack ⟨⟨1⟩, .dataset, ⟨1⟩⟩),
      .plain (.untrack ⟨⟨2⟩, .group, ⟨2⟩⟩), .plain (.closeContainer ⟨2⟩)]
    (by
      rintro (⟨f, h⟩ | ⟨f, h⟩ | h)
      · cases h
      · cases h
      · exact h)
    (List.forall_mem_cons.mpr ⟨⟨trivial, trivial⟩,
      List.forall_mem_cons.mpr ⟨⟨trivial, fun h => nomatch h⟩,
        List.forall_mem_cons.mpr ⟨⟨trivial, trivial⟩,
          List.forall_mem_singleton.mpr ⟨trivial, trivial⟩⟩⟩⟩)
    ⟨⟨_, rfl⟩, ⟨_, rfl⟩, ⟨_, rfl⟩, ⟨_, rfl⟩, trivial⟩
    (Multiset.coe_eq_coe.mpr hreleases)
  exact ⟨_, _, htrip.2.2, rfl, rfl, rfl⟩

end Registry

end Provenance
