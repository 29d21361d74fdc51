import Mathlib.Logic.Relation
import Provenance.Proofs.Registry.Balance

/-! # Writes to a registry

    Whatever a client asks of a registry, disciplined or not, its entries
    change in six ways only (`Write`): a container comes in, changes beside its
    nodes, or goes; a node comes in, changes beside its name, or goes.  The
    `Terms` of an operation say which of these it may do to whom.

    Each write keeps a registry sound (`Write.sound`), and tells what becomes
    of each node (`Write.fate`).  Both carry over to any number of writes
    (`Writes`), so what is proved of operations later comes down to the terms
    on which they write. -/

namespace Provenance

/-- One node at two times: its references and what it counts may differ, its
    place, its token and its name do not. -/
structure Node.Same {τ : Type} (n n' : Node τ) : Prop where
  handle_eq : n'.handle = n.handle
  token_eq : n'.token = n.token
  name_eq : n'.name = n.name

namespace Node

variable {τ : Type} {n n' n'' : Node τ}

theorem Same.refl (n : Node τ) : n.Same n := ⟨rfl, rfl, rfl⟩

theorem Same.trans (h : n.Same n') (h' : n'.Same n'') : n.Same n'' :=
  ⟨h'.handle_eq.trans h.handle_eq, h'.token_eq.trans h.token_eq,
    h'.name_eq.trans h.name_eq⟩

theorem same_again (n : Node τ) : n.Same n.again := ⟨rfl, rfl, rfl⟩

end Node

namespace Registry

variable {τ ρ : Type} {reg reg' reg'' : Registry τ ρ} {node : NodeHandle}

/-! ## Soundness -/

/-- Every entry is sound, and no two nodes have one number. -/
structure Sound (reg : Registry τ ρ) : Prop where
  entry : ∀ {id c}, reg.container? id = some c → c.Sound reg.nextNode id
  unique : ∀ {node node' n n'}, reg.node? node = some n →
    reg.node? node' = some n' → node.node = node'.node → node = node'

theorem sound_ofConfig (config : Config) :
    (Registry.ofConfig config : Registry τ ρ).Sound where
  entry hget := nomatch hget
  unique hn := nomatch hn

theorem Sound.numbered (h : reg.Sound) {n : Node τ}
    (hn : reg.node? node = some n) : node.node.number < reg.nextNode := by
  obtain ⟨c, hget, hn⟩ := node?_eq_some_iff.mp hn
  exact (h.entry hget).numbered hn

theorem Sound.referenced (h : reg.Sound) {n : Node τ}
    (hn : reg.node? node = some n) : 0 < n.refcount := by
  obtain ⟨c, hget, hn⟩ := node?_eq_some_iff.mp hn
  exact (h.entry hget).referenced hn

theorem Sound.handle_eq (h : reg.Sound) {n : Node τ}
    (hn : reg.node? node = some n) : n.handle = node := by
  obtain ⟨c, hget, hn⟩ := node?_eq_some_iff.mp hn
  exact (h.entry hget).handle_eq hn

theorem node?_put (reg : Registry τ ρ) (c : Container τ ρ) (node : NodeHandle) :
    (reg.put c).node? node
      = if c.id = node.container then c.node? node.kind node.node
        else reg.node? node := by
  rw [node?, container?_put]
  by_cases hid : c.id = node.container
  · rw [if_pos hid, if_pos hid]
    rfl
  · rw [if_neg hid, if_neg hid]
    rfl

theorem node?_remove (reg : Registry τ ρ) (id : ContainerId)
    (node : NodeHandle) :
    (reg.remove id).node? node
      = if id = node.container then none else reg.node? node := by
  rw [node?, container?_remove]
  by_cases hid : id = node.container
  · rw [if_pos hid, if_pos hid]
    rfl
  · rw [if_neg hid, if_neg hid]
    rfl

theorem node?_of_container? {id : ContainerId} {c : Container τ ρ}
    (hget : reg.container? id = some c) (hnode : node.container = id) :
    reg.node? node = c.node? node.kind node.node := by
  rw [node?, hnode, hget]
  rfl

theorem node?_of_container?_none (hget : reg.container? node.container = none) :
    reg.node? node = none := by
  rw [node?, hget]
  rfl

/-- To put a sound entry keeps a registry sound, if all its nodes but the one
    that takes the next number were in it before. -/
theorem Sound.put (h : reg.Sound) {next : Nat} (hnext : reg.nextNode ≤ next)
    {id : ContainerId} {c : Container τ ρ} (hc : c.Sound next id) (kind : Kind)
    (hnodes : ∀ {k m n}, c.node? k m = some n →
      (∃ n, reg.node? ⟨id, k, m⟩ = some n) ∨ k = kind ∧ m = ⟨reg.nextNode⟩) :
    ({ reg with nextNode := next }.put c).Sound := by
  have hold : ∀ {node n}, ({ reg with nextNode := next }.put c).node? node = some n →
      (∃ n, reg.node? node = some n) ∨ node = ⟨id, kind, ⟨reg.nextNode⟩⟩ := by
    intro node n hn
    rw [node?_put, hc.id_eq] at hn
    by_cases hid : id = node.container
    · obtain ⟨_, k, m⟩ := node
      cases hid
      rw [if_pos rfl] at hn
      rcases hnodes hn with hn | ⟨rfl, rfl⟩
      · exact Or.inl hn
      · exact Or.inr rfl
    · rw [if_neg hid] at hn
      exact Or.inl ⟨n, hn⟩
  -- an old node has a smaller number than the new one
  have hne : ∀ {node n}, reg.node? node = some n →
      node.node ≠ ⟨reg.nextNode⟩ := by
    intro node n hn heq
    have hlt := h.numbered hn
    rw [heq] at hlt
    exact Nat.lt_irrefl _ hlt
  refine ⟨fun {id' c'} hget => ?_, fun {node node' n n'} hn hn' heq => ?_⟩
  · rw [container?_put, hc.id_eq] at hget
    by_cases hid : id = id'
    · rw [if_pos hid] at hget
      cases hget
      exact hid ▸ hc
    · rw [if_neg hid] at hget
      exact (h.entry hget).mono hnext
  · rcases hold hn with ⟨o, ho⟩ | rfl <;> rcases hold hn' with ⟨o', ho'⟩ | rfl
    · exact h.unique ho ho' heq
    · exact absurd heq (hne ho)
    · exact absurd heq.symm (hne ho')
    · rfl

theorem Sound.remove (h : reg.Sound) (id : ContainerId) :
    (reg.remove id).Sound := by
  refine ⟨fun {id' c'} hget => ?_, fun {node node' n n'} hn hn' heq => ?_⟩
  · rw [container?_remove] at hget
    by_cases hid : id = id'
    · rw [if_pos hid] at hget
      cases hget
    · rw [if_neg hid] at hget
      exact h.entry hget
  · have hold : ∀ {node n}, (reg.remove id).node? node = some n →
        reg.node? node = some n := by
      intro node n hn
      rw [node?_remove] at hn
      by_cases hid : id = node.container
      · rw [if_pos hid] at hn
        cases hn
      · rw [if_neg hid] at hn
        exact hn
    exact h.unique (hold hn) (hold hn') heq

/-! ## Single writes -/

/-- The entry that a node can be made in: one of the registry, or else a
    placeholder that nothing is in yet. -/
def Site (reg : Registry τ ρ) (id : ContainerId) (c : Container τ ρ) : Prop :=
  reg.container? id = some c ∨
    reg.container? id = none ∧ ∃ title, c = .fresh id title true

theorem Site.sound {id : ContainerId} {c : Container τ ρ} (h : reg.Site id c)
    (hentry : ∀ {c}, reg.container? id = some c → c.Sound reg.nextNode id) :
    c.Sound reg.nextNode id := by
  rcases h with hget | ⟨-, title, rfl⟩
  · exact hentry hget
  · exact Container.sound_fresh _ _ _ _

/-- The nodes of a site are those of the registry. -/
theorem Site.node?_eq {id : ContainerId} {c : Container τ ρ} (h : reg.Site id c)
    (hnode : node.container = id) :
    reg.node? node = c.node? node.kind node.node := by
  rcases h with hget | ⟨hget, title, rfl⟩
  · exact node?_of_container? hget hnode
  · rw [Container.node?_fresh]
    exact node?_of_container?_none (hnode ▸ hget)

/-- The terms on which a registry is written to. -/
structure Terms (τ : Type) where
  /-- How the token of a node stands to that of a later one in its list. -/
  apart : τ → τ → Prop
  /-- The nodes that may be made, with their tokens and names. -/
  makes : NodeHandle → τ → Option String → Prop
  /-- The nodes that may be left out. -/
  frees : NodeHandle → Prop
  /-- The containers that may stay without references. -/
  drops : ContainerId → Prop

/-- One write to a registry, on some terms. -/
inductive Write (t : Terms τ) (reg : Registry τ ρ) : Registry τ ρ → Prop
  /-- A container without nodes comes in. -/
  | enter {c : Container τ ρ} (hget : reg.container? c.id = none)
      (hcounts : c.counts = .replicate 0) (hnodes : c.nodes = .replicate .empty)
      (hpos : 0 < c.refcount) : Write t reg (reg.put c)
  /-- A container changes, its nodes do not. -/
  | edit {id : ContainerId} {c c' : Container τ ρ}
      (hget : reg.container? id = some c) (hid : c'.id = c.id)
      (hcounts : c'.counts = c.counts) (hnodes : c'.nodes = c.nodes)
      (hkept : c'.refcount = 0 → c.refcount = 0 ∨ t.drops id) :
      Write t reg (reg.put c')
  /-- A node changes, what it names does not. -/
  | node {id : ContainerId} {kind : Kind} {m : NodeId} {c : Container τ ρ}
      {n n' : Node τ} (hget : reg.container? id = some c)
      (hn : c.node? kind m = some n) (hsame : n.Same n')
      (hpos : 0 < n.refcount → 0 < n'.refcount) :
      Write t reg (reg.put (c.putNode kind n'))
  /-- A node comes in, be it with a placeholder for its container. -/
  | make {id : ContainerId} {kind : Kind} {c : Container τ ρ} {token : τ}
      {name : Option String}
      (hsite : reg.Site id c)
      (hmakes : t.makes ⟨id, kind, ⟨reg.nextNode⟩⟩ token name)
      (hapart : ∀ n ∈ c.newestFirst kind, t.apart n.token token) :
      Write t reg ({ reg with nextNode := reg.nextNode + 1 }.put
        (c.addNode kind (.first ⟨reg.nextNode⟩ id kind token name)))
  /-- A node goes. -/
  | free {id : ContainerId} {kind : Kind} {m : NodeId} {c : Container τ ρ}
      {n : Node τ} (hget : reg.container? id = some c)
      (hn : c.node? kind m = some n) (hfrees : t.frees ⟨id, kind, m⟩) :
      Write t reg (reg.put (c.removeNode kind m))
  /-- A container without nodes goes. -/
  | remove {id : ContainerId} {c : Container τ ρ}
      (hget : reg.container? id = some c) (hempty : c.hasChildren = false) :
      Write t reg (reg.remove id)

variable {t t' : Terms τ}

/-- Terms may be eased. -/
theorem Write.mono (h : Write t reg reg') (hapart : ∀ {a b}, t.apart a b → t'.apart a b)
    (hmakes : ∀ {node token name}, t.makes node token name → t'.makes node token name)
    (hfrees : ∀ {node}, t.frees node → t'.frees node)
    (hdrops : ∀ {id}, t.drops id → t'.drops id) : Write t' reg reg' := by
  cases h with
  | enter hget hcounts hnodes hpos => exact .enter hget hcounts hnodes hpos
  | edit hget hid hcounts hnodes hkept =>
      exact .edit hget hid hcounts hnodes fun hz => (hkept hz).imp_right hdrops
  | node hget hn hsame hpos => exact .node hget hn hsame hpos
  | make hsite hm ha => exact .make hsite (hmakes hm) fun n hn => hapart (ha n hn)
  | free hget hn hf => exact .free hget hn (hfrees hf)
  | remove hget hempty => exact .remove hget hempty

theorem Write.sound (h : Write t reg reg') (hs : reg.Sound) : reg'.Sound := by
  cases h with
  | @enter c hget hcounts hnodes hpos =>
      have hc : c.Sound reg.nextNode c.id :=
        (Container.sound_fresh reg.nextNode c.id none true).of_same_nodes rfl
          hcounts hnodes
      refine hs.put (Nat.le_refl _) hc .group fun {k m n} hn => ?_
      rw [Container.node?, hnodes, PerKind.get_replicate] at hn
      cases hn
  | @edit id c c' hget hid hcounts hnodes hkept =>
      refine hs.put (Nat.le_refl _)
        ((hs.entry hget).of_same_nodes hid hcounts hnodes) .group
        fun {k m n} hn => ?_
      rw [Container.node?, hnodes] at hn
      exact Or.inl ⟨n, node?_eq_some_iff.mpr ⟨c, hget, hn⟩⟩
  | @node id kind m c n n' hget hn hsame hpos =>
      have hc := hs.entry hget
      have hm : n'.id = m :=
        congrArg NodeHandle.node (hsame.handle_eq.trans (hc.handle_eq hn))
      refine hs.put (Nat.le_refl _)
        (hc.putNode hn hsame.handle_eq (hpos (hc.referenced hn))) kind
        fun {k m' o} ho => ?_
      rcases Container.of_node?_putNode ho with ⟨rfl, rfl, rfl⟩ | ho
      · exact Or.inl ⟨n, node?_eq_some_iff.mpr ⟨c, hget, hm ▸ hn⟩⟩
      · exact Or.inl ⟨o, node?_eq_some_iff.mpr ⟨c, hget, ho⟩⟩
  | @make id kind c token name hsite hmakes hapart =>
      have hc := hsite.sound hs.entry
      refine hs.put (Nat.le_succ _) (hc.addNode kind token name) kind
        fun {k m o} ho => ?_
      rcases Container.of_node?_putNode ho with ⟨rfl, rfl, rfl⟩ | ho
      · exact Or.inr ⟨rfl, rfl⟩
      · exact Or.inl ⟨o, (hsite.node?_eq rfl).trans ho⟩
  | @free id kind m c n hget hn hfrees =>
      refine hs.put (Nat.le_refl _) ((hs.entry hget).removeNode hn) kind
        fun {k m' o} ho => ?_
      exact Or.inl ⟨o, node?_eq_some_iff.mpr
        ⟨c, hget, Container.of_node?_removeNode ho⟩⟩
  | remove hget hempty => exact hs.remove _

/-! ## What becomes of a node -/

/-- What becomes of a node from one state of a registry to another. -/
inductive Fate (t : Terms τ) (reg reg' : Registry τ ρ) (node : NodeHandle) : Prop
  | absent (h : reg.node? node = none) (h' : reg'.node? node = none)
  | kept {n n' : Node τ} (h : reg.node? node = some n)
      (h' : reg'.node? node = some n') (hsame : n.Same n')
  | freed {n : Node τ} (h : reg.node? node = some n)
      (h' : reg'.node? node = none) (hfrees : t.frees node)
  /-- It takes a number not given out before, and stands apart from the nodes
      that were in its list. -/
  | made {token : τ} {name : Option String} {n' : Node τ}
      (h : reg.node? node = none) (h' : reg'.node? node = some n')
      (hlow : reg.nextNode ≤ node.node.number)
      (hhigh : node.node.number < reg'.nextNode)
      (hmakes : t.makes node token name)
      (hsame : (Node.first node.node node.container node.kind token name).Same n')
      (hapart : ∀ {m n}, m.number < node.node.number →
        reg'.node? ⟨node.container, node.kind, m⟩ = some n →
        t.apart n.token token)

theorem Fate.of_eq (h : reg'.node? node = reg.node? node) :
    Fate t reg reg' node := by
  cases hn : reg.node? node with
  | none => exact .absent hn (h.trans hn)
  | some n => exact .kept hn (h.trans hn) (.refl n)

/-- A node that is there stays the one that it is, or goes. -/
theorem Fate.of_some (h : Fate t reg reg' node) {n : Node τ}
    (hn : reg.node? node = some n) :
    (∃ n', reg'.node? node = some n' ∧ n.Same n') ∨
      reg'.node? node = none ∧ t.frees node := by
  cases h with
  | absent ho => rw [hn] at ho; cases ho
  | kept ho ho' hsame =>
      rw [hn] at ho
      cases ho
      exact Or.inl ⟨_, ho', hsame⟩
  | freed _ ho' hfrees => exact Or.inr ⟨ho', hfrees⟩
  | made ho => rw [hn] at ho; cases ho

/-- A node whose number was given out before was there before. -/
theorem Fate.of_numbered (h : Fate t reg reg' node) {n' : Node τ}
    (hn' : reg'.node? node = some n') (hlt : node.node.number < reg.nextNode) :
    ∃ n, reg.node? node = some n ∧ n.Same n' := by
  cases h with
  | absent _ ho => rw [hn'] at ho; cases ho
  | kept ho ho' hsame =>
      rw [hn'] at ho'
      cases ho'
      exact ⟨_, ho, hsame⟩
  | freed _ ho => rw [hn'] at ho; cases ho
  | made _ _ hlow => omega

theorem Write.nextNode_le (h : Write t reg reg') : reg.nextNode ≤ reg'.nextNode := by
  cases h with
  | make => exact Nat.le_succ _
  | _ => exact Nat.le_refl _

theorem Write.placeholderName_eq (h : Write t reg reg') :
    reg'.placeholderName = reg.placeholderName := by
  cases h <;> rfl

/-- The fate of a node is that of its place in the entry that is put. -/
theorem Sound.fate_put (hs : reg.Sound) {id : ContainerId} {c c' : Container τ ρ}
    (hget : reg.container? id = some c) (hid : c'.id = c.id)
    (hc : node.container = id → Fate t reg (reg.put c') node) :
    Fate t reg (reg.put c') node := by
  by_cases hnode : node.container = id
  · exact hc hnode
  · refine .of_eq ?_
    rw [node?_put, hid, (hs.entry hget).id_eq, if_neg fun heq => hnode heq.symm]

theorem Write.fate (h : Write t reg reg') (hs : reg.Sound) (node : NodeHandle) :
    Fate t reg reg' node := by
  cases h with
  | @enter c hget hcounts hnodes hpos =>
      by_cases hid : c.id = node.container
      · refine .absent (node?_of_container?_none (hid ▸ hget)) ?_
        rw [node?_put, if_pos hid, Container.node?, hnodes, PerKind.get_replicate]
        rfl
      · refine .of_eq ?_
        rw [node?_put, if_neg hid]
  | @edit id c c' hget hid hcounts hnodes hkept =>
      refine hs.fate_put hget hid fun hnode => .of_eq ?_
      rw [node?_put, hid, (hs.entry hget).id_eq, if_pos hnode.symm,
        node?_of_container? hget hnode, Container.node?, hnodes]
      rfl
  | @node id kind m c n n' hget hn hsame hpos =>
      have hm : n'.id = m := congrArg NodeHandle.node
        (hsame.handle_eq.trans ((hs.entry hget).handle_eq hn))
      refine hs.fate_put hget rfl fun hnode => ?_
      have hput : (reg.put (c.putNode kind n')).node? node
          = (c.putNode kind n').node? node.kind node.node :=
        (node?_put _ _ _).trans
          (if_pos ((hs.entry hget).id_eq.trans hnode.symm))
      rw [Container.node?_putNode] at hput
      by_cases hplace : node.kind = kind ∧ n'.id = node.node
      · rw [if_pos hplace] at hput
        refine .kept ?_ hput hsame
        rw [node?_of_container? hget hnode, hplace.1, ← hplace.2, hm]
        exact hn
      · rw [if_neg hplace] at hput
        exact .of_eq (hput.trans (node?_of_container? hget hnode).symm)
  | @make id kind c token name hsite hmakes hapart =>
      have hc := hsite.sound hs.entry
      have hput : ∀ node : NodeHandle, node.container = id →
          ({ reg with nextNode := reg.nextNode + 1 }.put (c.addNode kind
              (.first ⟨reg.nextNode⟩ id kind token name))).node? node
            = if node.kind = kind ∧ (⟨reg.nextNode⟩ : NodeId) = node.node then
                some (.first ⟨reg.nextNode⟩ id kind token name)
              else reg.node? node := by
        intro node hnode
        have hid : (c.addNode kind
            (.first ⟨reg.nextNode⟩ id kind token name)).id = node.container :=
          hc.id_eq.trans hnode.symm
        rw [node?_put, if_pos hid, Container.node?_addNode, hsite.node?_eq hnode]
        rfl
      by_cases hnode : node.container = id
      · by_cases hplace : node.kind = kind ∧ (⟨reg.nextNode⟩ : NodeId) = node.node
        · obtain rfl : node = ⟨id, kind, ⟨reg.nextNode⟩⟩ := by
            rw [← hnode, ← hplace.1, hplace.2]
          have hnew := hput ⟨id, kind, ⟨reg.nextNode⟩⟩ rfl
          rw [if_pos ⟨rfl, rfl⟩] at hnew
          refine .made ((hsite.node?_eq rfl).trans (hc.node?_next kind)) hnew
            (Nat.le_refl _) (Nat.lt_succ_self _) hmakes (.refl _) ?_
          -- the earlier nodes of the list are those that it was compared with
          intro m n hlt hm
          rw [hput ⟨id, kind, m⟩ rfl, if_neg fun heq => Nat.lt_irrefl _
            (heq.2 ▸ hlt), hsite.node?_eq rfl] at hm
          exact hapart n (List.mem_reverse.mpr
            (IdMap.mem_values_iff.mpr ⟨m, hm⟩))
        · refine .of_eq ?_
          rw [hput node hnode, if_neg hplace]
      · refine .of_eq ?_
        have hid : (c.addNode kind
            (.first ⟨reg.nextNode⟩ id kind token name)).id ≠ node.container :=
          fun heq => hnode (heq.symm.trans hc.id_eq)
        rw [node?_put, if_neg hid]
        rfl
  | @free id kind m c n hget hn hfrees =>
      refine hs.fate_put hget rfl fun hnode => ?_
      have hput : (reg.put (c.removeNode kind m)).node? node
          = (c.removeNode kind m).node? node.kind node.node :=
        (node?_put _ _ _).trans
          (if_pos ((hs.entry hget).id_eq.trans hnode.symm))
      rw [Container.node?_removeNode] at hput
      by_cases hplace : node.kind = kind ∧ m = node.node
      · obtain ⟨_, _, _⟩ := node
        obtain ⟨rfl, rfl⟩ := hplace
        cases hnode
        rw [if_pos ⟨rfl, rfl⟩] at hput
        exact .freed ((node?_of_container? hget rfl).trans hn) hput hfrees
      · rw [if_neg hplace] at hput
        exact .of_eq (hput.trans (node?_of_container? hget hnode).symm)
  | @remove id c hget hempty =>
      by_cases hid : id = node.container
      · have hnone : c.node? node.kind node.node = none := by
          -- an entry that counts no nodes has none
          cases hn : c.node? node.kind node.node with
          | none => rfl
          | some n =>
              have hless := Container.nodeCount_removeNode hn
              have hchildren := (hs.entry hget).hasChildren_iff.mpr
                (by omega : 0 < c.nodeCount)
              rw [hempty] at hchildren
              cases hchildren
        refine .absent ((node?_of_container? hget hid.symm).trans hnone) ?_
        rw [node?_remove, if_pos hid]
      · refine .of_eq ?_
        rw [node?_remove, if_neg hid]

/-! ## Containers without references -/

/-- A container is in the registry, and nothing refers to it. -/
def Unreferenced (reg : Registry τ ρ) (id : ContainerId) : Prop :=
  ∃ c, reg.container? id = some c ∧ c.refcount = 0

theorem unreferenced_put {c : Container τ ρ} {id : ContainerId}
    (h : (reg.put c).Unreferenced id) :
    c.id = id ∧ c.refcount = 0 ∨ reg.Unreferenced id := by
  obtain ⟨c', hget, hzero⟩ := h
  rw [container?_put] at hget
  by_cases hid : c.id = id
  · rw [if_pos hid] at hget
    cases hget
    exact Or.inl ⟨hid, hzero⟩
  · rw [if_neg hid] at hget
    exact Or.inr ⟨c', hget, hzero⟩

theorem Write.unreferenced (h : Write t reg reg') (hs : reg.Sound)
    {id : ContainerId} (hid : reg'.Unreferenced id) :
    reg.Unreferenced id ∨ t.drops id := by
  cases h with
  | enter hget hcounts hnodes hpos =>
      rcases unreferenced_put hid with ⟨-, hzero⟩ | hid
      · exact absurd hzero (Nat.ne_of_gt hpos)
      · exact Or.inl hid
  | @edit id' c c' hget heq hcounts hnodes hkept =>
      rcases unreferenced_put hid with ⟨rfl, hzero⟩ | hid
      · rw [heq, (hs.entry hget).id_eq]
        exact (hkept hzero).imp_left fun hc => ⟨c, hget, hc⟩
      · exact Or.inl hid
  | @node id' kind m c n n' hget hn hsame hpos =>
      rcases unreferenced_put hid with ⟨rfl, hzero⟩ | hid
      · exact Or.inl ⟨c, (hs.entry hget).id_eq.symm ▸ hget, hzero⟩
      · exact Or.inl hid
  | make hsite hmakes hapart =>
      rcases unreferenced_put hid with ⟨-, hzero⟩ | hid
      · cases hzero
      · exact Or.inl hid
  | @free id' kind m c n hget hn hfrees =>
      rcases unreferenced_put hid with ⟨rfl, hzero⟩ | hid
      · exact Or.inl ⟨c, (hs.entry hget).id_eq.symm ▸ hget, hzero⟩
      · exact Or.inl hid
  | @remove id' c hget hempty =>
      obtain ⟨c', hget', hzero⟩ := hid
      rw [container?_remove] at hget'
      by_cases heq : id' = id
      · rw [if_pos heq] at hget'
        cases hget'
      · rw [if_neg heq] at hget'
        exact Or.inl ⟨c', hget', hzero⟩

/-! ## Any number of writes -/

/-- Writes one after the other, all on the same terms. -/
def Writes (t : Terms τ) : Registry τ ρ → Registry τ ρ → Prop :=
  Relation.ReflTransGen (Write t)

namespace Writes

theorem refl (t : Terms τ) (reg : Registry τ ρ) : Writes t reg reg :=
  Relation.ReflTransGen.refl

theorem of_eq (h : reg' = reg) : Writes t reg reg' := h ▸ refl t reg

theorem single (h : Write t reg reg') : Writes t reg reg' :=
  Relation.ReflTransGen.single h

theorem trans (h : Writes t reg reg') (h' : Writes t reg' reg'') :
    Writes t reg reg'' :=
  Relation.ReflTransGen.trans h h'

theorem mono (h : Writes t reg reg') (hapart : ∀ {a b}, t.apart a b → t'.apart a b)
    (hmakes : ∀ {node token name}, t.makes node token name → t'.makes node token name)
    (hfrees : ∀ {node}, t.frees node → t'.frees node)
    (hdrops : ∀ {id}, t.drops id → t'.drops id) : Writes t' reg reg' := by
  induction h with
  | refl => exact refl t' reg
  | tail _ hw ih =>
      exact ih.trans (single (hw.mono hapart hmakes hfrees hdrops))

theorem nextNode_le (h : Writes t reg reg') : reg.nextNode ≤ reg'.nextNode := by
  induction h with
  | refl => exact Nat.le_refl _
  | tail _ hw ih => exact Nat.le_trans ih hw.nextNode_le

theorem placeholderName_eq (h : Writes t reg reg') :
    reg'.placeholderName = reg.placeholderName := by
  induction h with
  | refl => rfl
  | tail _ hw ih => exact hw.placeholderName_eq.trans ih

theorem sound (h : Writes t reg reg') (hs : reg.Sound) : reg'.Sound := by
  induction h with
  | refl => exact hs
  | tail _ hw ih => exact hw.sound ih

theorem unreferenced (h : Writes t reg reg') (hs : reg.Sound) {id : ContainerId}
    (hid : reg'.Unreferenced id) : reg.Unreferenced id ∨ t.drops id := by
  induction h with
  | refl => exact Or.inl hid
  | tail h hw ih =>
      rcases hw.unreferenced (Writes.sound h hs) hid with hid | hdrops
      · exact ih hid
      · exact Or.inr hdrops

/-- What becomes of a node over two spans is what becomes of it over both: a
    number that was given out is not given out again. -/
theorem fate_trans (h : Writes t reg reg') (h' : Writes t reg' reg'')
    (hs : reg.Sound) (hf : ∀ node, Fate t reg reg' node)
    (hf' : ∀ node, Fate t reg' reg'' node) (node : NodeHandle) :
    Fate t reg reg'' node := by
  have hle := nextNode_le h
  have hle' := nextNode_le h'
  cases hf node with
  | absent hn hn' =>
      cases hf' node with
      | absent _ hn'' => exact .absent hn hn''
      | kept ho => rw [hn'] at ho; cases ho
      | freed ho => rw [hn'] at ho; cases ho
      | made _ hn'' hlow hhigh hmakes hsame hapart =>
          exact .made hn hn'' (Nat.le_trans hle hlow) hhigh hmakes hsame hapart
  | kept hn hn' hsame =>
      rcases (hf' node).of_some hn' with ⟨_, hn'', hsame'⟩ | ⟨hn'', hfrees⟩
      · exact .kept hn hn'' (hsame.trans hsame')
      · exact .freed hn hn'' hfrees
  | freed hn hn' hfrees =>
      cases hf' node with
      | absent _ hn'' => exact .freed hn hn'' hfrees
      | kept ho => rw [hn'] at ho; cases ho
      | freed ho => rw [hn'] at ho; cases ho
      | made _ _ hlow =>
          have hlt := hs.numbered hn
          omega
  | made hn hn' hlow hhigh hmakes hsame hapart =>
      rcases (hf' node).of_some hn' with ⟨_, hn'', hsame'⟩ | ⟨hn'', -⟩
      · refine .made hn hn'' hlow (Nat.lt_of_lt_of_le hhigh hle') hmakes
          (hsame.trans hsame') fun {m n} hlt hm => ?_
        -- the earlier nodes that are left were there when it was made
        obtain ⟨o, ho, hsame⟩ := (hf' ⟨node.container, node.kind, m⟩).of_numbered
          hm (Nat.lt_trans hlt hhigh)
        rw [hsame.token_eq]
        exact hapart hlt ho
      · exact .absent hn hn''

theorem fate (h : Writes t reg reg') (hs : reg.Sound) (node : NodeHandle) :
    Fate t reg reg' node := by
  induction h generalizing node with
  | refl => exact .of_eq rfl
  | tail h hw ih =>
      exact fate_trans h (single hw) hs ih (hw.fate (sound h hs)) node

end Writes

/-! ## Distinct nodes -/

/-- Of any two nodes of one list, the token of the earlier stands apart from
    that of the later. -/
def Distinct (apart : τ → τ → Prop) (reg : Registry τ ρ) : Prop :=
  ∀ ⦃id kind m m' n n'⦄, reg.node? ⟨id, kind, m⟩ = some n →
    reg.node? ⟨id, kind, m'⟩ = some n' → m.number < m'.number →
    apart n.token n'.token

theorem distinct_ofConfig (apart : τ → τ → Prop) (config : Config) :
    (Registry.ofConfig config : Registry τ ρ).Distinct apart :=
  fun _ _ _ _ _ _ hn => nomatch hn

/-- Nodes of one list, neither of whose tokens stands apart from the other, are
    one node. -/
theorem Distinct.id_eq {apart : τ → τ → Prop} (hd : reg.Distinct apart)
    {id : ContainerId} {kind : Kind} {m m' : NodeId} {n n' : Node τ}
    (hn : reg.node? ⟨id, kind, m⟩ = some n)
    (hn' : reg.node? ⟨id, kind, m'⟩ = some n') (h : ¬ apart n.token n'.token)
    (h' : ¬ apart n'.token n.token) : m = m' := by
  rcases Nat.lt_trichotomy m.number m'.number with hlt | hnumber | hlt
  · exact absurd (hd hn hn' hlt) h
  · exact Id.ext hnumber
  · exact absurd (hd hn' hn hlt) h'

theorem Writes.distinct (h : Writes t reg reg') (hs : reg.Sound)
    (hd : reg.Distinct t.apart) : reg'.Distinct t.apart := by
  intro id kind m m' n n' hn hn' hlt
  cases fate h hs ⟨id, kind, m'⟩ with
  | absent _ ho => rw [hn'] at ho; cases ho
  | freed _ ho => rw [hn'] at ho; cases ho
  | made _ ho _ _ _ hsame hapart =>
      rw [hn'] at ho
      cases ho
      rw [hsame.token_eq]
      exact hapart hlt hn
  | kept hold ho hsame =>
      rw [hn'] at ho
      cases ho
      -- a node with a smaller number than an old one is old as well
      obtain ⟨o, hold', hsame'⟩ := (fate h hs ⟨id, kind, m⟩).of_numbered hn
        (Nat.lt_trans hlt (hs.numbered hold))
      rw [hsame.token_eq, hsame'.token_eq]
      exact hd hold' hold hlt

end Registry

end Provenance
