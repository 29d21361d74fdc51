import Provenance.Proofs.Registry.Conduct
import Provenance.Proofs.Registry.Entries

/-! # Tallies

    A registry counts what becomes of it: a container how often objects were
    created and opened in it, a node how often it was tracked and what was done
    to its object.  A `Mark` is one such event.  From one state of a registry to
    another, each container and node that is there at the end counts what it
    counted before, or started with, and the marks on top of that (`Tallied`).

    An operation first takes entries in and then lets some go.  The marks of two
    spans add up if the second takes nothing in (`Tallied.trans`), as nothing
    comes back that went in between. -/

namespace Provenance

/-- What a registry counts. -/
inductive Mark where
  | tracked (node : NodeHandle)
  /-- An object of a kind was created or opened in a container. -/
  | counted (access : Access) (id : ContainerId) (kind : Kind)
  | entered (node : NodeHandle) (entry : Entry)
deriving DecidableEq

namespace Mark

/-- The node that a mark is about, if it is about one. -/
def node? : Mark → Option NodeHandle
  | tracked node => some node
  | counted .. => none
  | entered node _ => some node

/-- The container that a mark is in. -/
def container : Mark → ContainerId
  | tracked node => node.container
  | counted _ id _ => id
  | entered node _ => node.container

/-- What a mark enters at a node. -/
def entry? (node : NodeHandle) : Mark → Option Entry
  | entered node' entry => if node' = node then some entry else none
  | _ => none

theorem container_eq {mark : Mark} {node : NodeHandle}
    (h : mark.node? = some node) : mark.container = node.container := by
  cases mark <;> cases h <;> rfl

end Mark

/-- What marks enter at a node, in their order. -/
def entries (node : NodeHandle) (marks : List Mark) : List Entry :=
  marks.filterMap (Mark.entry? node)

section

variable {marks marks' : List Mark} {node : NodeHandle}

theorem entries_append (node : NodeHandle) (marks marks' : List Mark) :
    entries node (marks ++ marks') = entries node marks ++ entries node marks' :=
  List.filterMap_append

theorem entries_eq_nil (h : ∀ mark ∈ marks, mark.node? ≠ some node) :
    entries node marks = [] := by
  rw [entries, List.filterMap_eq_nil_iff]
  intro mark hmark
  cases mark with
  | entered node' entry =>
      exact if_neg fun heq => h _ hmark (congrArg some heq)
  | _ => rfl

theorem count_tracked_eq_zero (h : ∀ mark ∈ marks, mark.node? ≠ some node) :
    marks.count (.tracked node) = 0 :=
  List.count_eq_zero.mpr fun hmark => h _ hmark rfl

end

/-- The objects that a container counts, by the way they were come by. -/
def Container.tally {τ ρ : Type} (c : Container τ ρ) : Access → PerKind Nat
  | .created => c.created
  | .opened => c.accessed

theorem Container.get_tally_fresh {τ ρ : Type} (id : ContainerId)
    (name : Option String) (b : Bool) (access : Access) (kind : Kind) :
    ((fresh id name b : Container τ ρ).tally access).get kind = 0 := by
  cases access <;> exact PerKind.get_replicate 0 kind

namespace Registry

variable {ω η τ ρ ε : Type} {reg reg' reg'' : Registry τ ρ} {id : ContainerId}
  {kind : Kind} {node : NodeHandle} {marks marks' : List Mark} {ev : List Event}

/-- Every entry is in its place, and so is every node. -/
structure Orderly (reg : Registry τ ρ) : Prop where
  entry : ∀ {id c}, reg.container? id = some c → c.Sound reg.nextNode id

theorem Consistent.orderly {held : Multiset Reference}
    (h : reg.Consistent held) : reg.Orderly :=
  ⟨fun hget => (h.entry hget).toSound⟩

theorem Orderly.put (hs : reg.Orderly) {c : Container τ ρ}
    (hc : c.Sound reg.nextNode id) : (reg.put c).Orderly := by
  refine ⟨fun {id' c'} hget => ?_⟩
  rw [container?_put, hc.id_eq] at hget
  by_cases hid : id = id'
  · rw [if_pos hid] at hget
    cases hget
    exact hid ▸ hc
  · rw [if_neg hid] at hget
    exact hs.entry hget

/-- What a container counts, nothing if it is not there. -/
def tally (reg : Registry τ ρ) (access : Access) (id : ContainerId)
    (kind : Kind) : Nat :=
  (reg.container? id).elim 0 fun c => (c.tally access).get kind

/-- How often a node was tracked, never if it is not there. -/
def accesses (reg : Registry τ ρ) (node : NodeHandle) : Nat :=
  (reg.node? node).elim 0 Node.accesses

/-- The counters of a node, those of a new one if it is not there. -/
def counters (reg : Registry τ ρ) (node : NodeHandle) : Counters :=
  (reg.node? node).elim (.zero node.kind) Node.counters

theorem tally_of_some {c : Container τ ρ} (hget : reg.container? id = some c)
    (access : Access) (kind : Kind) :
    reg.tally access id kind = (c.tally access).get kind := by
  rw [tally, hget]
  rfl

theorem accesses_of_some {n : Node τ} (hn : reg.node? node = some n) :
    reg.accesses node = n.accesses := by
  rw [accesses, hn]
  rfl

theorem counters_of_some {n : Node τ} (hn : reg.node? node = some n) :
    reg.counters node = n.counters := by
  rw [counters, hn]
  rfl

/-- A node counts what the place it is at counted before, and some marks. -/
structure TalliedAt (marks : List Mark) (reg : Registry τ ρ) (node : NodeHandle)
    (n' : Node τ) : Prop where
  accesses_eq : n'.accesses = reg.accesses node + marks.count (.tracked node)
  counters_eq : n'.counters = (reg.counters node).enterAll (entries node marks)

/-- Whatever is in a registry counts what it counted before, and some marks. -/
structure Tallied (marks : List Mark) (reg reg' : Registry τ ρ) : Prop where
  tally_eq : ∀ {id c'}, reg'.container? id = some c' → ∀ access kind,
    (c'.tally access).get kind
      = reg.tally access id kind + marks.count (.counted access id kind)
  node : ∀ {node n'}, reg'.node? node = some n' → TalliedAt marks reg node n'

/-- Whatever is in a registry was in it before. -/
structure Within (reg reg' : Registry τ ρ) : Prop where
  container : ∀ {id c'}, reg'.container? id = some c' →
    ∃ c, reg.container? id = some c
  node : ∀ {node n'}, reg'.node? node = some n' → ∃ n, reg.node? node = some n

/-- A node that no mark is about counts what it did. -/
theorem talliedAt_of_some {n : Node τ} (hn : reg.node? node = some n)
    (h : ∀ mark ∈ marks, mark.node? ≠ some node) : TalliedAt marks reg node n := by
  constructor
  · rw [accesses_of_some hn, count_tracked_eq_zero h]
    rfl
  · rw [counters_of_some hn, entries_eq_nil h]
    rfl

theorem Tallied.refl (reg : Registry τ ρ) : Tallied [] reg reg where
  tally_eq hget access kind := (tally_of_some hget access kind).symm
  node hn := talliedAt_of_some hn fun _ h => nomatch h

theorem Tallied.of_eq (h : reg' = reg) : Tallied [] reg reg' := by
  rw [h]
  exact .refl reg

theorem Within.refl (reg : Registry τ ρ) : Within reg reg :=
  ⟨fun hget => ⟨_, hget⟩, fun hn => ⟨_, hn⟩⟩

theorem Within.trans (h : Within reg reg') (h' : Within reg' reg'') :
    Within reg reg'' where
  container hget := by
    obtain ⟨c, hc⟩ := h'.container hget
    exact h.container hc
  node hn := by
    obtain ⟨n, hn⟩ := h'.node hn
    exact h.node hn

theorem Tallied.trans (h : Tallied marks reg reg')
    (h' : Tallied marks' reg' reg'') (hw : Within reg' reg'') :
    Tallied (marks' ++ marks) reg reg'' where
  tally_eq {id c''} hget access kind := by
    obtain ⟨c', hc'⟩ := hw.container hget
    rw [h'.tally_eq hget, tally_of_some hc', h.tally_eq hc', List.count_append,
      Nat.add_assoc, Nat.add_comm (List.count _ marks)]
  node {node n''} hn := by
    obtain ⟨n', hn'⟩ := hw.node hn
    have ho := h.node hn'
    have ho' := h'.node hn
    constructor
    · rw [ho'.accesses_eq, accesses_of_some hn', ho.accesses_eq,
        List.count_append, Nat.add_assoc, Nat.add_comm (List.count _ marks)]
    · rw [ho'.counters_eq, counters_of_some hn', ho.counters_eq, entries_append,
        Counters.enterAll_append]

/-! ## Single entries -/

/-- To put an entry tallies what the entry tallies. -/
theorem Tallied.put {c' : Container τ ρ} (next : Nat) (hid : c'.id = id)
    (hmarks : ∀ mark ∈ marks, mark.container = id)
    (htally : ∀ access kind, (c'.tally access).get kind
      = reg.tally access id kind + marks.count (.counted access id kind))
    (hnode : ∀ {k m n'}, c'.node? k m = some n' →
      TalliedAt marks reg ⟨id, k, m⟩ n') :
    Tallied marks reg ({ reg with nextNode := next }.put c') where
  tally_eq {id' c''} hget access kind := by
    rw [container?_put] at hget
    by_cases hj : c'.id = id'
    · obtain rfl : id = id' := hid.symm.trans hj
      rw [if_pos hj] at hget
      cases hget
      exact htally access kind
    · rw [if_neg hj] at hget
      have hzero : marks.count (.counted access id' kind) = 0 :=
        List.count_eq_zero.mpr fun hmark =>
          hj (hid.trans (hmarks _ hmark).symm)
      rw [hzero]
      exact (tally_of_some hget access kind).symm
  node {node n'} hn := by
    rw [node?_put] at hn
    by_cases hj : c'.id = node.container
    · obtain ⟨_, k, m⟩ := node
      obtain rfl : id = _ := hid.symm.trans hj
      rw [if_pos hj] at hn
      exact hnode hn
    · rw [if_neg hj] at hn
      refine talliedAt_of_some hn fun mark hmark heq => hj ?_
      rw [hid, ← hmarks mark hmark, Mark.container_eq heq]

theorem Within.put {c c' : Container τ ρ} (hget : reg.container? id = some c)
    (hid : c'.id = id)
    (hnode : ∀ {k m n'}, c'.node? k m = some n' → ∃ n, c.node? k m = some n) :
    Within reg (reg.put c') where
  container {id' c''} hget' := by
    rw [container?_put] at hget'
    by_cases hj : c'.id = id'
    · exact ⟨c, hid.symm.trans hj ▸ hget⟩
    · rw [if_neg hj] at hget'
      exact ⟨c'', hget'⟩
  node {node n'} hn := by
    rw [node?_put] at hn
    by_cases hj : c'.id = node.container
    · rw [if_pos hj] at hn
      obtain ⟨n, hn⟩ := hnode hn
      exact ⟨n, (node?_of_container? hget (hj.symm.trans hid)).trans hn⟩
    · rw [if_neg hj] at hn
      exact ⟨n', hn⟩

/-! ## Nothing counted -/

/-- Entries may have changed or gone, but nothing was counted and nothing came
    in. -/
structure Uncounted (reg reg' : Registry τ ρ) : Prop where
  tallied : Tallied [] reg reg'
  within : Within reg reg'
  orderly : reg'.Orderly

theorem Uncounted.refl (hs : reg.Orderly) : Uncounted reg reg :=
  ⟨.refl reg, .refl reg, hs⟩

theorem Uncounted.trans (h : Uncounted reg reg') (h' : Uncounted reg' reg'') :
    Uncounted reg reg'' :=
  ⟨h.tallied.trans h'.tallied h'.within, h.within.trans h'.within, h'.orderly⟩

/-- A call that counts nothing from any state on. -/
theorem keeps_uncounted {α : Type} {reg₀ : Registry τ ρ}
    {x : Call (Registry τ ρ) ε α}
    (hx : ∀ reg, reg.Orderly → Uncounted reg (x reg).state) :
    x.Keeps fun reg _ => Uncounted reg₀ reg :=
  Call.keeps_of_state fun reg h => h.trans (hx reg h.orderly)

theorem uncounted_remove (hs : reg.Orderly) (id : ContainerId) :
    Uncounted reg (reg.remove id) := by
  have hget : ∀ {id' c'}, (reg.remove id).container? id' = some c' →
      reg.container? id' = some c' := by
    intro id' c' h
    rw [container?_remove] at h
    by_cases hj : id = id'
    · rw [if_pos hj] at h
      cases h
    · rwa [if_neg hj] at h
  have hnode : ∀ {node n'}, (reg.remove id).node? node = some n' →
      reg.node? node = some n' := by
    intro node n' h
    rw [node?_remove] at h
    by_cases hj : id = node.container
    · rw [if_pos hj] at h
      cases h
    · rwa [if_neg hj] at h
  exact ⟨⟨fun h access kind => (tally_of_some (hget h) access kind).symm,
    fun h => talliedAt_of_some (hnode h) fun _ h => nomatch h⟩,
    ⟨fun h => ⟨_, hget h⟩, fun h => ⟨_, hnode h⟩⟩,
    ⟨fun h => hs.entry (hget h)⟩⟩

/-- A container changes in what is not counted. -/
theorem uncounted_put (hs : reg.Orderly) {c c' : Container τ ρ}
    (hget : reg.container? id = some c) (hc : c'.Sound reg.nextNode id)
    (htally : c'.tally = c.tally)
    (hnode : ∀ {k m n'}, c'.node? k m = some n' → ∃ n, c.node? k m = some n ∧
      n'.accesses = n.accesses ∧ n'.counters = n.counters) :
    Uncounted reg (reg.put c') := by
  refine ⟨.put reg.nextNode hc.id_eq (fun _ h => nomatch h)
    (fun access kind => ?_) fun {k m n'} hn => ?_,
    .put hget hc.id_eq fun hn => ?_, hs.put hc⟩
  · rw [htally]
    exact (tally_of_some hget access kind).symm
  · obtain ⟨n, hn, haccesses, hcounters⟩ := hnode hn
    have ho : reg.node? ⟨id, k, m⟩ = some n :=
      (node?_of_container? hget rfl).trans hn
    exact ⟨haccesses.trans (accesses_of_some ho).symm,
      hcounters.trans (counters_of_some ho).symm⟩
  · obtain ⟨n, hn, -⟩ := hnode hn
    exact ⟨n, hn⟩

/-- A container changes beside its nodes, in what is not counted. -/
theorem uncounted_put_of_same_nodes (hs : reg.Orderly) {c c' : Container τ ρ}
    (hget : reg.container? id = some c) (hid : c'.id = c.id)
    (hcounts : c'.counts = c.counts) (hnodes : c'.nodes = c.nodes)
    (htally : c'.tally = c.tally) : Uncounted reg (reg.put c') := by
  refine uncounted_put hs hget
    ((hs.entry hget).of_same_nodes hid hcounts hnodes) htally
    fun {k m n'} hn => ⟨n', ?_, rfl, rfl⟩
  rw [Container.node?, ← hnodes]
  exact hn

/-! ## Containers -/

theorem openContainer_tallied (memory : Memory) (id : ContainerId)
    (name : Option String) (hs : reg.Orderly) :
    Tallied [] reg (openContainer memory id name reg).state := by
  simp only [openContainer]
  by_cases hm : grantsName memory .objectName name
  · rw [if_pos hm]
    cases hget : reg.container? id with
    | some c =>
        have hc : (c.promote name).id = c.id ∧
            (c.promote name).counts = c.counts ∧
            (c.promote name).nodes = c.nodes ∧
            (c.promote name).tally = c.tally := by
          rw [Container.promote]
          by_cases hp : c.placeholder
          · rw [if_pos hp]
            exact ⟨rfl, rfl, rfl, rfl⟩
          · rw [if_neg hp]
            exact ⟨rfl, rfl, rfl, rfl⟩
        have hput : Uncounted reg (reg.put (c.promote name).retain) :=
          uncounted_put_of_same_nodes hs hget hc.1 hc.2.1 hc.2.2.1 hc.2.2.2
        exact hput.tallied
    | none =>
        -- a new container has counted nothing
        have hput : Tallied [] reg
            ({ reg with nextNode := reg.nextNode }.put
              (Container.fresh id name false).retain) := by
          refine Tallied.put _ rfl (fun _ hmark => ?_) (fun access kind => ?_)
            fun {k m n'} hn => ?_
          · cases hmark
          · have hzero : ((Container.fresh id name false :
                Container τ ρ).tally access).get kind = 0 :=
              Container.get_tally_fresh id name false access kind
            rw [tally, show (Container.fresh id name false : Container τ ρ).retain.id
              = id from rfl, hget]
            exact hzero
          · have hfresh : (Container.fresh id name false :
                Container τ ρ).node? k m = some n' := hn
            rw [Container.node?_fresh] at hfresh
            cases hfresh
        exact hput
  · rw [if_neg hm]
    exact .refl reg

theorem pinContainer_uncounted (id : ContainerId) (hs : reg.Orderly) :
    Uncounted reg (pinContainer id reg).state := by
  simp only [pinContainer]
  cases hget : reg.container? id with
  | some c =>
      have hput : Uncounted reg (reg.put c.retain) :=
        uncounted_put_of_same_nodes hs hget rfl rfl rfl rfl
      exact hput
  | none => exact .refl hs

theorem closeContainer_uncounted (id : ContainerId) (hs : reg.Orderly) :
    Uncounted reg (closeContainer id reg :
      Ending (Registry τ ρ) ε (Release ρ)).state := by
  simp only [closeContainer]
  cases hget : reg.container? id with
  | none => exact .refl hs
  | some c =>
      have hput : Uncounted reg (reg.put c.release) :=
        uncounted_put_of_same_nodes hs hget rfl rfl rfl rfl
      dsimp only
      by_cases hzero : c.refcount = 0
      · rw [if_pos hzero]
        exact .refl hs
      · rw [if_neg hzero]
        by_cases hpos : 0 < c.release.refcount
        · rw [if_pos hpos]
          exact hput
        · rw [if_neg hpos]
          by_cases hchildren : c.release.hasChildren = true
          · rw [if_pos hchildren]
            exact hput
          · rw [if_neg hchildren]
            exact uncounted_remove hs id

/-! ## Nodes -/

theorem untrack_uncounted (node : NodeHandle) (hs : reg.Orderly) :
    Uncounted reg (untrack node reg :
      Ending (Registry τ ρ) ε (Release ρ)).state := by
  cases hget : reg.container? node.container with
  | none =>
      simp only [untrack, hget]
      exact .refl hs
  | some c =>
      have hc := hs.entry hget
      cases hn : c.node? node.kind node.node with
      | none =>
          simp only [untrack, hget, hn]
          exact .refl hs
      | some n =>
          by_cases hlast : 0 < n.refcount - 1
          · simp only [untrack, hget, hn, if_pos hlast]
            refine uncounted_put hs hget (hc.putNode hn rfl hlast) rfl
              fun {k m n'} hn' => ?_
            rcases Container.of_node?_putNode hn' with ⟨rfl, rfl, rfl⟩ | hn'
            · exact ⟨n, (hc.number_eq hn).symm ▸ hn, rfl, rfl⟩
            · exact ⟨n', hn', rfl, rfl⟩
          · rw [untrack_eq_close hget hn hlast, Call.map_apply]
            have hfree : Uncounted reg
                (reg.put (c.removeNode node.kind node.node)) :=
              uncounted_put hs hget (hc.removeNode hn) rfl fun hn' =>
                ⟨_, Container.of_node?_removeNode hn', rfl, rfl⟩
            exact hfree.trans
              (closeContainer_uncounted node.container hfree.orderly)

/-- A placeholder has counted nothing. -/
theorem Site.tally_eq {c : Container τ ρ} (h : reg.Site id c) (access : Access)
    (kind : Kind) : (c.tally access).get kind = reg.tally access id kind := by
  rcases h with hget | ⟨hget, title, rfl⟩
  · exact (tally_of_some hget access kind).symm
  · rw [tally, hget]
    exact Container.get_tally_fresh id title true access kind

/-- Tracking counts one access of its node. -/
theorem Tracked.tallied [Identity ω η τ] {memory : Memory} {token : τ}
    {name : Option String}
    (h : Tracked ω memory reg id kind token name node reg') (hs : reg.Orderly) :
    Tallied [.tracked node] reg reg' := by
  have hcontainer : ∀ mark ∈ [Mark.tracked node], mark.container = id := by
    intro mark hmark
    rw [List.mem_singleton.mp hmark]
    exact h.place.1
  have hcounted : ∀ access id' kind',
      [Mark.tracked node].count (.counted access id' kind') = 0 :=
    fun _ _ _ => List.count_eq_zero.mpr fun hmark => by
      cases List.mem_singleton.mp hmark
  -- the mark is about no other node
  have hother : ∀ {node' n'}, node' ≠ node → reg.node? node' = some n' →
      TalliedAt [.tracked node] reg node' n' := by
    intro node' n' hne hn'
    refine talliedAt_of_some hn' fun mark hmark heq => hne ?_
    rw [List.mem_singleton.mp hmark] at heq
    exact (Option.some.inj heq).symm
  cases h with
  | @reused c n hget hn _ =>
      have hold : ∀ {k m n'}, c.node? k m = some n' →
          reg.node? ⟨id, k, m⟩ = some n' := fun hn' =>
        (node?_of_container? hget rfl).trans hn'
      refine .put reg.nextNode (hs.entry hget).id_eq hcontainer
        (fun access kind' => ?_) fun {k m n'} hn' => ?_
      · rw [hcounted]
        exact (tally_of_some hget access kind').symm
      · rw [Container.node?_putNode] at hn'
        by_cases hplace : k = kind ∧ n.again.id = m
        · obtain ⟨rfl, rfl⟩ := hplace
          rw [if_pos ⟨rfl, rfl⟩] at hn'
          cases hn'
          show TalliedAt _ reg ⟨id, k, n.id⟩ n.again
          constructor
          · rw [accesses_of_some (hold hn), List.count_singleton_self]
            rfl
          · rw [counters_of_some (hold hn)]
            rfl
        · rw [if_neg hplace] at hn'
          refine hother (fun heq => hplace ?_) (hold hn')
          cases heq
          exact ⟨rfl, rfl⟩
  | @made c hsite _ _ =>
      have hc := hsite.sound hs.entry
      have hold : ∀ {k m n'}, c.node? k m = some n' →
          reg.node? ⟨id, k, m⟩ = some n' := fun hn' =>
        (hsite.node?_eq rfl).trans hn'
      refine .put (reg.nextNode + 1) hc.id_eq hcontainer
        (fun access kind' => ?_) fun {k m n'} hn' => ?_
      · rw [hcounted]
        exact hsite.tally_eq access kind'
      · rw [Container.node?_addNode] at hn'
        by_cases hplace : k = kind ∧ (⟨reg.nextNode⟩ : NodeId) = m
        · obtain ⟨rfl, rfl⟩ := hplace
          rw [if_pos ⟨rfl, rfl⟩] at hn'
          cases hn'
          -- nothing was there before
          have hnone : reg.node? ⟨id, k, ⟨reg.nextNode⟩⟩ = none :=
            (hsite.node?_eq rfl).trans (hc.node?_next k)
          constructor
          · rw [accesses, hnone, List.count_singleton_self]
            rfl
          · rw [counters, hnone]
            rfl
        · refine hother (fun heq => hplace ?_) (hold ((if_neg hplace).symm.trans hn'))
          cases heq
          exact ⟨rfl, rfl⟩

/-! ## Counting -/

/-- A container counts an access to an object in it. -/
theorem onContainer_tallied (access : Access) (kind : Kind)
    {f : Container τ ρ → Container τ ρ} (hid : ∀ c, (f c).id = c.id)
    (hnodes : ∀ c, (f c).nodes = c.nodes)
    (htally : ∀ c access', (f c).tally access'
      = if access' = access then (c.tally access').modify kind (· + 1)
        else c.tally access')
    (hs : reg.Orderly) :
    (onContainer id f).Ensures reg ev
      (fun _ reg' _ => Tallied [.counted access id kind] reg reg' ∧
        Within reg reg')
      (fun _ reg' _ => reg' = reg ∧ reg.container? id = none)
      (fun _ _ _ => False) := by
  simp only [Call.Ensures, onContainer]
  cases hget : reg.container? id with
  | none => exact ⟨rfl, rfl⟩
  | some c =>
      have hplace : (f c).id = id := (hid c).trans (hs.entry hget).id_eq
      have hsame : ∀ {k m n'}, (f c).node? k m = some n' →
          c.node? k m = some n' := by
        intro k m n' hn
        rw [Container.node?, ← hnodes c]
        exact hn
      refine ⟨.put reg.nextNode hplace (fun mark hmark => ?_)
        (fun access' kind' => ?_) fun {k m n'} hn => ?_,
        .put hget hplace fun hn => ⟨_, hsame hn⟩⟩
      · rw [List.mem_singleton.mp hmark]
        rfl
      · rw [htally, tally_of_some hget, List.count_singleton]
        by_cases haccess : access' = access
        · rw [if_pos haccess, PerKind.get_modify]
          by_cases hkind : kind' = kind
          · simp [haccess, hkind]
          · simp [hkind, Ne.symm hkind]
        · simp [haccess, Ne.symm haccess]
      · refine talliedAt_of_some ((node?_of_container? hget rfl).trans (hsame hn))
          fun mark hmark heq => ?_
        rw [List.mem_singleton.mp hmark] at heq
        cases heq

theorem recordCreated_tallied (id : ContainerId) (kind : Kind) (hs : reg.Orderly) :
    (recordCreated id kind).Ensures reg ev
      (fun _ reg' _ => Tallied [.counted .created id kind] reg reg' ∧
        Within reg reg')
      (fun _ reg' _ => reg' = reg ∧ reg.container? id = none)
      (fun _ _ _ => False) :=
  onContainer_tallied .created kind (fun _ => rfl) (fun _ => rfl)
    (fun _ access => by cases access <;> rfl) hs

theorem recordAccessed_tallied (id : ContainerId) (kind : Kind)
    (hs : reg.Orderly) :
    (recordAccessed id kind).Ensures reg ev
      (fun _ reg' _ => Tallied [.counted .opened id kind] reg reg' ∧
        Within reg reg')
      (fun _ reg' _ => reg' = reg ∧ reg.container? id = none)
      (fun _ _ _ => False) :=
  onContainer_tallied .opened kind (fun _ => rfl) (fun _ => rfl)
    (fun _ access => by cases access <;> rfl) hs

/-- A node takes an entry where counting at it succeeds. -/
theorem onCounters_tallied {α : Type} {f : Counters → Except RegistryError (α × Counters)}
    (entry : α → Entry)
    (hf : ∀ c a c', f c = .ok (a, c') → c' = c.enter (entry a)) (hs : reg.Orderly) :
    (onCounters node f).Ensures reg ev
      (fun a reg' _ => Tallied [.entered node (entry a)] reg reg' ∧
        Within reg reg')
      (fun _ reg' _ => reg' = reg) (fun _ reg' _ => reg' = reg) := by
  simp only [Call.Ensures, onCounters]
  cases hget : reg.container? node.container with
  | none => rfl
  | some c =>
      cases hn : c.node? node.kind node.node with
      | none =>
          simp only [hn]
          rfl
      | some n =>
          simp only [hn]
          rcases hcount : f n.counters with e | ⟨a, counters⟩
          · rfl
          · obtain rfl := hf _ _ _ hcount
            have hc := hs.entry hget
            have hid : n.id = node.node := hc.number_eq hn
            refine ⟨.put reg.nextNode hc.id_eq (fun mark hmark => ?_)
              (fun access kind => ?_) fun {k m n'} hn' => ?_,
              .put hget hc.id_eq fun {k m n'} hn' => ?_⟩
            · rw [List.mem_singleton.mp hmark]
              rfl
            · rw [List.count_singleton]
              exact (tally_of_some hget access kind).symm
            · have hold : ∀ {k m n'}, c.node? k m = some n' →
                  reg.node? ⟨node.container, k, m⟩ = some n' := fun hn' =>
                node?_eq_some_iff.mpr ⟨c, hget, hn'⟩
              rw [Container.node?_putNode] at hn'
              by_cases hplace : k = node.kind ∧ n.id = m
              · obtain ⟨rfl, rfl⟩ := hplace
                rw [if_pos ⟨rfl, rfl⟩] at hn'
                cases hn'
                rw [hid]
                constructor
                · rw [accesses_of_some (hold hn), List.count_singleton]
                  rfl
                · rw [counters_of_some (hold hn), entries, List.filterMap_cons,
                    Mark.entry?, if_pos rfl]
                  rfl
              · rw [if_neg hplace] at hn'
                refine talliedAt_of_some (hold hn') fun mark hmark heq => hplace ?_
                rw [List.mem_singleton.mp hmark] at heq
                obtain ⟨_, rfl, rfl⟩ := NodeHandle.mk.inj (Option.some.inj heq)
                exact ⟨rfl, hid⟩
            · rcases Container.of_node?_putNode hn' with ⟨rfl, rfl, rfl⟩ | hn'
              · exact ⟨n, hid.symm ▸ hn⟩
              · exact ⟨n', hn'⟩

theorem recordCommit_tallied (node : NodeHandle) (shape : Option DatasetShape)
    (hs : reg.Orderly) :
    (recordCommit node).Ensures reg ev
      (fun _ reg' _ => Tallied [.entered node (.accessed .created shape)] reg reg' ∧
        Within reg reg')
      (fun _ reg' _ => reg' = reg) (fun _ reg' _ => reg' = reg) :=
  onCounters_tallied (fun _ => .accessed .created shape)
    (fun c a c' h => by cases c <;> cases h; rfl) hs

theorem recordGet_tallied (node : NodeHandle) (shape : Option DatasetShape)
    (hs : reg.Orderly) :
    (recordGet node).Ensures reg ev
      (fun _ reg' _ => Tallied [.entered node (.accessed .opened shape)] reg reg' ∧
        Within reg reg')
      (fun _ reg' _ => reg' = reg) (fun _ reg' _ => reg' = reg) :=
  onCounters_tallied (fun _ => .accessed .opened shape)
    (fun c a c' h => by cases c <;> cases h; rfl) hs

theorem recordOp_tallied (node : NodeHandle) (access : Access)
    (shape : Option DatasetShape) (hs : reg.Orderly) :
    (recordOp node).Ensures reg ev
      (fun _ reg' _ => Tallied [.entered node (.accessed access shape)] reg reg' ∧
        Within reg reg')
      (fun _ reg' _ => reg' = reg) (fun _ reg' _ => reg' = reg) :=
  onCounters_tallied (fun _ => .accessed access shape)
    (fun c a c' h => by cases c <;> cases h <;> rfl) hs

theorem onDataset_tallied {α : Type}
    {f : DatasetCounters → Except RegistryError (α × DatasetCounters)}
    (entry : α → Entry)
    (hf : ∀ c a c', f c = .ok (a, c') →
      Counters.dataset c' = (Counters.dataset c).enter (entry a))
    (hs : reg.Orderly) :
    (onDataset node f).Ensures reg ev
      (fun a reg' _ => Tallied [.entered node (entry a)] reg reg' ∧
        Within reg reg')
      (fun _ reg' _ => reg' = reg) (fun _ reg' _ => reg' = reg) := by
  refine onCounters_tallied entry (fun c a c' h => ?_) hs
  cases c with
  | dataset d =>
      rcases hd : f d with e | ⟨b, d'⟩ <;> simp only [hd] at h <;> cases h
      exact hf d _ d' hd
  | _ => cases h

theorem setDatasetShape_tallied (memory : Memory) (node : NodeHandle)
    (access : Access) (shape : DatasetShape) (hs : reg.Orderly) :
    (setDatasetShape memory node shape.typeSize shape.dimensions).Ensures reg ev
      (fun _ reg' _ =>
        Tallied [.entered node (.accessed access (some shape))] reg reg' ∧
        Within reg reg')
      (fun _ reg' _ => reg' = reg) (fun _ reg' _ => reg' = reg) := by
  refine onDataset_tallied (fun _ => .accessed access (some shape))
    (fun c a c' h => ?_) hs
  by_cases hm : memory.grants .datasetDimensions (8 * shape.dimensions.length)
  · rw [if_pos hm] at h
    cases h
    rfl
  · rw [if_neg hm] at h
    cases h

theorem recordRead_tallied (node : NodeHandle) (selected : Option Nat)
    (elapsed : Duration) (hs : reg.Orderly) :
    (recordRead node selected elapsed).Ensures reg ev
      (fun bytes reg' _ => Tallied [.entered node (.read bytes elapsed)] reg reg' ∧
        Within reg reg')
      (fun _ reg' _ => reg' = reg) (fun _ reg' _ => reg' = reg) :=
  onDataset_tallied (.read · elapsed) (fun c a c' h => by cases h; rfl) hs

theorem recordWrite_tallied (node : NodeHandle) (selected : Option Nat)
    (elapsed : Duration) (hs : reg.Orderly) :
    (recordWrite node selected elapsed).Ensures reg ev
      (fun bytes reg' _ =>
        Tallied [.entered node (.written bytes elapsed)] reg reg' ∧
        Within reg reg')
      (fun _ reg' _ => reg' = reg) (fun _ reg' _ => reg' = reg) :=
  onDataset_tallied (.written · elapsed) (fun c a c' h => by cases h; rfl) hs

end Registry

end Provenance
