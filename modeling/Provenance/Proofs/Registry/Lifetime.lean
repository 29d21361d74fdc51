import Provenance.Proofs.Registry.Integrity

/-! # Lifetime of a handle

    A handle is answered for the first time when its node is made, and names
    that node and no other for good.  Until the last reference on the node is
    given back, the handle resolves to it, whatever is asked of the registry
    meanwhile (`Sound.kept`).  From then on it resolves to nothing, even if its
    container is freed and opened again or its object is tracked again
    (`Sound.node?_freed`), and all that is asked with it ends in a fault and
    leaves the registry alone (`Op.run_of_stale`).

    What carries this is that numbers of nodes are given out in order
    (`Write.fate`), so each part below is a walk along the requests that looks
    at the fate of one node. -/

namespace Provenance.Registry

variable {ω η τ ρ : Type} {reg : Registry τ ρ} {node : NodeHandle}

/-! ## Stale handles -/

/-- What is broken by the use of a handle that resolves to nothing. -/
def missing (reg : Registry τ ρ) (node : NodeHandle) : Violation :=
  match reg.container? node.container with
  | none => .containerUntracked node.container
  | some _ => .nodeUntracked node

theorem onCounters_of_stale {α : Type}
    (f : Counters → Except RegistryError (α × Counters))
    (hn : reg.node? node = none) :
    onCounters node f reg = Call.halt (.invariant (reg.missing node)) reg := by
  simp only [onCounters, missing]
  cases hget : reg.container? node.container with
  | none => rfl
  | some c =>
      rw [node?_of_container? hget rfl] at hn
      simp only [hn]

theorem onDataset_of_stale {α : Type}
    (f : DatasetCounters → Except RegistryError (α × DatasetCounters))
    (hn : reg.node? node = none) :
    onDataset node f reg = Call.halt (.invariant (reg.missing node)) reg :=
  onCounters_of_stale _ hn

theorem untrack_of_stale {ε : Type} (hn : reg.node? node = none) :
    (untrack node : Call (Registry τ ρ) ε (Release ρ)) reg
      = Call.halt (.invariant (reg.missing node)) reg := by
  simp only [untrack, missing]
  cases hget : reg.container? node.container with
  | none => rfl
  | some c =>
      rw [node?_of_container? hget rfl] at hn
      simp only [hn]

/-- The handle that an operation works on, if it is given one. -/
def Op.handle? : Op η τ ρ → Option NodeHandle
  | untrack node => some node
  | setDatasetShape node _ _ => some node
  | recordRead node _ _ => some node
  | recordWrite node _ _ => some node
  | recordCommit node => some node
  | recordGet node => some node
  | recordOp node => some node
  | _ => none

variable [Identity ω η τ]

theorem Op.map_alone_halt {α : Type} {w : ω} {v : Violation} (g : α → Answer τ ρ)
    {x : Call (Registry τ ρ) RegistryError α}
    (hx : x reg = Call.halt (.invariant v) reg) :
    (g <$> alone x : Call (ω × Registry τ ρ) RegistryError (Answer τ ρ)) (w, reg)
      = Call.halt (.invariant v) (w, reg) := by
  rw [map_alone_apply, hx]
  rfl

/-- A handle that resolves to nothing is a broken invariant to every operation
    that works on it, and nothing changes. -/
theorem Op.run_of_stale (memory : Memory) {op : Op η τ ρ} {w : ω}
    (hop : op.handle? = some node) (hn : reg.node? node = none) :
    op.run memory (w, reg)
      = Call.halt (.invariant (reg.missing node)) (w, reg) := by
  cases op <;> cases hop
  case untrack => exact map_alone_halt _ (untrack_of_stale hn)
  case setDatasetShape => exact map_alone_halt _ (onDataset_of_stale _ hn)
  case recordRead => exact map_alone_halt _ (onDataset_of_stale _ hn)
  case recordWrite => exact map_alone_halt _ (onDataset_of_stale _ hn)
  case recordCommit => exact map_alone_halt _ (onCounters_of_stale _ hn)
  case recordGet => exact map_alone_halt _ (onCounters_of_stale _ hn)
  case recordOp => exact map_alone_halt _ (onCounters_of_stale _ hn)

/-! ## Handles in answers -/

/-- An operation other than a track answers no handle. -/
theorem Op.map_alone_ne_node {α : Type} {w : ω} {g : α → Answer τ ρ}
    {x : Call (Registry τ ρ) RegistryError α} (hg : ∀ a, g a ≠ .node node) :
    ((g <$> alone x : Call (ω × Registry τ ρ) RegistryError (Answer τ ρ))
      (w, reg)).outcome ≠ .value (.node node) := by
  rw [map_alone_apply]
  intro h
  cases ho : (x reg).outcome with
  | value a =>
      rw [ho] at h
      exact hg a (Outcome.value.inj h)
  | error e => rw [ho] at h; cases h
  | fault f => rw [ho] at h; cases h

/-- A handle is answered by a track of a token, and names the node that was
    tracked. -/
theorem Op.tracked_of_node {memory : Memory} {op : Op η τ ρ} {w : ω}
    (hs : reg.Sound)
    (h : (op.run memory (w, reg)).outcome = .value (.node node)) :
    ∃ token name, op.Tracks node.container node.kind token name ∧
      Tracked ω memory reg node.container node.kind token name node
        (op.run memory (w, reg)).state.2 := by
  have htracked : ∀ {id kind token name}, op.Tracks id kind token name →
      ∃ token name, op.Tracks node.container node.kind token name ∧
        Tracked ω memory reg node.container node.kind token name node
          (op.run memory (w, reg)).state.2 := by
    intro id kind token name hop
    obtain ⟨_, heq, ht⟩ := (run_tracked memory hs hop).value h
    cases heq
    obtain ⟨rfl, rfl⟩ := ht.place
    exact ⟨token, name, hop, ht⟩
  cases op with
  | track => exact htracked ⟨rfl, rfl, rfl, rfl⟩
  | trackIn => exact htracked ⟨rfl, rfl, rfl, rfl⟩
  | _ => exact absurd h (map_alone_ne_node fun _ => nofun)

/-- The handle that tracking answers resolved to a node before, or takes the
    next number. -/
theorem Tracked.reused_or_made {memory : Memory} {id : ContainerId} {kind : Kind}
    {token : τ} {name : Option String} {reg' : Registry τ ρ}
    (h : Tracked ω memory reg id kind token name node reg') (hs : reg.Sound) :
    (∃ n, reg.node? node = some n) ∨ node.node.number = reg.nextNode ∧
      reg'.node? node = some (.first node.node id kind token name) := by
  cases h with
  | @reused c n hget hn _ =>
      exact Or.inl ⟨n, node?_eq_some_iff.mpr ⟨c, hget, hn⟩⟩
  | @made c hsite _ _ =>
      have hid : (c.addNode kind (.first ⟨reg.nextNode⟩ id kind token name)).id
          = id := (hsite.sound hs.entry).id_eq
      refine Or.inr ⟨rfl, ?_⟩
      rw [node?_put, if_pos hid, Container.node?_addNode, if_pos ⟨rfl, rfl⟩]

/-! ## Along requests -/

/-- Some request is as a condition says, in the registry that it meets. -/
def Sometime (P : Registry τ ρ → Request ω η τ ρ → Prop) (reg : Registry τ ρ) :
    List (Request ω η τ ρ) → Prop
  | [] => False
  | r :: rest => P reg r ∨ Sometime P (r.next reg) rest

/-- A request is answered with a handle. -/
def Answers (node : NodeHandle) (reg : Registry τ ρ) (r : Request ω η τ ρ) :
    Prop :=
  (r.perform reg).outcome = .value (.node node)

/-- A request gives back the last reference on a node. -/
def Frees (node : NodeHandle) (reg : Registry τ ρ) (r : Request ω η τ ρ) :
    Prop :=
  r.op = .untrack node ∧ ∃ n, reg.node? node = some n ∧ n.refcount = 1

/-- A node that was not there was answered since. -/
theorem Sound.answered (hs : reg.Sound) (hn : reg.node? node = none)
    {requests : List (Request ω η τ ρ)} {n : Node τ}
    (hlater : (after reg requests).node? node = some n) :
    Sometime (Answers node) reg requests := by
  induction requests generalizing reg with
  | nil =>
      rw [show (after reg []).node? node = reg.node? node from rfl, hn] at hlater
      cases hlater
  | cons r rest ih =>
      cases (r.writes hs).fate hs node with
      | absent _ hnext => exact Or.inr (ih (r.sound hs) hnext hlater)
      | kept ho => rw [hn] at ho; cases ho
      | freed ho => rw [hn] at ho; cases ho
      | made _ _ _ _ hmakes => exact Or.inl hmakes.2

/-- A number that was given out is not given out again. -/
theorem Sound.node?_gone (hs : reg.Sound) (hn : reg.node? node = none)
    (hlt : node.node.number < reg.nextNode) (later : List (Request ω η τ ρ)) :
    (after reg later).node? node = none ∧
      node.node.number < (after reg later).nextNode := by
  induction later generalizing reg with
  | nil => exact ⟨hn, hlt⟩
  | cons r rest ih =>
      have hle := (r.writes hs).nextNode_le
      cases (r.writes hs).fate hs node with
      | absent _ hnext =>
          exact ih (r.sound hs) hnext (Nat.lt_of_lt_of_le hlt hle)
      | kept ho => rw [hn] at ho; cases ho
      | freed ho => rw [hn] at ho; cases ho
      | made _ _ hlow => omega

/-- A node is what it was until its last reference is given back. -/
theorem Sound.kept (hs : reg.Sound) {n : Node τ} (hn : reg.node? node = some n)
    {later : List (Request ω η τ ρ)} (hlater : ¬ Sometime (Frees node) reg later) :
    ∃ n', (after reg later).node? node = some n' ∧ n.Same n' := by
  induction later generalizing reg n with
  | nil => exact ⟨n, hn, .refl n⟩
  | cons r rest ih =>
      have hrest : ¬ Sometime (Frees node) (r.next reg) rest :=
        fun h => hlater (Or.inr h)
      rcases ((r.writes hs).fate hs node).of_some hn with
        ⟨n₁, hnext, hsame⟩ | ⟨-, hfrees⟩
      · obtain ⟨n', hn', hsame'⟩ := ih (r.sound hs) hnext hrest
        exact ⟨n', hn', hsame.trans hsame'⟩
      · exact absurd (Or.inl hfrees) hlater

/-- Terms on which nodes only go. -/
def Terms.clearing : Terms τ :=
  ⟨fun _ _ => True, fun _ _ _ => False, fun _ => True, fun _ => True⟩

omit [Identity ω η τ] in
theorem Writes.node?_eq_none {reg' : Registry τ ρ}
    (h : Writes Terms.clearing reg reg') (hs : reg.Sound)
    (hn : reg.node? node = none) : reg'.node? node = none := by
  cases h.fate hs node with
  | absent _ hn' => exact hn'
  | kept ho => rw [hn] at ho; cases ho
  | freed ho => rw [hn] at ho; cases ho
  | made _ _ _ _ hmakes => exact hmakes.elim

omit [Identity ω η τ] in
/-- The last release of a node leaves nothing to its handle. -/
theorem Sound.node?_untracked {ε : Type} (hs : reg.Sound) {n : Node τ}
    (hn : reg.node? node = some n) (hlast : n.refcount = 1) :
    (untrack node reg : Ending (Registry τ ρ) ε (Release ρ)).state.node? node
      = none := by
  obtain ⟨c, hget, hn⟩ := node?_eq_some_iff.mp hn
  rw [untrack_eq_close hget hn (by omega), Call.map_apply]
  have hfree : Write Terms.clearing reg
      (reg.put (c.removeNode node.kind node.node)) := .free hget hn trivial
  have hnone : (reg.put (c.removeNode node.kind node.node)).node? node = none := by
    have hid : (c.removeNode node.kind node.node).id = node.container :=
      (hs.entry hget).id_eq
    rw [node?_put, if_pos hid, Container.node?_removeNode, if_pos ⟨rfl, rfl⟩]
  -- the release of the container does not bring the node back
  exact (closeContainer_writes node.container fun _ _ => trivial).node?_eq_none
    (hfree.sound hs) hnone

theorem Frees.node?_next {r : Request ω η τ ρ} (h : Frees node reg r)
    (hs : reg.Sound) : (r.next reg).node? node = none := by
  obtain ⟨memory, w, op⟩ := r
  obtain ⟨rfl, n, hn, hlast⟩ := h
  rw [Request.next, Request.perform, Op.run, Op.map_alone_apply]
  exact hs.node?_untracked hn hlast

/-- Once the last reference on a node is given back, its handle resolves to
    nothing any more. -/
theorem Sound.node?_freed (hs : reg.Sound) {n : Node τ}
    (hn : reg.node? node = some n) {later : List (Request ω η τ ρ)}
    (hlater : Sometime (Frees node) reg later) :
    (after reg later).node? node = none ∧
      node.node.number < (after reg later).nextNode := by
  induction later generalizing reg n with
  | nil => exact hlater.elim
  | cons r rest ih =>
      have hlt := Nat.lt_of_lt_of_le (hs.numbered hn) (r.writes hs).nextNode_le
      rcases hlater with hfrees | hrest
      · exact (r.sound hs).node?_gone (hfrees.node?_next hs) hlt rest
      · cases hnext : (r.next reg).node? node with
        | some n' => exact ih (r.sound hs) hnext hrest
        | none => exact (r.sound hs).node?_gone hnext hlt rest

/-- A handle that is answered for the first time names a new node. -/
theorem Answers.node?_next {r : Request ω η τ ρ} {past : List (Request ω η τ ρ)}
    {config : Config} (h : Answers node (built config past) r)
    (hfirst : ¬ Sometime (Answers node) (.ofConfig config) past) :
    ∃ token name, r.op.Tracks node.container node.kind token name ∧
      (r.next (built config past)).node? node
        = some (.first node.node node.container node.kind token name) := by
  have hs := built_sound config past
  obtain ⟨token, name, hop, ht⟩ := Op.tracked_of_node hs h
  refine ⟨token, name, hop, ?_⟩
  rcases ht.reused_or_made hs with ⟨n, hn⟩ | ⟨-, hnext⟩
  · -- a node that is there was answered before
    exact absurd ((sound_ofConfig config).answered rfl hn) hfirst
  · exact hnext

theorem Sound.not_answers (hs : reg.Sound) (hn : reg.node? node = none)
    (hlt : node.node.number < reg.nextNode) (r : Request ω η τ ρ) :
    ¬ Answers node reg r := by
  intro h
  obtain ⟨token, name, -, ht⟩ := Op.tracked_of_node hs h
  rcases ht.reused_or_made hs with ⟨n, hn'⟩ | ⟨heq, -⟩
  · rw [hn] at hn'
    cases hn'
  · omega

/-- A handle that is answered for the first time names a new node, made for the
    token that was tracked.  It resolves to that node as long as the last
    reference on it is not given back, whatever else is asked of the registry.
    After that, it resolves to nothing, it is not answered again, and every
    operation on it ends in a fault and changes nothing. -/
theorem handle_lifetime {config : Config} {past : List (Request ω η τ ρ)}
    {r : Request ω η τ ρ} (hanswer : Answers node (built config past) r)
    (hfirst : ¬ Sometime (Answers node) (.ofConfig config) past) :
    ∃ token name, r.op.Tracks node.container node.kind token name ∧
      (r.next (built config past)).node? node
        = some (.first node.node node.container node.kind token name) ∧
      ∀ later,
        (¬ Sometime (Frees node) (r.next (built config past)) later →
          ∃ n, (built config (past ++ r :: later)).node? node = some n ∧
            n.handle = node ∧ n.token = token ∧ n.name = name) ∧
        (Sometime (Frees node) (r.next (built config past)) later →
          (built config (past ++ r :: later)).node? node = none ∧
          ∀ stale : Request ω η τ ρ,
            ¬ Answers node (built config (past ++ r :: later)) stale ∧
            (stale.op.handle? = some node →
              stale.perform (built config (past ++ r :: later))
                = Call.halt (.invariant
                    ((built config (past ++ r :: later)).missing node))
                    (stale.world, built config (past ++ r :: later)))) := by
  obtain ⟨token, name, hop, hn⟩ := hanswer.node?_next hfirst
  have hs := r.sound (built_sound config past)
  refine ⟨token, name, hop, hn, fun later => ?_⟩
  have hlater : built config (past ++ r :: later)
      = after (r.next (built config past)) later := after_append _ _ _
  rw [hlater]
  refine ⟨fun hkept => ?_, fun hfreed => ?_⟩
  · obtain ⟨n, hn', hsame⟩ := hs.kept hn hkept
    have hhandle : n.handle = node := by
      rw [hsame.handle_eq]
      exact hs.handle_eq hn
    exact ⟨n, hn', hhandle, hsame.token_eq, hsame.name_eq⟩
  · obtain ⟨hnone, hlt⟩ := hs.node?_freed hn hfreed
    refine ⟨hnone, fun stale => ⟨?_, fun hstale => ?_⟩⟩
    · exact (after_sound hs later).not_answers hnone hlt stale
    · exact Op.run_of_stale stale.memory hstale hnone

/-- A node is freed with its container, which is opened again, and its token is
    tracked again: the old handle stays stale beside the new one. -/
theorem handle_lifetime_of_reopened :
    ∃ reg : Registry Token Empty,
      (∃ n, reg.node? ⟨⟨1⟩, .dataset, ⟨2⟩⟩ = some n ∧ n.token = .ofAddress 5) ∧
      reg.node? ⟨⟨1⟩, .dataset, ⟨1⟩⟩ = none ∧
      (Request.plain (.untrack ⟨⟨1⟩, .dataset, ⟨1⟩⟩)).perform reg
        = Call.halt (.invariant (.nodeUntracked ⟨⟨1⟩, .dataset, ⟨1⟩⟩)) (.mk, reg) := by
  have hanswer : Answers ⟨⟨1⟩, .dataset, ⟨1⟩⟩
      (built Config.default [.plain (.openContainer ⟨1⟩ none)])
      (.plain (.track ⟨1⟩ .dataset (.ofAddress 5) none ()) :
        Request Bytewise Unit Token Empty) := rfl
  have hfirst : ¬ Sometime (Answers ⟨⟨1⟩, .dataset, ⟨1⟩⟩)
      (.ofConfig Config.default)
      [(.plain (.openContainer ⟨1⟩ none) : Request Bytewise Unit Token Empty)] := by
    rintro (h | h)
    · cases h
    · exact h
  obtain ⟨token, name, -, -, hlater⟩ := handle_lifetime hanswer hfirst
  have hstale := (hlater [.plain (.closeContainer ⟨1⟩),
    .plain (.untrack ⟨⟨1⟩, .dataset, ⟨1⟩⟩), .plain (.openContainer ⟨1⟩ none),
    .plain (.track ⟨1⟩ .dataset (.ofAddress 5) none ())]).2
      (Or.inr (Or.inl ⟨rfl, _, rfl, rfl⟩))
  exact ⟨_, ⟨_, rfl, rfl⟩, hstale.1, (hstale.2 _).2 rfl⟩

end Provenance.Registry
