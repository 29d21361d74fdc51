import Provenance.Proofs.Registry.Upkeep
import Provenance.Registry.Op

/-! # What operations write

    An operation of a registry, whoever asks for it and however it ends, does
    no more than write to the registry on terms that can be read off the
    operation and its outcome (`Op.run_writes`): a node is made only as the
    answer of a track, freed only by the last release of it, and a container
    stays behind without references only when a release of it ended in a
    fault. -/

namespace Provenance.Registry

variable {ω η τ ρ ε : Type} {reg reg' : Registry τ ρ} {t : Terms τ}
  {id : ContainerId} {kind : Kind}

/-! ## Containers -/

theorem openContainer_writes (memory : Memory) (id : ContainerId)
    (name : Option String) :
    Writes t reg (openContainer memory id name reg).state := by
  simp only [openContainer]
  by_cases hm : grantsName memory .objectName name
  · rw [if_pos hm]
    cases hget : reg.container? id with
    | some c =>
        have hnodes : (c.promote name).id = c.id ∧
            (c.promote name).counts = c.counts ∧
            (c.promote name).nodes = c.nodes := by
          by_cases hp : c.placeholder <;> simp [Container.promote, hp]
        refine .single (.edit hget hnodes.1 hnodes.2.1 hnodes.2.2 fun hzero => ?_)
        cases hzero
    | none => exact .single (.enter hget rfl rfl (Nat.succ_pos _))
  · rw [if_neg hm]
    exact .refl t reg

theorem pinContainer_writes (id : ContainerId) :
    Writes t reg (pinContainer id reg).state := by
  simp only [pinContainer]
  cases hget : reg.container? id with
  | some c =>
      refine .single (.edit hget rfl rfl rfl fun hzero => ?_)
      cases hzero
  | none => exact .refl t reg

/-- A release that finds nodes under the last reference leaves the container
    without references. -/
theorem closeContainer_writes (id : ContainerId)
    (hdrops : ∀ counts, (closeContainer id reg :
      Ending (Registry τ ρ) ε (Release ρ)).outcome
        = .fault (.invariant (.freedWithNodes id counts)) → t.drops id) :
    Writes t reg (closeContainer id reg :
      Ending (Registry τ ρ) ε (Release ρ)).state := by
  simp only [closeContainer] at hdrops ⊢
  cases hget : reg.container? id with
  | none => exact .refl t reg
  | some c =>
      simp only [hget] at hdrops ⊢
      by_cases hzero : c.refcount = 0
      · rw [if_pos hzero]
        exact .refl t reg
      · rw [if_neg hzero] at hdrops ⊢
        by_cases hpos : 0 < c.release.refcount
        · rw [if_pos hpos]
          exact .single (.edit hget rfl rfl rfl fun h =>
            absurd h (Nat.ne_of_gt hpos))
        · rw [if_neg hpos] at hdrops ⊢
          by_cases hchildren : c.release.hasChildren = true
          · rw [if_pos hchildren] at hdrops ⊢
            exact .single (.edit hget rfl rfl rfl fun _ =>
              Or.inr (hdrops _ rfl))
          · rw [if_neg hchildren]
            exact .single (.remove hget (Bool.eq_false_iff.mpr hchildren))

theorem attach_writes (memory : Memory) (id : ContainerId) (resource : ρ) :
    Writes t reg (attach memory id resource reg).state := by
  simp only [attach]
  cases hget : reg.container? id with
  | none => exact .refl t reg
  | some c =>
      by_cases hm : memory.grants .attachments (16 * (c.attachments.length + 1))
      · simp only [if_pos hm]
        exact .single (.edit hget rfl rfl rfl Or.inl)
      · simp only [if_neg hm]
        exact .refl t reg

theorem onContainer_writes {f : Container τ ρ → Container τ ρ}
    (hid : ∀ c, (f c).id = c.id) (hcounts : ∀ c, (f c).counts = c.counts)
    (hnodes : ∀ c, (f c).nodes = c.nodes)
    (hrefcount : ∀ c, (f c).refcount = c.refcount) :
    Writes t reg (onContainer id f reg).state := by
  simp only [onContainer]
  cases hget : reg.container? id with
  | some c =>
      refine .single (.edit hget (hid c) (hcounts c) (hnodes c) fun hzero => ?_)
      rw [hrefcount] at hzero
      exact Or.inl hzero
  | none => exact .refl t reg

theorem recordCreated_writes (id : ContainerId) (kind : Kind) :
    Writes t reg (recordCreated id kind reg).state :=
  onContainer_writes (fun _ => rfl) (fun _ => rfl) (fun _ => rfl) fun _ => rfl

theorem recordAccessed_writes (id : ContainerId) (kind : Kind) :
    Writes t reg (recordAccessed id kind reg).state :=
  onContainer_writes (fun _ => rfl) (fun _ => rfl) (fun _ => rfl) fun _ => rfl

theorem verifyOpenThings_state (containers datasets : Nat) :
    (verifyOpenThings containers datasets reg).state = reg := by
  simp only [verifyOpenThings]
  split <;> rfl

/-! ## Nodes -/

/-- Counters may change in all but their kind. -/
theorem onCounters_writes {α : Type} {node : NodeHandle}
    {f : Counters → Except RegistryError (α × Counters)}
    (hkind : ∀ c a c', f c = .ok (a, c') → c'.kind = c.kind) :
    Writes t reg (onCounters node f reg).state := by
  simp only [onCounters]
  cases hget : reg.container? node.container with
  | none => exact .refl t reg
  | some c =>
      cases hn : c.node? node.kind node.node with
      | none =>
          simp only [hn]
          exact .refl t reg
      | some n =>
          simp only [hn]
          rcases hf : f n.counters with e | ⟨a, counters⟩
          · exact .refl t reg
          · refine .single (.node hget hn ⟨?_, rfl, rfl⟩ fun hpos => hpos)
            simp only [Node.handle, Node.kind, hkind _ a _ hf]

theorem onDataset_writes {α : Type} {node : NodeHandle}
    {f : DatasetCounters → Except RegistryError (α × DatasetCounters)} :
    Writes t reg (onDataset node f reg).state := by
  refine onCounters_writes fun c a c' hf => ?_
  cases c with
  | dataset d =>
      rcases hd : f d with e | ⟨b, d'⟩ <;> simp only [hd] at hf <;> cases hf
      rfl
  | _ => cases hf

theorem recordCommit_writes (node : NodeHandle) :
    Writes t reg (recordCommit node reg).state := by
  refine onCounters_writes fun c a c' hf => ?_
  cases c <;> cases hf
  rfl

theorem recordGet_writes (node : NodeHandle) :
    Writes t reg (recordGet node reg).state := by
  refine onCounters_writes fun c a c' hf => ?_
  cases c <;> cases hf
  rfl

theorem recordOp_writes (node : NodeHandle) :
    Writes t reg (recordOp node reg).state := by
  refine onCounters_writes fun c a c' hf => ?_
  cases c <;> cases hf <;> rfl

/-- Tracking makes a node apart from those in its list, or none. -/
theorem Tracked.writes [Identity ω η τ] {memory : Memory} {token : τ}
    {name : Option String} {node : NodeHandle}
    (h : Tracked ω memory reg id kind token name node reg')
    (hapart : ∀ {a b}, Identity.Differ ω a b → t.apart a b)
    (hmakes : t.makes node token name) : Writes t reg reg' := by
  cases h with
  | reused hget hn _ =>
      exact .single (.node hget hn (Node.same_again _) fun _ => Nat.succ_pos _)
  | made hsite _ hdiffer =>
      exact .single (.make hsite hmakes fun n hn => hapart (hdiffer n hn))

/-- The last release of a node frees it, and then releases its container. -/
theorem untrack_writes {node : NodeHandle}
    (hfrees : ∀ n, reg.node? node = some n → n.refcount ≤ 1 → t.frees node)
    (hdrops : ∀ counts, (untrack node reg :
      Ending (Registry τ ρ) ε (Release ρ)).outcome
        = .fault (.invariant (.freedWithNodes node.container counts)) →
      t.drops node.container) :
    Writes t reg (untrack node reg :
      Ending (Registry τ ρ) ε (Release ρ)).state := by
  cases hget : reg.container? node.container with
  | none =>
      simp only [untrack, hget]
      exact .refl t reg
  | some c =>
      cases hn : c.node? node.kind node.node with
      | none =>
          simp only [untrack, hget, hn]
          exact .refl t reg
      | some n =>
          by_cases hlast : 0 < n.refcount - 1
          · simp only [untrack, hget, hn, if_pos hlast]
            exact .single (.node hget hn ⟨rfl, rfl, rfl⟩ fun _ => hlast)
          · rw [untrack_eq_close hget hn hlast, Call.map_apply] at hdrops ⊢
            have hfree : t.frees node :=
              hfrees n (node?_eq_some_iff.mpr ⟨c, hget, hn⟩) (by omega)
            refine .trans (.single (.free hget hn hfree))
              (closeContainer_writes _ fun counts hfault => ?_)
            refine hdrops counts ?_
            rw [hfault]
            rfl

/-! ## Operations -/

namespace Op

/-- The operation tracks a token under a name, in that container and as that
    kind. -/
def Tracks (id : ContainerId) (kind : Kind) (token : τ) (name : Option String) :
    Op η τ ρ → Prop
  | track id' kind' token' name' _ =>
      id' = id ∧ kind' = kind ∧ token' = token ∧ name' = name
  | trackIn _ reported kind' token' name' _ =>
      reported = id ∧ kind' = kind ∧ token' = token ∧ name' = name
  | _ => False

/-- The operation gives back a reference on a container, or on one of its
    nodes. -/
def Releases (id : ContainerId) : Op η τ ρ → Prop
  | closeContainer id' => id' = id
  | untrack node => node.container = id
  | _ => False

/-- The terms on which an operation writes, given how it ends. -/
def terms (ω : Type) {η τ ρ : Type} [Identity ω η τ] (reg : Registry τ ρ)
    (op : Op η τ ρ) (outcome : Outcome RegistryError (Answer τ ρ)) : Terms τ where
  apart := Identity.Differ ω
  makes node token name :=
    op.Tracks node.container node.kind token name ∧ outcome = .value (.node node)
  frees node := op = untrack node ∧ ∃ n, reg.node? node = some n ∧ n.refcount = 1
  drops id := op.Releases id ∧
    ∃ counts, outcome = .fault (.invariant (.freedWithNodes id counts))

variable [Identity ω η τ] {w : ω}

theorem map_alone_apply {α : Type} (g : α → Answer τ ρ)
    (x : Call (Registry τ ρ) RegistryError α) :
    (g <$> alone x : Call (ω × Registry τ ρ) RegistryError (Answer τ ρ)) (w, reg)
      = ⟨(x reg).outcome.map g, (w, (x reg).state), (x reg).events⟩ := by
  rw [Call.map_apply]
  rfl

theorem writes_map_alone {α : Type} {g : α → Answer τ ρ}
    {x : Call (Registry τ ρ) RegistryError α} (h : Writes t reg (x reg).state) :
    Writes t reg ((g <$> alone x :
      Call (ω × Registry τ ρ) RegistryError (Answer τ ρ)) (w, reg)).state.2 := by
  rw [map_alone_apply]
  exact h

/-- A track answers a handle, or leaves the registry as it was. -/
theorem run_tracked (memory : Memory) {op : Op η τ ρ} {token : τ}
    {name : Option String} (hs : reg.Sound)
    (hop : op.Tracks id kind token name) :
    (op.run memory).Ensures (w, reg) []
      (fun a s _ => ∃ node, a = .node node ∧
        Tracked ω memory reg id kind token name node s.2)
      (fun _ s _ => s.2 = reg) (fun _ s _ => s.2 = reg) := by
  cases op with
  | track _ _ _ _ raw =>
      obtain ⟨rfl, rfl, rfl, rfl⟩ := hop
      rw [run, Call.ensures_map]
      refine (track_tracked Identity.compare_keeps_true memory _ _ _ raw
        hs.entry trivial).mono ?_ ?_ ?_
      · exact fun node s _ h => ⟨node, rfl, h.2⟩
      · exact fun e s _ h => h.2.1
      · exact fun f s _ h => h.2.1
  | trackIn home _ _ _ _ raw =>
      obtain ⟨rfl, rfl, rfl, rfl⟩ := hop
      rw [run, Call.ensures_map]
      refine (trackIn_tracked Identity.compare_keeps_true memory home _ _ _ _ raw
        hs.entry trivial).mono ?_ ?_ ?_
      · exact fun node s _ h => ⟨node, rfl, h.2⟩
      · exact fun e s _ h => h.2.1
      · exact fun f s _ h => h.2.1
  | _ => exact hop.elim

theorem writes_of_tracks (memory : Memory) {op : Op η τ ρ} {token : τ}
    {name : Option String} (hs : reg.Sound)
    (hop : op.Tracks id kind token name) :
    Writes (op.terms ω reg (op.run memory (w, reg)).outcome) reg
      (op.run memory (w, reg)).state.2 := by
  have hrun := run_tracked (w := w) memory hs hop
  rcases ho : (op.run memory (w, reg)).outcome with a | e | f
  · obtain ⟨node, rfl, ht⟩ := hrun.value ho
    obtain ⟨rfl, rfl⟩ := ht.place
    exact ht.writes (fun h => h) ⟨hop, rfl⟩
  · exact .of_eq (hrun.error ho)
  · exact .of_eq (hrun.fault ho)

/-- However an operation ends, it has written to the registry on its terms. -/
theorem run_writes (memory : Memory) (op : Op η τ ρ) (hs : reg.Sound) :
    Writes (op.terms ω reg (op.run memory (w, reg)).outcome) reg
      (op.run memory (w, reg)).state.2 := by
  cases op with
  | openContainer id name =>
      exact writes_map_alone (openContainer_writes memory id name)
  | pinContainer id => exact writes_map_alone (pinContainer_writes id)
  | closeContainer id =>
      refine writes_map_alone (closeContainer_writes id fun counts hfault => ?_)
      refine ⟨rfl, counts, ?_⟩
      rw [run, map_alone_apply, hfault]
      rfl
  | track id kind token name raw =>
      exact writes_of_tracks memory hs ⟨rfl, rfl, rfl, rfl⟩
  | trackIn home reported kind token name raw =>
      exact writes_of_tracks memory hs ⟨rfl, rfl, rfl, rfl⟩
  | untrack node =>
      refine writes_map_alone (untrack_writes (fun n hn hle => ?_)
        fun counts hfault => ?_)
      · have hpos := hs.referenced hn
        exact ⟨rfl, n, hn, by omega⟩
      · refine ⟨rfl, counts, ?_⟩
        rw [run, map_alone_apply, hfault]
        rfl
  | setDatasetShape node typeSize dimensions =>
      exact writes_map_alone onDataset_writes
  | recordRead node selected elapsed => exact writes_map_alone onDataset_writes
  | recordWrite node selected elapsed => exact writes_map_alone onDataset_writes
  | recordCommit node => exact writes_map_alone (recordCommit_writes node)
  | recordGet node => exact writes_map_alone (recordGet_writes node)
  | recordOp node => exact writes_map_alone (recordOp_writes node)
  | recordCreated id kind =>
      exact writes_map_alone (recordCreated_writes id kind)
  | recordAccessed id kind =>
      exact writes_map_alone (recordAccessed_writes id kind)
  | attach id resource => exact writes_map_alone (attach_writes memory id resource)
  | verifyOpenThings containers datasets =>
      exact writes_map_alone (.of_eq (verifyOpenThings_state containers datasets))

end Op

end Provenance.Registry
