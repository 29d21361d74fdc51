import Provenance.Proofs.Registry.Upkeep

/-! # Failures and undoing

    An operation of a registry that fails leaves it as it was, and a release
    does not fail.  To give back the reference that a track has just taken
    undoes the track, whichever way it went.  A node that was made goes again,
    and with it a placeholder that was made for it; of a node that was there
    already, nothing is left but the access that was counted. -/

namespace Provenance

namespace Container

variable {τ ρ : Type} {c : Container τ ρ} {kind : Kind} {n n' : Node τ}

/-- The node put last is the one that is there. -/
theorem putNode_putNode (c : Container τ ρ) (kind : Kind) (h : n'.id = n.id) :
    (c.putNode kind n).putNode kind n' = c.putNode kind n' := by
  have hnodes : ((c.putNode kind n).putNode kind n').nodes
      = (c.putNode kind n').nodes := PerKind.ext_get fun k => by
    simp only [putNode, PerKind.get_modify]
    by_cases hk : k = kind
    · rw [if_pos hk, if_pos hk, if_pos hk, h, IdMap.insert_insert]
    · rw [if_neg hk, if_neg hk, if_neg hk]
  exact congrArg (fun nodes => ({ c with nodes := nodes } : Container τ ρ)) hnodes

/-- A new node that goes again leaves the reference that it held. -/
theorem removeNode_addNode (h : c.node? kind n.id = none) :
    (c.addNode kind n).removeNode kind n.id = c.retain := by
  have hnodes : ((c.addNode kind n).removeNode kind n.id).nodes = c.nodes :=
    PerKind.ext_get fun k => by
      simp only [addNode, putNode, removeNode, PerKind.get_modify]
      by_cases hk : k = kind
      · subst hk
        rw [if_pos rfl, if_pos rfl]
        exact IdMap.erase_insert n h
      · rw [if_neg hk, if_neg hk]
  have hcounts : ((c.addNode kind n).removeNode kind n.id).counts = c.counts :=
    PerKind.ext_get fun k => by
      simp only [addNode, removeNode, PerKind.get_modify]
      by_cases hk : k = kind
      · rw [if_pos hk, if_pos hk, Nat.add_sub_cancel]
      · rw [if_neg hk, if_neg hk]
  show ({ c with
    refcount := c.refcount + 1
    counts := ((c.addNode kind n).removeNode kind n.id).counts
    nodes := ((c.addNode kind n).removeNode kind n.id).nodes } : Container τ ρ) = _
  rw [hnodes, hcounts]
  rfl

end Container

namespace Registry

variable {ω η τ ρ ε : Type} {reg reg' : Registry τ ρ} {id : ContainerId}
  {kind : Kind} {held : Multiset Reference} {ev : List Event}

/-! ## Failures -/

section

variable {r : Registry τ ρ}

theorem spares_alone {α : Type} {x : Call (Registry τ ρ) ε α}
    (hx : x.Spares fun reg _ => reg = r) :
    (alone x : Call (ω × Registry τ ρ) ε α).Spares fun s _ => s.2 = r := by
  rintro ⟨w, reg⟩ ev h
  rw [ensures_alone]
  exact hx reg ev h

theorem unfailing_alone {α : Type} {x : Call (Registry τ ρ) ε α}
    (hx : x.Unfailing) : (alone x : Call (ω × Registry τ ρ) ε α).Unfailing := by
  rintro ⟨w, reg⟩ ev
  rw [ensures_alone]
  exact hx reg ev

theorem openContainer_spares (memory : Memory) (id : ContainerId)
    (name : Option String) :
    (openContainer memory id name).Spares fun reg _ => reg = r := by
  refine Call.spares_of_error (P := (· = r)) fun reg e he h => ?_
  simp only [openContainer] at he ⊢
  by_cases hm : grantsName memory .objectName name
  · rw [if_pos hm] at he
    cases he
  · rw [if_neg hm]
    exact h

theorem pinContainer_spares (id : ContainerId) :
    (pinContainer id).Spares fun reg _ => reg = r := by
  refine Call.spares_of_error (P := (· = r)) fun reg e he h => ?_
  simp only [pinContainer] at he ⊢
  cases hget : reg.container? id with
  | some c =>
      rw [hget] at he
      cases he
  | none => exact h

theorem onCounters_spares {α : Type} (node : NodeHandle)
    (f : Counters → Except RegistryError (α × Counters)) :
    (onCounters node f).Spares fun reg _ => reg = r := by
  refine Call.spares_of_error (P := (· = r)) fun reg e he h => ?_
  simp only [onCounters] at he ⊢
  cases hget : reg.container? node.container with
  | none => exact h
  | some c =>
      cases hn : c.node? node.kind node.node with
      | none =>
          simp only [hn]
          exact h
      | some n =>
          simp only [hget, hn] at he ⊢
          rcases hf : f n.counters with e' | ⟨a, counters⟩
          · exact h
          · rw [hf] at he
            cases he

theorem onDataset_spares {α : Type} (node : NodeHandle)
    (f : DatasetCounters → Except RegistryError (α × DatasetCounters)) :
    (onDataset node f).Spares fun reg _ => reg = r :=
  onCounters_spares node _

theorem closeContainer_unfailing (id : ContainerId) :
    (closeContainer id : Call (Registry τ ρ) ε (Release ρ)).Unfailing := by
  refine Call.unfailing_of_ne fun reg e he => ?_
  simp only [closeContainer] at he
  cases hget : reg.container? id with
  | none =>
      rw [hget] at he
      cases he
  | some c =>
      simp only [hget] at he
      by_cases hzero : c.refcount = 0
      · rw [if_pos hzero] at he
        cases he
      · rw [if_neg hzero] at he
        by_cases hpos : 0 < c.release.refcount
        · rw [if_pos hpos] at he
          cases he
        · rw [if_neg hpos] at he
          by_cases hchildren : c.release.hasChildren = true
          · rw [if_pos hchildren] at he
            cases he
          · rw [if_neg hchildren] at he
            cases he

theorem untrack_unfailing (node : NodeHandle) :
    (untrack node : Call (Registry τ ρ) ε (Release ρ)).Unfailing := by
  intro reg ev
  cases hget : reg.container? node.container with
  | none =>
      simp only [Call.Ensures, untrack, hget]
      trivial
  | some c =>
      cases hn : c.node? node.kind node.node with
      | none =>
          simp only [Call.Ensures, untrack, hget, hn]
          trivial
      | some n =>
          by_cases hlast : 0 < n.refcount - 1
          · simp only [Call.Ensures, untrack, hget, hn, if_pos hlast]
          · refine Call.Ensures.of_apply_eq (untrack_eq_close hget hn hlast) ?_
            exact (closeContainer_unfailing _).map _ _ ev

theorem reuseNode_unfailing (node : NodeHandle) :
    (reuseNode node : Call (Registry τ ρ) ε NodeHandle).Unfailing := by
  refine Call.unfailing_of_ne fun reg e he => ?_
  simp only [reuseNode] at he
  cases hget : reg.container? node.container with
  | none =>
      rw [hget] at he
      cases he
  | some c =>
      cases hn : c.node? node.kind node.node with
      | none =>
          simp only [hget, hn] at he
          cases he
      | some n =>
          simp only [hget, hn] at he
          cases he

theorem makeNode_spares (memory : Memory) (id : ContainerId) (kind : Kind)
    (token : τ) (name : Option String) :
    (makeNode memory id kind token name).Spares fun reg _ => reg = r := by
  refine Call.spares_of_error (P := (· = r)) fun reg e he h => ?_
  simp only [makeNode] at he ⊢
  by_cases hm : grantsName memory .objectName name
  · rw [if_pos hm] at he
    cases hget : reg.container? id with
    | none =>
        rw [hget] at he
        cases he
    | some c =>
        rw [hget] at he
        cases he
  · rw [if_neg hm]
    exact h

theorem ask_keeps_registry {α : Type} (x : Call ω IdentityError α) :
    (ask x : Call (ω × Registry τ ρ) RegistryError α).Keeps
      fun s _ => s.2 = r :=
  Call.keeps_of_state fun _ h => h

/-- A track that fails has only asked the library. -/
theorem track_spares [Identity ω η τ] (memory : Memory) (id : ContainerId)
    (kind : Kind) (token : τ) (name : Option String) (raw : η) :
    (track memory id kind token name raw).Spares
      fun (s : ω × Registry τ ρ) _ => s.2 = r := by
  refine Call.keeps_state.bind_spares fun s => ?_
  obtain ⟨w, reg⟩ := s
  dsimp only
  cases reg.container? id with
  | none => exact (Call.keeps_fail _).spares
  | some c =>
      refine (ask_keeps_registry _).bind_spares fun found => ?_
      cases found with
      | none => exact spares_alone (makeNode_spares memory id kind token name)
      | some n => exact (unfailing_alone (reuseNode_unfailing _)).spares

/-- A track that fails leaves no placeholder. -/
theorem trackIn_spares [Identity ω η τ] (memory : Memory)
    (home reported : ContainerId) (kind : Kind) (token : τ)
    (name : Option String) (raw : η) :
    (trackIn memory home reported kind token name raw).Spares
      fun (s : ω × Registry τ ρ) _ => s.2 = r := by
  rintro ⟨w, reg⟩ ev rfl
  rw [trackIn, Call.ensures_bind, Call.ensures_state]
  dsimp only
  by_cases hknown : reported = home ∨ reg.containers.contains reported
  · rw [if_pos hknown]
    exact track_spares memory reported kind token name raw (w, reg) ev rfl
  · have hget : reg.container? reported = none :=
      Option.not_isSome_iff_eq_none.mp fun hsome => hknown (Or.inr hsome)
    rw [if_neg hknown, Call.ensures_bind, ensures_alone]
    by_cases hm : grantsName memory .placeholderName (some reg.placeholderName)
    · have hput : makePlaceholder memory reported reg
          = ⟨.value (),
            reg.put (.fresh reported (some reg.placeholderName) true), []⟩ :=
        if_pos hm
      refine Call.Ensures.of_eq hput ?_
      rw [List.append_nil, Call.ensures_onError]
      -- the track spares the placeholder, and the clean-up takes it away
      refine (track_spares memory reported kind token name raw
        (w, reg.put (.fresh reported (some reg.placeholderName) true)) ev
        rfl).mono (fun _ _ _ h => h) ?_ fun _ _ _ h => h
      rintro e ⟨w', _⟩ ev' rfl
      rw [ensures_alone, Call.ensures_modify]
      exact remove_put reg hget
    · have hput : makePlaceholder memory reported reg
          = ⟨.error (.outOfMemory Purpose.placeholderName.text), reg, []⟩ :=
        if_neg hm
      refine Call.Ensures.of_eq hput ?_
      rw [List.append_nil]

end

/-! ## Undoing -/

/-- The entries that there were before, but for one access more to a node of
    some kind. -/
def SeenAgain (kind : Kind) (reg reg' : Registry τ ρ) : Prop :=
  ∃ c n, reg.container? n.container = some c ∧ c.node? kind n.id = some n ∧
    reg'.containers
      = (reg.put (c.putNode kind { n with accesses := n.accesses + 1 })).containers

theorem put_self {c : Container τ ρ} (hget : reg.container? c.id = some c) :
    (reg.put c).containers = reg.containers :=
  IdMap.insert_self hget

/-- To give back a reference that was taken on top of an entry leaves the entry
    as it was, or takes it away if nothing else refers to it. -/
theorem closeContainer_retained (reg : Registry τ ρ) (c : Container τ ρ)
    (hempty : c.refcount = 0 → ¬ c.hasChildren = true) :
    (closeContainer c.id : Call (Registry τ ρ) ε (Release ρ)).Ensures
      (reg.put c.retain) ev
      (fun _ reg' _ => reg'.containers
        = if 0 < c.refcount then (reg.put c).containers
          else (reg.remove c.id).containers)
      (fun _ _ _ => False) (fun _ _ _ => False) := by
  have hget : (reg.put c.retain).container? c.id = some c.retain :=
    (container?_put _ _ _).trans (if_pos rfl)
  have hne : c.retain.refcount ≠ 0 := Nat.succ_ne_zero _
  simp only [Call.Ensures, closeContainer, hget]
  rw [if_neg hne, show c.retain.release = c from rfl]
  by_cases hpos : 0 < c.refcount
  · rw [if_pos hpos, if_pos hpos]
    exact IdMap.insert_insert _ _ _ _
  · rw [if_neg hpos, if_neg hpos, if_neg (hempty (Nat.eq_zero_of_not_pos hpos))]
    exact IdMap.erase_insert_self _ _ _

/-- The reference that a track took is given back. -/
theorem Tracked.untrack_ensures [Identity ω η τ] {memory : Memory} {token : τ}
    {name : Option String} {node : NodeHandle}
    (ht : Tracked ω memory reg id kind token name node reg')
    (h : reg.Consistent held) :
    (untrack node : Call (Registry τ ρ) ε (Release ρ)).Ensures reg' ev
      (fun _ reg'' _ => reg''.containers = reg.containers ∨
        reg.SeenAgain kind reg'')
      (fun _ _ _ => False) (fun _ _ _ => False) := by
  cases ht with
  | @reused c n hget hn _ =>
      have hc := (h.entry hget).toSound
      have hcontainer : n.container = id :=
        congrArg NodeHandle.container (hc.handle_eq hn)
      have hpos : 0 < n.again.refcount - 1 := hc.referenced hn
      have hget' : (reg.put (c.putNode kind n.again)).container? id
          = some (c.putNode kind n.again) :=
        (container?_put _ _ _).trans (if_pos hc.id_eq)
      have hn' : (c.putNode kind n.again).node? kind n.id = some n.again :=
        (Container.node?_putNode _ _ _ _ _).trans (if_pos ⟨rfl, rfl⟩)
      simp only [Call.Ensures, untrack, hget', hn']
      rw [if_pos hpos]
      refine Or.inr ⟨c, n, hcontainer ▸ hget, hn, ?_⟩
      rw [put_put _ (by rfl), Container.putNode_putNode c kind (by rfl)]
      rfl
  | @made c hsite _ _ =>
      have hc : c.Sound reg.nextNode id :=
        hsite.sound fun hget => (h.entry hget).toSound
      obtain rfl : c.id = id := hc.id_eq
      -- without the node, its reference on the container is left
      have hget : ({ reg with nextNode := reg.nextNode + 1 }.put (c.addNode kind
          (.first ⟨reg.nextNode⟩ c.id kind token name))).container? c.id
          = some (c.addNode kind (.first ⟨reg.nextNode⟩ c.id kind token name)) :=
        (container?_put _ _ _).trans (if_pos rfl)
      have hn : (c.addNode kind (.first ⟨reg.nextNode⟩ c.id kind token
          name)).node? kind ⟨reg.nextNode⟩
          = some (.first ⟨reg.nextNode⟩ c.id kind token name) :=
        (Container.node?_addNode _ _ _ _ _).trans (if_pos ⟨rfl, rfl⟩)
      have hremove : (c.addNode kind (.first ⟨reg.nextNode⟩ c.id kind token
          name)).removeNode kind ⟨reg.nextNode⟩ = c.retain :=
        Container.removeNode_addNode (hc.node?_next kind)
      have hundo : (untrack ⟨c.id, kind, ⟨reg.nextNode⟩⟩ :
          Call (Registry τ ρ) ε (Release ρ)) _ = _ :=
        untrack_eq_close hget hn (Nat.lt_irrefl 0)
      dsimp only at hundo
      rw [hremove, put_put _ (by rfl)] at hundo
      refine Call.Ensures.of_apply_eq hundo ?_
      rw [Call.ensures_map]
      refine (closeContainer_retained _ c fun hzero => ?_).mono
        (fun _ reg'' _ hcontainers => Or.inl (hcontainers.trans ?_))
        (fun _ _ _ h => h) fun _ _ _ h => h
      · rcases hsite with hget | ⟨-, title, hfresh⟩
        · exact absurd hzero (Nat.ne_of_gt (h.occupied hget))
        · rw [hc.hasChildren_iff, hfresh, Container.nodeCount_fresh]
          exact Nat.lt_irrefl 0
      · rcases hsite with hget | ⟨hget, title, hfresh⟩
        · rw [if_pos (h.occupied hget)]
          exact put_self hget
        · have hzero : c.refcount = 0 := by
            rw [hfresh]
            rfl
          rw [if_neg (Nat.not_lt_of_le (Nat.le_of_eq hzero))]
          exact IdMap.erase_of_none hget

theorem container?_congr (h : reg'.containers = reg.containers)
    (id : ContainerId) : reg'.container? id = reg.container? id := by
  rw [container?, container?, h]

theorem node?_congr (h : reg'.containers = reg.containers) (node : NodeHandle) :
    reg'.node? node = reg.node? node := by
  rw [node?, node?, container?_congr h]

/-- One access more takes no container in or away. -/
theorem SeenAgain.container?_iff (hseen : reg.SeenAgain kind reg')
    (h : reg.Consistent held) (id : ContainerId) :
    (∃ c, reg'.container? id = some c) ↔ ∃ c, reg.container? id = some c := by
  obtain ⟨c, n, hget, -, hcontainers⟩ := hseen
  rw [container?_congr hcontainers, container?_put]
  by_cases hid : c.id = id
  · rw [if_pos (show (c.putNode kind _).id = id from hid)]
    rw [← (h.entry hget).id_eq, hid] at hget
    exact ⟨fun _ => ⟨c, hget⟩, fun _ => ⟨_, rfl⟩⟩
  · rw [if_neg (show (c.putNode kind _).id ≠ id from hid)]

/-- Nor does it take a node away. -/
theorem SeenAgain.node?_isSome (hseen : reg.SeenAgain kind reg')
    (h : reg.Consistent held) {node : NodeHandle} {n : Node τ}
    (hn : reg.node? node = some n) : ∃ n, reg'.node? node = some n := by
  obtain ⟨c, o, hget, -, hcontainers⟩ := hseen
  rw [node?_congr hcontainers, node?_put]
  by_cases hid : c.id = node.container
  · rw [← (h.entry hget).id_eq, hid] at hget
    rw [node?_of_container? hget rfl] at hn
    rw [if_pos (show (c.putNode kind _).id = _ from hid), Container.node?_putNode]
    by_cases hplace : node.kind = kind ∧ o.id = node.node
    · exact ⟨_, if_pos hplace⟩
    · exact ⟨n, (if_neg hplace).trans hn⟩
  · exact ⟨n, (if_neg (show (c.putNode kind _).id ≠ _ from hid)).trans hn⟩

end Registry

end Provenance
