import Mathlib.Logic.Equiv.Basic
import Provenance.Proofs.Registry.Locality

/-! # Independent containers

    Operations on two containers do not meet: each leaves the entry of the other
    alone, and it does not matter which of them comes first.  All that they share is
    the count of nodes.  Where both make one, each of the two nodes gets the number
    that the other gets in the other order (`Interchanged`), and the registries that
    are left differ in these two numbers only (`Renumbered`). -/

namespace Provenance

variable {ω η τ ρ : Type}

/-! ## Other numbers -/

/-- The node under another number. -/
def Node.renumber (σ : Equiv.Perm NodeId) (n : Node τ) : Node τ :=
  { n with id := σ n.id }

/-- An entry whose nodes have other numbers, and that is the same in all else. -/
structure Container.Renumbered (σ : Equiv.Perm NodeId) (c c' : Container τ ρ) : Prop where
  rest : c' = { c with nodes := c'.nodes }
  node?_eq : ∀ kind m, c'.node? kind (σ m) = (c.node? kind m).map (Node.renumber σ)

/-- A registry whose nodes have other numbers, and that is the same in all else. -/
structure Registry.Renumbered (σ : Equiv.Perm NodeId) (reg reg' : Registry τ ρ) :
    Prop where
  nextNode_eq : reg'.nextNode = reg.nextNode
  placeholderName_eq : reg'.placeholderName = reg.placeholderName
  container? : ∀ id, Option.Rel (Container.Renumbered σ) (reg.container? id)
    (reg'.container? id)

namespace Container

variable {σ : Equiv.Perm NodeId} {next : Nat} {id : ContainerId} {c : Container τ ρ}

/-- Numbers that were not given out yet may be exchanged. -/
theorem Sound.node?_renumber (h : c.Sound next id)
    (hσ : ∀ m : NodeId, m.number < next → σ m = m) (kind : Kind) (m : NodeId) :
    c.node? kind (σ m) = (c.node? kind m).map (Node.renumber σ) := by
  by_cases hm : m.number < next
  · rw [hσ m hm]
    cases hn : c.node? kind m with
    | none => rfl
    | some n =>
        have hid : σ n.id = n.id := by
          rw [h.number_eq hn]
          exact hσ m hm
        rw [Option.map_some, Node.renumber, hid]
  · have hnone : ∀ m : NodeId, ¬ m.number < next → c.node? kind m = none := by
      intro m hm
      refine Option.eq_none_iff_forall_ne_some.mpr fun n hn => ?_
      exact hm (h.numbered hn)
    -- the other number was not given out either: it would be its own image
    have hσm : ¬ (σ m).number < next := by
      intro hlt
      have hfixed : σ m = m := σ.injective (hσ _ hlt)
      rw [hfixed] at hlt
      exact hm hlt
    rw [hnone m hm, hnone _ hσm]
    rfl

theorem Sound.renumbered (h : c.Sound next id)
    (hσ : ∀ m : NodeId, m.number < next → σ m = m) : c.Renumbered σ c :=
  ⟨rfl, h.node?_renumber hσ⟩

/-- A new node may take one number or the other. -/
theorem Sound.renumbered_addNode (h : c.Sound next id)
    (hσ : ∀ m : NodeId, m.number < next → σ m = m) (kind : Kind) (token : τ)
    (name : Option String) (a : NodeId) :
    (c.addNode kind (.first a id kind token name)).Renumbered σ
      (c.addNode kind (.first (σ a) id kind token name)) := by
  refine ⟨rfl, fun k m => ?_⟩
  rw [node?_addNode, node?_addNode]
  by_cases hplace : k = kind ∧ a = m
  · obtain ⟨hk, rfl⟩ := hplace
    rw [if_pos ⟨hk, rfl⟩, if_pos ⟨hk, rfl⟩]
    rfl
  · have himage : ¬ (k = kind ∧ σ a = σ m) := by
      rintro ⟨hk, ha⟩
      exact hplace ⟨hk, σ.injective ha⟩
    show (if k = kind ∧ σ a = σ m then _ else _)
      = Option.map _ (if k = kind ∧ a = m then _ else _)
    rw [if_neg hplace, if_neg himage]
    exact h.node?_renumber hσ k m

end Container

namespace Registry

variable {reg : Registry τ ρ} {id id' : ContainerId} {e e' : Effect τ ρ}

/-! ## Two effects -/

namespace Effect

/-- Effects on two containers, one of which makes no node, may come in either
    order. -/
theorem apply_comm (hne : id ≠ id')
    (hleft : e.left id ⟨(e'.apply id' reg).nextNode⟩ = e.left id ⟨reg.nextNode⟩)
    (hleft' : e'.left id' ⟨(e.apply id reg).nextNode⟩ = e'.left id' ⟨reg.nextNode⟩) :
    e'.apply id' (e.apply id reg) = e.apply id (e'.apply id' reg) := by
  refine ext_container? (fun j => ?_) ?_ ?_
  · simp only [container?_apply, hleft, hleft']
    by_cases hj : id = j
    · rw [if_pos hj, if_neg fun hj' => hne (hj.trans hj'.symm), if_pos hj]
    · rw [if_neg hj, if_neg hj]
  · exact Nat.add_right_comm _ _ _
  · simp only [placeholderName_apply]

variable {kind kind' : Kind} {token token' : τ} {name name' : Option String}
  {c c' : Container τ ρ}

/-- If both make a node, the order decides which of them has which number. -/
theorem renumbered_of_makes (hs : reg.Sound) (hne : id ≠ id')
    (hc : c.Sound reg.nextNode id) (hc' : c'.Sound reg.nextNode id') :
    Renumbered (Equiv.swap ⟨reg.nextNode⟩ ⟨reg.nextNode + 1⟩)
      ((makes kind' token' name' c').apply id'
        ((makes kind token name c).apply id reg))
      ((makes kind token name c).apply id
        ((makes kind' token' name' c').apply id' reg)) := by
  have hσ : ∀ m : NodeId, m.number < reg.nextNode →
      Equiv.swap (⟨reg.nextNode⟩ : NodeId) ⟨reg.nextNode + 1⟩ m = m := by
    intro m hm
    refine Equiv.swap_apply_of_ne_of_ne ?_ ?_
    · rintro rfl
      exact Nat.lt_irrefl _ hm
    · rintro rfl
      exact Nat.lt_irrefl _ (Nat.lt_of_succ_lt hm)
  have hfirst := hc.renumbered_addNode hσ kind token name ⟨reg.nextNode⟩
  have hsecond := hc'.renumbered_addNode hσ kind' token' name' ⟨reg.nextNode + 1⟩
  rw [Equiv.swap_apply_left] at hfirst
  rw [Equiv.swap_apply_right] at hsecond
  refine ⟨rfl, ?_, fun j => ?_⟩
  · simp only [placeholderName_apply]
  · simp only [container?_apply]
    by_cases hj : id = j
    · rw [if_neg fun hj' => hne (hj.trans hj'.symm), if_pos hj, if_pos hj]
      exact .some hfirst
    · rw [if_neg hj, if_neg hj]
      by_cases hj' : id' = j
      · rw [if_pos hj', if_pos hj']
        exact .some hsecond
      · rw [if_neg hj', if_neg hj']
        cases hget : reg.container? j with
        | none => exact .none
        | some c₀ => exact .some ((hs.entry hget).renumbered hσ)

end Effect

/-! ## Two requests -/

variable [Identity ω η τ] {cmp : τ → τ → Outcome IdentityError Ordering}

/-- A request leaves all containers alone but the one that it is about. -/
theorem Request.next_elsewhere (hcmp : Identity.Fixed ω cmp) (hs : reg.Sound)
    (q : Request ω η τ ρ) (htarget : q.op.target? = some id) {other : ContainerId}
    (hother : other ≠ id) : (q.next reg).container? other = reg.container? other := by
  obtain ⟨e, -, hdoes⟩ := q.exists_effect hcmp hs htarget
  obtain ⟨-, hnext⟩ := hdoes q.world reg hs rfl rfl
  rw [show q.next reg = e.apply id reg from hnext, Effect.container?_apply,
    if_neg hother.symm]

/-- How two requests end, `q` before `r` and `r'` before `q'`. -/
inductive Interchanged (reg : Registry τ ρ) (q r q' r' : Request ω η τ ρ) : Prop
  /-- The order makes no difference. -/
  | exact (hfirst : (q'.perform (r'.next reg)).outcome = (q.perform reg).outcome)
      (hsecond : (r.perform (q.next reg)).outcome = (r'.perform reg).outcome)
      (hnext : q'.next (r'.next reg) = r.next (q.next reg))
  /-- Both make a node, and the one that comes first takes the first number. -/
  | exchanged {id id' : ContainerId} {kind kind' : Kind}
      (hq : (q.perform reg).outcome = .value (.node ⟨id, kind, ⟨reg.nextNode⟩⟩))
      (hr : (r.perform (q.next reg)).outcome
        = .value (.node ⟨id', kind', ⟨reg.nextNode + 1⟩⟩))
      (hr' : (r'.perform reg).outcome = .value (.node ⟨id', kind', ⟨reg.nextNode⟩⟩))
      (hq' : (q'.perform (r'.next reg)).outcome
        = .value (.node ⟨id, kind, ⟨reg.nextNode + 1⟩⟩))
      (hnext : Renumbered (Equiv.swap ⟨reg.nextNode⟩ ⟨reg.nextNode + 1⟩)
        (r.next (q.next reg)) (q'.next (r'.next reg)))

theorem Request.interchanged (hcmp : Identity.Fixed ω cmp) (hs : reg.Sound)
    {q r : Request ω η τ ρ} (hq : q.op.target? = some id)
    (hr : r.op.target? = some id') (hne : id ≠ id') (w w' : ω) :
    Interchanged reg q r (q.inWorld w) (r.inWorld w') := by
  obtain ⟨e, he, hdoes⟩ := q.exists_effect hcmp hs hq
  obtain ⟨e', he', hdoes'⟩ := r.exists_effect hcmp hs hr
  obtain ⟨hfirst, hnext⟩ := hdoes q.world reg hs rfl rfl
  obtain ⟨hfirst', hnext'⟩ := hdoes' w' reg hs rfl rfl
  -- the one that comes second finds its entry as it was
  have hsound : (e.apply id reg).Sound := hnext ▸ (q.inWorld q.world).sound hs
  have hsound' : (e'.apply id' reg).Sound := hnext' ▸ (r.inWorld w').sound hs
  have hsecond : (r.perform (q.next reg)).outcome
        = e'.outcome id' ⟨(e.apply id reg).nextNode⟩ ∧
      r.next (q.next reg) = e'.apply id' (e.apply id reg) := by
    rw [show q.next reg = e.apply id reg from hnext]
    exact hdoes' r.world _ hsound
      ((Effect.container?_apply id e reg id').trans (if_neg hne))
      (Effect.placeholderName_apply id e reg)
  have hsecond' : ((q.inWorld w).perform ((r.inWorld w').next reg)).outcome
        = e.outcome id ⟨(e'.apply id' reg).nextNode⟩ ∧
      (q.inWorld w).next ((r.inWorld w').next reg)
        = e.apply id (e'.apply id' reg) := by
    rw [hnext']
    exact hdoes w _ hsound'
      ((Effect.container?_apply id' e' reg id).trans (if_neg hne.symm))
      (Effect.placeholderName_apply id' e' reg)
  obtain ⟨ho, hlast⟩ := hsecond
  obtain ⟨ho', hlast'⟩ := hsecond'
  cases e with
  | settles o left =>
      have hcomm : e'.apply id' ((Effect.settles o left).apply id reg) = _ :=
        Effect.apply_comm hne rfl rfl
      exact .exact (ho'.trans hfirst.symm) (ho.trans hfirst'.symm)
        (hlast'.trans (hcomm.symm.trans hlast.symm))
  | makes kind token name c =>
      cases e' with
      | settles o' left' =>
          have hcomm : (Effect.settles o' left').apply id'
              ((Effect.makes kind token name c).apply id reg) = _ :=
            Effect.apply_comm hne rfl rfl
          exact .exact (ho'.trans hfirst.symm) (ho.trans hfirst'.symm)
            (hlast'.trans (hcomm.symm.trans hlast.symm))
      | makes kind' token' name' c' =>
          refine .exchanged hfirst ho hfirst' ho' ?_
          rw [hlast, hlast']
          exact Effect.renumbered_of_makes hs hne he he'

/-- Two operations on two containers do not meet, if comparisons are a fixed function
    of the tokens.  A request leaves all containers alone but the one that it is
    about.  Of two requests about two containers it does not matter which one comes
    first, nor in which worlds: both end as they would alone and the same registry is
    left, but that two new nodes take their numbers in the order in which they are
    made. -/
theorem containers_independent (hcmp : Identity.Fixed ω cmp) (config : Config)
    (requests : List (Request ω η τ ρ)) :
    (∀ (q : Request ω η τ ρ) (id : ContainerId), q.op.target? = some id →
      ∀ other, other ≠ id →
        (q.next (built config requests)).container? other
          = (built config requests).container? other) ∧
    ∀ (q r : Request ω η τ ρ) (id id' : ContainerId), q.op.target? = some id →
      r.op.target? = some id' → id ≠ id' → ∀ w w' : ω,
        Interchanged (built config requests) q r (q.inWorld w) (r.inWorld w') := by
  have hs := built_sound config requests
  constructor
  · intro q id htarget other hother
    exact q.next_elsewhere hcmp hs htarget hother
  · intro q r id id' hq hr hne w w'
    exact Request.interchanged hcmp hs hq hr hne w w'

/-- Two objects, each the first one found in its container. -/
theorem containers_independent_of_two_tracks :
    ∃ (reg : Registry Token Empty) (q r : Request Bytewise Unit Token Empty),
      Interchanged reg q r q r ∧
      (q.perform reg).outcome = .value (.node ⟨⟨1⟩, .dataset, ⟨1⟩⟩) ∧
      (q.perform (r.next reg)).outcome = .value (.node ⟨⟨1⟩, .dataset, ⟨2⟩⟩) := by
  have hcmp : Identity.Fixed Bytewise fun a b => .value (a.cmp b) :=
    fun _ _ _ _ => rfl
  have hindependent := containers_independent hcmp Config.default
    ([.plain (.openContainer ⟨1⟩ none), .plain (.openContainer ⟨2⟩ none)] :
      List (Request Bytewise Unit Token Empty))
  have hinterchanged := hindependent.2
    (.plain (.track ⟨1⟩ .dataset (.ofAddress 5) none ()))
    (.plain (.trackIn ⟨1⟩ ⟨2⟩ .group (.ofAddress 6) none ())) ⟨1⟩ ⟨2⟩ rfl rfl
    (by decide) .mk .mk
  exact ⟨_, _, _, hinterchanged, rfl, rfl⟩

end Registry

end Provenance
