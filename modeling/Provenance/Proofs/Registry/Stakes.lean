import Provenance.Proofs.Registry.Conservation
import Provenance.Proofs.Registry.Uniqueness

/-! # Stakes in a registry

    Which number a node gets, and who made it, depends on who came first.  So a
    reference alone does not say what its holder asked for; a claim does, and
    names no node (`Claim`).  A stake is a claim with the reference that was
    given for it.

    A registry carries stakes when it counts exactly their references, each of
    them is what its claim says (`Stands`), and no list has two nodes of one
    class of tokens (`Staked`).  Then what is open in it can be read off the
    claims, so two registries that carry the same claims agree on it
    (`Staked.agree`), whichever way they came about. -/

namespace Provenance

/-- What a reference was asked for. -/
inductive Claim (τ : Type) where
  /-- An open or a pin of a container. -/
  | hold (id : ContainerId)
  /-- A track of an object. -/
  | object (id : ContainerId) (kind : Kind) (token : τ)
deriving DecidableEq

namespace Claim

variable {τ : Type}

/-- The container that the claim is on, or that its object is in. -/
def container : Claim τ → ContainerId
  | hold id => id
  | object id _ _ => id

/-- The claim is on an object of that container and kind, with a token of that
    class. -/
def On (Same : τ → τ → Prop) (id : ContainerId) (kind : Kind) (token : τ) :
    Claim τ → Prop
  | hold _ => False
  | object id' kind' token' => id' = id ∧ kind' = kind ∧ Same token' token

end Claim

namespace Registry

variable {ω η τ ρ : Type} {Same : τ → τ → Prop} {reg reg' : Registry τ ρ}
  {id : ContainerId} {kind : Kind} {m m' : NodeId} {n n' : Node τ}
  {token : τ} {claim : Claim τ} {r : Reference}

/-! ## Views of a registry -/

/-- A node of a class of tokens is there, with so many references. -/
def Live (Same : τ → τ → Prop) (reg : Registry τ ρ) (id : ContainerId)
    (kind : Kind) (token : τ) (count : Nat) : Prop :=
  ∃ m n, reg.node? ⟨id, kind, m⟩ = some n ∧ Same n.token token ∧
    n.refcount = count

/-- Two registries have the same containers open, count the same, and have
    nodes of the same classes of tokens.  Numbers of nodes and names may
    differ. -/
structure Agree (Same : τ → τ → Prop) (reg reg' : Registry τ ρ) : Prop where
  open_iff : ∀ id, (∃ c, reg.container? id = some c) ↔
    ∃ c, reg'.container? id = some c
  refcount_eq : ∀ {id c c'}, reg.container? id = some c →
    reg'.container? id = some c' → c.refcount = c'.refcount
  counts_eq : ∀ {id c c'}, reg.container? id = some c →
    reg'.container? id = some c' → ∀ kind, c.counts.get kind = c'.counts.get kind
  live_iff : ∀ id kind token count,
    reg.Live Same id kind token count ↔ reg'.Live Same id kind token count

/-! ## Claims that stand -/

/-- A reference is what its claim says. -/
inductive Stands (Same : τ → τ → Prop) (reg : Registry τ ρ) :
    Claim τ → Reference → Prop
  | hold {id : ContainerId} {r : Reference} (hr : r.IsHold id) :
      Stands Same reg (.hold id) r
  | object {id : ContainerId} {kind : Kind} {token : τ} {m : NodeId} {n : Node τ}
      (hn : reg.node? ⟨id, kind, m⟩ = some n) (hsame : Same n.token token) :
      Stands Same reg (.object id kind token) (.tracked ⟨id, kind, m⟩)

theorem Stands.container_eq (h : Stands Same reg claim r) :
    r.container = claim.container := by
  cases h with
  | hold hr => exact hr.container_eq
  | object => rfl

theorem Stands.isHold_iff (h : Stands Same reg claim r) (id : ContainerId) :
    r.IsHold id ↔ claim = .hold id := by
  cases h with
  | hold hr =>
      constructor
      · intro hid
        rw [← hr.container_eq, hid.container_eq]
      · intro heq
        cases heq
        exact hr
  | object =>
      constructor
      · rintro (heq | heq) <;> cases heq
      · exact fun heq => nomatch heq

/-- A claim on an object names a node that is there. -/
theorem Stands.exists_node (h : Stands Same reg (.object id kind token) r) :
    ∃ m n, r = .tracked ⟨id, kind, m⟩ ∧ reg.node? ⟨id, kind, m⟩ = some n ∧
      Same n.token token := by
  cases h with
  | object hn hsame => exact ⟨_, _, rfl, hn, hsame⟩

/-- Of one class there is one node. -/
theorem Distinct.eq_of_same (hd : reg.Distinct fun a b => ¬ Same a b)
    (hequiv : Equivalence Same) (hn : reg.node? ⟨id, kind, m⟩ = some n)
    (hn' : reg.node? ⟨id, kind, m'⟩ = some n') (hsame : Same n.token n'.token) :
    m = m' :=
  hd.id_eq hn hn' (fun h => h hsame) fun h => h (hequiv.symm hsame)

/-- Of the claims that stand, those on a class of tokens are given references
    on the node of that class. -/
theorem Stands.tracked_iff (h : Stands Same reg claim r)
    (hequiv : Equivalence Same) (hd : reg.Distinct fun a b => ¬ Same a b)
    (hn : reg.node? ⟨id, kind, m⟩ = some n) (hsame : Same n.token token) :
    Reference.tracked ⟨id, kind, m⟩ = r ↔ claim.On Same id kind token := by
  cases h with
  | hold hr =>
      refine ⟨fun heq => ?_, fun hon => hon.elim⟩
      rcases hr with rfl | rfl <;> cases heq
  | @object id' kind' token' m' n' hn' hsame' =>
      constructor
      · intro heq
        cases heq
        rw [hn] at hn'
        cases hn'
        exact ⟨rfl, rfl, hequiv.trans (hequiv.symm hsame') hsame⟩
      · rintro ⟨rfl, rfl, htoken⟩
        rw [hd.eq_of_same hequiv hn hn' (hequiv.trans hsame
          (hequiv.symm (hequiv.trans hsame' htoken)))]

/-! ## Registries that carry stakes -/

/-- The registry counts the references of the stakes, their claims stand, and
    no two nodes of a list are of one class. -/
structure Staked (Same : τ → τ → Prop) (stakes : Multiset (Claim τ × Reference))
    (reg : Registry τ ρ) : Prop
    extends reg.Consistent (stakes.map Prod.snd) where
  sound : reg.Sound
  distinct : reg.Distinct fun a b => ¬ Same a b
  stands : ∀ s ∈ stakes, Stands Same reg s.1 s.2

section

variable {stakes stakes' : Multiset (Claim τ × Reference)}

/-- A container is open while there is a claim on it or on an object in it. -/
theorem Staked.open_iff (h : reg.Staked Same stakes) (id : ContainerId) :
    (∃ c, reg.container? id = some c) ↔
      ∃ claim ∈ stakes.map Prod.fst, claim.container = id := by
  constructor
  · rintro ⟨c, hget⟩
    obtain ⟨r, hr, rfl⟩ := h.exists_reference hget (h.occupied hget)
    obtain ⟨s, hs, rfl⟩ := Multiset.mem_map.mp hr
    exact ⟨s.1, Multiset.mem_map_of_mem _ hs, (h.stands s hs).container_eq.symm⟩
  · rintro ⟨claim, hclaim, rfl⟩
    obtain ⟨s, hs, rfl⟩ := Multiset.mem_map.mp hclaim
    rw [← (h.stands s hs).container_eq]
    exact h.present s.2 (Multiset.mem_map_of_mem _ hs)

/-- The opens and pins of a container are the claims to hold it. -/
theorem holds_eq_count [DecidableEq τ]
    (hstands : ∀ s ∈ stakes, Stands Same reg s.1 s.2) (id : ContainerId) :
    Reference.holds (stakes.map Prod.snd) id
      = (stakes.map Prod.fst).count (.hold id) := by
  induction stakes using Multiset.induction with
  | empty => simp [Reference.holds]
  | cons s stakes ih =>
      have ih := ih fun s' hs' => hstands s' (Multiset.mem_cons_of_mem hs')
      have hiff := (hstands s (Multiset.mem_cons_self s stakes)).isHold_iff id
      rw [Multiset.map_cons, Multiset.map_cons]
      by_cases hs : s.2.IsHold id
      · rw [Reference.holds_cons_of_isHold hs, ih, hiff.mp hs,
          Multiset.count_cons_self]
      · rw [Reference.holds_cons_of_not_isHold hs, ih,
          Multiset.count_cons_of_ne fun heq => hs (hiff.mpr heq.symm)]

/-- The references on a node are the claims on its class. -/
theorem Staked.nodeRefcount_eq (h : reg.Staked Same stakes)
    (hequiv : Equivalence Same) (hn : reg.node? ⟨id, kind, m⟩ = some n)
    (hsame : Same n.token token)
    [DecidablePred (Claim.On Same id kind token)] :
    n.refcount = (stakes.map Prod.fst).countP (Claim.On Same id kind token) := by
  rw [(h.toConsistent.accounted.nodeRefcount_eq hn).2, Multiset.count_map,
    Multiset.countP_map]
  refine congrArg Multiset.card (Multiset.filter_congr fun s hs => ?_)
  exact (h.stands s hs).tracked_iff hequiv h.distinct hn hsame

/-- A node is there for each claim on an object. -/
theorem Staked.exists_node (h : reg.Staked Same stakes)
    (hclaim : .object id kind token ∈ stakes.map Prod.fst) :
    ∃ m n, reg.node? ⟨id, kind, m⟩ = some n ∧ Same n.token token := by
  obtain ⟨⟨_, r⟩, hs, rfl⟩ := Multiset.mem_map.mp hclaim
  obtain ⟨m, n, -, hn, hsame⟩ := (h.stands _ hs).exists_node
  exact ⟨m, n, hn, hsame⟩

/-- A claim is there for each node. -/
theorem Staked.exists_claim (h : reg.Staked Same stakes)
    (hn : reg.node? ⟨id, kind, m⟩ = some n) :
    ∃ token, .object id kind token ∈ stakes.map Prod.fst ∧
      Same n.token token := by
  obtain ⟨⟨claim, r⟩, hs, hr⟩ :=
    Multiset.mem_map.mp ((h.node_iff ⟨id, kind, m⟩).mp ⟨n, hn⟩)
  obtain rfl : r = .tracked ⟨id, kind, m⟩ := hr
  have hstands : Stands Same reg claim (.tracked ⟨id, kind, m⟩) := h.stands _ hs
  cases hstands with
  | hold hr => rcases hr with heq | heq <;> cases heq
  | @object _ _ token _ n' hn' hsame =>
      rw [hn] at hn'
      cases hn'
      exact ⟨token, Multiset.mem_map.mpr ⟨_, hs, rfl⟩, hsame⟩

/-- In another registry with the same claims, each node has one of its class. -/
theorem Staked.exists_same (h : reg.Staked Same stakes)
    (h' : reg'.Staked Same stakes') (hequiv : Equivalence Same)
    (hclaims : stakes.map Prod.fst = stakes'.map Prod.fst)
    (hn : reg.node? ⟨id, kind, m⟩ = some n) :
    ∃ m' n', reg'.node? ⟨id, kind, m'⟩ = some n' ∧ Same n'.token n.token := by
  obtain ⟨token, hclaim, hsame⟩ := h.exists_claim hn
  rw [hclaims] at hclaim
  obtain ⟨m', n', hn', hsame'⟩ := h'.exists_node hclaim
  exact ⟨m', n', hn', hequiv.trans hsame' (hequiv.symm hsame)⟩

theorem Staked.size_le (h : reg.Staked Same stakes)
    (h' : reg'.Staked Same stakes') (hequiv : Equivalence Same)
    (hclaims : stakes.map Prod.fst = stakes'.map Prod.fst)
    {c c' : Container τ ρ} (hget : reg.container? id = some c)
    (hget' : reg'.container? id = some c') (kind : Kind) :
    (c.nodes.get kind).size ≤ (c'.nodes.get kind).size := by
  have hnode : ∀ {m n}, c.node? kind m = some n →
      reg.node? ⟨id, kind, m⟩ = some n :=
    fun hn => node?_eq_some_iff.mpr ⟨c, hget, hn⟩
  -- a node of one list is told from the others by the node of its class
  refine IdMap.size_le_of_rel (R := fun m m' => ∃ n n', c.node? kind m = some n ∧
    c'.node? kind m' = some n' ∧ Same n'.token n.token) (fun {m n} hn => ?_) ?_
  · obtain ⟨m', n', hn', hsame⟩ := h.exists_same h' hequiv hclaims (hnode hn)
    rw [node?_of_container? hget' rfl] at hn'
    exact ⟨m', n', hn', n, n', hn, hn', hsame⟩
  · rintro i i' j _ _ - - ⟨n, o, hn, ho, hsame⟩ ⟨n', o', hn', ho', hsame'⟩
    rw [ho] at ho'
    cases ho'
    exact h.distinct.eq_of_same hequiv (hnode hn) (hnode hn')
      (hequiv.trans (hequiv.symm hsame) hsame')

theorem Staked.live_of_live (h : reg.Staked Same stakes)
    (h' : reg'.Staked Same stakes') (hequiv : Equivalence Same)
    (hclaims : stakes.map Prod.fst = stakes'.map Prod.fst) {count : Nat}
    (hlive : reg.Live Same id kind token count) :
    reg'.Live Same id kind token count := by
  classical
  obtain ⟨m, n, hn, hsame, rfl⟩ := hlive
  obtain ⟨m', n', hn', hsame'⟩ := h.exists_same h' hequiv hclaims hn
  have htoken := hequiv.trans hsame' hsame
  refine ⟨m', n', hn', htoken, ?_⟩
  rw [h.nodeRefcount_eq hequiv hn hsame, h'.nodeRefcount_eq hequiv hn' htoken,
    hclaims]

/-- Registries that carry the same claims agree. -/
theorem Staked.agree (h : reg.Staked Same stakes)
    (h' : reg'.Staked Same stakes') (hequiv : Equivalence Same)
    (hclaims : stakes.map Prod.fst = stakes'.map Prod.fst) :
    reg.Agree Same reg' := by
  classical
  have hsize : ∀ {id c c'}, reg.container? id = some c →
      reg'.container? id = some c' →
      ∀ kind, (c.nodes.get kind).size = (c'.nodes.get kind).size :=
    fun hget hget' kind => Nat.le_antisymm
      (h.size_le h' hequiv hclaims hget hget' kind)
      (h'.size_le h hequiv hclaims.symm hget' hget kind)
  refine ⟨fun id => ?_, fun {id c c'} hget hget' => ?_,
    fun {id c c'} hget hget' kind => ?_, fun id kind token count =>
      ⟨h.live_of_live h' hequiv hclaims,
        h'.live_of_live h hequiv hclaims.symm⟩⟩
  · rw [h.open_iff, h'.open_iff, hclaims]
  · have hnodes : c.nodeCount = c'.nodeCount := by
      simp only [Container.nodeCount, hsize hget hget']
    rw [(h.entry hget).refcount_eq, (h'.entry hget').refcount_eq,
      holds_eq_count h.stands, holds_eq_count h'.stands, hclaims, hnodes]
  · rw [(h.entry hget).counts_eq, (h'.entry hget').counts_eq, hsize hget hget']

end

/-! ## What keeps stakes

    Writes on terms that hold tokens of one class together keep the claims
    whose references are kept. -/

section

variable {stakes stakes' : Multiset (Claim τ × Reference)} {t : Terms τ}
  {held : Multiset Reference}

theorem Staked.stands_of_writes (h : reg.Staked Same stakes)
    (hw : Writes t reg reg') (hc : reg'.Consistent held)
    {s : Claim τ × Reference} (hs : s ∈ stakes) (hheld : s.2 ∈ held) :
    Stands Same reg' s.1 s.2 := by
  obtain ⟨claim, r⟩ := s
  have hstands : Stands Same reg claim r := h.stands _ hs
  cases hstands with
  | hold hr => exact .hold hr
  | @object id kind token m n hn hsame =>
      -- a node with a reference left is there, and is the one that it was
      rcases (hw.fate h.sound ⟨id, kind, m⟩).of_some hn with
        ⟨n', hn', hkept⟩ | ⟨hnone, -⟩
      · exact .object hn' (hkept.token_eq ▸ hsame)
      · obtain ⟨n', hn'⟩ := (hc.node_iff ⟨id, kind, m⟩).mpr hheld
        rw [hnone] at hn'
        cases hn'

/-- A registry carries stakes that it did not lose, and others that stand. -/
theorem Staked.of_writes (h : reg.Staked Same stakes) (hw : Writes t reg reg')
    (hapart : ∀ {a b}, t.apart a b → ¬ Same a b)
    (hc : reg'.Consistent (stakes'.map Prod.snd))
    (hnew : ∀ s ∈ stakes', s ∈ stakes ∨ Stands Same reg' s.1 s.2) :
    reg'.Staked Same stakes' where
  toConsistent := hc
  sound := hw.sound h.sound
  distinct := by
    have hw' : Writes { t with apart := fun a b => ¬ Same a b } reg reg' :=
      hw.mono hapart (fun h => h) (fun h => h) fun h => h
    exact hw'.distinct h.sound h.distinct
  stands s hs := by
    rcases hnew s hs with hold | hstands
    · exact h.stands_of_writes hw hc hold (Multiset.mem_map_of_mem _ hs)
    · exact hstands

/-- There is a claim for every reference that a registry counts. -/
theorem Consistent.exists_claim (h : reg.Consistent held)
    (hrefl : ∀ token, Same token token) {r : Reference} (hr : r ∈ held) :
    ∃ claim, Stands Same reg claim r := by
  cases r with
  | opened id => exact ⟨.hold id, .hold (Or.inl rfl)⟩
  | pinned id => exact ⟨.hold id, .hold (Or.inr rfl)⟩
  | tracked node =>
      obtain ⟨n, hn⟩ := (h.node_iff node).mpr hr
      exact ⟨.object node.container node.kind n.token, .object hn (hrefl _)⟩

variable [Identity ω η τ] {w : ω}

theorem Reached.sound (h : Reached held w reg) : reg.Sound := by
  induction h with
  | start config w => exact sound_ofConfig config
  | step memory op spent rest _ _ ih => exact (Op.run_writes memory op ih).sound ih
  | other w' _ ih => exact ih

theorem Reached.distinct (h : Reached held w reg) :
    reg.Distinct (Identity.Differ ω) := by
  induction h with
  | start config w => exact distinct_ofConfig _ config
  | step memory op spent rest hr _ ih =>
      exact (Op.run_writes memory op hr.sound).distinct hr.sound ih
  | other w' _ ih => exact ih

/-- In every state that a run reaches, the references held can be taken for
    stakes. -/
theorem Reached.exists_staked (h : Reached held w reg)
    (hequiv : Equivalence Same) (hcmp : Identity.Classifies ω Same) :
    ∃ stakes, stakes.map Prod.snd = held ∧ reg.Staked Same stakes := by
  have : Nonempty (Claim τ) := ⟨.hold ⟨0⟩⟩
  choose! claim hclaim using fun r (hr : r ∈ held) =>
    h.consistent.exists_claim hequiv.refl hr
  have hrefs : (held.map fun r => (claim r, r)).map Prod.snd = held := by
    rw [Multiset.map_map]
    exact Multiset.map_id held
  refine ⟨held.map fun r => (claim r, r), hrefs, hrefs.symm ▸ h.consistent,
    h.sound, fun id kind m m' n n' hn hn' hlt =>
      hcmp.not_same (h.distinct hn hn' hlt), fun s hs => ?_⟩
  obtain ⟨r, hr, rfl⟩ := Multiset.mem_map.mp hs
  exact hclaim r hr

end

end Registry

end Provenance
