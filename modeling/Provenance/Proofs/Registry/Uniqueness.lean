import Provenance.Proofs.Registry.Lifetime

/-! # One node for each object

    A node comes into a list only after its token was told apart from those of
    all nodes in the list, so of any two nodes of a list, a comparison told the
    earlier from the later (`built_distinct`).  Nothing is asked of comparisons
    for this, and a search that ends early makes no node.

    Where the comparison is a fixed function, the earlier token does not equal
    the later (`deduplication`).  If it is an equivalence that always answers,
    each of its classes has one node at most in a list, and tracking a token
    takes a further reference on the node of its class, or makes it. -/

namespace Provenance

/-- Comparisons end as a function of the two tokens says. -/
def Identity.Fixed (ω : Type) {η τ : Type} [Identity ω η τ]
    (cmp : τ → τ → Outcome IdentityError Ordering) : Prop :=
  ∀ raw a b, ∀ w : ω, (compare raw a b w).outcome = cmp a b

/-- Comparisons always answer, and answer that two tokens are equal just when
    they are of one class. -/
def Identity.Classifies (ω : Type) {η τ : Type} [Identity ω η τ]
    (Same : τ → τ → Prop) : Prop :=
  ∀ raw a b, ∀ w : ω, ∃ order, (compare raw a b w).outcome = .value order ∧
    (order = .eq ↔ Same a b)

namespace Identity

variable {ω η τ : Type} [Identity ω η τ]
  {cmp : τ → τ → Outcome IdentityError Ordering} {a b : τ}

theorem Fixed.of_answers (hcmp : Fixed ω cmp) {order : Ordering}
    (h : Answers ω a b order) : cmp a b = .value order := by
  obtain ⟨raw, w, h⟩ := h
  rw [← h, hcmp]

theorem Fixed.of_differ (hcmp : Fixed ω cmp) (h : Differ ω a b) :
    ∃ order, order ≠ .eq ∧ cmp a b = .value order := by
  obtain ⟨order, hne, h⟩ := h
  exact ⟨order, hne, hcmp.of_answers h⟩

theorem Fixed.ne_of_differ (hcmp : Fixed ω cmp) (h : Differ ω a b) :
    cmp a b ≠ .value .eq := by
  obtain ⟨order, hne, h⟩ := hcmp.of_differ h
  rw [h]
  exact fun heq => hne (Outcome.value.inj heq)

variable {Same : τ → τ → Prop}

theorem Classifies.eq_iff (h : Classifies ω Same) {order : Ordering}
    (ha : Answers ω a b order) : order = .eq ↔ Same a b := by
  obtain ⟨raw, w, ha⟩ := ha
  obtain ⟨order', ho, hiff⟩ := h raw a b w
  rw [ha] at ho
  cases ho
  exact hiff

theorem Classifies.not_same (h : Classifies ω Same) (hd : Differ ω a b) :
    ¬ Same a b := by
  obtain ⟨order, hne, ha⟩ := hd
  exact fun hsame => hne ((h.eq_iff ha).mpr hsame)

theorem Classifies.not_fails (h : Classifies ω Same) (e : IdentityError) :
    ¬ Fails ω e := by
  rintro ⟨raw, a, b, w, he⟩
  obtain ⟨order, ho, -⟩ := h raw a b w
  rw [he] at ho
  cases ho

theorem Classifies.not_faults (h : Classifies ω Same) (f : Fault) :
    ¬ Faults ω f := by
  rintro ⟨raw, a, b, w, hf⟩
  obtain ⟨order, ho, -⟩ := h raw a b w
  rw [hf] at ho
  cases ho

/-- A fixed comparison that answers on all tokens classifies them. -/
theorem Fixed.classifies (hcmp : Fixed ω cmp)
    (htotal : ∀ a b, ∃ order, cmp a b = .value order) :
    Classifies ω fun a b => cmp a b = .value .eq := by
  intro raw a b w
  obtain ⟨order, ho⟩ := htotal a b
  refine ⟨order, (hcmp raw a b w).trans ho, ?_⟩
  show order = .eq ↔ cmp a b = .value .eq
  rw [ho, Outcome.value.injEq]

end Identity

namespace Registry

variable {ω η τ ρ : Type} [Identity ω η τ] {reg : Registry τ ρ}
  {id : ContainerId} {kind : Kind}

/-! ## Nodes told apart -/

theorem after_distinct (hs : reg.Sound) (hd : reg.Distinct (Identity.Differ ω))
    (requests : List (Request ω η τ ρ)) :
    (after reg requests).Distinct (Identity.Differ ω) := by
  induction requests generalizing reg with
  | nil => exact hd
  | cons r rest ih => exact ih (r.sound hs) ((r.writes hs).distinct hs hd)

/-- Some comparison told any two nodes of a list apart. -/
theorem built_distinct (config : Config) (requests : List (Request ω η τ ρ)) :
    (built config requests).Distinct (Identity.Differ ω) :=
  after_distinct (sound_ofConfig config) (distinct_ofConfig _ config) requests

/-- Numbers are in the order in which the nodes came. -/
theorem Sound.number_lt (hs : reg.Sound) {node node' : NodeHandle}
    {later : List (Request ω η τ ρ)} {n n' : Node τ}
    (hn : reg.node? node = some n) (hnone : reg.node? node' = none)
    (hn' : (after reg later).node? node' = some n') :
    node.node.number < node'.node.number := by
  have hlt := hs.numbered hn
  by_cases hnew : node'.node.number < reg.nextNode
  · rw [(hs.node?_gone hnone hnew later).1] at hn'
    cases hn'
  · omega

/-! ## Classes of tokens -/

section

variable {cmp : τ → τ → Outcome IdentityError Ordering}

/-- No two nodes of a list are of one class. -/
theorem Distinct.node_eq (hd : reg.Distinct (Identity.Differ ω))
    (hcmp : Identity.Fixed ω cmp)
    (hequiv : Equivalence fun a b => cmp a b = .value .eq) {m m' : NodeId}
    {n n' : Node τ} (hn : reg.node? ⟨id, kind, m⟩ = some n)
    (hn' : reg.node? ⟨id, kind, m'⟩ = some n')
    (heq : cmp n.token n'.token = .value .eq) : m = m' :=
  hd.id_eq hn hn' (fun h => hcmp.ne_of_differ h heq)
    fun h => hcmp.ne_of_differ h (hequiv.symm heq)

/-- How a track ended, and the registry that it left. -/
def Ended (ending : Ending (ω × Registry τ ρ) RegistryError NodeHandle)
    (outcome : Outcome RegistryError NodeHandle) (reg : Registry τ ρ) : Prop :=
  ending.outcome = outcome ∧ ending.state.2 = reg

/-- With a comparison that always answers, tracking in an open container finds
    a node of the class of the token.  If there is none, it makes one, or leaves
    all as it was for want of memory. -/
theorem track_fixed {c : Container τ ρ} (hcmp : Identity.Fixed ω cmp)
    (htotal : ∀ a b, ∃ order, cmp a b = .value order) (hs : reg.Sound)
    (hget : reg.container? id = some c) (memory : Memory) (kind : Kind)
    (token : τ) (name : Option String) (raw : η) (w : ω) :
    (∃ n, c.node? kind n.id = some n ∧ cmp n.token token = .value .eq ∧
      Ended (track memory id kind token name raw (w, reg))
        (.value ⟨id, kind, n.id⟩) (reg.put (c.putNode kind n.again))) ∨
    (∀ m n, c.node? kind m = some n → cmp n.token token ≠ .value .eq) ∧
      (grantsName memory .objectName name = true ∧
        Ended (track memory id kind token name raw (w, reg))
          (.value ⟨id, kind, ⟨reg.nextNode⟩⟩)
          ({ reg with nextNode := reg.nextNode + 1 }.put
            (c.addNode kind (.first ⟨reg.nextNode⟩ id kind token name))) ∨
      grantsName memory .objectName name = false ∧
        Ended (track memory id kind token name raw (w, reg))
          (.error (.outOfMemory Purpose.objectName.text)) reg) := by
  have hrun : (track memory id kind token name raw).Ensures (w, reg) [] _ _ _ :=
    track_tracked_of_some Identity.compare_keeps_true memory kind token name raw
      hget (hs.entry hget) trivial
  -- the nodes that were compared are all those of the list
  have hnone : (∀ n ∈ c.newestFirst kind, Identity.Differ ω n.token token) →
      ∀ m n, c.node? kind m = some n → cmp n.token token ≠ .value .eq :=
    fun hdiffer m n hn => hcmp.ne_of_differ (hdiffer n (List.mem_reverse.mpr
      (IdMap.mem_values_iff.mpr ⟨m, hn⟩)))
  simp only [Ended]
  rcases ho : (track memory id kind token name raw (w, reg)).outcome with
    node | e | f
  · obtain ⟨-, ht⟩ := hrun.value ho
    generalize (track memory id kind token name raw (w, reg)).state.2 = reg' at ht ⊢
    cases ht with
    | reused hget' hn heq =>
        rw [hget] at hget'
        cases hget'
        exact Or.inl ⟨_, hn, hcmp.of_answers heq, rfl, rfl⟩
    | @made c' hsite hgrants hdiffer =>
        obtain rfl : c = c' := by
          rcases hsite with hget' | ⟨hget', -⟩
          · exact Option.some.inj (hget.symm.trans hget')
          · rw [hget] at hget'
            cases hget'
        exact Or.inr ⟨hnone hdiffer, Or.inl ⟨hgrants, rfl, rfl⟩⟩
  · obtain ⟨-, hreg, he⟩ := hrun.error ho
    cases he with
    | identity he => exact absurd he ((hcmp.classifies htotal).not_fails _)
    | name hgrants hdiffer =>
        exact Or.inr ⟨hnone hdiffer, Or.inr ⟨hgrants, rfl, hreg⟩⟩
  · obtain ⟨-, -, hf, -⟩ := hrun.fault ho
    exact absurd hf ((hcmp.classifies htotal).not_faults f)

/-- In each list there is one node at most for each class of tokens, and
    tracking keeps it so. -/
structure OnePerClass (ω : Type) {η τ ρ : Type} [Identity ω η τ]
    (cmp : τ → τ → Outcome IdentityError Ordering) (reg : Registry τ ρ) :
    Prop where
  /-- Two nodes of a list are of different classes. -/
  unique : ∀ {id kind m m' n n'}, reg.node? ⟨id, kind, m⟩ = some n →
    reg.node? ⟨id, kind, m'⟩ = some n' →
    cmp n.token n'.token = .value .eq → m = m'
  /-- If there is a node of the class of a token, tracking answers its handle,
      with one reference and one access more. -/
  reuses : ∀ {id c kind m n} (memory : Memory) (token : τ) (name : Option String)
    (raw : η) (w : ω), reg.container? id = some c → c.node? kind m = some n →
    cmp n.token token = .value .eq →
    Ended (track memory id kind token name raw (w, reg)) (.value ⟨id, kind, m⟩)
      (reg.put (c.putNode kind
        { n with refcount := n.refcount + 1, accesses := n.accesses + 1 }))
  /-- If there is none, tracking makes a node under a new handle, with one
      reference and one access; its list and its container count it. -/
  makes : ∀ {id c} (memory : Memory) (kind : Kind) (token : τ)
    (name : Option String) (raw : η) (w : ω), reg.container? id = some c →
    (∀ m n, c.node? kind m = some n → cmp n.token token ≠ .value .eq) →
    grantsName memory .objectName name = true →
    reg.node? ⟨id, kind, ⟨reg.nextNode⟩⟩ = none ∧
    Ended (track memory id kind token name raw (w, reg))
      (.value ⟨id, kind, ⟨reg.nextNode⟩⟩)
      ({ reg with nextNode := reg.nextNode + 1 }.put
        { (c.putNode kind
            { id := ⟨reg.nextNode⟩, container := id, token := token,
              name := name, refcount := 1, accesses := 1,
              counters := .zero kind }) with
          counts := c.counts.modify kind (· + 1)
          refcount := c.refcount + 1 })
  /-- Without memory for the name of a new node, nothing changes. -/
  refuses : ∀ {id c} (memory : Memory) (kind : Kind) (token : τ)
    (name : Option String) (raw : η) (w : ω), reg.container? id = some c →
    (∀ m n, c.node? kind m = some n → cmp n.token token ≠ .value .eq) →
    grantsName memory .objectName name = false →
    Ended (track memory id kind token name raw (w, reg))
      (.error (.outOfMemory Purpose.objectName.text)) reg

theorem Distinct.onePerClass (hd : reg.Distinct (Identity.Differ ω))
    (hs : reg.Sound) (hcmp : Identity.Fixed ω cmp)
    (htotal : ∀ a b, ∃ order, cmp a b = .value order)
    (hequiv : Equivalence fun a b => cmp a b = .value .eq) :
    OnePerClass ω cmp reg where
  unique := hd.node_eq hcmp hequiv
  reuses {id c kind m n} memory token name raw w hget hn heq := by
    rcases track_fixed hcmp htotal hs hget memory kind token name raw w with
      ⟨n', hn', heq', hended⟩ | ⟨hnone, -⟩
    · -- the node that was found is the one node of the class
      have hm : n'.id = m := hd.node_eq hcmp hequiv
        (node?_eq_some_iff.mpr ⟨c, hget, hn'⟩)
        (node?_eq_some_iff.mpr ⟨c, hget, hn⟩)
        (hequiv.trans heq' (hequiv.symm heq))
      rw [hm, hn] at hn'
      cases hn'
      rw [hm] at hended
      exact hended
    · exact absurd heq (hnone m n hn)
  makes {id c} memory kind token name raw w hget hnone hgrants := by
    refine ⟨?_, ?_⟩
    · rw [node?_of_container? hget rfl]
      exact (hs.entry hget).node?_next kind
    · rcases track_fixed hcmp htotal hs hget memory kind token name raw w with
        ⟨n, hn, heq, -⟩ | ⟨-, ⟨-, hended⟩ | ⟨hrefused, -⟩⟩
      · exact absurd heq (hnone n.id n hn)
      · exact hended
      · rw [hgrants] at hrefused
        cases hrefused
  refuses {id c} memory kind token name raw w hget hnone hrefused := by
    rcases track_fixed hcmp htotal hs hget memory kind token name raw w with
      ⟨n, hn, heq, -⟩ | ⟨-, ⟨hgrants, -⟩ | ⟨-, hended⟩⟩
    · exact absurd heq (hnone n.id n hn)
    · rw [hgrants] at hrefused
      cases hrefused
    · exact hended

/-- Of any two nodes of a list, the token of the one that was there before the
    other does not equal that of the other.  If comparisons always answer and
    equal tokens make up classes, each list has one node at most for a class. -/
theorem deduplication (hcmp : Identity.Fixed ω cmp) (config : Config)
    (requests : List (Request ω η τ ρ)) :
    (∀ earlier later, requests = earlier ++ later →
      ∀ id kind m m' n₀ n n',
        (built config earlier).node? ⟨id, kind, m⟩ = some n₀ →
        (built config earlier).node? ⟨id, kind, m'⟩ = none →
        (built config requests).node? ⟨id, kind, m⟩ = some n →
        (built config requests).node? ⟨id, kind, m'⟩ = some n' →
        ∃ order, order ≠ .eq ∧ cmp n.token n'.token = .value order) ∧
    ((∀ a b, ∃ order, cmp a b = .value order) →
      (Equivalence fun a b => cmp a b = .value .eq) →
      OnePerClass ω cmp (built config requests)) := by
  have hs := built_sound config requests
  have hd := built_distinct config requests
  refine ⟨?_, fun htotal hequiv => hd.onePerClass hs hcmp htotal hequiv⟩
  rintro earlier later rfl id kind m m' n₀ n n' hn₀ hnone hn hn'
  have hlater : built config (earlier ++ later)
      = after (built config earlier) later := after_append _ _ _
  have hlt : m.number < m'.number :=
    (built_sound config earlier).number_lt hn₀ hnone (hlater ▸ hn')
  exact hcmp.of_differ (hd hn hn' hlt)

/-- A token that is tracked for the second time, after another one. -/
theorem deduplication_of_tracked_again :
    ∃ reg : Registry Token Empty, reg.nextNode = 3 ∧
      (track Memory.addressSpace ⟨1⟩ .dataset (.ofAddress 5) none ()
        (Bytewise.mk, reg)).outcome = .value ⟨⟨1⟩, .dataset, ⟨1⟩⟩ := by
  have hcmp : Identity.Fixed Bytewise fun a b => .value (a.cmp b) :=
    fun _ _ _ _ => rfl
  have hequiv : Equivalence fun a b : Token =>
      (.value (a.cmp b) : Outcome IdentityError Ordering) = .value .eq := by
    simp only [Outcome.value.injEq, Token.cmp_eq_iff]
    exact eq_equivalence
  have hrun := deduplication hcmp Config.default
    ([.plain (.openContainer ⟨1⟩ none),
      .plain (.track ⟨1⟩ .dataset (.ofAddress 5) none ()),
      .plain (.track ⟨1⟩ .dataset (.ofAddress 6) none ())] :
      List (Request Bytewise Unit Token Empty))
  have hclasses := hrun.2 (fun a b => ⟨_, rfl⟩) hequiv
  refine ⟨_, rfl, (hclasses.reuses Memory.addressSpace (.ofAddress 5) none ()
    .mk rfl rfl ?_).1⟩
  exact congrArg Outcome.value (Token.cmp_eq_iff.mpr rfl)

end

end Registry

end Provenance
