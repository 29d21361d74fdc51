import Provenance.Proofs.Registry.Stakes
import Provenance.Proofs.Registry.Titles

/-! # Placeholders

    An entry comes in with an open of its container, or as a placeholder for an
    object that was found in it.  From then on until it goes its title is settled
    by one thing, the first open that reaches it (`Tenure.title?_eq`): the open
    that it came in with, or else the open that promotes it.

    A placeholder is held by nobody who opened it.  So where clients give back
    what they hold, it counts its nodes and its pins (`Reached.notMem_opened`),
    and without pins it goes with its last node (`Reached.freed_iff`). -/

namespace Provenance.Registry

variable {ω η τ ρ : Type} [Identity ω η τ] {config : Config} {reg : Registry τ ρ}
  {id : ContainerId} {c : Container τ ρ}

/-! ## One request -/

namespace Request

variable {q : Request ω η τ ρ} {given : Option String}

/-- To open a placeholder is to promote it: it takes the name that is given, if
    one is, and one reference more, and keeps all else. -/
theorem next_of_promotion (hget : reg.container? id = some c)
    (hplaceholder : c.placeholder = true) (h : q.opening? reg id = some given) :
    q.next reg = reg.put { c with
      name := given <|> c.name, placeholder := false, refcount := c.refcount + 1 } := by
  rw [next_of_opening h, afterOpen, hget]
  simp only [Container.promote, if_pos hplaceholder]
  rfl

theorem not_adopts_of_opening (h : q.opening? reg id = some given) :
    ¬ q.op.Adopts id := by
  rw [(opening?_eq_some_iff.mp h).1]
  exact fun hadopts => hadopts

/-- An object that is found elsewhere leaves all other containers alone, the one
    that it was asked for in among them. -/
theorem next_elsewhere_of_adopts (hs : reg.Sound) (hadopts : q.op.Adopts id)
    {other : ContainerId} (hother : other ≠ id) :
    (q.next reg).container? other = reg.container? other := by
  cases hget : reg.container? id with
  | none =>
      rcases next_of_adopts hadopts hget with hnext | ⟨kind, token, name, hnext⟩
      · rw [hnext]
      · rw [hnext, container?_put]
        exact if_neg hother.symm
  | some c =>
      obtain ⟨memory, w, op⟩ := q
      cases op with
      | trackIn home reported kind token name raw =>
          obtain ⟨rfl, -⟩ := hadopts
          rw [next, perform, Op.run, Call.map_apply,
            trackIn_of_known (Or.inr ⟨c, hget⟩)]
          obtain ⟨-, hconcludes⟩ := track_concludes hget (hs.entry hget) memory kind
            token name raw w
          rcases hconcludes.put_or_eq with hreg | ⟨next, c', hid, -, hreg⟩
          · rw [hreg]
          · rw [hreg, container?_put, hid, (hs.entry hget).id_eq]
            exact if_neg hother.symm
      | _ => exact hadopts.elim

end Request

theorem built_placeholderName (config : Config) (requests : List (Request ω η τ ρ)) :
    (built config requests).placeholderName = config.placeholderName := by
  induction requests using List.reverseRecOn with
  | nil => rfl
  | append_singleton requests q ih =>
      rw [built_concat, (q.writes (built_sound config requests)).placeholderName_eq, ih]

/-! ## From the insertion of an entry to its removal -/

/-- The name under which a container is opened first along requests, if it is. -/
def firstOpen? (id : ContainerId) (reg : Registry τ ρ) :
    List (Request ω η τ ρ) → Option (Option String)
  | [] => none
  | q :: rest => (q.opening? reg id).or (firstOpen? id (q.next reg) rest)

theorem firstOpen?_append (reg : Registry τ ρ) (requests later : List (Request ω η τ ρ)) :
    firstOpen? id reg (requests ++ later)
      = (firstOpen? id reg requests).or (firstOpen? id (after reg requests) later) := by
  induction requests generalizing reg with
  | nil => rfl
  | cons q rest ih =>
      rw [List.cons_append, firstOpen?, firstOpen?, ih, Option.or_assoc]
      rfl

theorem firstOpen?_concat (reg : Registry τ ρ) (requests : List (Request ω η τ ρ))
    (q : Request ω η τ ρ) :
    firstOpen? id reg (requests ++ [q])
      = (firstOpen? id reg requests).or (q.opening? (after reg requests) id) := by
  rw [firstOpen?_append, firstOpen?, firstOpen?, Option.or_none]

/-- The entry of a container came in with a request, and is there since. -/
structure Tenure (config : Config) (id : ContainerId)
    (before : List (Request ω η τ ρ)) (q : Request ω η τ ρ)
    (since : List (Request ω η τ ρ)) : Prop where
  absent : (built config before).container? id = none
  present : ∀ part, part <+: since →
    ∃ c, (built config (before ++ q :: part)).container? id = some c

variable {before since part : List (Request ω η τ ρ)} {q r : Request ω η τ ρ}

theorem Tenure.of_prefix (h : Tenure config id before q since)
    (hpart : part <+: since) : Tenure config id before q part :=
  ⟨h.absent, fun part' hpart' => h.present part' (hpart'.trans hpart)⟩

theorem Tenure.concat (h : Tenure config id before q since)
    (hget : (built config (before ++ q :: (since ++ [r]))).container? id = some c) :
    Tenure config id before q (since ++ [r]) := by
  refine ⟨h.absent, ?_⟩
  intro part hpart
  rcases List.prefix_concat_iff.mp hpart with rfl | hpart
  · exact ⟨c, hget⟩
  · exact h.present part hpart

/-- Every entry came in with some request, and is there since. -/
theorem exists_tenure {requests : List (Request ω η τ ρ)}
    (hget : (built config requests).container? id = some c) :
    ∃ before q since, requests = before ++ q :: since ∧
      Tenure config id before q since := by
  induction requests using List.reverseRecOn generalizing c with
  | nil => cases hget
  | append_singleton requests r ih =>
      cases hold : (built config requests).container? id with
      | none =>
          refine ⟨requests, r, [], rfl, hold, ?_⟩
          intro part hpart
          rw [List.prefix_nil.mp hpart]
          exact ⟨c, hget⟩
      | some c' =>
          obtain ⟨before, q, since, rfl, h⟩ := ih hold
          rw [List.append_assoc, List.cons_append] at hget ⊢
          exact ⟨before, q, since ++ [r], rfl, h.concat hget⟩

theorem built_cons (config : Config) (before : List (Request ω η τ ρ))
    (q : Request ω η τ ρ) (since : List (Request ω η τ ρ)) :
    built config (before ++ q :: since)
      = after (built config (before ++ [q])) since := by
  rw [built, List.append_cons, after_append]
  rfl

/-- The title with which an entry comes in: that of a placeholder, unless it
    comes in with an open. -/
def firstTitle (config : Config) (opening : Option (Option String)) : Title :=
  opening.elim ⟨some config.placeholderName, true⟩ fun given => ⟨given, false⟩

/-- An entry comes in with an open, or for an object found in it. -/
theorem Tenure.entered (h : Tenure config id before q since) :
    (q.op.Adopts id ↔ q.opening? (built config before) id = none) ∧
      (built config (before ++ [q])).title? id
        = some (firstTitle config (q.opening? (built config before) id)) := by
  have hnone := title?_eq_none_iff.mpr h.absent
  obtain ⟨c, hget⟩ := h.present [] List.nil_prefix
  have htitle := title?_of_some hget
  rw [built_concat] at htitle ⊢
  cases q.retitled (built_sound config before) id with
  | gone _ hnext => rw [hnext] at htitle; cases htitle
  | kept _ hnext => rw [hnext, hnone] at htitle; cases htitle
  | adopted hopening hadopts _ hnext =>
      rw [hnext, hopening, built_placeholderName]
      exact ⟨iff_of_true hadopts rfl, rfl⟩
  | entered hopening _ hnext =>
      rw [hnext, hopening]
      exact ⟨iff_of_false (Request.not_adopts_of_opening hopening) nofun, rfl⟩
  | opened _ hold => rw [hnone] at hold; cases hold

/-- From then on, the first open that reaches the entry settles its title. -/
theorem Tenure.title?_eq (h : Tenure config id before q since) :
    (built config (before ++ q :: since)).title? id
      = some ((firstOpen? id (built config (before ++ [q])) since).elim
          (firstTitle config (q.opening? (built config before) id))
          (firstTitle config (q.opening? (built config before) id)).opened) := by
  induction since using List.reverseRecOn with
  | nil => exact h.entered.2
  | append_singleton since r ih =>
      have hold := ih (h.of_prefix (List.prefix_append since [r]))
      have hbuilt : built config (before ++ q :: (since ++ [r]))
          = r.next (built config (before ++ q :: since)) := by
        rw [← List.cons_append, ← List.append_assoc, built_concat]
      obtain ⟨c, hget⟩ := h.present _ List.prefix_rfl
      have htitle := title?_of_some hget
      rw [firstOpen?_concat, ← built_cons]
      rw [hbuilt] at htitle ⊢
      cases r.retitled (built_sound config (before ++ q :: since)) id with
      | gone _ hnext => rw [hnext] at htitle; cases htitle
      | kept hopening hnext => rw [hnext, hopening, Option.or_none, hold]
      | adopted _ _ hnone => rw [hold] at hnone; cases hnone
      | entered _ hnone => rw [hold] at hnone; cases hnone
      | @opened given t hopening htitle hnext =>
          rw [hold] at htitle
          rw [hnext, hopening, ← Option.some.inj htitle]
          cases firstOpen? id (built config (before ++ [q])) since with
          | none => rfl
          | some earlier =>
              -- it was opened before, and is no placeholder any more
              exact congrArg some (Title.opened_of_not_placeholder
                (Title.placeholder_opened _ earlier) given)

/-- What is known of the title of an entry that came in with a request and is
    there since. -/
structure Titled (config : Config) (id : ContainerId)
    (before : List (Request ω η τ ρ)) (q : Request ω η τ ρ)
    (since : List (Request ω η τ ρ)) (c : Container τ ρ) : Prop where
  /-- It is a placeholder if and only if it came in for an object found in it and
      was not opened since. -/
  placeholder_iff : c.placeholder = true ↔ q.op.Adopts id ∧
    firstOpen? id (built config (before ++ [q])) since = none
  /-- All placeholders have one name. -/
  placeholder_name : c.placeholder = true → c.name = some config.placeholderName
  /-- The first open of a placeholder names it, or leaves it that name. -/
  promoted_name : ∀ given, q.op.Adopts id →
    firstOpen? id (built config (before ++ [q])) since = some given →
    c.name = (given <|> some config.placeholderName)
  /-- Any other entry came in with an open, and has the name given then. -/
  opened_name : ¬ q.op.Adopts id →
    q.opening? (built config before) id = some c.name
  /-- Once it is no placeholder, its title stays what it is. -/
  settled : ∀ part c₀, part <+: since →
    (built config (before ++ q :: part)).container? id = some c₀ →
    c₀.placeholder = false → c.title = c₀.title

theorem Tenure.settled (h : Tenure config id before q since)
    (hget : (built config (before ++ q :: since)).container? id = some c)
    {c₀ : Container τ ρ} (hpart : part <+: since)
    (hget₀ : (built config (before ++ q :: part)).container? id = some c₀)
    (hopen : c₀.placeholder = false) : c.title = c₀.title := by
  have htitle := h.title?_eq
  have htitle₀ := (h.of_prefix hpart).title?_eq
  obtain ⟨rest, rfl⟩ := hpart
  rw [title?_of_some hget, firstOpen?_append] at htitle
  rw [title?_of_some hget₀] at htitle₀
  rw [Option.some.inj htitle]
  cases hfirst : firstOpen? id (built config (before ++ [q])) part with
  | some given => rw [Option.some.inj htitle₀, hfirst, Option.some_or]
  | none =>
      rw [hfirst] at htitle₀
      rw [Option.none_or, Option.some.inj htitle₀]
      -- it came in with an open, and opens have no say after that
      cases firstOpen? id (after (built config (before ++ [q])) part) rest with
      | none => rfl
      | some given =>
          refine Title.opened_of_not_placeholder ?_ given
          exact (congrArg Title.placeholder (Option.some.inj htitle₀)).symm.trans hopen

theorem Tenure.titled (h : Tenure config id before q since)
    (hget : (built config (before ++ q :: since)).container? id = some c) :
    Titled config id before q since c := by
  obtain ⟨hadopts, -⟩ := h.entered
  have htitle := h.title?_eq
  rw [title?_of_some hget] at htitle
  replace htitle := Option.some.inj htitle
  cases hopening : q.opening? (built config before) id with
  | some given =>
      -- it came in with an open, and no later one has a say
      have hnot : ¬ q.op.Adopts id := Request.not_adopts_of_opening hopening
      have hgiven : c.title = ⟨given, false⟩ := by
        rw [htitle, hopening]
        cases firstOpen? id (built config (before ++ [q])) since <;> rfl
      have hflag : ¬ c.placeholder = true :=
        Bool.eq_false_iff.mp (congrArg Title.placeholder hgiven)
      refine ⟨?_, ?_, ?_, ?_, fun part c₀ => h.settled hget⟩
      · exact iff_of_false hflag fun h => hnot h.1
      · intro hplaceholder
        exact absurd hplaceholder hflag
      · intro _ hadopted
        exact absurd hadopted hnot
      · intro _
        rw [hopening, ← show c.name = given from congrArg Title.name hgiven]
  | none =>
      have hadopted : q.op.Adopts id := hadopts.mpr hopening
      rw [hopening] at htitle
      cases hfirst : firstOpen? id (built config (before ++ [q])) since with
      | none =>
          rw [hfirst] at htitle
          refine ⟨?_, ?_, ?_, ?_, fun part c₀ => h.settled hget⟩
          · exact iff_of_true (congrArg Title.placeholder htitle) ⟨hadopted, hfirst⟩
          · intro _
            exact congrArg Title.name htitle
          · intro given _ hgiven
            rw [hfirst] at hgiven
            cases hgiven
          · intro hnot
            exact absurd hadopted hnot
      | some given =>
          rw [hfirst] at htitle
          have hflag : ¬ c.placeholder = true :=
            Bool.eq_false_iff.mp (congrArg Title.placeholder htitle)
          refine ⟨?_, ?_, ?_, ?_, fun part c₀ => h.settled hget⟩
          · rw [hfirst]
            exact iff_of_false hflag nofun
          · intro hplaceholder
            exact absurd hplaceholder hflag
          · intro given' _ hgiven
            rw [hfirst] at hgiven
            rw [← Option.some.inj hgiven]
            exact congrArg Title.name htitle
          · intro hnot
            exact absurd hadopted hnot

/-! ## Runs that give back what they hold -/

namespace Op

/-- The operation gives back the last reference on the only node of a
    container. -/
def FreesLast (op : Op η τ ρ) (reg : Registry τ ρ) (id : ContainerId) : Prop :=
  ∃ node n, op = .untrack node ∧ node.container = id ∧
    reg.node? node = some n ∧ n.refcount = 1 ∧
    ∀ node' n', node'.container = id → reg.node? node' = some n' → node' = node

end Op

section

variable {held spent rest : Multiset Reference} {w : ω}

/-- Only an open of a container hands out an open of it. -/
theorem Request.mem_of_mem_settled
    (h : .opened id ∈ q.op.settled spent rest (q.perform reg).outcome)
    (hopening : q.opening? reg id = none) : .opened id ∈ spent + rest := by
  obtain ⟨memory, w, op⟩ := q
  rw [opening?] at hopening
  rcases ho : (Request.perform ⟨memory, w, op⟩ reg).outcome with a | e | f
  · rw [ho] at h hopening
    rcases Multiset.mem_add.mp h with hgained | hrest
    · cases op with
      | openContainer id' name =>
          cases Multiset.mem_singleton.mp hgained
          cases (if_pos rfl).symm.trans hopening
      | pinContainer id' => cases Multiset.mem_singleton.mp hgained
      | track id' kind token name raw =>
          cases a with
          | node handle => cases Multiset.mem_singleton.mp hgained
          | _ => exact absurd hgained (Multiset.notMem_zero _)
      | trackIn home reported kind token name raw =>
          cases a with
          | node handle => cases Multiset.mem_singleton.mp hgained
          | _ => exact absurd hgained (Multiset.notMem_zero _)
      | _ => exact absurd hgained (Multiset.notMem_zero _)
    · exact Multiset.mem_add.mpr (Or.inr hrest)
  · rw [ho] at h
    exact h
  · rw [ho] at h
    exact h

/-- A request that leaves a placeholder has not opened it, and found it as one
    or not at all. -/
theorem Request.of_placeholder_next (hs : reg.Sound)
    (hget : (q.next reg).container? id = some c) (hplaceholder : c.placeholder = true) :
    q.opening? reg id = none ∧ ∀ c₀, reg.container? id = some c₀ →
      c₀.placeholder = true := by
  have htitle := title?_of_some hget
  have hopened : ∀ {t : Title}, (q.next reg).title? id = some t →
      t.placeholder ≠ false := by
    intro t hnext hfalse
    rw [hnext] at htitle
    rw [Option.some.inj htitle, show c.title.placeholder = true from hplaceholder]
      at hfalse
    cases hfalse
  cases q.retitled hs id with
  | gone _ hnext => rw [hnext] at htitle; cases htitle
  | kept hopening hnext =>
      refine ⟨hopening, fun c₀ hget₀ => ?_⟩
      rw [hnext, title?_of_some hget₀] at htitle
      exact (congrArg Title.placeholder (Option.some.inj htitle)).trans hplaceholder
  | adopted hopening _ hnone =>
      refine ⟨hopening, fun c₀ hget₀ => ?_⟩
      rw [title?_of_some hget₀] at hnone
      cases hnone
  | entered _ _ hnext => exact absurd rfl (hopened hnext)
  | opened _ _ hnext => exact absurd (Title.placeholder_opened _ _) (hopened hnext)

/-- A placeholder is open to nobody. -/
theorem Reached.notMem_opened (h : Reached held w reg)
    (hget : reg.container? id = some c) (hplaceholder : c.placeholder = true) :
    .opened id ∉ held := by
  induction h generalizing c with
  | start config w => cases hget
  | other w' _ ih => exact ih hget hplaceholder
  | @step w reg memory op spent rest hreached _ ih =>
      let q : Request ω η τ ρ := ⟨memory, w, op⟩
      obtain ⟨hopening, hold⟩ :=
        q.of_placeholder_next hreached.sound hget hplaceholder
      intro hmem
      have hmem' := q.mem_of_mem_settled hmem hopening
      obtain ⟨c₀, hget₀⟩ := hreached.consistent.present _ hmem'
      exact ih hget₀ (hold c₀ hget₀) hmem'

/-- It counts its nodes and its pins. -/
theorem Reached.refcount_eq_of_placeholder (h : Reached held w reg)
    (hget : reg.container? id = some c) (hplaceholder : c.placeholder = true) :
    c.refcount = c.nodeCount + held.count (.pinned id) := by
  have hopened := Multiset.count_eq_zero.mpr (h.notMem_opened hget hplaceholder)
  rw [(h.consistent.entry hget).refcount_eq, Reference.holds, hopened, Nat.zero_add,
    Nat.add_comm]

/-- A container that nobody opened or pinned is there for a node. -/
theorem Consistent.exists_node (h : reg.Consistent held)
    (hget : reg.container? id = some c) (hopened : .opened id ∉ held)
    (hpinned : .pinned id ∉ held) :
    ∃ node n, node.container = id ∧ reg.node? node = some n := by
  rcases (h.accounted.container_iff id).mp ⟨c, hget⟩ with hmem | hmem | hnode
  · exact absurd hmem hopened
  · exact absurd hmem hpinned
  · exact hnode

/-- Without opens and pins, a container goes with its last node. -/
theorem Consistent.gone_iff (h : reg.Consistent (spent + rest)) (hs : reg.Sound)
    (hget : reg.container? id = some c) (hopened : .opened id ∉ spent + rest)
    (hpinned : .pinned id ∉ spent + rest) (hop : q.op.Backed spent rest) :
    (q.next reg).container? id = none ↔ q.op.FreesLast reg id := by
  constructor
  · intro hgone
    obtain ⟨node, n, rfl, hn⟩ := h.exists_node hget hopened hpinned
    obtain ⟨hnode, hlast⟩ := q.untracks_of_gone hs hn hgone
    refine ⟨node, n, hnode, rfl, hn, hlast, fun node' n' hcontainer hn' => ?_⟩
    obtain ⟨hnode', -⟩ := q.untracks_of_gone hs hn' (hcontainer ▸ hgone)
    exact Op.untrack.inj (hnode'.symm.trans hnode)
  · rintro ⟨node, n, hnode, hcontainer, hn, hlast, honly⟩
    obtain ⟨memory, w, op⟩ := q
    obtain rfl : op = .untrack node := hnode
    obtain rfl : spent = {.tracked node} := hop
    rw [Multiset.singleton_add] at h hopened hpinned
    have huntrack : (untrack node : Call (Registry τ ρ) RegistryError
        (Release ρ)).Ensures reg [] _ _ _ := untrack_ensures h
    obtain ⟨_, -, -, hrest⟩ := huntrack.exists_value
    rw [Request.next, Request.perform, Op.run, Op.map_alone_apply]
    refine Option.eq_none_iff_forall_ne_some.mpr fun c' hget' => ?_
    obtain ⟨node', n', hcontainer', hn'⟩ := hrest.exists_node hget'
      (fun hmem => hopened (Multiset.mem_cons_of_mem hmem))
      fun hmem => hpinned (Multiset.mem_cons_of_mem hmem)
    -- a node that is left would be the one that was given back for good
    have hmem := (hrest.node_iff node').mp ⟨n', hn'⟩
    obtain ⟨o, ho⟩ := (h.node_iff node').mpr (Multiset.mem_cons_of_mem hmem)
    obtain rfl : node' = node := honly node' o hcontainer' ho
    have hcount := (h.accounted.nodeRefcount_eq hn).2
    have hpos := Multiset.count_pos.mpr hmem
    rw [Multiset.count_cons_self] at hcount
    omega

end

/-! ## The life of a placeholder -/

/-- Every entry came in with some request and is there since, and its title is
    as `Titled` says.  To open a placeholder changes its title and adds a
    reference, and no more; to bring one in, or to track an object in it, leaves
    every other container alone.  As long as clients give back what they hold, a
    placeholder counts its nodes and its pins, and goes, where it is not pinned,
    with the last reference on its last node. -/
theorem placeholder_life (config : Config) :
    (∀ (requests : List (Request ω η τ ρ)) (id : ContainerId) (c : Container τ ρ),
      (built config requests).container? id = some c →
      ∃ before q since, requests = before ++ q :: since ∧
        Tenure config id before q since) ∧
    (∀ (before : List (Request ω η τ ρ)) (q : Request ω η τ ρ)
        (since : List (Request ω η τ ρ)) (id : ContainerId) (c : Container τ ρ),
      Tenure config id before q since →
      (built config (before ++ q :: since)).container? id = some c →
      Titled config id before q since c) ∧
    (∀ (requests : List (Request ω η τ ρ)) (q : Request ω η τ ρ) (id : ContainerId),
      (∀ c given, (built config requests).container? id = some c →
        c.placeholder = true →
        q.opening? (built config requests) id = some given →
        q.next (built config requests) = (built config requests).put { c with
          name := given <|> c.name
          placeholder := false
          refcount := c.refcount + 1 }) ∧
      (q.op.Adopts id → ∀ other, other ≠ id →
        (q.next (built config requests)).container? other
          = (built config requests).container? other)) ∧
    ∀ (held : Multiset Reference) (w : ω) (reg : Registry τ ρ) (id : ContainerId)
        (c : Container τ ρ), Reached held w reg → reg.container? id = some c →
      c.placeholder = true →
      c.refcount = c.nodeCount + held.count (.pinned id) ∧
      (.pinned id ∉ held →
        ∀ (q : Request ω η τ ρ) (spent rest : Multiset Reference),
          held = spent + rest → q.op.Backed spent rest →
          ((q.next reg).container? id = none ↔ q.op.FreesLast reg id)) := by
  refine ⟨?_, ?_, ?_, ?_⟩
  · intro requests id c hget
    exact exists_tenure hget
  · intro before q since id c h hget
    exact h.titled hget
  · intro requests q id
    constructor
    · intro c given hget hplaceholder hopening
      exact Request.next_of_promotion hget hplaceholder hopening
    · intro hadopts other hother
      exact Request.next_elsewhere_of_adopts (built_sound config requests) hadopts
        hother
  · intro held w reg id c hreached hget hplaceholder
    have hopened := hreached.notMem_opened hget hplaceholder
    refine ⟨hreached.refcount_eq_of_placeholder hget hplaceholder, ?_⟩
    rintro hpinned q spent rest rfl hop
    exact hreached.consistent.gone_iff hreached.sound hget hopened hpinned hop

/-- A container that comes in for an object found in it, and is opened then. -/
theorem placeholder_life_of_promoted :
    ∃ (before : List (Request Bytewise Unit Token Empty))
      (q later : Request Bytewise Unit Token Empty) (c : Container Token Empty),
      q.op.Adopts ⟨2⟩ ∧
      (built Config.default (before ++ [q, later])).container? ⟨2⟩ = some c ∧
      c.placeholder = false ∧ c.name = some "late" ∧ c.refcount = 2 := by
  have hlife := placeholder_life (ω := Bytewise) (η := Unit) (τ := Token) (ρ := Empty)
    Config.default
  have htenure : Tenure Config.default ⟨2⟩
      ([.plain (.openContainer ⟨1⟩ none)] : List (Request Bytewise Unit Token Empty))
      (.plain (.trackIn ⟨1⟩ ⟨2⟩ .dataset (.ofAddress 5) none ()))
      [.plain (.openContainer ⟨2⟩ (some "late"))] := by
    refine ⟨rfl, fun part hpart => ?_⟩
    rcases List.prefix_cons_iff.mp hpart with rfl | ⟨rest, rfl, hrest⟩
    · exact ⟨_, rfl⟩
    · rw [List.prefix_nil.mp hrest]
      exact ⟨_, rfl⟩
  have htitled := hlife.2.1 _ _ _ ⟨2⟩ _ htenure rfl
  have hadopts : (.trackIn ⟨1⟩ ⟨2⟩ .dataset (.ofAddress 5) none () :
      Op Unit Token Empty).Adopts ⟨2⟩ := ⟨rfl, by decide⟩
  have hname := htitled.promoted_name (some "late") hadopts rfl
  exact ⟨[.plain (.openContainer ⟨1⟩ none)],
    .plain (.trackIn ⟨1⟩ ⟨2⟩ .dataset (.ofAddress 5) none ()),
    .plain (.openContainer ⟨2⟩ (some "late")), _, hadopts, rfl, rfl, hname, rfl⟩

end Provenance.Registry
