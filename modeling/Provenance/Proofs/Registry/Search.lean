import Provenance.Proofs.Registry.Beside
import Provenance.Proofs.Registry.Integrity

/-! # The search of a track

    To find the node of an object, a registry asks its library about one node
    after another.  The library may answer as it likes, and what it answers may
    depend on all that it was asked before.  So the comparisons are written down
    beside its state, in the order in which they are made (`Recorded`); the
    library does not notice.

    A search through a list of candidates asks about them in their order, about
    each of them once, and about none after the first match or the first failure
    (`Identity.firstMatch_scanned`).  The candidates of a track are the nodes of
    its kind in its container, and since nodes are kept by their numbers, the
    newest comes first (`search_order`). -/

namespace Provenance

variable {ω η τ ρ α : Type}

/-! ## Comparisons that are written down -/

/-- A comparison of two tokens on behalf of a raw handle, with its answer. -/
structure Comparison (η τ : Type) where
  raw : η
  first : τ
  second : τ
  answer : Outcome IdentityError Ordering

/-- A world, with the comparisons that its library was asked for, in order. -/
structure Recorded (ω η τ : Type) where
  world : ω
  asked : List (Comparison η τ)

namespace Recorded

/-- A world whose library was not asked anything yet. -/
def start (w : ω) : Recorded ω η τ := ⟨w, []⟩

instance [Identity ω η τ] : Identity (Recorded ω η τ) η τ where
  compare raw a b s :=
    let r := Identity.compare raw a b s.world
    ⟨r.outcome, ⟨r.state, s.asked ++ [⟨raw, a, b, r.outcome⟩]⟩, r.events⟩

theorem projects [Identity ω η τ] :
    Identity.Projects (η := η) (τ := τ) (world : Recorded ω η τ → ω) :=
  fun _ _ _ _ => rfl

end Recorded

/-! ## Searching a list -/

namespace Identity

/-- The comparisons tell candidates apart from a token, one after another. -/
def ToldApart (tokenOf : α → τ) (raw : η) (token : τ) :
    List α → List (Comparison η τ) → Prop :=
  List.Forall₂ fun a q =>
    ∃ order, order ≠ .eq ∧ q = ⟨raw, tokenOf a, token, .value order⟩

/-- How a search through candidates ends, with the comparisons that it makes:
    all candidates are told apart, or those before the one that it stops at. -/
inductive Scanned (tokenOf : α → τ) (raw : η) (token : τ) (l : List α) :
    Outcome IdentityError (Option α) → List (Comparison η τ) → Prop
  | passed {asked : List (Comparison η τ)}
      (hapart : ToldApart tokenOf raw token l asked) :
      Scanned tokenOf raw token l (.value none) asked
  | found {before later : List α} {a : α} {asked : List (Comparison η τ)}
      (hl : l = before ++ a :: later)
      (hapart : ToldApart tokenOf raw token before asked) :
      Scanned tokenOf raw token l (.value (some a))
        (asked ++ [⟨raw, tokenOf a, token, .value .eq⟩])
  | failed {before later : List α} {a : α} {asked : List (Comparison η τ)}
      {e : IdentityError} (hl : l = before ++ a :: later)
      (hapart : ToldApart tokenOf raw token before asked) :
      Scanned tokenOf raw token l (.error e)
        (asked ++ [⟨raw, tokenOf a, token, .error e⟩])
  | faulted {before later : List α} {a : α} {asked : List (Comparison η τ)}
      {f : Fault} (hl : l = before ++ a :: later)
      (hapart : ToldApart tokenOf raw token before asked) :
      Scanned tokenOf raw token l (.fault f)
        (asked ++ [⟨raw, tokenOf a, token, .fault f⟩])

section

variable {tokenOf : α → τ} {raw : η} {token : τ} {l : List α} {a : α}
  {order : Ordering} {verdict : Outcome IdentityError (Option α)}
  {asked : List (Comparison η τ)}

/-- A search goes on after a candidate that is told apart. -/
theorem Scanned.cons (a : α) (horder : order ≠ .eq)
    (h : Scanned tokenOf raw token l verdict asked) :
    Scanned tokenOf raw token (a :: l) verdict
      (⟨raw, tokenOf a, token, .value order⟩ :: asked) := by
  cases h with
  | passed hapart => exact .passed (.cons ⟨order, horder, rfl⟩ hapart)
  | @found before later b asked hl hapart =>
      subst hl
      exact .found (List.cons_append ..).symm (.cons ⟨order, horder, rfl⟩ hapart)
  | @failed before later b asked e hl hapart =>
      subst hl
      exact .failed (List.cons_append ..).symm (.cons ⟨order, horder, rfl⟩ hapart)
  | @faulted before later b asked f hl hapart =>
      subst hl
      exact .faulted (List.cons_append ..).symm (.cons ⟨order, horder, rfl⟩ hapart)

/-- The answers that tell tokens apart are no matches. -/
theorem ToldApart.answer (h : ToldApart tokenOf raw token l asked)
    {q : Comparison η τ} (hq : q ∈ asked) :
    ∃ order, order ≠ .eq ∧ q.answer = .value order := by
  induction h with
  | nil => cases hq
  | cons hfirst _ ih =>
      rcases List.mem_cons.mp hq with rfl | hq
      · obtain ⟨order, horder, rfl⟩ := hfirst
        exact ⟨order, horder, rfl⟩
      · exact ih hq

/-- A search comes to nothing if and only if all candidates are told apart. -/
theorem Scanned.passed_iff (h : Scanned tokenOf raw token l verdict asked) :
    verdict = .value none ↔ ToldApart tokenOf raw token l asked := by
  -- the last answer of a search that stops tells nothing apart
  have hlast : ∀ {before : List (Comparison η τ)} {q : Comparison η τ},
      ToldApart tokenOf raw token l (before ++ [q]) →
        ∃ order, order ≠ .eq ∧ q.answer = .value order := fun hall =>
    ToldApart.answer hall (List.mem_append_right _ (List.mem_singleton_self _))
  cases h with
  | passed hapart => exact iff_of_true rfl hapart
  | found hl hapart =>
      refine iff_of_false nofun fun hall => ?_
      obtain ⟨order, horder, heq⟩ := hlast hall
      cases heq
      exact horder rfl
  | failed hl hapart =>
      refine iff_of_false nofun fun hall => ?_
      obtain ⟨order, -, heq⟩ := hlast hall
      cases heq
  | faulted hl hapart =>
      refine iff_of_false nofun fun hall => ?_
      obtain ⟨order, -, heq⟩ := hlast hall
      cases heq

end

/-- A search asks about the candidates in their order, and stops at the first
    match or failure. -/
theorem firstMatch_scanned [Identity ω η τ] (tokenOf : α → τ) (raw : η) (token : τ)
    (l : List α) (s : Recorded ω η τ) :
    ∃ asked, (firstMatch tokenOf raw token l s).state.asked = s.asked ++ asked ∧
      Scanned tokenOf raw token l (firstMatch tokenOf raw token l s).outcome
        asked := by
  induction l generalizing s with
  | nil => exact ⟨[], (List.append_nil _).symm, .passed .nil⟩
  | cons a rest ih =>
      have hcompare : compare raw (tokenOf a) token s
          = ⟨(compare raw (tokenOf a) token s.world).outcome,
            ⟨(compare raw (tokenOf a) token s.world).state, s.asked ++
              [⟨raw, tokenOf a, token,
                (compare raw (tokenOf a) token s.world).outcome⟩]⟩,
            (compare raw (tokenOf a) token s.world).events⟩ := rfl
      rw [firstMatch, sameObject]
      rcases hr : compare raw (tokenOf a) token s.world with ⟨order | e | f, w, ev⟩
      · rw [hr] at hcompare
        rw [Call.bind_of_value (Call.bind_of_value hcompare)]
        by_cases ho : (order == .eq) = true
        · obtain rfl : order = .eq := eq_of_beq ho
          exact ⟨_, rfl, .found (List.nil_append _).symm .nil⟩
        · obtain ⟨asked, hasked, hscanned⟩ := ih
            ⟨w, s.asked ++ [⟨raw, tokenOf a, token, .value order⟩]⟩
          simp only [Call.pure_apply, if_neg ho]
          refine ⟨_, ?_, hscanned.cons a fun heq => ho (beq_of_eq heq)⟩
          rw [hasked, List.append_assoc]
          rfl
      · rw [hr] at hcompare
        rw [Call.bind_of_error (Call.bind_of_error hcompare)]
        exact ⟨_, rfl, .failed (List.nil_append _).symm .nil⟩
      · rw [hr] at hcompare
        rw [Call.bind_of_fault (Call.bind_of_fault hcompare)]
        exact ⟨_, rfl, .faulted (List.nil_append _).symm .nil⟩

end Identity

/-! ## Tracking -/

namespace Registry

variable {reg : Registry τ ρ} {id : ContainerId} {c : Container τ ρ} {kind : Kind}
  {memory : Memory} {token : τ} {name : Option String} {raw : η} {w : ω}

/-- What a track makes of the verdict of its search: it reuses the node found,
    makes one if none was found and there is memory for the name, and fails or
    faults with the library. -/
def Concludes (memory : Memory) (reg : Registry τ ρ) (id : ContainerId)
    (c : Container τ ρ) (kind : Kind) (token : τ) (name : Option String) :
    Outcome IdentityError (Option (Node τ)) →
      Outcome RegistryError NodeHandle → Registry τ ρ → Prop
  | .value (some n), outcome, reg' =>
      outcome = .value ⟨id, kind, n.id⟩ ∧ reg' = reg.put (c.putNode kind n.again)
  | .value none, outcome, reg' =>
      if grantsName memory .objectName name then
        outcome = .value ⟨id, kind, ⟨reg.nextNode⟩⟩ ∧
          reg' = { reg with nextNode := reg.nextNode + 1 }.put
            (c.addNode kind (.first ⟨reg.nextNode⟩ id kind token name))
      else outcome = .error (.outOfMemory Purpose.objectName.text) ∧ reg' = reg
  | .error e, outcome, reg' => outcome = .error (.identity e) ∧ reg' = reg
  | .fault f, outcome, reg' => outcome = .fault f ∧ reg' = reg

/-- The nodes of a kind come in strictly decreasing order of their numbers. -/
theorem newestFirst_decreasing (h : c.Sound reg.nextNode id) (kind : Kind) :
    (c.newestFirst kind).Pairwise fun a b => b.id.number < a.id.number := by
  rw [Container.newestFirst, List.pairwise_reverse, IdMap.values, List.pairwise_map]
  refine (c.nodes.get kind).ascending.imp_of_mem ?_
  intro a b ha hb hlt
  -- each node is kept under its own number
  obtain hida := h.number_eq (IdMap.get?_eq_some_iff.mpr ha)
  obtain hidb := h.number_eq (IdMap.get?_eq_some_iff.mpr hb)
  rw [hida, hidb]
  exact hlt

theorem mem_newestFirst (h : c.Sound reg.nextNode id) {n : Node τ} :
    n ∈ c.newestFirst kind ↔ c.node? kind n.id = some n := by
  rw [Container.newestFirst, List.mem_reverse, IdMap.mem_values_iff]
  constructor
  · rintro ⟨m, hm⟩
    obtain rfl : n.id = m := h.number_eq hm
    exact hm
  · intro hn
    exact ⟨n.id, hn⟩

section

variable [Identity ω η τ]

/-- A track asks what its search asks, and concludes from the verdict. -/
theorem track_concludes (hget : reg.container? id = some c)
    (hc : c.Sound reg.nextNode id) (memory : Memory) (kind : Kind) (token : τ)
    (name : Option String) (raw : η) (w : ω) :
    (track memory id kind token name raw (w, reg)).state.1
        = (Identity.firstMatch Node.token raw token (c.newestFirst kind) w).state ∧
      Concludes memory reg id c kind token name
        (Identity.firstMatch Node.token raw token (c.newestFirst kind) w).outcome
        (track memory id kind token name raw (w, reg)).outcome
        (track memory id kind token name raw (w, reg)).state.2 := by
  have hsearch := Identity.firstMatch_ensures Identity.compare_keeps_true
    Node.token raw token (c.newestFirst kind) w [] trivial
  have hask : (ask (Identity.firstMatch Node.token raw token (c.newestFirst kind)) :
      Call (ω × Registry τ ρ) _ _) (w, reg)
      = ⟨(Identity.firstMatch Node.token raw token (c.newestFirst kind)
          w).outcome.mapError .identity,
        ((Identity.firstMatch Node.token raw token (c.newestFirst kind) w).state, reg),
        (Identity.firstMatch Node.token raw token (c.newestFirst kind)
          w).events⟩ := rfl
  rw [track, Call.bind_of_value (Call.state_apply _)]
  simp only [hget]
  rcases hr : Identity.firstMatch Node.token raw token (c.newestFirst kind) w with
    ⟨found | e | f, w', ev⟩
  · rw [hr] at hask
    rw [Call.bind_of_value hask]
    cases found with
    | none =>
        have hmake := makeNode_apply memory kind token name hget
        refine ⟨rfl, ?_⟩
        simp only [Concludes]
        by_cases hm : grantsName memory .objectName name = true
        · rw [if_pos hm] at hmake ⊢
          simp only [alone, Call.focus, hmake]
          exact ⟨trivial, trivial⟩
        · rw [if_neg hm] at hmake ⊢
          simp only [alone, Call.focus, hmake]
          exact ⟨trivial, trivial⟩
    | some n =>
        -- the node found is one of those in the container
        have houtcome : (Identity.firstMatch Node.token raw token (c.newestFirst kind)
            w).outcome = .value (some n) := by rw [hr]
        obtain ⟨-, hsome, -⟩ := hsearch.value houtcome
        have hn := (mem_newestFirst hc).mp (hsome n rfl).1
        have hreuse := reuseNode_apply (ε := RegistryError) hget hn (hc.handle_eq hn)
        refine ⟨rfl, ?_⟩
        simp only [alone, Call.focus, hreuse]
        exact ⟨rfl, rfl⟩
  · rw [hr] at hask
    rw [Call.bind_of_error hask]
    exact ⟨rfl, rfl, rfl⟩
  · rw [hr] at hask
    rw [Call.bind_of_fault hask]
    exact ⟨rfl, rfl, rfl⟩

/-- A track whose comparisons are written down. -/
def trackRecorded (memory : Memory) (reg : Registry τ ρ) (id : ContainerId)
    (kind : Kind) (token : τ) (name : Option String) (raw : η) (w : ω) :
    Ending (Recorded ω η τ × Registry τ ρ) RegistryError NodeHandle :=
  track memory id kind token name raw (.start w, reg)

/-- How a track searches an open container. -/
structure Searches (memory : Memory) (reg : Registry τ ρ) (id : ContainerId)
    (c : Container τ ρ) (kind : Kind) (token : τ) (name : Option String) (raw : η)
    (w : ω) : Prop where
  /-- Writing the comparisons down changes nothing else. -/
  unnoticed : track memory id kind token name raw (w, reg)
    = ⟨(trackRecorded memory reg id kind token name raw w).outcome,
      ((trackRecorded memory reg id kind token name raw w).state.1.world,
        (trackRecorded memory reg id kind token name raw w).state.2),
      (trackRecorded memory reg id kind token name raw w).events⟩
  /-- The candidates are the nodes of the kind in the container. -/
  candidates : ∀ n,
    n ∈ c.newestFirst kind ↔ reg.node? ⟨id, kind, n.id⟩ = some n
  decreasing : (c.newestFirst kind).Pairwise fun a b => b.id.number < a.id.number
  /-- They are asked about in that order, up to the first match or failure, and
      the track concludes from the last answer. -/
  scanned : ∃ verdict,
    Identity.Scanned Node.token raw token (c.newestFirst kind) verdict
      (trackRecorded memory reg id kind token name raw w).state.1.asked ∧
    Concludes memory reg id c kind token name verdict
      (trackRecorded memory reg id kind token name raw w).outcome
      (trackRecorded memory reg id kind token name raw w).state.2
  /-- With memory for its name, a node is made if and only if all of them were
      told apart. -/
  made_iff : grantsName memory .objectName name = true →
    ((trackRecorded memory reg id kind token name raw w).state.2.nextNode
        = reg.nextNode + 1 ↔
      Identity.ToldApart Node.token raw token (c.newestFirst kind)
        (trackRecorded memory reg id kind token name raw w).state.1.asked)
  /-- An object asked for elsewhere and found here is searched here only. -/
  reported : ∀ home, home ≠ id →
    trackIn memory home id kind token name raw (.start w, reg)
      = trackRecorded memory reg id kind token name raw w

/-- Only a search that comes to nothing makes a node. -/
theorem Concludes.nextNode {verdict : Outcome IdentityError (Option (Node τ))}
    {outcome : Outcome RegistryError NodeHandle} {reg' : Registry τ ρ}
    (h : Concludes memory reg id c kind token name verdict outcome reg')
    (hm : grantsName memory .objectName name = true) :
    reg'.nextNode = reg.nextNode + 1 ↔ verdict = .value none := by
  have hne : ¬ reg.nextNode = reg.nextNode + 1 := by omega
  rcases verdict with (_ | n) | e | f
  · simp only [Concludes, if_pos hm] at h
    obtain ⟨-, rfl⟩ := h
    exact iff_of_true rfl rfl
  · obtain ⟨-, rfl⟩ := h
    exact iff_of_false hne nofun
  · obtain ⟨-, rfl⟩ := h
    exact iff_of_false hne nofun
  · obtain ⟨-, rfl⟩ := h
    exact iff_of_false hne nofun

/-- Only in a reported container that is not open, tracking is more than a
    track. -/
theorem trackIn_of_known {home : ContainerId}
    (hknown : id = home ∨ ∃ c, reg.container? id = some c) (memory : Memory)
    (kind : Kind) (token : τ) (name : Option String) (raw : η) (w : ω) :
    trackIn memory home id kind token name raw (w, reg)
      = track memory id kind token name raw (w, reg) := by
  have hcontains : id = home ∨ reg.containers.contains id = true := by
    refine hknown.imp_right fun ⟨c, hget⟩ => ?_
    rw [show reg.containers.contains id = (reg.container? id).isSome from rfl, hget]
    rfl
  rw [trackIn, Call.bind_of_value (Call.state_apply _)]
  simp only [if_pos hcontains]
  rfl

theorem track_searches (hs : reg.Sound) (hget : reg.container? id = some c)
    (memory : Memory) (kind : Kind) (token : τ) (name : Option String) (raw : η)
    (w : ω) : Searches memory reg id c kind token name raw w := by
  have hc := hs.entry hget
  obtain ⟨hworld, hconcludes⟩ := track_concludes hget hc memory kind token name raw
    (Recorded.start w : Recorded ω η τ)
  obtain ⟨asked, hasked, hscanned⟩ := Identity.firstMatch_scanned Node.token raw token
    (c.newestFirst kind) (Recorded.start w : Recorded ω η τ)
  have hnew : (trackRecorded memory reg id kind token name raw w).state.1.asked
      = asked := by
    rw [trackRecorded, hworld, hasked]
    rfl
  refine ⟨?_, ?_, newestFirst_decreasing hc kind, ?_, ?_, ?_⟩
  · exact track_mirrors Recorded.projects memory id kind token name raw
      (.start w, reg)
  · intro n
    rw [mem_newestFirst hc, node?_of_container? hget rfl]
  · rw [hnew]
    exact ⟨_, hscanned, hconcludes⟩
  · intro hm
    rw [hnew, ← hscanned.passed_iff]
    exact hconcludes.nextNode hm
  · intro home _
    exact trackIn_of_known (Or.inr ⟨c, hget⟩) memory kind token name raw _

theorem track_of_not_open (hget : reg.container? id = none) (memory : Memory)
    (kind : Kind) (token : τ) (name : Option String) (raw : η) (w : ω) :
    track memory id kind token name raw (w, reg)
      = ⟨.error (.containerNotOpen id), (w, reg), []⟩ := by
  rw [track, Call.bind_of_value (Call.state_apply _)]
  simp only [hget]
  rfl

/-- Where there are no nodes, nothing is asked of the library. -/
theorem track_of_no_nodes (hget : reg.container? id = some c) (kind : Kind)
    (hnone : c.newestFirst kind = []) (memory : Memory) (token : τ)
    (name : Option String) (raw : η) (w : ω) :
    track memory id kind token name raw (w, reg)
      = alone (makeNode memory id kind token name) (w, reg) := by
  have hask : (ask (Identity.firstMatch Node.token raw token (c.newestFirst kind)) :
      Call (ω × Registry τ ρ) _ _) (w, reg) = ⟨.value none, (w, reg), []⟩ := by
    rw [hnone]
    rfl
  rw [track, Call.bind_of_value (Call.state_apply _)]
  simp only [hget]
  rw [Call.bind_of_value hask]
  rfl

/-- To track in a container that is not open is to ask the library nothing: the
    first node of a placeholder is made, if there is memory for both names. -/
theorem trackIn_of_not_open (hget : reg.container? id = none) (memory : Memory)
    {home : ContainerId} (hhome : home ≠ id) (kind : Kind) (token : τ)
    (name : Option String) (raw : η) (w : ω) :
    trackIn memory home id kind token name raw (w, reg)
      = if grantsName memory .placeholderName (some reg.placeholderName) then
          if grantsName memory .objectName name then
            ⟨.value ⟨id, kind, ⟨reg.nextNode⟩⟩,
              (w, { reg with nextNode := reg.nextNode + 1 }.put
                ((Container.fresh id (some reg.placeholderName) true).addNode kind
                  (.first ⟨reg.nextNode⟩ id kind token name))), []⟩
          else ⟨.error (.outOfMemory Purpose.objectName.text), (w, reg), []⟩
        else ⟨.error (.outOfMemory Purpose.placeholderName.text), (w, reg), []⟩ := by
  have hknown : ¬ (id = home ∨ reg.containers.contains id = true) := by
    rintro (rfl | hcontains)
    · exact hhome rfl
    · rw [show reg.containers.contains id = (reg.container? id).isSome from rfl,
        hget] at hcontains
      cases hcontains
  rw [trackIn, Call.bind_of_value (Call.state_apply _)]
  simp only [if_neg hknown]
  by_cases hm : grantsName memory .placeholderName (some reg.placeholderName) = true
  · let p : Container τ ρ := .fresh id (some reg.placeholderName) true
    have hput : (alone (makePlaceholder memory id) :
        Call (ω × Registry τ ρ) RegistryError Unit) (w, reg)
        = ⟨.value (), (w, reg.put p), []⟩ := by
      simp only [alone, Call.focus, makePlaceholder, if_pos hm]
      rfl
    have hget' : (reg.put p).container? id = some p :=
      (container?_put _ _ _).trans (if_pos rfl)
    have htrack := track_of_no_nodes hget' kind (by
      simp [p, Container.newestFirst, Container.fresh]) memory token name raw w
    simp only [alone, Call.focus, makeNode_apply memory kind token name hget'] at htrack
    rw [if_pos hm, Call.bind_of_value hput]
    by_cases hn : grantsName memory .objectName name = true
    · rw [if_pos hn] at htrack ⊢
      rw [Call.onError_of_value htrack, ← put_put { reg with
        nextNode := reg.nextNode + 1 } (Container.id_addNode p kind _)]
      rfl
    · rw [if_neg hn] at htrack ⊢
      have hundo : (alone (Call.modify fun reg => reg.remove id) :
          Call (ω × Registry τ ρ) RegistryError Unit) (w, reg.put p)
          = ⟨.value (), (w, reg), []⟩ :=
        congrArg (fun reg => (⟨.value (), (w, reg), []⟩ : Ending _ _ _))
          (remove_put reg (c := p) hget)
      rw [Call.onError_of_error htrack hundo]
      rfl
  · have hput : (alone (makePlaceholder memory id) :
        Call (ω × Registry τ ρ) RegistryError Unit) (w, reg)
        = ⟨.error (.outOfMemory Purpose.placeholderName.text), (w, reg), []⟩ := by
      simp only [alone, Call.focus, makePlaceholder, if_neg hm]
    rw [if_neg hm, Call.bind_of_error hput]
    rfl

/-- Whatever the library answers, and whatever it was asked before, a track asks
    it about the nodes of its kind in the reported container alone, the newest
    first, and about none in a container that is not open. -/
theorem search_order (config : Config) (requests : List (Request ω η τ ρ))
    (memory : Memory) (id : ContainerId) (kind : Kind) (token : τ)
    (name : Option String) (raw : η) (w : ω) :
    (∀ c, (built config requests).container? id = some c →
      Searches memory (built config requests) id c kind token name raw w) ∧
    ((built config requests).container? id = none →
      (∀ home, home ≠ id →
        (trackIn memory home id kind token name raw
          ((.start w : Recorded ω η τ), built config requests)).state.1
            = .start w) ∧
      (trackRecorded memory (built config requests) id kind token name raw w).outcome
        = .error (.containerNotOpen id)) := by
  have hs := built_sound config requests
  constructor
  · intro c hget
    exact track_searches hs hget memory kind token name raw w
  · intro hget
    constructor
    · intro home hhome
      rw [trackIn_of_not_open hget memory hhome]
      split
      · split <;> rfl
      · rfl
    · rw [trackRecorded, track_of_not_open hget]

end

/-- Of three datasets the second is gone again: the third is asked about first,
    and then the first, which is the one that is tracked. -/
theorem search_order_of_removed_between :
    ∃ (requests : List (Request Bytewise Unit Token Empty)) (c : Container Token Empty),
      (built Config.default requests).container? ⟨1⟩ = some c ∧
      Searches Memory.addressSpace (built Config.default requests) ⟨1⟩ c .dataset
        (.ofAddress 5) none () Bytewise.mk ∧
      (trackRecorded Memory.addressSpace (built Config.default requests) ⟨1⟩ .dataset
        (.ofAddress 5) none () Bytewise.mk).state.1.asked.map Comparison.first
        = [.ofAddress 7, .ofAddress 5] := by
  have horder := search_order (ρ := Empty) Config.default
    [.plain (.openContainer ⟨1⟩ none),
      .plain (.track ⟨1⟩ .dataset (.ofAddress 5) none ()),
      .plain (.track ⟨1⟩ .dataset (.ofAddress 6) none ()),
      .plain (.track ⟨1⟩ .dataset (.ofAddress 7) none ()),
      .plain (.untrack ⟨⟨1⟩, .dataset, ⟨2⟩⟩)]
    Memory.addressSpace ⟨1⟩ .dataset (.ofAddress 5) none () Bytewise.mk
  exact ⟨_, _, rfl, horder.1 _ rfl, rfl⟩

end Registry

end Provenance
