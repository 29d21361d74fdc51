import Provenance.Proofs.Registry.Titles
import Provenance.Proofs.Registry.Uniqueness

/-! # One container at a time

    Every operation but the check of all open things is about one container
    (`Op.target?`).  How it ends, and the entry that it leaves there, can be told
    from the entry that it finds there.  Only the number of a new node comes from
    elsewhere: the registry counts the nodes of all containers.

    So if comparisons are a fixed function of the tokens, a request comes down to
    one `Effect`, whatever the other containers are (`Request.exists_effect`). -/

namespace Provenance

variable {ω η τ ρ ε α : Type}

/-- With a fixed comparison, the verdict of a search does not depend on the
    world. -/
theorem Identity.Fixed.exists_verdict [Identity ω η τ]
    {cmp : τ → τ → Outcome IdentityError Ordering} (hcmp : Fixed ω cmp)
    (tokenOf : α → τ) (raw : η) (token : τ) (l : List α) :
    ∃ verdict, ∀ w : ω, (firstMatch tokenOf raw token l w).outcome = verdict := by
  induction l with
  | nil => exact ⟨.value none, fun _ => rfl⟩
  | cons a rest ih =>
      obtain ⟨verdict, hverdict⟩ := ih
      have hfirst := fun w : ω => hcmp raw (tokenOf a) token w
      cases hanswer : cmp (tokenOf a) token with
      | value order =>
          refine ⟨if (order == .eq) = true then .value (some a) else verdict, ?_⟩
          intro w
          have hw := hfirst w
          rw [firstMatch, sameObject]
          rcases hr : compare raw (tokenOf a) token w with ⟨o, w', ev⟩
          obtain rfl : o = .value order := by
            rw [hr, hanswer] at hw
            exact hw
          rw [Call.bind_of_value (Call.bind_of_value hr)]
          by_cases ho : (order == .eq) = true
          · simp only [Call.pure_apply, if_pos ho]
          · simp only [Call.pure_apply, if_neg ho]
            exact hverdict w'
      | error e =>
          refine ⟨.error e, fun w => ?_⟩
          have hw := hfirst w
          rw [firstMatch, sameObject]
          rcases hr : compare raw (tokenOf a) token w with ⟨o, w', ev⟩
          obtain rfl : o = .error e := by
            rw [hr, hanswer] at hw
            exact hw
          rw [Call.bind_of_error (Call.bind_of_error hr)]
      | fault f =>
          refine ⟨.fault f, fun w => ?_⟩
          have hw := hfirst w
          rw [firstMatch, sameObject]
          rcases hr : compare raw (tokenOf a) token w with ⟨o, w', ev⟩
          obtain rfl : o = .fault f := by
            rw [hr, hanswer] at hw
            exact hw
          rw [Call.bind_of_fault (Call.bind_of_fault hr)]

namespace Registry

variable {reg reg' : Registry τ ρ} {id id' : ContainerId} {c : Container τ ρ}
  {entry entry' : Option (Container τ ρ)}

/-! ## Setting an entry -/

/-- Put an entry under a name, or leave out the one there. -/
def setEntry (reg : Registry τ ρ) (id : ContainerId) :
    Option (Container τ ρ) → Registry τ ρ
  | some c => { reg with containers := reg.containers.insert id c }
  | none => reg.remove id

@[simp]
theorem container?_setEntry (reg : Registry τ ρ) (id : ContainerId)
    (entry : Option (Container τ ρ)) (j : ContainerId) :
    (reg.setEntry id entry).container? j = if id = j then entry else reg.container? j := by
  cases entry with
  | some c => exact IdMap.get?_insert reg.containers id j c
  | none => exact container?_remove reg id j

@[simp]
theorem nextNode_setEntry (reg : Registry τ ρ) (id : ContainerId)
    (entry : Option (Container τ ρ)) : (reg.setEntry id entry).nextNode = reg.nextNode := by
  cases entry <;> rfl

@[simp]
theorem placeholderName_setEntry (reg : Registry τ ρ) (id : ContainerId)
    (entry : Option (Container τ ρ)) :
    (reg.setEntry id entry).placeholderName = reg.placeholderName := by
  cases entry <;> rfl

/-- Registries with the same entries, the same next number and the same name for
    placeholders are one. -/
theorem ext_container? (hentries : ∀ id, reg.container? id = reg'.container? id)
    (hnext : reg.nextNode = reg'.nextNode)
    (hname : reg.placeholderName = reg'.placeholderName) : reg = reg' := by
  obtain ⟨containers, next, name⟩ := reg
  obtain ⟨containers', next', name'⟩ := reg'
  obtain rfl : containers = containers' := IdMap.ext_get? hentries
  obtain rfl : next = next' := hnext
  obtain rfl : name = name' := hname
  rfl

theorem setEntry_self (hget : reg.container? id = entry) :
    reg.setEntry id entry = reg := by
  refine ext_container? (fun j => ?_) (nextNode_setEntry _ _ _)
    (placeholderName_setEntry _ _ _)
  rw [container?_setEntry]
  by_cases hid : id = j
  · rw [if_pos hid, ← hid, hget]
  · rw [if_neg hid]

theorem put_setEntry (reg : Registry τ ρ) (hid : c.id = id)
    (entry : Option (Container τ ρ)) :
    (reg.put c).setEntry id entry = reg.setEntry id entry := by
  refine ext_container? (fun j => ?_) ?_ ?_
  · rw [container?_setEntry, container?_setEntry, container?_put, hid]
    by_cases hj : id = j
    · rw [if_pos hj, if_pos hj]
    · rw [if_neg hj, if_neg hj, if_neg hj]
  · rw [nextNode_setEntry, nextNode_setEntry]
    rfl
  · rw [placeholderName_setEntry, placeholderName_setEntry]
    rfl

theorem put_eq_setEntry (reg : Registry τ ρ) (hid : c.id = id) :
    reg.put c = reg.setEntry id (some c) := by
  subst hid
  rfl

/-! ## Calls on one entry -/

/-- How a call ends and the entry that it leaves can be told from the entry that it
    finds. -/
def Local (id : ContainerId) (entry : Option (Container τ ρ))
    (x : Call (Registry τ ρ) ε α) : Prop :=
  ∃ outcome left, ∀ reg : Registry τ ρ, reg.container? id = entry →
    (x reg).outcome = outcome ∧ (x reg).state = reg.setEntry id left

theorem openContainer_local (memory : Memory) (name : Option String)
    (hid : ∀ c, entry = some c → c.id = id) :
    Local id entry (openContainer memory id name : Call (Registry τ ρ) _ _) := by
  by_cases hm : grantsName memory .objectName name = true
  · cases entry with
    | none =>
        refine ⟨.value (Container.fresh id name false).retain,
          some (Container.fresh id name false).retain, fun reg hget => ?_⟩
        rw [openContainer_apply, if_pos hm, afterOpen, hget]
        exact ⟨rfl, rfl⟩
    | some c =>
        refine ⟨.value (c.promote name).retain,
          some (c.promote name).retain, fun reg hget => ?_⟩
        rw [openContainer_apply, if_pos hm, afterOpen, hget]
        exact ⟨rfl, put_eq_setEntry reg ((Container.id_promote c name).trans (hid c rfl))⟩
  · refine ⟨.error (.outOfMemory Purpose.objectName.text), entry, fun reg hget => ?_⟩
    rw [openContainer_apply, if_neg hm]
    exact ⟨rfl, (setEntry_self hget).symm⟩

theorem pinContainer_local (hid : ∀ c, entry = some c → c.id = id) :
    Local id entry (pinContainer id : Call (Registry τ ρ) _ _) := by
  cases entry with
  | none =>
      refine ⟨.error (.containerNotOpen id), none, fun reg hget => ?_⟩
      simp only [pinContainer, hget]
      exact ⟨trivial, (setEntry_self hget).symm⟩
  | some c =>
      refine ⟨.value c.retain.refcount, some c.retain, fun reg hget => ?_⟩
      simp only [pinContainer, hget]
      exact ⟨trivial, put_eq_setEntry reg (hid c rfl)⟩

theorem closeContainer_local (hid : ∀ c, entry = some c → c.id = id) :
    Local id entry (closeContainer id : Call (Registry τ ρ) ε (Release ρ)) := by
  cases entry with
  | none =>
      refine ⟨.fault (.invariant (.containerUntracked id)), none, fun reg hget => ?_⟩
      simp only [closeContainer, hget]
      exact ⟨rfl, (setEntry_self hget).symm⟩
  | some c =>
      by_cases hzero : c.refcount = 0
      · refine ⟨.fault (.invariant (.releasedUnreferenced id)),
          some c, fun reg hget => ?_⟩
        simp only [closeContainer, hget, if_pos hzero]
        exact ⟨rfl, (setEntry_self hget).symm⟩
      · by_cases hpos : 0 < c.release.refcount
        · refine ⟨.value ⟨c.release.refcount, []⟩, some c.release, fun reg hget => ?_⟩
          simp only [closeContainer, hget, if_neg hzero, if_pos hpos]
          exact ⟨trivial, put_eq_setEntry reg (hid c rfl)⟩
        · by_cases hchildren : c.release.hasChildren = true
          · refine ⟨.fault (.invariant (.freedWithNodes id c.release.counts)),
              some c.release, fun reg hget => ?_⟩
            simp only [closeContainer, hget, if_neg hzero, if_neg hpos,
              if_pos hchildren]
            exact ⟨rfl, put_eq_setEntry reg (hid c rfl)⟩
          · refine ⟨.value ⟨0, c.release.attachments⟩, none, fun reg hget => ?_⟩
            simp only [closeContainer, hget, if_neg hzero, if_neg hpos,
              if_neg hchildren]
            exact ⟨trivial, rfl⟩

theorem attach_local (memory : Memory) (resource : ρ)
    (hid : ∀ c, entry = some c → c.id = id) :
    Local id entry (attach memory id resource : Call (Registry τ ρ) _ _) := by
  cases entry with
  | none =>
      refine ⟨.error (.containerNotOpen id), none, fun reg hget => ?_⟩
      simp only [attach, hget]
      exact ⟨trivial, (setEntry_self hget).symm⟩
  | some c =>
      by_cases hm : memory.grants .attachments (16 * (c.attachments.length + 1)) = true
      · refine ⟨.value (), some { c with attachments := c.attachments ++ [resource] },
          fun reg hget => ?_⟩
        simp only [attach, hget, if_pos hm]
        exact ⟨trivial, put_eq_setEntry reg (hid c rfl)⟩
      · refine ⟨.error (.outOfMemory Purpose.attachments.text),
          some c, fun reg hget => ?_⟩
        simp only [attach, hget, if_neg hm]
        exact ⟨trivial, (setEntry_self hget).symm⟩

theorem onContainer_local {f : Container τ ρ → Container τ ρ}
    (hf : ∀ c, (f c).id = c.id) (hid : ∀ c, entry = some c → c.id = id) :
    Local id entry (onContainer id f) := by
  cases entry with
  | none =>
      refine ⟨.error (.containerNotOpen id), none, fun reg hget => ?_⟩
      simp only [onContainer, hget]
      exact ⟨trivial, (setEntry_self hget).symm⟩
  | some c =>
      refine ⟨.value (), some (f c), fun reg hget => ?_⟩
      simp only [onContainer, hget]
      exact ⟨trivial, put_eq_setEntry reg ((hf c).trans (hid c rfl))⟩

theorem onCounters_local (node : NodeHandle)
    (f : Counters → Except RegistryError (α × Counters))
    (hid : ∀ c, entry = some c → c.id = node.container) :
    Local node.container entry (onCounters node f : Call (Registry τ ρ) _ _) := by
  cases entry with
  | none =>
      refine ⟨.fault (.invariant (.containerUntracked node.container)),
        none, fun reg hget => ?_⟩
      simp only [onCounters, hget]
      exact ⟨rfl, (setEntry_self hget).symm⟩
  | some c =>
      cases hn : c.node? node.kind node.node with
      | none =>
          refine ⟨.fault (.invariant (.nodeUntracked node)), some c, fun reg hget => ?_⟩
          simp only [onCounters, hget, hn]
          exact ⟨rfl, (setEntry_self hget).symm⟩
      | some n =>
          rcases hf : f n.counters with e | ⟨a, counters⟩
          · refine ⟨.error e, some c, fun reg hget => ?_⟩
            simp only [onCounters, hget, hn, hf]
            exact ⟨trivial, (setEntry_self hget).symm⟩
          · refine ⟨.value a, some (c.putNode node.kind { n with counters := counters }),
              fun reg hget => ?_⟩
            simp only [onCounters, hget, hn, hf]
            exact ⟨trivial, put_eq_setEntry reg (hid c rfl)⟩

theorem untrack_local (node : NodeHandle)
    (hid : ∀ c, entry = some c → c.id = node.container) :
    Local node.container entry
      (untrack node : Call (Registry τ ρ) ε (Release ρ)) := by
  cases entry with
  | none =>
      refine ⟨.fault (.invariant (.containerUntracked node.container)),
        none, fun reg hget => ?_⟩
      simp only [untrack, hget]
      exact ⟨rfl, (setEntry_self hget).symm⟩
  | some c =>
      cases hn : c.node? node.kind node.node with
      | none =>
          refine ⟨.fault (.invariant (.nodeUntracked node)), some c, fun reg hget => ?_⟩
          simp only [untrack, hget, hn]
          exact ⟨rfl, (setEntry_self hget).symm⟩
      | some n =>
          by_cases hlast : 0 < n.refcount - 1
          · refine ⟨.value ⟨n.refcount - 1, []⟩,
              some (c.putNode node.kind { n with refcount := n.refcount - 1 }),
              fun reg hget => ?_⟩
            simp only [untrack, hget, hn, if_pos hlast]
            exact ⟨trivial, put_eq_setEntry reg (hid c rfl)⟩
          · -- the release of the container finds its entry without the node
            let freed := c.removeNode node.kind node.node
            have hfreed : freed.id = node.container := hid c rfl
            have hentry : ∀ c', some freed = some c' → c'.id = node.container :=
              fun c' hc => Option.some.inj hc ▸ hfreed
            obtain ⟨outcome, left, hclose⟩ := closeContainer_local (ε := ε) hentry
            refine ⟨outcome.map fun release => ⟨0, release.dropped⟩, left,
              fun reg hget => ?_⟩
            obtain ⟨houtcome, hstate⟩ := hclose (reg.put freed)
              ((container?_put _ _ _).trans (if_pos hfreed))
            rw [untrack_eq_close hget hn hlast, Call.map_apply]
            exact ⟨congrArg (Outcome.map _) houtcome,
              hstate.trans (put_setEntry reg hfreed left)⟩

/-! ## Effects -/

/-- What an operation does to the container that it is about. -/
inductive Effect (τ ρ : Type) where
  /-- It ends so, and leaves this entry, or none. -/
  | settles (outcome : Outcome RegistryError (Answer τ ρ))
      (left : Option (Container τ ρ))
  /-- It makes a node in this entry, under the next number. -/
  | makes (kind : Kind) (token : τ) (name : Option String) (c : Container τ ρ)

namespace Effect

/-- How the operation ends where that is the next number. -/
def outcome (id : ContainerId) (next : NodeId) :
    Effect τ ρ → Outcome RegistryError (Answer τ ρ)
  | settles outcome _ => outcome
  | makes kind .. => .value (.node ⟨id, kind, next⟩)

/-- The entry that is left where that is the next number. -/
def left (id : ContainerId) (next : NodeId) : Effect τ ρ → Option (Container τ ρ)
  | settles _ left => left
  | makes kind token name c => some (c.addNode kind (.first next id kind token name))

/-- How many numbers are given out. -/
def numbers : Effect τ ρ → Nat
  | settles .. => 0
  | makes .. => 1

/-- The registry with the effect on a container. -/
def apply (id : ContainerId) (e : Effect τ ρ) (reg : Registry τ ρ) : Registry τ ρ :=
  { reg.setEntry id (e.left id ⟨reg.nextNode⟩) with
    nextNode := reg.nextNode + e.numbers }

/-- A node is made in a sound entry only. -/
def Sound (next : Nat) (id : ContainerId) : Effect τ ρ → Prop
  | settles .. => True
  | makes _ _ _ c => c.Sound next id

theorem apply_settles (id : ContainerId) (o : Outcome RegistryError (Answer τ ρ))
    (left : Option (Container τ ρ)) (reg : Registry τ ρ) :
    (settles o left).apply id reg = reg.setEntry id left := by
  refine ext_container? (fun _ => rfl) ?_ rfl
  rw [nextNode_setEntry]
  rfl

theorem apply_makes (kind : Kind) (token : τ) (name : Option String)
    (hid : c.id = id) (reg : Registry τ ρ) :
    (makes kind token name c).apply id reg
      = { reg with nextNode := reg.nextNode + 1 }.put
          (c.addNode kind (.first ⟨reg.nextNode⟩ id kind token name)) := by
  subst hid
  rfl

theorem container?_apply (id : ContainerId) (e : Effect τ ρ) (reg : Registry τ ρ)
    (j : ContainerId) :
    (e.apply id reg).container? j
      = if id = j then e.left id ⟨reg.nextNode⟩ else reg.container? j :=
  container?_setEntry reg id _ j

theorem placeholderName_apply (id : ContainerId) (e : Effect τ ρ)
    (reg : Registry τ ρ) : (e.apply id reg).placeholderName = reg.placeholderName :=
  placeholderName_setEntry reg id _

end Effect

/-- What a track does to an open container, with the verdict of its search. -/
def Effect.ofVerdict (memory : Memory) (id : ContainerId) (c : Container τ ρ)
    (kind : Kind) (token : τ) (name : Option String) :
    Outcome IdentityError (Option (Node τ)) → Effect τ ρ
  | .value (some n) =>
      .settles (.value (.node ⟨id, kind, n.id⟩)) (some (c.putNode kind n.again))
  | .value none =>
      if grantsName memory .objectName name then .makes kind token name c
      else .settles (.error (.outOfMemory Purpose.objectName.text)) (some c)
  | .error e => .settles (.error (.identity e)) (some c)
  | .fault f => .settles (.fault f) (some c)

/-- What a track does to a container that is not open, for an object that was found
    in it. -/
def Effect.ofAdoption (memory : Memory) (title : String) (id : ContainerId)
    (kind : Kind) (token : τ) (name : Option String) : Effect τ ρ :=
  if grantsName memory .placeholderName (some title) then
    if grantsName memory .objectName name then
      .makes kind token name (.fresh id (some title) true)
    else .settles (.error (.outOfMemory Purpose.objectName.text)) none
  else .settles (.error (.outOfMemory Purpose.placeholderName.text)) none

section

variable {memory : Memory} {kind : Kind} {token : τ} {name : Option String}
  {next : Nat}

theorem Effect.sound_ofVerdict (hc : c.Sound next id) (memory : Memory) (kind : Kind)
    (token : τ) (name : Option String)
    (verdict : Outcome IdentityError (Option (Node τ))) :
    (ofVerdict memory id c kind token name verdict).Sound next id := by
  rcases verdict with (_ | n) | e | f
  · rw [ofVerdict]
    split
    · exact hc
    · trivial
  · trivial
  · trivial
  · trivial

theorem Concludes.effect {verdict : Outcome IdentityError (Option (Node τ))}
    {outcome : Outcome RegistryError NodeHandle} (hget : reg.container? id = some c)
    (hid : c.id = id)
    (h : Concludes memory reg id c kind token name verdict outcome reg') :
    outcome.map .node
        = (Effect.ofVerdict memory id c kind token name verdict).outcome id
            ⟨reg.nextNode⟩ ∧
      reg' = (Effect.ofVerdict memory id c kind token name verdict).apply id reg := by
  rcases verdict with (_ | n) | e | f
  · by_cases hm : grantsName memory .objectName name = true
    · simp only [Concludes, if_pos hm] at h
      rw [Effect.ofVerdict, if_pos hm, h.1, h.2, Effect.apply_makes kind token name hid]
      exact ⟨rfl, rfl⟩
    · simp only [Concludes, if_neg hm] at h
      rw [Effect.ofVerdict, if_neg hm, h.1, h.2, Effect.apply_settles,
        setEntry_self hget]
      exact ⟨rfl, rfl⟩
  · rw [Effect.ofVerdict, h.1, h.2, Effect.apply_settles]
    exact ⟨rfl, put_eq_setEntry reg hid⟩
  · rw [Effect.ofVerdict, h.1, h.2, Effect.apply_settles, setEntry_self hget]
    exact ⟨rfl, rfl⟩
  · rw [Effect.ofVerdict, h.1, h.2, Effect.apply_settles, setEntry_self hget]
    exact ⟨rfl, rfl⟩

theorem Effect.sound_ofAdoption (memory : Memory) (title : String) (id : ContainerId)
    (kind : Kind) (token : τ) (name : Option String) (next : Nat) :
    (ofAdoption memory title id kind token name : Effect τ ρ).Sound next id := by
  rw [ofAdoption]
  split
  · split
    · exact Container.sound_fresh ..
    · trivial
  · trivial

theorem trackIn_effect [Identity ω η τ] (hget : reg.container? id = none)
    (memory : Memory) {home : ContainerId} (hhome : home ≠ id) (kind : Kind)
    (token : τ) (name : Option String) (raw : η) (w : ω) :
    (trackIn memory home id kind token name raw (w, reg)).outcome.map .node
        = (Effect.ofAdoption memory reg.placeholderName id kind token name :
            Effect τ ρ).outcome id ⟨reg.nextNode⟩ ∧
      (trackIn memory home id kind token name raw (w, reg)).state.2
        = (Effect.ofAdoption memory reg.placeholderName id kind token name).apply id
            reg := by
  rw [trackIn_of_not_open hget memory hhome, Effect.ofAdoption]
  by_cases hp : grantsName memory .placeholderName (some reg.placeholderName) = true
  · rw [if_pos hp, if_pos hp]
    by_cases hm : grantsName memory .objectName name = true
    · rw [if_pos hm, if_pos hm]
      exact ⟨rfl, (Effect.apply_makes kind token name rfl reg).symm⟩
    · rw [if_neg hm, if_neg hm, Effect.apply_settles, setEntry_self hget]
      exact ⟨rfl, rfl⟩
  · rw [if_neg hp, if_neg hp, Effect.apply_settles, setEntry_self hget]
    exact ⟨rfl, rfl⟩

end

/-- The container that an operation is about. -/
def Op.target? : Op η τ ρ → Option ContainerId
  | openContainer id _ | pinContainer id | closeContainer id => some id
  | track id .. | trackIn _ id .. => some id
  | untrack node | setDatasetShape node .. | recordRead node .. | recordWrite node ..
  | recordCommit node | recordGet node | recordOp node => some node.container
  | recordCreated id _ | recordAccessed id _ | attach id _ => some id
  | verifyOpenThings .. => none

namespace Request

/-- The request in another world. -/
def inWorld (q : Request ω η τ ρ) (w : ω) : Request ω η τ ρ := { q with world := w }

variable [Identity ω η τ] {q : Request ω η τ ρ}

/-- The request has that effect, in every world, wherever the container has the
    entry that it has here. -/
def Does (q : Request ω η τ ρ) (id : ContainerId) (reg : Registry τ ρ)
    (e : Effect τ ρ) : Prop :=
  ∀ (w : ω) (reg' : Registry τ ρ), reg'.Sound →
    reg'.container? id = reg.container? id →
    reg'.placeholderName = reg.placeholderName →
    ((q.inWorld w).perform reg').outcome = e.outcome id ⟨reg'.nextNode⟩ ∧
      (q.inWorld w).next reg' = e.apply id reg'

theorem exists_effect_of_local {g : α → Answer τ ρ}
    {x : Call (Registry τ ρ) RegistryError α} (hs : reg.Sound)
    (hrun : q.op.run q.memory = g <$> alone (ω := ω) x)
    (h : (∀ c, reg.container? id = some c → c.id = id) →
      Local id (reg.container? id) x) :
    ∃ e : Effect τ ρ, e.Sound reg.nextNode id ∧ q.Does id reg e := by
  obtain ⟨outcome, left, hx⟩ := h fun c hget => (hs.entry hget).id_eq
  refine ⟨.settles (outcome.map g) left, trivial, fun w reg' _ hget _ => ?_⟩
  obtain ⟨houtcome, hstate⟩ := hx reg' hget
  have hperform : (q.inWorld w).perform reg'
      = ⟨(x reg').outcome.map g, (w, (x reg').state), (x reg').events⟩ := by
    rw [perform]
    show q.op.run q.memory (w, reg') = _
    rw [hrun, Op.map_alone_apply]
  rw [next, hperform, Effect.apply_settles]
  exact ⟨congrArg (Outcome.map g) houtcome, hstate⟩

/-- A request that tracks, and whose container is open or need not be. -/
theorem exists_effect_of_track {cmp : τ → τ → Outcome IdentityError Ordering}
    (hcmp : Identity.Fixed ω cmp) (hs : reg.Sound) {memory : Memory} {kind : Kind}
    {token : τ} {name : Option String} {raw : η}
    (hrun : ∀ (w : ω) (reg' : Registry τ ρ),
      reg'.container? id = reg.container? id →
      q.op.run q.memory (w, reg')
        = (Answer.node <$> track memory id kind token name raw) (w, reg')) :
    ∃ e : Effect τ ρ, e.Sound reg.nextNode id ∧ q.Does id reg e := by
  have hperform : ∀ (w : ω) (reg' : Registry τ ρ),
      reg'.container? id = reg.container? id →
      (q.inWorld w).perform reg'
        = ⟨(track memory id kind token name raw (w, reg')).outcome.map .node,
          (track memory id kind token name raw (w, reg')).state,
          (track memory id kind token name raw (w, reg')).events⟩ := by
    intro w reg' hget'
    exact (hrun w reg' hget').trans (Call.map_apply _ _ _)
  cases hget : reg.container? id with
  | none =>
      refine ⟨.settles (.error (.containerNotOpen id)) none, trivial, ?_⟩
      intro w reg' _ hget' _
      rw [next, hperform w reg' hget', Effect.apply_settles,
        setEntry_self (hget'.trans hget), track_of_not_open (hget'.trans hget)]
      exact ⟨rfl, rfl⟩
  | some c =>
      obtain ⟨verdict, hverdict⟩ := hcmp.exists_verdict Node.token raw token
        (c.newestFirst kind)
      refine ⟨.ofVerdict memory id c kind token name verdict,
        Effect.sound_ofVerdict (hs.entry hget) .., ?_⟩
      intro w reg' hs' hget' _
      obtain ⟨-, hconcludes⟩ := track_concludes (hget'.trans hget)
        (hs'.entry (hget'.trans hget)) memory kind token name raw w
      rw [hverdict] at hconcludes
      rw [next, hperform w reg' hget']
      exact hconcludes.effect (hget'.trans hget) (hs.entry hget).id_eq

/-- What a request does to the container that it is about can be told from the entry
    there. -/
theorem exists_effect {cmp : τ → τ → Outcome IdentityError Ordering}
    (hcmp : Identity.Fixed ω cmp) (hs : reg.Sound) (q : Request ω η τ ρ)
    (htarget : q.op.target? = some id) :
    ∃ e : Effect τ ρ, e.Sound reg.nextNode id ∧ q.Does id reg e := by
  obtain ⟨memory, w₀, op⟩ := q
  cases op with
  | openContainer id' name =>
      obtain rfl := Option.some.inj htarget
      exact exists_effect_of_local hs rfl (openContainer_local memory name)
  | pinContainer id' =>
      obtain rfl := Option.some.inj htarget
      exact exists_effect_of_local hs rfl pinContainer_local
  | closeContainer id' =>
      obtain rfl := Option.some.inj htarget
      exact exists_effect_of_local hs rfl closeContainer_local
  | track id' kind token name raw =>
      obtain rfl := Option.some.inj htarget
      exact exists_effect_of_track hcmp hs fun _ _ _ => rfl
  | trackIn home reported kind token name raw =>
      obtain rfl := Option.some.inj htarget
      by_cases hknown : reported = home ∨ ∃ c, reg.container? reported = some c
      · have hrun : ∀ (w : ω) (reg' : Registry τ ρ),
            reg'.container? reported = reg.container? reported →
            (Op.trackIn home reported kind token name raw : Op η τ ρ).run memory (w, reg')
              = (Answer.node <$> track memory reported kind token name raw)
                (w, reg') := by
          intro w reg' hget'
          rw [← hget'] at hknown
          rw [Op.run, Call.map_apply, Call.map_apply, trackIn_of_known hknown]
        exact exists_effect_of_track hcmp hs hrun
      · -- a placeholder comes in, with the node
        obtain ⟨hhome, hopen⟩ := not_or.mp hknown
        have hnone : reg.container? reported = none :=
          Option.eq_none_iff_forall_ne_some.mpr fun c hget => hopen ⟨c, hget⟩
        refine ⟨.ofAdoption memory reg.placeholderName reported kind token name,
          Effect.sound_ofAdoption .., fun w reg' _ hget' hname => ?_⟩
        obtain ⟨houtcome, hstate⟩ := trackIn_effect (hget'.trans hnone) memory
          (fun heq => hhome heq.symm) kind token name raw w
        have hperform : ((⟨memory, w₀, .trackIn home reported kind token name raw⟩ :
            Request ω η τ ρ).inWorld w).perform reg' = _ := Call.map_apply _ _ _
        rw [next, hperform, ← hname]
        exact ⟨houtcome, hstate⟩
  | untrack node =>
      obtain rfl := Option.some.inj htarget
      exact exists_effect_of_local hs rfl (untrack_local node)
  | setDatasetShape node typeSize dimensions =>
      obtain rfl := Option.some.inj htarget
      exact exists_effect_of_local (g := fun _ => .done) hs rfl (onCounters_local node _)
  | recordRead node selected elapsed =>
      obtain rfl := Option.some.inj htarget
      exact exists_effect_of_local hs rfl (onCounters_local node _)
  | recordWrite node selected elapsed =>
      obtain rfl := Option.some.inj htarget
      exact exists_effect_of_local hs rfl (onCounters_local node _)
  | recordCommit node =>
      obtain rfl := Option.some.inj htarget
      exact exists_effect_of_local hs rfl (onCounters_local node _)
  | recordGet node =>
      obtain rfl := Option.some.inj htarget
      exact exists_effect_of_local hs rfl (onCounters_local node _)
  | recordOp node =>
      obtain rfl := Option.some.inj htarget
      exact exists_effect_of_local hs rfl (onCounters_local node _)
  | recordCreated id' kind =>
      obtain rfl := Option.some.inj htarget
      exact exists_effect_of_local (g := fun _ => .done) hs rfl
        (onContainer_local fun _ => rfl)
  | recordAccessed id' kind =>
      obtain rfl := Option.some.inj htarget
      exact exists_effect_of_local (g := fun _ => .done) hs rfl
        (onContainer_local fun _ => rfl)
  | attach id' resource =>
      obtain rfl := Option.some.inj htarget
      exact exists_effect_of_local (g := fun _ => .done) hs rfl
        (attach_local memory resource)
  | verifyOpenThings containers datasets => cases htarget

end Request

end Registry

end Provenance
