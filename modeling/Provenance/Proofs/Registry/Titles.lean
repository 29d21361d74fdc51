import Provenance.Proofs.Registry.Lifetime
import Provenance.Proofs.Registry.Search

/-! # Titles of containers

    The title of an entry is its name, with whether it is a placeholder for a
    container that nobody opened.  Only an open gives another title to an entry,
    and only to a placeholder (`Title.opened`).  All other operations leave the
    titles of the entries that stay as they were (`KeepsTitles`).

    So a request makes one of five things of a title (`Request.retitled`): the
    entry goes, keeps its title or is opened, or a new one comes in, with an open
    or for an object found in it. -/

namespace Provenance

variable {ω η τ ρ ε α : Type}

/-- What an entry is called, and whether nobody opened it yet. -/
structure Title where
  name : Option String
  placeholder : Bool
deriving DecidableEq

/-- The title after an open.  A placeholder takes the name that is given, or
    else keeps its own, and is a placeholder no more. -/
def Title.opened (t : Title) (given : Option String) : Title :=
  if t.placeholder then ⟨given <|> t.name, false⟩ else t

theorem Title.placeholder_opened (t : Title) (given : Option String) :
    (t.opened given).placeholder = false := by
  rw [opened]
  by_cases hp : t.placeholder = true
  · rw [if_pos hp]
  · rw [if_neg hp]
    exact Bool.eq_false_iff.mpr hp

/-- Only the title of a placeholder changes. -/
theorem Title.opened_of_not_placeholder {t : Title} (ht : t.placeholder = false)
    (given : Option String) : t.opened given = t := by
  rw [opened, ht]
  rfl

namespace Container

def title (c : Container τ ρ) : Title := ⟨c.name, c.placeholder⟩

theorem title_promote (c : Container τ ρ) (given : Option String) :
    (c.promote given).title = c.title.opened given := by
  rw [promote, Title.opened]
  by_cases hp : c.placeholder = true
  · rw [if_pos hp, if_pos (show c.title.placeholder = true from hp)]
    rfl
  · rw [if_neg hp, if_neg (show ¬ c.title.placeholder = true from hp)]

theorem id_promote (c : Container τ ρ) (given : Option String) :
    (c.promote given).id = c.id := by
  rw [promote]
  split <;> rfl

end Container

namespace Registry

variable {reg reg' reg'' : Registry τ ρ} {id : ContainerId} {c c' : Container τ ρ}

/-- The title of a container, if it has an entry. -/
def title? (reg : Registry τ ρ) (id : ContainerId) : Option Title :=
  (reg.container? id).map Container.title

theorem title?_of_some (hget : reg.container? id = some c) :
    reg.title? id = some c.title := by
  rw [title?, hget]
  rfl

theorem title?_eq_none_iff : reg.title? id = none ↔ reg.container? id = none :=
  Option.map_eq_none_iff

theorem title?_put (reg : Registry τ ρ) (c : Container τ ρ) (id : ContainerId) :
    (reg.put c).title? id = if c.id = id then some c.title else reg.title? id := by
  rw [title?, container?_put]
  split <;> rfl

theorem title?_remove (reg : Registry τ ρ) (id j : ContainerId) :
    (reg.remove id).title? j = if id = j then none else reg.title? j := by
  rw [title?, container?_remove]
  split <;> rfl

/-! ## Titles that are kept -/

/-- Each entry that is there has the title that it had before. -/
def KeepsTitles (reg reg' : Registry τ ρ) : Prop :=
  ∀ id, reg'.title? id = none ∨ reg'.title? id = reg.title? id

theorem KeepsTitles.refl (reg : Registry τ ρ) : reg.KeepsTitles reg :=
  fun _ => Or.inr rfl

theorem KeepsTitles.trans (h : reg.KeepsTitles reg') (h' : reg'.KeepsTitles reg'') :
    reg.KeepsTitles reg'' := by
  intro id
  rcases h' id with hnone | heq
  · exact Or.inl hnone
  · rw [heq]
    exact h id

theorem keepsTitles_remove (reg : Registry τ ρ) (id : ContainerId) :
    reg.KeepsTitles (reg.remove id) := by
  intro j
  rw [title?_remove]
  by_cases hid : id = j
  · exact Or.inl (if_pos hid)
  · exact Or.inr (if_neg hid)

/-- To put an entry over one of the same title. -/
theorem Sound.keepsTitles_put (hs : reg.Sound) (hget : reg.container? id = some c)
    (c' : Container τ ρ) (hid : c'.id = c.id) (htitle : c'.title = c.title) :
    reg.KeepsTitles (reg.put c') := by
  intro j
  rw [title?_put, hid, (hs.entry hget).id_eq]
  by_cases hj : id = j
  · subst hj
    rw [if_pos rfl, title?_of_some hget, htitle]
    exact Or.inr rfl
  · exact Or.inr (if_neg hj)

theorem pinContainer_keepsTitles (hs : reg.Sound) (id : ContainerId) :
    reg.KeepsTitles (pinContainer id reg).state := by
  simp only [pinContainer]
  cases hget : reg.container? id with
  | some c => exact hs.keepsTitles_put hget _ rfl rfl
  | none => exact .refl reg

theorem closeContainer_keepsTitles (hs : reg.Sound) (id : ContainerId) :
    reg.KeepsTitles
      (closeContainer id reg : Ending (Registry τ ρ) ε (Release ρ)).state := by
  simp only [closeContainer]
  cases hget : reg.container? id with
  | none => exact .refl reg
  | some c =>
      have hput := hs.keepsTitles_put hget c.release rfl rfl
      by_cases hzero : c.refcount = 0
      · simp only [if_pos hzero]
        exact .refl reg
      · by_cases hpos : 0 < c.release.refcount
        · simp only [if_neg hzero, if_pos hpos]
          exact hput
        · by_cases hchildren : c.release.hasChildren = true
          · simp only [if_neg hzero, if_neg hpos, if_pos hchildren]
            exact hput
          · simp only [if_neg hzero, if_neg hpos, if_neg hchildren]
            exact keepsTitles_remove reg id

theorem attach_keepsTitles (hs : reg.Sound) (memory : Memory) (id : ContainerId)
    (resource : ρ) : reg.KeepsTitles (attach memory id resource reg).state := by
  simp only [attach]
  cases hget : reg.container? id with
  | none => exact .refl reg
  | some c =>
      by_cases hm : memory.grants .attachments (16 * (c.attachments.length + 1)) = true
      · simp only [if_pos hm]
        exact hs.keepsTitles_put hget _ rfl rfl
      · simp only [if_neg hm]
        exact .refl reg

theorem onContainer_keepsTitles (hs : reg.Sound)
    {f : Container τ ρ → Container τ ρ} (hid : ∀ c, (f c).id = c.id)
    (htitle : ∀ c, (f c).title = c.title) :
    reg.KeepsTitles (onContainer id f reg).state := by
  simp only [onContainer]
  cases hget : reg.container? id with
  | some c => exact hs.keepsTitles_put hget _ (hid c) (htitle c)
  | none => exact .refl reg

theorem onCounters_keepsTitles (hs : reg.Sound) (node : NodeHandle)
    (f : Counters → Except RegistryError (α × Counters)) :
    reg.KeepsTitles (onCounters node f reg).state := by
  simp only [onCounters]
  cases hget : reg.container? node.container with
  | none => exact .refl reg
  | some c =>
      cases hn : c.node? node.kind node.node with
      | none =>
          simp only [hn]
          exact .refl reg
      | some n =>
          simp only [hn]
          rcases f n.counters with e | ⟨a, counters⟩
          · exact .refl reg
          · exact hs.keepsTitles_put hget _ rfl rfl

theorem untrack_keepsTitles (hs : reg.Sound) (node : NodeHandle) :
    reg.KeepsTitles
      (untrack node reg : Ending (Registry τ ρ) ε (Release ρ)).state := by
  cases hget : reg.container? node.container with
  | none =>
      simp only [untrack, hget]
      exact .refl reg
  | some c =>
      cases hn : c.node? node.kind node.node with
      | none =>
          simp only [untrack, hget, hn]
          exact .refl reg
      | some n =>
          by_cases hlast : 0 < n.refcount - 1
          · simp only [untrack, hget, hn, if_pos hlast]
            exact hs.keepsTitles_put hget _ rfl rfl
          · rw [untrack_eq_close hget hn hlast, Call.map_apply]
            have hfree : Write Terms.clearing reg
                (reg.put (c.removeNode node.kind node.node)) := .free hget hn trivial
            exact (hs.keepsTitles_put hget (c.removeNode node.kind node.node) rfl
              rfl).trans (closeContainer_keepsTitles (hfree.sound hs) _)

/-- A track puts one entry over that of its container, with the same title, or
    leaves the registry as it was. -/
theorem Concludes.put_or_eq {memory : Memory} {kind : Kind} {token : τ}
    {name : Option String} {verdict : Outcome IdentityError (Option (Node τ))}
    {outcome : Outcome RegistryError NodeHandle}
    (h : Concludes memory reg id c kind token name verdict outcome reg') :
    reg' = reg ∨ ∃ next c', c'.id = c.id ∧ c'.title = c.title ∧
      reg' = { reg with nextNode := next }.put c' := by
  rcases verdict with (_ | n) | e | f
  · by_cases hm : grantsName memory .objectName name = true
    · simp only [Concludes, if_pos hm] at h
      exact Or.inr ⟨reg.nextNode + 1, c.addNode kind _, rfl, rfl, h.2⟩
    · simp only [Concludes, if_neg hm] at h
      exact Or.inl h.2
  · exact Or.inr ⟨reg.nextNode, c.putNode kind n.again, rfl, rfl, h.2⟩
  · exact Or.inl h.2
  · exact Or.inl h.2

section

variable [Identity ω η τ]

theorem track_keepsTitles (hs : reg.Sound) (memory : Memory) (id : ContainerId)
    (kind : Kind) (token : τ) (name : Option String) (raw : η) (w : ω) :
    reg.KeepsTitles (track memory id kind token name raw (w, reg)).state.2 := by
  cases hget : reg.container? id with
  | none =>
      rw [track_of_not_open hget]
      exact .refl reg
  | some c =>
      obtain ⟨-, hconcludes⟩ := track_concludes hget (hs.entry hget) memory kind
        token name raw w
      rcases hconcludes.put_or_eq with hreg | ⟨next, c', hid, htitle, hreg⟩
      · rw [hreg]
        exact .refl reg
      · rw [hreg]
        exact hs.keepsTitles_put hget c' hid htitle

/-! ## Titles that are given -/

/-- The entry of a container after an open of it. -/
def afterOpen (reg : Registry τ ρ) (id : ContainerId) (name : Option String) :
    Container τ ρ :=
  match reg.container? id with
  | some c => (c.promote name).retain
  | none => (Container.fresh id name false).retain

omit [Identity ω η τ] in
theorem Sound.id_afterOpen (hs : reg.Sound) (id : ContainerId)
    (name : Option String) : (reg.afterOpen id name).id = id := by
  rw [afterOpen]
  cases hget : reg.container? id with
  | none => rfl
  | some c => exact (Container.id_promote c name).trans (hs.entry hget).id_eq

omit [Identity ω η τ] in
theorem openContainer_apply (memory : Memory) (id : ContainerId)
    (name : Option String) (reg : Registry τ ρ) :
    openContainer memory id name reg
      = if grantsName memory .objectName name then
          ⟨.value (reg.afterOpen id name), reg.put (reg.afterOpen id name), []⟩
        else ⟨.error (.outOfMemory Purpose.objectName.text), reg, []⟩ := rfl

namespace Op

/-- The operation opens that container. -/
def Opens (id : ContainerId) : Op η τ ρ → Prop
  | openContainer id' _ => id' = id
  | _ => False

/-- The operation tracks an object that was asked for elsewhere and found in that
    container. -/
def Adopts (id : ContainerId) : Op η τ ρ → Prop
  | trackIn home reported .. => reported = id ∧ home ≠ id
  | _ => False

theorem keepsTitles_map_alone {w : ω} {g : α → Answer τ ρ}
    {x : Call (Registry τ ρ) RegistryError α} (h : reg.KeepsTitles (x reg).state) :
    reg.KeepsTitles ((g <$> alone x :
      Call (ω × Registry τ ρ) RegistryError (Answer τ ρ)) (w, reg)).state.2 := by
  rw [map_alone_apply]
  exact h

/-- An operation that neither opens a container nor brings it in keeps its
    title. -/
theorem run_title? (memory : Memory) (op : Op η τ ρ) (hs : reg.Sound)
    (hopens : ¬ op.Opens id) (hadopts : op.Adopts id → reg.container? id ≠ none)
    (w : ω) :
    (op.run memory (w, reg)).state.2.title? id = none ∨
      (op.run memory (w, reg)).state.2.title? id = reg.title? id := by
  cases op with
  | openContainer id' name =>
      rw [run, map_alone_apply, openContainer_apply]
      by_cases hm : grantsName memory .objectName name = true
      · rw [if_pos hm, title?_put, hs.id_afterOpen,
          if_neg (show ¬ id' = id from hopens)]
        exact Or.inr rfl
      · rw [if_neg hm]
        exact Or.inr rfl
  | pinContainer id' => exact keepsTitles_map_alone (pinContainer_keepsTitles hs id') id
  | closeContainer id' =>
      exact keepsTitles_map_alone (closeContainer_keepsTitles hs id') id
  | track id' kind token name raw =>
      rw [run, Call.map_apply]
      exact track_keepsTitles hs memory id' kind token name raw w id
  | trackIn home reported kind token name raw =>
      rw [run, Call.map_apply]
      by_cases hknown : reported = home ∨ ∃ c, reg.container? reported = some c
      · rw [trackIn_of_known hknown]
        exact track_keepsTitles hs memory reported kind token name raw w id
      · -- a placeholder comes in, and not for this container
        obtain ⟨hhome, hopen⟩ := not_or.mp hknown
        have hnone : reg.container? reported = none :=
          Option.eq_none_iff_forall_ne_some.mpr fun c hget => hopen ⟨c, hget⟩
        have hid : reported ≠ id := by
          rintro rfl
          exact hadopts ⟨rfl, fun heq => hhome heq.symm⟩ hnone
        rw [trackIn_of_not_open hnone memory fun heq => hhome heq.symm]
        refine Or.inr ?_
        split
        · split
          · exact (title?_put _ _ _).trans (if_neg hid)
          · rfl
        · rfl
  | untrack node => exact keepsTitles_map_alone (untrack_keepsTitles hs node) id
  | setDatasetShape node typeSize dimensions =>
      exact keepsTitles_map_alone (onCounters_keepsTitles hs node _) id
  | recordRead node selected elapsed =>
      exact keepsTitles_map_alone (onCounters_keepsTitles hs node _) id
  | recordWrite node selected elapsed =>
      exact keepsTitles_map_alone (onCounters_keepsTitles hs node _) id
  | recordCommit node =>
      exact keepsTitles_map_alone (onCounters_keepsTitles hs node _) id
  | recordGet node =>
      exact keepsTitles_map_alone (onCounters_keepsTitles hs node _) id
  | recordOp node =>
      exact keepsTitles_map_alone (onCounters_keepsTitles hs node _) id
  | recordCreated id' kind =>
      refine keepsTitles_map_alone (onContainer_keepsTitles hs ?_ ?_) id
      · exact fun _ => rfl
      · exact fun _ => rfl
  | recordAccessed id' kind =>
      refine keepsTitles_map_alone (onContainer_keepsTitles hs ?_ ?_) id
      · exact fun _ => rfl
      · exact fun _ => rfl
  | attach id' resource =>
      exact keepsTitles_map_alone (attach_keepsTitles hs memory id' resource) id
  | verifyOpenThings containers datasets =>
      refine keepsTitles_map_alone ?_ id
      rw [verifyOpenThings_state]
      exact .refl reg

end Op

/-! ## One request -/

namespace Request

variable {q : Request ω η τ ρ} {given : Option String}

/-- The name under which a request opens a container, if it does. -/
def opening? (q : Request ω η τ ρ) (reg : Registry τ ρ) (id : ContainerId) :
    Option (Option String) :=
  match q.op, (q.perform reg).outcome with
  | .openContainer id' name, .value _ => if id' = id then some name else none
  | _, _ => none

theorem opening?_eq_some_iff :
    q.opening? reg id = some given ↔ q.op = .openContainer id given ∧
      grantsName q.memory .objectName given = true := by
  obtain ⟨memory, w, op⟩ := q
  cases op with
  | openContainer id' name =>
      rw [opening?, perform, Op.run, Op.map_alone_apply, openContainer_apply]
      by_cases hm : grantsName memory .objectName name = true
      · rw [if_pos hm]
        constructor
        · intro h
          by_cases hid : id' = id
          · subst hid
            cases (if_pos rfl).symm.trans h
            exact ⟨rfl, hm⟩
          · cases (if_neg hid).symm.trans h
        · rintro ⟨heq, -⟩
          cases heq
          exact if_pos rfl
      · rw [if_neg hm]
        refine iff_of_false (fun h => ?_) ?_
        · cases h
        · rintro ⟨heq, hgrants⟩
          cases heq
          exact hm hgrants
  | _ =>
      refine iff_of_false (fun h => ?_) ?_
      · cases h
      · rintro ⟨heq, -⟩
        cases heq

theorem next_of_opening (h : q.opening? reg id = some given) :
    q.next reg = reg.put (reg.afterOpen id given) := by
  obtain ⟨memory, w, op⟩ := q
  obtain ⟨rfl, hm⟩ := opening?_eq_some_iff.mp h
  rw [next, perform, Op.run, Op.map_alone_apply, openContainer_apply, if_pos hm]

/-- An open that was refused leaves the registry as it was. -/
theorem next_of_not_opening (hopens : q.op.Opens id)
    (h : q.opening? reg id = none) : q.next reg = reg := by
  obtain ⟨memory, w, op⟩ := q
  cases op with
  | openContainer id' name =>
      obtain rfl : id' = id := hopens
      have hm : ¬ grantsName memory .objectName name = true := by
        intro hm
        rw [opening?_eq_some_iff.mpr ⟨rfl, hm⟩] at h
        cases h
      rw [next, perform, Op.run, Op.map_alone_apply, openContainer_apply, if_neg hm]
  | _ => exact hopens.elim

/-- An object found in a container that is not open brings a placeholder in, or
    leaves the registry as it was. -/
theorem next_of_adopts (hadopts : q.op.Adopts id) (hget : reg.container? id = none) :
    q.next reg = reg ∨ ∃ kind token name, q.next reg
      = { reg with nextNode := reg.nextNode + 1 }.put
          ((Container.fresh id (some reg.placeholderName) true).addNode kind
            (.first ⟨reg.nextNode⟩ id kind token name)) := by
  obtain ⟨memory, w, op⟩ := q
  cases op with
  | trackIn home reported kind token name raw =>
      obtain ⟨rfl, hhome⟩ := hadopts
      rw [next, perform, Op.run, Call.map_apply,
        trackIn_of_not_open hget memory hhome]
      split
      · split
        · exact Or.inr ⟨kind, token, name, rfl⟩
        · exact Or.inl rfl
      · exact Or.inl rfl
  | _ => exact hadopts.elim

/-- What a request makes of the title of a container. -/
inductive Retitled (q : Request ω η τ ρ) (reg : Registry τ ρ) (id : ContainerId) :
    Prop
  | gone (hopening : q.opening? reg id = none)
      (hnext : (q.next reg).title? id = none)
  | kept (hopening : q.opening? reg id = none)
      (hnext : (q.next reg).title? id = reg.title? id)
  /-- The container comes in for an object found in it. -/
  | adopted (hopening : q.opening? reg id = none) (hadopts : q.op.Adopts id)
      (hnone : reg.title? id = none)
      (hnext : (q.next reg).title? id = some ⟨some reg.placeholderName, true⟩)
  /-- It comes in with an open. -/
  | entered {given : Option String} (hopening : q.opening? reg id = some given)
      (hnone : reg.title? id = none)
      (hnext : (q.next reg).title? id = some ⟨given, false⟩)
  | opened {given : Option String} {t : Title}
      (hopening : q.opening? reg id = some given) (htitle : reg.title? id = some t)
      (hnext : (q.next reg).title? id = some (t.opened given))

theorem retitled (q : Request ω η τ ρ) (hs : reg.Sound) (id : ContainerId) :
    q.Retitled reg id := by
  cases hopening : q.opening? reg id with
  | some given =>
      have hnext : (q.next reg).title? id = some (reg.afterOpen id given).title := by
        rw [next_of_opening hopening, title?_put, if_pos (hs.id_afterOpen id given)]
      cases hget : reg.container? id with
      | none =>
          refine .entered hopening (title?_eq_none_iff.mpr hget) ?_
          rw [hnext, afterOpen, hget]
          rfl
      | some c =>
          refine .opened hopening (title?_of_some hget) ?_
          rw [hnext, afterOpen, hget, ← Container.title_promote]
          rfl
  | none =>
      by_cases hopens : q.op.Opens id
      · exact .kept hopening (by rw [next_of_not_opening hopens hopening])
      by_cases hadopts : q.op.Adopts id ∧ reg.container? id = none
      · obtain ⟨hadopts, hnone⟩ := hadopts
        rcases next_of_adopts hadopts hnone with hnext | ⟨kind, token, name, hnext⟩
        · exact .kept hopening (by rw [hnext])
        · refine .adopted hopening hadopts (title?_eq_none_iff.mpr hnone) ?_
          rw [hnext, title?_put]
          exact if_pos rfl
      · rcases Op.run_title? q.memory q.op hs hopens
          (fun h hnone => hadopts ⟨h, hnone⟩) q.world with hnone | heq
        · exact .gone hopening hnone
        · exact .kept hopening heq

end Request

end

end Registry

end Provenance
