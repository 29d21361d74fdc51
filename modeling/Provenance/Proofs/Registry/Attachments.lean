import Provenance.Proofs.Registry.Atomicity
import Provenance.Proofs.Registry.Placeholder

/-! # Attached resources

    A client leaves resources with a container, to be let go of when the container
    goes.  A request does one of four things with them (`Request.handled`): it
    attaches one, lets go of one that it cannot attach, frees a container with all
    that is attached to it, or leaves them all where they are (`KeepsAttachments`).

    So an entry has what was attached to it since it came in, in that order
    (`Tenure.attachments_eq`), and of all the resources that were ever passed in,
    each is let go of once or still attached (`drops_conserve`). -/

namespace Provenance

namespace Registry

variable {ω η τ ρ ε α : Type} {reg reg' reg'' : Registry τ ρ} {id : ContainerId}
  {c : Container τ ρ}

/-! ## Resources of a registry -/

/-- The resources attached to a container; none if it is not open. -/
def attached (reg : Registry τ ρ) (id : ContainerId) : List ρ :=
  (reg.container? id).elim [] Container.attachments

theorem attached_of_some (hget : reg.container? id = some c) :
    reg.attached id = c.attachments := by
  rw [attached, hget]
  rfl

theorem attached_put (reg : Registry τ ρ) (c : Container τ ρ) (id : ContainerId) :
    (reg.put c).attached id = if c.id = id then c.attachments else reg.attached id := by
  rw [attached, container?_put]
  split <;> rfl

/-- All attached resources, by containers in ascending order. -/
def resources (reg : Registry τ ρ) : List ρ :=
  reg.openContainers.flatMap Container.attachments

/-- The resources of one container, beside those of all others. -/
theorem resources_perm (reg : Registry τ ρ) (id : ContainerId) :
    reg.resources.Perm (reg.attached id ++ (reg.remove id).resources) := by
  cases hget : reg.container? id with
  | none =>
      have hremove : reg.remove id = reg := by
        rw [remove, IdMap.erase_of_none hget]
      rw [attached, hget, hremove]
      exact List.Perm.refl _
  | some c =>
      rw [attached_of_some hget]
      exact (IdMap.values_perm_cons_erase hget).flatMap_right _

theorem remove_put_self (reg : Registry τ ρ) (c : Container τ ρ) :
    (reg.put c).remove c.id = reg.remove c.id := by
  show ({ reg with containers := _ } : Registry τ ρ) = { reg with containers := _ }
  rw [show (reg.put c).containers.erase c.id = reg.containers.erase c.id
    from IdMap.erase_insert_self _ _ _]

theorem resources_put (reg : Registry τ ρ) (c : Container τ ρ) :
    (reg.put c).resources.Perm (c.attachments ++ (reg.remove c.id).resources) := by
  have hperm := resources_perm (reg.put c) c.id
  rwa [attached_put, if_pos rfl, remove_put_self] at hperm

/-! ## Resources that stay -/

/-- A registry after entries were put in it that have the resources attached which
    their containers had before. -/
inductive KeepsAttachments (reg : Registry τ ρ) : Registry τ ρ → Prop
  | refl : KeepsAttachments reg reg
  | put {reg' : Registry τ ρ} {next : Nat} {c : Container τ ρ}
      (h : KeepsAttachments reg reg') (hc : c.attachments = reg'.attached c.id) :
      KeepsAttachments reg ({ reg' with nextNode := next }.put c)

namespace KeepsAttachments

theorem trans (h : reg.KeepsAttachments reg') (h' : reg'.KeepsAttachments reg'') :
    reg.KeepsAttachments reg'' := by
  induction h' with
  | refl => exact h
  | put _ hc ih => exact .put ih hc

/-- To put an entry over one with the same resources. -/
theorem overwritten {next : Nat} {c' : Container τ ρ} (hs : reg.Sound)
    (hget : reg.container? id = some c) (hid : c'.id = c.id)
    (hattachments : c'.attachments = c.attachments) :
    reg.KeepsAttachments ({ reg with nextNode := next }.put c') := by
  refine .put .refl ?_
  rw [hattachments, hid, (hs.entry hget).id_eq, attached_of_some hget]

/-- To put an entry without resources where there was none. -/
theorem fresh {next : Nat} (hget : reg.container? c.id = none)
    (hnone : c.attachments = []) :
    reg.KeepsAttachments ({ reg with nextNode := next }.put c) := by
  refine .put .refl ?_
  rw [hnone, attached, hget]
  rfl

theorem attached_eq (h : reg.KeepsAttachments reg') (id : ContainerId) :
    reg'.attached id = reg.attached id := by
  induction h with
  | refl => rfl
  | @put reg' next c _ hc ih =>
      rw [attached_put]
      by_cases hid : c.id = id
      · rw [if_pos hid, hc, hid]
        exact ih
      · rw [if_neg hid]
        exact ih

/-- No entry goes. -/
theorem present (h : reg.KeepsAttachments reg') (hget : reg.container? id ≠ none) :
    reg'.container? id ≠ none := by
  induction h with
  | refl => exact hget
  | @put reg' next c _ _ ih =>
      rw [container?_put]
      by_cases hid : c.id = id
      · rw [if_pos hid]
        nofun
      · rw [if_neg hid]
        exact ih

theorem resources_perm (h : reg.KeepsAttachments reg') :
    reg'.resources.Perm reg.resources := by
  induction h with
  | refl => exact List.Perm.refl _
  | @put reg' next c _ hc ih =>
      have hput := resources_put { reg' with nextNode := next } c
      rw [hc] at hput
      exact (hput.trans (Registry.resources_perm reg' c.id).symm).trans ih

end KeepsAttachments

/-! ## One operation -/

theorem pinContainer_keepsAttachments (hs : reg.Sound) (id : ContainerId) :
    reg.KeepsAttachments (pinContainer id reg).state := by
  simp only [pinContainer]
  cases hget : reg.container? id with
  | some c => exact .overwritten hs hget rfl rfl
  | none => exact .refl

theorem onContainer_keepsAttachments (hs : reg.Sound)
    {f : Container τ ρ → Container τ ρ} (hid : ∀ c, (f c).id = c.id)
    (hattachments : ∀ c, (f c).attachments = c.attachments) :
    reg.KeepsAttachments (onContainer id f reg).state := by
  simp only [onContainer]
  cases hget : reg.container? id with
  | some c => exact .overwritten hs hget (hid c) (hattachments c)
  | none => exact .refl

theorem onCounters_keepsAttachments (hs : reg.Sound) (node : NodeHandle)
    (f : Counters → Except RegistryError (α × Counters)) :
    reg.KeepsAttachments (onCounters node f reg).state := by
  simp only [onCounters]
  cases hget : reg.container? node.container with
  | none => exact .refl
  | some c =>
      cases hn : c.node? node.kind node.node with
      | none =>
          simp only [hn]
          exact .refl
      | some n =>
          simp only [hn]
          rcases f n.counters with e | ⟨a, counters⟩
          · exact .refl
          · exact .overwritten hs hget rfl rfl

/-- How a release ends: nothing is let go of, or the container goes with its last
    reference, and with it all that was attached to it. -/
inductive Released (reg : Registry τ ρ) (id : ContainerId)
    (ending : Ending (Registry τ ρ) ε (Release ρ)) : Prop
  | kept (hdropped : ∀ r, ending.outcome = .value r → r.dropped = [])
      (hkeeps : reg.KeepsAttachments ending.state)
  | freed {c : Container τ ρ} (hget : reg.container? id = some c)
      (hlast : c.refcount = 1) (houtcome : ending.outcome = .value ⟨0, c.attachments⟩)
      (hstate : ending.state = reg.remove id)

theorem released_of_fault {id : ContainerId} {f : Fault} {reg' : Registry τ ρ}
    {events : List Event} (hkeeps : reg.KeepsAttachments reg') :
    reg.Released id (⟨.fault f, reg', events⟩ : Ending _ ε (Release ρ)) := by
  refine .kept ?_ hkeeps
  rintro r ⟨⟩

theorem closeContainer_released (hs : reg.Sound) (id : ContainerId) :
    reg.Released id
      (closeContainer id reg : Ending (Registry τ ρ) ε (Release ρ)) := by
  simp only [closeContainer]
  cases hget : reg.container? id with
  | none => exact released_of_fault .refl
  | some c =>
      have hput : reg.KeepsAttachments (reg.put c.release) := .overwritten hs hget rfl rfl
      by_cases hzero : c.refcount = 0
      · simp only [if_pos hzero]
        exact released_of_fault .refl
      · by_cases hpos : 0 < c.release.refcount
        · simp only [if_neg hzero, if_pos hpos]
          refine .kept ?_ hput
          rintro r ⟨⟩
          rfl
        · by_cases hchildren : c.release.hasChildren = true
          · simp only [if_neg hzero, if_neg hpos, if_pos hchildren]
            exact released_of_fault hput
          · simp only [if_neg hzero, if_neg hpos, if_neg hchildren]
            have hlast : c.refcount = 1 := by
              have hpred : ¬ 0 < c.refcount - 1 := hpos
              omega
            exact .freed hget hlast rfl rfl

theorem untrack_released (hs : reg.Sound) (node : NodeHandle) :
    reg.Released node.container
      (untrack node reg : Ending (Registry τ ρ) ε (Release ρ)) := by
  cases hget : reg.container? node.container with
  | none =>
      simp only [untrack, hget]
      exact released_of_fault .refl
  | some c =>
      cases hn : c.node? node.kind node.node with
      | none =>
          simp only [untrack, hget, hn]
          exact released_of_fault .refl
      | some n =>
          by_cases hlast : 0 < n.refcount - 1
          · simp only [untrack, hget, hn, if_pos hlast]
            refine .kept ?_ (.overwritten hs hget rfl rfl)
            rintro r ⟨⟩
            rfl
          · -- the node goes, and gives back its reference on the container
            have hid := (hs.entry hget).id_eq
            have hfree : Write Terms.clearing reg
                (reg.put (c.removeNode node.kind node.node)) := .free hget hn trivial
            have hkeeps : reg.KeepsAttachments
                (reg.put (c.removeNode node.kind node.node)) := .overwritten hs hget rfl rfl
            have hget' : (reg.put (c.removeNode node.kind node.node)).container?
                node.container = some (c.removeNode node.kind node.node) :=
              (container?_put _ _ _).trans (if_pos hid)
            rw [untrack_eq_close hget hn hlast, Call.map_apply]
            cases closeContainer_released (ε := ε) (hfree.sound hs)
              node.container with
            | kept hdropped hrest =>
                refine .kept ?_ (hkeeps.trans hrest)
                intro r hr
                obtain ⟨r', ho, rfl⟩ := Outcome.map_eq_value_iff.mp hr
                exact hdropped r' ho
            | @freed c' hget'' hrefcount houtcome hstate =>
                obtain rfl := Option.some.inj (hget'.symm.trans hget'')
                refine .freed hget hrefcount ?_ ?_
                · rw [houtcome]
                  rfl
                · rw [hstate, ← hid]
                  exact remove_put_self reg (c.removeNode node.kind node.node)

/-- A track puts one entry over that of its container, or leaves the registry as
    it was. -/
theorem Concludes.keepsAttachments {memory : Memory} {kind : Kind} {token : τ}
    {name : Option String} {verdict : Outcome IdentityError (Option (Node τ))}
    {outcome : Outcome RegistryError NodeHandle} (hs : reg.Sound)
    (hget : reg.container? id = some c)
    (h : Concludes memory reg id c kind token name verdict outcome reg') :
    reg.KeepsAttachments reg' := by
  rcases verdict with (_ | n) | e | f
  · by_cases hm : grantsName memory .objectName name = true
    · simp only [Concludes, if_pos hm] at h
      rw [h.2]
      exact .overwritten hs hget rfl rfl
    · simp only [Concludes, if_neg hm] at h
      rw [h.2]
      exact .refl
  · rw [h.2]
    exact .overwritten hs hget rfl rfl
  · rw [h.2]
    exact .refl
  · rw [h.2]
    exact .refl

variable [Identity ω η τ]

theorem track_keepsAttachments (hs : reg.Sound) (memory : Memory) (id : ContainerId)
    (kind : Kind) (token : τ) (name : Option String) (raw : η) (w : ω) :
    reg.KeepsAttachments (track memory id kind token name raw (w, reg)).state.2 := by
  cases hget : reg.container? id with
  | none =>
      rw [track_of_not_open hget]
      exact .refl
  | some c =>
      obtain ⟨-, hconcludes⟩ := track_concludes hget (hs.entry hget) memory kind
        token name raw w
      exact hconcludes.keepsAttachments hs hget

theorem trackIn_keepsAttachments (hs : reg.Sound) (memory : Memory)
    (home reported : ContainerId) (kind : Kind) (token : τ) (name : Option String)
    (raw : η) (w : ω) :
    reg.KeepsAttachments
      (trackIn memory home reported kind token name raw (w, reg)).state.2 := by
  by_cases hknown : reported = home ∨ ∃ c, reg.container? reported = some c
  · rw [trackIn_of_known hknown]
    exact track_keepsAttachments hs memory reported kind token name raw w
  · obtain ⟨hhome, hopen⟩ := not_or.mp hknown
    have hnone : reg.container? reported = none :=
      Option.eq_none_iff_forall_ne_some.mpr fun c hget => hopen ⟨c, hget⟩
    rw [trackIn_of_not_open hnone memory fun heq => hhome heq.symm]
    split
    · split
      · exact .fresh hnone rfl
      · exact .refl
    · exact .refl

omit [Identity ω η τ] in
theorem openContainer_keepsAttachments (hs : reg.Sound) (memory : Memory)
    (id : ContainerId) (name : Option String) :
    reg.KeepsAttachments (openContainer memory id name reg).state := by
  rw [openContainer_apply]
  split
  · cases hget : reg.container? id with
    | none =>
        rw [afterOpen, hget]
        exact .fresh hget rfl
    | some c =>
        rw [afterOpen, hget]
        refine .overwritten hs hget (Container.id_promote c name) ?_
        show (c.promote name).attachments = c.attachments
        rw [Container.promote]
        split <;> rfl
  · exact .refl

/-! ## One request -/

/-- The resource that an operation is given. -/
def Op.given : Op η τ ρ → List ρ
  | attach _ resource => [resource]
  | _ => []

omit [Identity ω η τ] in
/-- Only the release of a container lets go of resources that the operation was
    not given. -/
theorem Op.dropped_eq_nil {op : Op η τ ρ} (hgiven : op.given = [])
    {o : Outcome RegistryError (Answer τ ρ)}
    (ho : ∀ r, o = .value (.released r) → r.dropped = []) : op.dropped o = [] := by
  cases o with
  | value a =>
      cases a with
      | released r => exact ho r rfl
      | _ => rfl
  | error e =>
      cases op with
      | attach id resource => cases hgiven
      | _ => rfl
  | fault f => rfl

namespace Request

/-- The resources that a request lets go of. -/
def dropped (q : Request ω η τ ρ) (reg : Registry τ ρ) : List ρ :=
  q.op.dropped (q.perform reg).outcome

/-- What a request does with resources. -/
inductive Handled (q : Request ω η τ ρ) (reg : Registry τ ρ) : Prop
  | kept (hgiven : q.op.given = []) (hdropped : q.dropped reg = [])
      (hkeeps : reg.KeepsAttachments (q.next reg))
  | attached {id : ContainerId} {c : Container τ ρ} {resource : ρ}
      (hop : q.op = .attach id resource) (hget : reg.container? id = some c)
      (houtcome : (q.perform reg).outcome = .value .done)
      (hnext : q.next reg
        = reg.put { c with attachments := c.attachments ++ [resource] })
  /-- A resource that cannot be attached is let go of at once. -/
  | refused {id : ContainerId} {resource : ρ} {e : RegistryError}
      (hop : q.op = .attach id resource) (houtcome : (q.perform reg).outcome = .error e)
  /-- A container goes, with all that was attached to it. -/
  | freed {id : ContainerId} {c : Container τ ρ} (hreleases : q.op.Releases id)
      (hget : reg.container? id = some c) (hlast : c.refcount = 1)
      (houtcome : (q.perform reg).outcome = .value (.released ⟨0, c.attachments⟩))
      (hnext : q.next reg = reg.remove id)

section

variable {memory : Memory} {w : ω} {op : Op η τ ρ}

/-- An operation that is no release, and is given nothing. -/
theorem handled_of_keeps {g : α → Answer τ ρ}
    {x : Call (ω × Registry τ ρ) RegistryError α} (hgiven : op.given = [])
    (hrun : op.run memory = g <$> x) (hg : ∀ a r, g a ≠ .released r)
    (hkeeps : reg.KeepsAttachments (x (w, reg)).state.2) :
    Handled ⟨memory, w, op⟩ reg := by
  refine .kept hgiven (Op.dropped_eq_nil hgiven fun r hr => ?_) ?_
  · rw [perform, hrun, Call.map_apply] at hr
    obtain ⟨a, -, ha⟩ := Outcome.map_eq_value_iff.mp hr
    exact absurd ha (hg a r)
  · rw [next, perform, hrun, Call.map_apply]
    exact hkeeps

theorem handled_of_released
    {x : Call (Registry τ ρ) RegistryError (Release ρ)} (hgiven : op.given = [])
    (hrun : op.run memory = Answer.released <$> alone (ω := ω) x)
    (hreleases : op.Releases id) (h : reg.Released id (x reg)) :
    Handled ⟨memory, w, op⟩ reg := by
  have hperform : perform ⟨memory, w, op⟩ reg
      = ⟨(x reg).outcome.map .released, (w, (x reg).state), (x reg).events⟩ := by
    rw [perform, hrun, Op.map_alone_apply]
  cases h with
  | kept hdropped hkeeps =>
      refine .kept hgiven (Op.dropped_eq_nil hgiven fun r hr => ?_) ?_
      · rw [hperform] at hr
        obtain ⟨r', ho, hr'⟩ := Outcome.map_eq_value_iff.mp hr
        obtain rfl := Answer.released.inj hr'
        exact hdropped r' ho
      · rw [next, hperform]
        exact hkeeps
  | freed hget hlast houtcome hstate =>
      refine .freed hreleases hget hlast ?_ ?_
      · rw [hperform, houtcome]
        rfl
      · rw [next, hperform]
        exact hstate

theorem perform_attach (memory : Memory) (w : ω) (id : ContainerId) (resource : ρ) :
    (⟨memory, w, .attach id resource⟩ : Request ω η τ ρ).perform reg
      = ⟨(attach memory id resource reg).outcome.map fun _ => .done,
        (w, (attach memory id resource reg).state),
        (attach memory id resource reg).events⟩ := Op.map_alone_apply _ _

/-- Nothing can be attached to a container that is not open. -/
theorem attach_of_not_open (hget : reg.container? id = none) (memory : Memory)
    (w : ω) (resource : ρ) :
    ((⟨memory, w, .attach id resource⟩ : Request ω η τ ρ).perform reg).outcome
      = .error (.containerNotOpen id) := by
  rw [perform_attach]
  simp only [attach, hget]
  rfl

theorem handled_attach (memory : Memory) (w : ω) (id : ContainerId) (resource : ρ) :
    Handled (⟨memory, w, .attach id resource⟩ : Request ω η τ ρ) reg := by
  cases hget : reg.container? id with
  | none => exact .refused rfl (attach_of_not_open hget memory w resource)
  | some c =>
      have hperform : (⟨memory, w, .attach id resource⟩ : Request ω η τ ρ).perform reg
          = _ := perform_attach memory w id resource
      by_cases hm : memory.grants .attachments (16 * (c.attachments.length + 1)) = true
      · simp only [attach, hget, if_pos hm] at hperform
        refine .attached rfl hget ?_ ?_
        · rw [hperform]
          rfl
        · rw [next, hperform]
      · simp only [attach, hget, if_neg hm] at hperform
        have houtcome : ((⟨memory, w, .attach id resource⟩ : Request ω η τ ρ).perform
            reg).outcome = .error (.outOfMemory Purpose.attachments.text) := by
          rw [hperform]
          rfl
        exact .refused rfl houtcome

end

theorem handled (q : Request ω η τ ρ) (hs : reg.Sound) : q.Handled reg := by
  obtain ⟨memory, w, op⟩ := q
  cases op with
  | openContainer id name =>
      exact handled_of_keeps rfl rfl nofun
        (openContainer_keepsAttachments hs memory id name)
  | pinContainer id =>
      exact handled_of_keeps rfl rfl nofun (pinContainer_keepsAttachments hs id)
  | closeContainer id =>
      exact handled_of_released rfl rfl rfl (closeContainer_released hs id)
  | track id kind token name raw =>
      exact handled_of_keeps rfl rfl nofun
        (track_keepsAttachments hs memory id kind token name raw w)
  | trackIn home reported kind token name raw =>
      exact handled_of_keeps rfl rfl nofun
        (trackIn_keepsAttachments hs memory home reported kind token name raw w)
  | untrack node =>
      exact handled_of_released rfl rfl rfl (untrack_released hs node)
  | setDatasetShape node typeSize dimensions =>
      exact handled_of_keeps rfl rfl nofun (onCounters_keepsAttachments hs node _)
  | recordRead node selected elapsed =>
      exact handled_of_keeps rfl rfl nofun (onCounters_keepsAttachments hs node _)
  | recordWrite node selected elapsed =>
      exact handled_of_keeps rfl rfl nofun (onCounters_keepsAttachments hs node _)
  | recordCommit node =>
      exact handled_of_keeps rfl rfl nofun (onCounters_keepsAttachments hs node _)
  | recordGet node =>
      exact handled_of_keeps rfl rfl nofun (onCounters_keepsAttachments hs node _)
  | recordOp node =>
      exact handled_of_keeps rfl rfl nofun (onCounters_keepsAttachments hs node _)
  | recordCreated id kind =>
      refine handled_of_keeps rfl rfl nofun (onContainer_keepsAttachments hs ?_ ?_)
      · exact fun _ => rfl
      · exact fun _ => rfl
  | recordAccessed id kind =>
      refine handled_of_keeps rfl rfl nofun (onContainer_keepsAttachments hs ?_ ?_)
      · exact fun _ => rfl
      · exact fun _ => rfl
  | attach id resource => exact handled_attach memory w id resource
  | verifyOpenThings containers datasets =>
      refine handled_of_keeps rfl rfl nofun ?_
      show reg.KeepsAttachments (verifyOpenThings containers datasets reg).state
      rw [verifyOpenThings_state]
      exact .refl

variable {q : Request ω η τ ρ}

theorem dropped_of_released {r : Release ρ}
    (h : (q.perform reg).outcome = .value (.released r)) :
    q.dropped reg = r.dropped := by
  rw [dropped, h]
  rfl

theorem dropped_of_refused {resource : ρ} {e : RegistryError}
    (hop : q.op = .attach id resource) (h : (q.perform reg).outcome = .error e) :
    q.dropped reg = [resource] := by
  rw [dropped, h, hop]
  rfl

/-- The entry that goes was given back the last reference on, and all that was
    attached to it is let go of. -/
theorem freed_of_gone (q : Request ω η τ ρ) (hs : reg.Sound)
    (hget : reg.container? id = some c) (hgone : (q.next reg).container? id = none) :
    q.op.Releases id ∧ c.refcount = 1 ∧
      (q.perform reg).outcome = .value (.released ⟨0, c.attachments⟩) ∧
      q.next reg = reg.remove id := by
  have hopen : reg.container? id ≠ none := by
    rw [hget]
    nofun
  cases q.handled hs with
  | kept _ _ hkeeps => exact absurd hgone (hkeeps.present hopen)
  | @attached id' c' resource _ _ _ hnext =>
      rw [hnext, container?_put] at hgone
      split at hgone
      · cases hgone
      · exact absurd hgone hopen
  | refused _ houtcome =>
      rw [q.next_of_error houtcome] at hgone
      exact absurd hgone hopen
  | @freed id' c' hreleases hget' hlast houtcome hnext =>
      rw [hnext, container?_remove] at hgone
      by_cases hid : id' = id
      · subst hid
        obtain rfl := Option.some.inj (hget.symm.trans hget')
        exact ⟨hreleases, hlast, houtcome, hnext⟩
      · rw [if_neg hid] at hgone
        exact absurd hgone hopen

/-- Where no entry goes, only a resource that could not be attached is let go
    of. -/
theorem dropped_of_all_stay (q : Request ω η τ ρ) (hs : reg.Sound)
    (hstay : ∀ id, reg.container? id ≠ none → (q.next reg).container? id ≠ none) :
    q.dropped reg = [] ∨ ∃ id resource e, q.op = .attach id resource ∧
      (q.perform reg).outcome = .error e ∧ q.dropped reg = [resource] ∧
      q.next reg = reg := by
  cases q.handled hs with
  | kept _ hdropped _ => exact Or.inl hdropped
  | attached _ _ houtcome _ =>
      left
      rw [dropped, houtcome]
      rfl
  | @refused id resource e hop houtcome =>
      exact Or.inr ⟨id, resource, e, hop, houtcome, dropped_of_refused hop houtcome,
        q.next_of_error houtcome⟩
  | @freed id c _ hget _ _ hnext =>
      have hgone : (q.next reg).container? id = none := by
        rw [hnext, container?_remove, if_pos rfl]
      have hopen : reg.container? id ≠ none := by
        rw [hget]
        nofun
      exact absurd hgone (hstay id hopen)

/-- What was attached and what comes in is what is let go of and what is attached
    then. -/
theorem conserves (q : Request ω η τ ρ) (hs : reg.Sound) :
    (q.dropped reg ++ (q.next reg).resources).Perm (reg.resources ++ q.op.given) := by
  cases q.handled hs with
  | kept hgiven hdropped hkeeps =>
      rw [hgiven, hdropped, List.append_nil, List.nil_append]
      exact hkeeps.resources_perm
  | @attached id c resource hop hget houtcome hnext =>
      have hid := (hs.entry hget).id_eq
      have hput := resources_put reg { c with attachments := c.attachments ++ [resource] }
      have hold := resources_perm reg id
      rw [attached_of_some hget] at hold
      rw [dropped, houtcome, hnext, hop]
      show (Registry.resources _).Perm (_ ++ [resource])
      refine hput.trans ?_
      show ((c.attachments ++ [resource]) ++ (reg.remove c.id).resources).Perm _
      rw [hid, List.append_assoc]
      refine .trans ?_ (hold.symm.append_right [resource])
      rw [List.append_assoc]
      exact List.perm_append_comm.append_left c.attachments
  | @refused id resource e hop houtcome =>
      rw [dropped_of_refused hop houtcome, q.next_of_error houtcome, hop]
      exact List.perm_append_comm
  | @freed id c hreleases hget _ houtcome hnext =>
      have hgiven : q.op.given = [] := by
        obtain ⟨memory, w, op⟩ := q
        cases op with
        | attach id' resource => exact hreleases.elim
        | _ => rfl
      have hold := resources_perm reg id
      rw [attached_of_some hget] at hold
      rw [dropped_of_released houtcome, hnext, hgiven, List.append_nil]
      exact hold.symm

/-- The resources that a request attaches to a container. -/
def attaches (q : Request ω η τ ρ) (reg : Registry τ ρ) (id : ContainerId) : List ρ :=
  match q.op, (q.perform reg).outcome with
  | .attach id' resource, .value _ => if id' = id then [resource] else []
  | _, _ => []

theorem attaches_of_given_nil (hgiven : q.op.given = []) (reg : Registry τ ρ)
    (id : ContainerId) : q.attaches reg id = [] := by
  rw [attaches]
  split
  · next heq _ => rw [heq] at hgiven; cases hgiven
  · rfl

/-- As long as a container is there, what is attached to it only grows. -/
theorem attached_next (q : Request ω η τ ρ) (hs : reg.Sound)
    (hnext : (q.next reg).container? id ≠ none) :
    (q.next reg).attached id = reg.attached id ++ q.attaches reg id := by
  cases q.handled hs with
  | kept hgiven _ hkeeps =>
      rw [attaches_of_given_nil hgiven, List.append_nil]
      exact hkeeps.attached_eq id
  | @attached id' c resource hop hget houtcome hput =>
      have hattaches : q.attaches reg id = if id' = id then [resource] else [] := by
        rw [attaches, hop, houtcome]
      rw [hput, attached_put, hattaches]
      show (if c.id = id then c.attachments ++ [resource] else reg.attached id) = _
      rw [(hs.entry hget).id_eq]
      by_cases hid : id' = id
      · subst hid
        rw [if_pos rfl, if_pos rfl, attached_of_some hget]
      · rw [if_neg hid, if_neg hid, List.append_nil]
  | refused hop houtcome =>
      rw [q.next_of_error houtcome, attaches, hop, houtcome, List.append_nil]
  | @freed id' c hreleases hget _ houtcome hremove =>
      have hid : ¬ id' = id := by
        rintro rfl
        rw [hremove, container?_remove] at hnext
        exact hnext (if_pos rfl)
      have hnone : q.attaches reg id = [] := by
        rw [attaches, houtcome]
        split
        · next heq _ => rw [heq] at hreleases; exact hreleases.elim
        · rfl
      rw [hnone, hremove, attached, container?_remove, if_neg hid, List.append_nil]
      rfl

/-- A container that is not open has nothing attached. -/
theorem attaches_of_not_open (q : Request ω η τ ρ) (hs : reg.Sound)
    (hget : reg.container? id = none) : q.attaches reg id = [] := by
  rw [attaches]
  split
  · next id' resource a hop ho =>
      by_cases hid : id' = id
      · subst hid
        cases q.handled hs with
        | kept hgiven => rw [hop] at hgiven; cases hgiven
        | attached hop' hget' =>
            obtain ⟨rfl, rfl⟩ := Op.attach.inj (hop.symm.trans hop')
            rw [hget] at hget'
            cases hget'
        | refused _ houtcome => rw [ho] at houtcome; cases houtcome
        | freed hreleases => rw [hop] at hreleases; exact hreleases.elim
      · exact if_neg hid
  · rfl

end Request

/-! ## Runs -/

/-- The resources that requests attach to a container, in order. -/
def attachedAlong (id : ContainerId) (reg : Registry τ ρ) :
    List (Request ω η τ ρ) → List ρ
  | [] => []
  | q :: rest => q.attaches reg id ++ attachedAlong id (q.next reg) rest

theorem attachedAlong_concat (reg : Registry τ ρ) (requests : List (Request ω η τ ρ))
    (q : Request ω η τ ρ) :
    attachedAlong id reg (requests ++ [q])
      = attachedAlong id reg requests ++ q.attaches (after reg requests) id := by
  induction requests generalizing reg with
  | nil => exact List.append_nil _
  | cons r rest ih =>
      rw [List.cons_append, attachedAlong, attachedAlong, ih, List.append_assoc]
      rfl

variable {config : Config} {before since : List (Request ω η τ ρ)}
  {q : Request ω η τ ρ}

/-- An entry has what was attached to it since it came in. -/
theorem Tenure.attached_eq (h : Tenure config id before q since) :
    (built config (before ++ q :: since)).attached id
      = attachedAlong id (built config (before ++ [q])) since := by
  have hpresent : ∀ part, part <+: since →
      (built config (before ++ q :: part)).container? id ≠ none := by
    intro part hpart hnone
    obtain ⟨c, hget⟩ := h.present part hpart
    rw [hnone] at hget
    cases hget
  induction since using List.reverseRecOn with
  | nil =>
      have hs := built_sound config before
      have hnext := hpresent [] List.prefix_rfl
      rw [built_concat] at hnext ⊢
      rw [q.attached_next hs hnext, q.attaches_of_not_open hs h.absent, attached,
        h.absent]
      rfl
  | append_singleton since r ih =>
      have hold := ih (h.of_prefix (List.prefix_append since [r])) fun part hpart =>
        hpresent part (hpart.trans (List.prefix_append since [r]))
      have hbuilt : built config (before ++ q :: (since ++ [r]))
          = r.next (built config (before ++ q :: since)) := by
        rw [← List.cons_append, ← List.append_assoc, built_concat]
      have hnext := hpresent _ List.prefix_rfl
      rw [hbuilt] at hnext ⊢
      rw [r.attached_next (built_sound config _) hnext, hold, attachedAlong_concat,
        ← built_cons]

/-- The resources that requests let go of, in order. -/
def drops (reg : Registry τ ρ) : List (Request ω η τ ρ) → List ρ
  | [] => []
  | q :: rest => q.dropped reg ++ drops (q.next reg) rest

/-- Of what was attached and what came in, all is let go of once or still
    attached. -/
theorem drops_conserve (hs : reg.Sound) (requests : List (Request ω η τ ρ)) :
    (drops reg requests ++ (after reg requests).resources).Perm
      (reg.resources ++ requests.flatMap fun q => q.op.given) := by
  induction requests generalizing reg with
  | nil => rw [List.flatMap_nil, List.append_nil]; exact List.Perm.refl _
  | cons q rest ih =>
      have hrest := ih (q.sound hs)
      rw [drops, List.append_assoc, List.flatMap_cons, ← List.append_assoc _ q.op.given]
      refine (hrest.append_left (q.dropped reg)).trans ?_
      rw [← List.append_assoc]
      exact (q.conserves hs).append_right _

/-- The open containers come in ascending order, if each is kept under its own
    name. -/
theorem openContainers_ascending
    (hid : ∀ {id c}, reg.container? id = some c → c.id = id) :
    reg.openContainers.Pairwise fun c c' => c.id.number < c'.id.number := by
  rw [openContainers, IdMap.values, List.pairwise_map]
  refine reg.containers.ascending.imp_of_mem ?_
  intro a b ha hb hlt
  have hida := hid (IdMap.get?_eq_some_iff.mpr ha)
  have hidb := hid (IdMap.get?_eq_some_iff.mpr hb)
  rw [hida, hidb]
  exact hlt

theorem mem_openContainers_iff
    (hid : ∀ {id c}, reg.container? id = some c → c.id = id) :
    c ∈ reg.openContainers ↔ reg.container? c.id = some c := by
  rw [openContainers, IdMap.mem_values_iff]
  constructor
  · rintro ⟨id, hget⟩
    rw [hid hget]
    exact hget
  · intro hget
    exact ⟨c.id, hget⟩

theorem Sound.openContainers_ascending (hs : reg.Sound) :
    reg.openContainers.Pairwise fun c c' => c.id.number < c'.id.number :=
  Registry.openContainers_ascending fun hget => (hs.entry hget).id_eq

theorem Sound.mem_openContainers (hs : reg.Sound) :
    c ∈ reg.openContainers ↔ reg.container? c.id = some c :=
  mem_openContainers_iff fun hget => (hs.entry hget).id_eq

/-- What is attached to a container is let go of with its entry.  An entry has what
    was attached to it since it came in.  The request that frees it, with its last
    reference, lets go of exactly that, in that order, and no other request lets go
    of anything, but for a resource that it could not attach.  The end of the
    registry lets go of the rest, by containers in ascending order.  So of all
    resources that are passed in, each is let go of once. -/
theorem attachments_dropped_once (config : Config)
    (requests : List (Request ω η τ ρ)) :
    (∀ id c, (built config requests).container? id = some c →
      ∃ before q since, requests = before ++ q :: since ∧
        Tenure config id before q since ∧
        c.attachments = attachedAlong id (built config (before ++ [q])) since) ∧
    (∀ (q : Request ω η τ ρ) (id : ContainerId) (c : Container τ ρ),
      (built config requests).container? id = some c →
      (q.next (built config requests)).container? id = none →
      q.op.Releases id ∧ c.refcount = 1 ∧
        (q.perform (built config requests)).outcome
          = .value (.released ⟨0, c.attachments⟩) ∧
        q.dropped (built config requests) = c.attachments ∧
        q.next (built config requests) = (built config requests).remove id) ∧
    (∀ q : Request ω η τ ρ,
      (∀ id, (built config requests).container? id ≠ none →
        (q.next (built config requests)).container? id ≠ none) →
      q.dropped (built config requests) = [] ∨
        ∃ id resource e, q.op = .attach id resource ∧
          (q.perform (built config requests)).outcome = .error e ∧
          q.dropped (built config requests) = [resource] ∧
          q.next (built config requests) = built config requests) ∧
    (∀ (q : Request ω η τ ρ) (id : ContainerId) (resource : ρ),
      q.op = .attach id resource → (built config requests).container? id = none →
      (q.perform (built config requests)).outcome = .error (.containerNotOpen id) ∧
        q.dropped (built config requests) = [resource] ∧
        q.next (built config requests) = built config requests) ∧
    ∃ t, (close (built config requests) :
        Ending (Registry τ ρ) RegistryError (Teardown ρ)).outcome = .value t ∧
      t.dropped = (built config requests).openContainers.flatMap
        Container.attachments ∧
      (built config requests).openContainers.Pairwise
        (fun c c' => c.id.number < c'.id.number) ∧
      (∀ c, c ∈ (built config requests).openContainers ↔
        (built config requests).container? c.id = some c) ∧
      (drops (.ofConfig config) requests ++ t.dropped).Perm
        (requests.flatMap fun q => q.op.given) := by
  have hs := built_sound config requests
  refine ⟨?_, ?_, ?_, ?_, ?_⟩
  · intro id c hget
    obtain ⟨before, q, since, rfl, htenure⟩ := exists_tenure hget
    have hattached := htenure.attached_eq
    rw [attached_of_some hget] at hattached
    exact ⟨before, q, since, rfl, htenure, hattached⟩
  · intro q id c hget hgone
    obtain ⟨hreleases, hlast, houtcome, hnext⟩ := q.freed_of_gone hs hget hgone
    exact ⟨hreleases, hlast, houtcome, Request.dropped_of_released houtcome, hnext⟩
  · intro q hstay
    exact q.dropped_of_all_stay hs hstay
  · intro q id resource hop hget
    obtain ⟨memory, w, op⟩ := q
    obtain rfl : op = .attach id resource := hop
    have houtcome := Request.attach_of_not_open (η := η) hget memory w resource
    exact ⟨houtcome, Request.dropped_of_refused rfl houtcome,
      Request.next_of_error _ houtcome⟩
  · refine ⟨_, rfl, rfl, hs.openContainers_ascending, fun c => hs.mem_openContainers, ?_⟩
    exact drops_conserve (sound_ofConfig config) requests

/-- Two resources go with the last release of their container.  The third was
    attached after it was opened again, and goes with the registry. -/
theorem attachments_dropped_once_of_reopened :
    ∃ (requests : List (Request Bytewise Unit Token String))
      (q reopen attach : Request Bytewise Unit Token String) (t : Teardown String),
      q.dropped (built Config.default requests) = ["a", "b"] ∧ t.dropped = ["c"] ∧
      (drops (.ofConfig Config.default) (requests ++ [q, reopen, attach])
        ++ t.dropped).Perm ["a", "b", "c"] := by
  have hdrops := attachments_dropped_once (ω := Bytewise) (η := Unit) (τ := Token)
    (ρ := String) Config.default
  obtain ⟨-, hfreed, -⟩ := hdrops [.plain (.openContainer ⟨1⟩ none),
    .plain (.attach ⟨1⟩ "a"), .plain (.attach ⟨1⟩ "b")]
  obtain ⟨-, -, -, hq, -⟩ := hfreed (.plain (.closeContainer ⟨1⟩)) ⟨1⟩ _ rfl rfl
  obtain ⟨-, -, -, -, t, -, hdropped, -, -, hperm⟩ := hdrops
    [.plain (.openContainer ⟨1⟩ none), .plain (.attach ⟨1⟩ "a"),
      .plain (.attach ⟨1⟩ "b"), .plain (.closeContainer ⟨1⟩),
      .plain (.openContainer ⟨1⟩ none), .plain (.attach ⟨1⟩ "c")]
  exact ⟨_, _, _, _, t, hq, hdropped, hperm⟩

end Registry

end Provenance
