import Provenance.Proofs.Registry.Upkeep

/-! # What a registry says aloud

    An operation of a registry emits nothing, unless it ends in a fault: then
    it emits the events of that fault.  So a condition on the world and on the
    events that faults do not disturb is kept by all of them, whatever state
    the registry is in. -/

namespace Provenance.Registry

variable {ω η τ ρ ε α : Type}

/-- A condition on events that the events of a fault do not disturb. -/
def Unmoved (Q : List Event → Prop) : Prop :=
  ∀ (f : Fault) (ev : List Event), Q ev → Q (ev ++ f.events)

section

variable {Q : List Event → Prop}

theorem openContainer_keeps (memory : Memory) (id : ContainerId)
    (name : Option String) :
    (openContainer memory id name :
      Call (Registry τ ρ) RegistryError (Container τ ρ)).Keeps fun _ => Q := by
  intro reg ev h
  simp only [Call.Ensures, openContainer]
  by_cases hm : grantsName memory .objectName name
  · rw [if_pos hm]
    simpa using h
  · rw [if_neg hm]
    simpa using h

theorem pinContainer_keeps (id : ContainerId) :
    (pinContainer id : Call (Registry τ ρ) RegistryError Nat).Keeps
      fun _ => Q := by
  intro reg ev h
  simp only [Call.Ensures, pinContainer]
  cases reg.container? id <;> simpa using h

/-- A release has no error: it succeeds or faults. -/
theorem closeContainer_quiet (hQ : Unmoved Q) (id : ContainerId)
    (reg : Registry τ ρ) {ev : List Event} (h : Q ev) :
    (closeContainer id : Call (Registry τ ρ) ε (Release ρ)).Ensures reg ev
      (fun _ _ => Q) (fun _ _ _ => False) (fun _ _ => Q) := by
  simp only [Call.Ensures, closeContainer]
  cases reg.container? id with
  | none => exact hQ _ ev h
  | some c =>
      by_cases hc : c.refcount = 0
      · simp only [if_pos hc]
        exact hQ _ ev h
      · by_cases hr : 0 < c.release.refcount
        · simp only [if_neg hc, if_pos hr]
          simpa using h
        · by_cases hn : c.release.hasChildren
          · simp only [if_neg hc, if_neg hr, if_pos hn]
            exact hQ _ ev h
          · simp only [if_neg hc, if_neg hr, if_neg hn]
            simpa using h

theorem reuseNode_keeps (hQ : Unmoved Q) (node : NodeHandle) :
    (reuseNode node : Call (Registry τ ρ) ε NodeHandle).Keeps fun _ => Q := by
  intro reg ev h
  simp only [Call.Ensures, reuseNode]
  cases reg.container? node.container with
  | none => exact hQ _ ev h
  | some c =>
      cases hn : c.node? node.kind node.node with
      | none => simpa [hn] using hQ _ ev h
      | some n => simpa [hn] using h

theorem makeNode_keeps (hQ : Unmoved Q) (memory : Memory) (id : ContainerId)
    (kind : Kind) (token : τ) (name : Option String) :
    (makeNode memory id kind token name :
      Call (Registry τ ρ) RegistryError NodeHandle).Keeps fun _ => Q := by
  intro reg ev h
  simp only [Call.Ensures, makeNode]
  by_cases hm : grantsName memory .objectName name
  · rw [if_pos hm]
    cases reg.container? id with
    | none => exact hQ _ ev h
    | some c => simpa using h
  · rw [if_neg hm]
    simpa using h

theorem makePlaceholder_keeps (memory : Memory) (id : ContainerId) :
    (makePlaceholder memory id : Call (Registry τ ρ) RegistryError Unit).Keeps
      fun _ => Q := by
  intro reg ev h
  simp only [Call.Ensures, makePlaceholder]
  by_cases hm : grantsName memory .placeholderName (some reg.placeholderName)
  · rw [if_pos hm]
    simpa using h
  · rw [if_neg hm]
    simpa using h

theorem untrack_quiet (hQ : Unmoved Q) (node : NodeHandle)
    (reg : Registry τ ρ) {ev : List Event} (h : Q ev) :
    (untrack node : Call (Registry τ ρ) ε (Release ρ)).Ensures reg ev
      (fun _ _ => Q) (fun _ _ _ => False) (fun _ _ => Q) := by
  cases hget : reg.container? node.container with
  | none =>
      simp only [Call.Ensures, untrack, hget]
      exact hQ _ ev h
  | some c =>
      cases hn : c.node? node.kind node.node with
      | none =>
          simp only [Call.Ensures, untrack, hget, hn]
          exact hQ _ ev h
      | some n =>
          by_cases hlast : 0 < n.refcount - 1
          · simp only [Call.Ensures, untrack, hget, hn, if_pos hlast]
            simpa using h
          · refine Call.Ensures.of_apply_eq (untrack_eq_close hget hn hlast) ?_
            rw [Call.ensures_map]
            exact closeContainer_quiet hQ node.container _ h

theorem onContainer_keeps (id : ContainerId)
    (f : Container τ ρ → Container τ ρ) :
    (onContainer id f).Keeps fun _ => Q := by
  intro reg ev h
  simp only [Call.Ensures, onContainer]
  cases reg.container? id <;> simpa using h

theorem onCounters_keeps (hQ : Unmoved Q) (node : NodeHandle)
    (f : Counters → Except RegistryError (α × Counters)) :
    (onCounters node f : Call (Registry τ ρ) RegistryError α).Keeps
      fun _ => Q := by
  intro reg ev h
  simp only [Call.Ensures, onCounters]
  cases reg.container? node.container with
  | none => exact hQ _ ev h
  | some c =>
      cases hn : c.node? node.kind node.node with
      | none => simpa [hn] using hQ _ ev h
      | some n =>
          rcases hf : f n.counters with e | ⟨a, counters⟩
          · simpa [hn, hf] using h
          · simpa [hn, hf] using h

theorem onDataset_keeps (hQ : Unmoved Q) (node : NodeHandle)
    (f : DatasetCounters → Except RegistryError (α × DatasetCounters)) :
    (onDataset node f : Call (Registry τ ρ) RegistryError α).Keeps
      fun _ => Q :=
  onCounters_keeps hQ node _

end

/-! ## Beside the library -/

section

variable {P : ω → List Event → Prop}

theorem alone_keeps {x : Call (Registry τ ρ) ε α}
    (hx : ∀ w, x.Keeps fun _ => P w) :
    (alone x : Call (ω × Registry τ ρ) ε α).Keeps fun s => P s.1 := by
  rintro ⟨w, reg⟩ ev h
  rw [ensures_alone]
  exact hx w reg ev h

theorem ask_keeps {x : Call ω IdentityError α} (hx : x.Keeps P) :
    (ask x : Call (ω × Registry τ ρ) RegistryError α).Keeps fun s => P s.1 := by
  rintro ⟨w, reg⟩ ev h
  rw [ensures_ask]
  exact hx w ev h

variable [Identity ω η τ]

theorem firstMatch_keeps (hP : ∀ raw a b, (Identity.compare raw a b).Keeps P)
    (tokenOf : α → τ) (raw : η) (token : τ) (l : List α) :
    (Identity.firstMatch tokenOf raw token l).Keeps P := by
  intro w ev h
  exact (Identity.firstMatch_ensures hP tokenOf raw token l w ev h).mono
    (fun _ _ _ h => h.1) (fun _ _ _ h => h.1) fun _ _ _ h => h.1

theorem track_keeps (hP : ∀ raw a b, (Identity.compare raw a b).Keeps P)
    (hQ : ∀ w, Unmoved (P w)) (memory : Memory) (id : ContainerId)
    (kind : Kind) (token : τ) (name : Option String) (raw : η) :
    (track memory id kind token name raw :
      Call (ω × Registry τ ρ) RegistryError NodeHandle).Keeps
        fun s => P s.1 := by
  refine Call.keeps_state.bind fun s => ?_
  dsimp only
  cases s.2.container? id with
  | none => exact Call.keeps_fail _
  | some c =>
      refine (ask_keeps (firstMatch_keeps hP _ _ _ _)).bind fun found => ?_
      cases found with
      | none => exact alone_keeps fun w => makeNode_keeps (hQ w) _ _ _ _ _
      | some n => exact alone_keeps fun w => reuseNode_keeps (hQ w) _

theorem trackIn_keeps (hP : ∀ raw a b, (Identity.compare raw a b).Keeps P)
    (hQ : ∀ w, Unmoved (P w)) (memory : Memory) (home reported : ContainerId)
    (kind : Kind) (token : τ) (name : Option String) (raw : η) :
    (trackIn memory home reported kind token name raw :
      Call (ω × Registry τ ρ) RegistryError NodeHandle).Keeps
        fun s => P s.1 := by
  refine Call.keeps_state.bind fun s => ?_
  dsimp only
  by_cases hknown : reported = home ∨ s.2.containers.contains reported
  · rw [if_pos hknown]
    exact track_keeps hP hQ _ _ _ _ _ _
  · rw [if_neg hknown]
    refine (alone_keeps fun w => makePlaceholder_keeps memory reported).bind
      fun _ => ?_
    refine (track_keeps hP hQ _ _ _ _ _ _).onError (alone_keeps fun w reg ev h => ?_)
    rw [Call.ensures_modify]
    exact h

end

end Provenance.Registry
