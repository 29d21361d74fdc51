import Provenance.Proofs.Agreement
import Provenance.Registry.Track

/-! # Registries beside related worlds

    A registry asks the library beside it to compare tokens, and nothing else.
    If the comparisons on two worlds agree, then tracking beside the one agrees
    with tracking beside the other (`track_agree`, `trackIn_agree`), on equal
    registries.  So a library may be asked through a larger world that only adds
    to what it does (`Identity.Projects`). -/

namespace Provenance

variable {ω ω' η τ ρ ε α : Type} {seen : Event → Bool}

/-- The comparisons on two worlds agree. -/
def Identity.Agree [Identity ω η τ] [Identity ω' η τ] (seen : Event → Bool)
    (R : ω → ω' → Prop) : Prop :=
  ∀ (raw : η) (a b : τ), (compare raw a b : Call ω _ _).Agree seen R
    (fun _ => True) Eq (compare raw a b)

/-- The comparisons on a world are those on a part of it. -/
def Identity.Projects [Identity ω η τ] [Identity ω' η τ] (p : ω' → ω) : Prop :=
  ∀ (raw : η) (a b : τ),
    (compare raw a b : Call ω' _ _).Mirrors p (compare raw a b)

theorem Identity.Projects.agree [Identity ω η τ] [Identity ω' η τ] {p : ω' → ω}
    (h : Projects (η := η) (τ := τ) p) :
    Agree (η := η) (τ := τ) seen fun w' w => w = p w' :=
  fun raw a b => (h raw a b).agree

namespace Registry

variable {R : ω → ω' → Prop}

/-- Equal registries beside related worlds. -/
def Beside (R : ω → ω' → Prop) (s : ω × Registry τ ρ)
    (t : ω' × Registry τ ρ) : Prop :=
  R s.1 t.1 ∧ s.2 = t.2

theorem alone_agree (x : Call (Registry τ ρ) ε α) :
    (alone x).Agree seen (Beside R) (fun _ => True) Eq (alone x) := by
  rintro ⟨w, reg⟩ ⟨w', reg'⟩ ⟨hR, heq⟩
  obtain rfl : reg = reg' := heq
  exact ⟨.refl _, ⟨hR, rfl⟩, rfl⟩

theorem alone_agree_of_unfailing {E : ε → Prop} {x : Call (Registry τ ρ) ε α}
    (hx : x.Unfailing) :
    (alone x).Agree seen (Beside R) E Eq (alone x) := by
  rintro ⟨w, reg⟩ ⟨w', reg'⟩ ⟨hR, heq⟩
  obtain rfl : reg = reg' := heq
  refine ⟨?_, ⟨hR, rfl⟩, rfl⟩
  have hends := hx reg []
  simp only [Call.Ensures] at hends
  simp only [alone, Call.focus]
  generalize x reg = r at hends ⊢
  rcases r with ⟨a | e | f, reg', ev⟩
  · exact .value rfl
  · exact hends.elim
  · exact .fault f

theorem ask_agree {x : Call ω IdentityError α} {y : Call ω' IdentityError α}
    (h : x.Agree seen R (fun _ => True) Eq y) :
    (ask x : Call (ω × Registry τ ρ) _ α).Agree seen (Beside R)
      (fun _ => True) Eq (ask y) :=
  (h.mapError fun _ h => h).focus (fun _ _ h => h.1)
    fun _ _ _ _ h hR => ⟨hR, h.2⟩

variable [Identity ω η τ] [Identity ω' η τ]

theorem firstMatch_agree (h : Identity.Agree (η := η) (τ := τ) seen R)
    (tokenOf : α → τ) (raw : η) (token : τ) (l : List α) :
    (Identity.firstMatch tokenOf raw token l : Call ω _ _).Agree seen R
      (fun _ => True) Eq (Identity.firstMatch tokenOf raw token l) := by
  induction l with
  | nil => exact Call.agree_pure rfl
  | cons a rest ih =>
      refine Call.Agree.bind ((h _ _ _).bind fun _ order horder =>
        Call.agree_pure (congrArg (· == .eq) horder)) fun same _ hsame => ?_
      subst hsame
      cases same with
      | true => exact Call.agree_pure rfl
      | false => exact ih

theorem track_agree (h : Identity.Agree (η := η) (τ := τ) seen R)
    (memory : Memory) (id : ContainerId) (kind : Kind) (token : τ)
    (name : Option String) (raw : η) :
    (track memory id kind token name raw :
      Call (ω × Registry τ ρ) RegistryError NodeHandle).Agree seen (Beside R)
        (fun _ => True) Eq (track memory id kind token name raw) := by
  refine Call.agree_state_bind ?_
  rintro ⟨w, reg⟩ ⟨w', reg'⟩ ⟨-, heq⟩
  obtain rfl : reg = reg' := heq
  dsimp only
  cases reg.container? id with
  | none => exact Call.agree_fail trivial
  | some c =>
      refine (ask_agree (firstMatch_agree h _ _ _ _)).bind
        fun found _ hfound => ?_
      subst hfound
      cases found with
      | none => exact alone_agree _
      | some n => exact alone_agree _

theorem trackIn_agree (h : Identity.Agree (η := η) (τ := τ) seen R)
    (memory : Memory) (home reported : ContainerId) (kind : Kind) (token : τ)
    (name : Option String) (raw : η) :
    (trackIn memory home reported kind token name raw :
      Call (ω × Registry τ ρ) RegistryError NodeHandle).Agree seen (Beside R)
        (fun _ => True) Eq
        (trackIn memory home reported kind token name raw) := by
  refine Call.agree_state_bind ?_
  rintro ⟨w, reg⟩ ⟨w', reg'⟩ ⟨-, heq⟩
  obtain rfl : reg = reg' := heq
  dsimp only
  by_cases hknown : reported = home ∨ reg.containers.contains reported
  · rw [if_pos hknown, if_pos hknown]
    exact track_agree h _ _ _ _ _ _
  · rw [if_neg hknown, if_neg hknown]
    refine (alone_agree _).bind fun _ _ _ => ?_
    exact (track_agree h _ _ _ _ _ _).onError (alone_agree _)

/-- Beside a part of a world, a track does what it does beside the world. -/
theorem track_mirrors {p : ω → ω'} (h : Identity.Projects (η := η) (τ := τ) p)
    (memory : Memory) (id : ContainerId) (kind : Kind) (token : τ)
    (name : Option String) (raw : η) :
    (track memory id kind token name raw :
      Call (ω × Registry τ ρ) RegistryError NodeHandle).Mirrors
        (fun s => (p s.1, s.2)) (track memory id kind token name raw) := by
  refine Call.Agree.mirrors (E := fun _ => True) ?_
  rintro s _ rfl
  obtain ⟨houtcome, ⟨hworld, hreg⟩, hevents⟩ :=
    track_agree h.agree memory id kind token name raw s (p s.1, s.2) ⟨rfl, rfl⟩
  exact ⟨houtcome, Prod.ext hworld hreg.symm, hevents⟩

end Registry

end Provenance
