import Provenance.Proofs.Contract

/-! # Calls that agree

    Two calls agree if, from related states, they end the same way in related
    states: with related values, with one and the same error or with one and
    the same fault.  Events may be left out of account.  Calls put together
    from agreeing parts agree, and a part that leaves the relation alone and
    always comes to an end may stand on one side only (`Silent`).

    A call on a larger state that does what another does on a part of it
    (`Mirrors`) is a case of this. -/

namespace Provenance

variable {σ σ' ρ ρ' ε ε' α α' β β' : Type}

/-- The outcomes are of one sort, with related values or with equal errors of
    which a condition holds. -/
inductive Outcome.Agree (E : ε → Prop) (Q : α → β → Prop) :
    Outcome ε α → Outcome ε β → Prop
  | value {a : α} {b : β} (h : Q a b) : Agree E Q (.value a) (.value b)
  | error {e : ε} (h : E e) : Agree E Q (.error e) (.error e)
  | fault (f : Fault) : Agree E Q (.fault f) (.fault f)

/-- The results of two attempts agree. -/
inductive Except.Agree (E : ε → Prop) (Q : α → β → Prop) :
    Except ε α → Except ε β → Prop
  | ok {a : α} {b : β} (h : Q a b) : Agree E Q (.ok a) (.ok b)
  | error {e : ε} (h : E e) : Agree E Q (.error e) (.error e)

/-- The endings agree, as far as their events are `seen`. -/
structure Ending.Agree (seen : Event → Bool) (R : σ → ρ → Prop) (E : ε → Prop)
    (Q : α → β → Prop) (x : Ending σ ε α) (y : Ending ρ ε β) : Prop where
  outcome : x.outcome.Agree E Q y.outcome
  state : R x.state y.state
  events_eq : x.events.filter seen = y.events.filter seen

namespace Outcome.Agree

variable {E : ε → Prop} {x : Outcome ε α} {y : Outcome ε β}

theorem refl (x : Outcome ε α) : x.Agree (fun _ => True) Eq x := by
  cases x with
  | value a => exact .value rfl
  | error e => exact .error trivial
  | fault f => exact .fault f

theorem eq {x y : Outcome ε α} (h : x.Agree E Eq y) : x = y := by
  cases h with
  | value h => rw [h]
  | error h => rfl
  | fault f => rfl

theorem mono {E' : ε → Prop} {Q Q' : α → β → Prop} (h : x.Agree E Q y)
    (hE : ∀ e, E e → E' e) (hQ : ∀ a b, Q a b → Q' a b) : x.Agree E' Q' y := by
  cases h with
  | value h => exact .value (hQ _ _ h)
  | error h => exact .error (hE _ h)
  | fault f => exact .fault f

theorem symm {Q : α → β → Prop} (h : x.Agree E Q y) :
    y.Agree E (fun b a => Q a b) x := by
  cases h with
  | value h => exact .value h
  | error h => exact .error h
  | fault f => exact .fault f

theorem of_error {Q : α → β → Prop} {e : ε} (h : x.Agree E Q y)
    (hx : x = .error e) : E e := by
  subst hx
  cases h with
  | error h => exact h

end Outcome.Agree

namespace Call

variable {seen : Event → Bool} {R : σ → ρ → Prop} {E : ε → Prop}
  {Q : α → β → Prop}

/-- From related states, the calls end in agreement. -/
def Agree (seen : Event → Bool) (R : σ → ρ → Prop) (E : ε → Prop)
    (Q : α → β → Prop) (x : Call σ ε α) (y : Call ρ ε β) : Prop :=
  ∀ s t, R s t → (x s).Agree seen R E Q (y t)

/-- A call that always comes to its end, unseen, and stays related to all that
    it was related to. -/
def Silent (seen : Event → Bool) (R : σ → ρ → Prop) (x : Call σ ε α) : Prop :=
  ∀ s, ∃ a, (x s).outcome = .value a ∧ (∀ t, R s t → R (x s).state t) ∧
    (x s).events.filter seen = []

/-! ## Calls of one step -/

theorem agree_pure {a : α} {b : β} (h : Q a b) :
    (pure a : Call σ ε α).Agree seen R E Q (pure b : Call ρ ε β) :=
  fun _ _ hR => ⟨.value h, hR, rfl⟩

theorem agree_fail {e : ε} (h : E e) :
    (fail e : Call σ ε α).Agree seen R E Q (fail e : Call ρ ε β) :=
  fun _ _ hR => ⟨.error h, hR, rfl⟩

theorem agree_halt (f : Fault) :
    (halt f : Call σ ε α).Agree seen R E Q (halt f : Call ρ ε β) :=
  fun _ _ hR => ⟨.fault f, hR, rfl⟩

theorem agree_emit (e : Event) :
    (emit e : Call σ ε Unit).Agree seen R E Eq (emit e : Call ρ ε Unit) :=
  fun _ _ hR => ⟨.value rfl, hR, rfl⟩

theorem agree_modify {f : σ → σ} {g : ρ → ρ}
    (h : ∀ s t, R s t → R (f s) (g t)) :
    (modify f : Call σ ε Unit).Agree seen R E Eq (modify g : Call ρ ε Unit) :=
  fun s t hR => ⟨.value rfl, h s t hR, rfl⟩

theorem agree_ofExcept {x : Except ε α} {y : Except ε β}
    (h : Except.Agree E Q x y) :
    (ofExcept x : Call σ ε α).Agree seen R E Q (ofExcept y : Call ρ ε β) := by
  cases h with
  | ok h => exact agree_pure h
  | error h => exact agree_fail h

theorem agree_ofStep {f : σ → α × σ} {g : ρ → β × ρ}
    (h : ∀ s t, R s t → Q (f s).1 (g t).1 ∧ R (f s).2 (g t).2) :
    (ofStep f : Call σ ε α).Agree seen R E Q (ofStep g : Call ρ ε β) :=
  fun s t hR => ⟨.value (h s t hR).1, (h s t hR).2, rfl⟩

theorem agree_ofTry {f : σ → Except ε α × σ} {g : ρ → Except ε α × ρ}
    (h : ∀ s t, R s t → (f s).1 = (g t).1 ∧ R (f s).2 (g t).2) :
    (ofTry f).Agree seen R (fun _ => True) Eq (ofTry g) := by
  intro s t hR
  obtain ⟨hanswer, hstate⟩ := h s t hR
  rw [ofTry, ofTry]
  generalize f s = r, g t = r' at hanswer hstate ⊢
  rcases r with ⟨r, s'⟩
  rcases r' with ⟨r', t'⟩
  obtain rfl : r = r' := hanswer
  cases r with
  | ok a => exact ⟨.value rfl, hstate, rfl⟩
  | error e => exact ⟨.error trivial, hstate, rfl⟩

/-! ## Calls put together -/

section

variable {x : Call σ ε α} {y : Call ρ ε β}

theorem Agree.mono {E' : ε → Prop} {Q' : α → β → Prop}
    (h : x.Agree seen R E Q y) (hE : ∀ e, E e → E' e)
    (hQ : ∀ a b, Q a b → Q' a b) : x.Agree seen R E' Q' y := by
  intro s t hR
  obtain ⟨houtcome, hstate, hevents⟩ := h s t hR
  exact ⟨houtcome.mono hE hQ, hstate, hevents⟩

theorem Agree.bind {Q' : α' → β' → Prop} {k : α → Call σ ε α'}
    {l : β → Call ρ ε β'} (h : x.Agree seen R E Q y)
    (hk : ∀ a b, Q a b → (k a).Agree seen R E Q' (l b)) :
    (x >>= k).Agree seen R E Q' (y >>= l) := by
  intro s t hR
  have hends := h s t hR
  rw [bind_apply, bind_apply]
  generalize x s = r, y t = r' at hends ⊢
  rcases r with ⟨o, s', before⟩
  rcases r' with ⟨o', t', before'⟩
  obtain ⟨houtcome, hstate, hevents⟩ := hends
  cases houtcome with
  | value hQ =>
      obtain ⟨houtcome', hstate', hevents'⟩ := hk _ _ hQ s' t' hstate
      refine ⟨houtcome', hstate', ?_⟩
      rw [List.filter_append, List.filter_append, hevents']
      exact congrArg (· ++ _) hevents
  | error hE => exact ⟨.error hE, hstate, hevents⟩
  | fault f => exact ⟨.fault f, hstate, hevents⟩

/-- What follows a look at the states may use what relates them. -/
theorem agree_state_bind {Q' : α' → β' → Prop} {k : σ → Call σ ε α'}
    {l : ρ → Call ρ ε β'}
    (hk : ∀ s t, R s t → (k s).Agree seen R E Q' (l t)) :
    (state >>= k).Agree seen R E Q' (state >>= l) :=
  fun s t hR => hk s t hR s t hR

theorem Agree.map {Q' : α' → β' → Prop} (f : α → α') (g : β → β')
    (h : x.Agree seen R E Q y) (hQ : ∀ a b, Q a b → Q' (f a) (g b)) :
    (f <$> x).Agree seen R E Q' (g <$> y) :=
  h.bind fun a b hab => agree_pure (hQ a b hab)

theorem Agree.attempt {E' : ε' → Prop} (h : x.Agree seen R E Q y) :
    (attempt x : Call σ ε' (Except ε α)).Agree seen R E' (Except.Agree E Q)
      (attempt y) := by
  intro s t hR
  have hends := h s t hR
  rw [Call.attempt, Call.attempt]
  generalize x s = r, y t = r' at hends ⊢
  rcases r with ⟨o, s', before⟩
  rcases r' with ⟨o', t', before'⟩
  obtain ⟨houtcome, hstate, hevents⟩ := hends
  cases houtcome with
  | value hQ => exact ⟨.value (.ok hQ), hstate, hevents⟩
  | error hE => exact ⟨.value (.error hE), hstate, hevents⟩
  | fault f => exact ⟨.fault f, hstate, hevents⟩

theorem Agree.mapError {E' : ε' → Prop} {f : ε → ε'}
    (h : x.Agree seen R E Q y) (hE : ∀ e, E e → E' (f e)) :
    (x.mapError f).Agree seen R E' Q (y.mapError f) := by
  intro s t hR
  have hends := h s t hR
  rw [Call.mapError, Call.mapError]
  generalize x s = r, y t = r' at hends ⊢
  rcases r with ⟨o, s', before⟩
  rcases r' with ⟨o', t', before'⟩
  obtain ⟨houtcome, hstate, hevents⟩ := hends
  cases houtcome with
  | value hQ => exact ⟨.value hQ, hstate, hevents⟩
  | error he => exact ⟨.error (hE _ he), hstate, hevents⟩
  | fault f => exact ⟨.fault f, hstate, hevents⟩

theorem Agree.onError {c : Call σ ε Unit} {d : Call ρ ε Unit}
    (h : x.Agree seen R E Q y) (hc : c.Agree seen R E Eq d) :
    (x.onError c).Agree seen R E Q (y.onError d) := by
  refine h.attempt.bind fun r r' hr => ?_
  cases hr with
  | ok hQ => exact agree_pure hQ
  | error hE => exact hc.bind fun _ _ _ => agree_fail hE

/-- Work on related parts of two states. -/
theorem Agree.focus {S : σ' → ρ' → Prop} {get : σ' → σ} {put : σ → σ' → σ'}
    {get' : ρ' → ρ} {put' : ρ → ρ' → ρ'} (h : x.Agree seen R E Q y)
    (hget : ∀ s t, S s t → R (get s) (get' t))
    (hput : ∀ s t r r', S s t → R r r' → S (put r s) (put' r' t)) :
    (x.focus get put).Agree seen S E Q (y.focus get' put') := by
  intro s t hS
  obtain ⟨houtcome, hstate, hevents⟩ := h _ _ (hget s t hS)
  exact ⟨houtcome, hput s t _ _ hS hstate, hevents⟩

end

/-! ## Steps of one side -/

theorem silent_of_ensures {x : Call σ ε α}
    (h : ∀ s, x.Ensures s []
      (fun _ s' ev => (∀ t, R s t → R s' t) ∧ ev.filter seen = [])
      (fun _ _ _ => False) fun _ _ _ => False) : x.Silent seen R := by
  intro s
  have hends := h s
  simp only [Ensures] at hends
  generalize x s = r at hends ⊢
  rcases r with ⟨a | e | f, s', ev⟩
  · exact ⟨a, rfl, hends⟩
  · exact hends.elim
  · exact hends.elim

theorem silent_state : (state : Call σ ε σ).Silent seen R :=
  fun s => ⟨s, rfl, fun _ h => h, rfl⟩

theorem silent_modify {f : σ → σ} (h : ∀ s t, R s t → R (f s) t) :
    (modify f : Call σ ε Unit).Silent seen R :=
  fun s => ⟨(), rfl, h s, rfl⟩

theorem Silent.bind_left {Q' : α' → β' → Prop} {x : Call σ ε α}
    {k : α → Call σ ε α'} {y : Call ρ ε β'} (h : x.Silent seen R)
    (hk : ∀ a, (k a).Agree seen R E Q' y) :
    (x >>= k).Agree seen R E Q' y := by
  intro s t hR
  obtain ⟨a, hvalue, hstate, hevents⟩ := h s
  rw [bind_apply]
  generalize x s = r at hvalue hstate hevents ⊢
  rcases r with ⟨o, s', before⟩
  obtain rfl : o = .value a := hvalue
  obtain ⟨houtcome, hstate', hevents'⟩ := hk a s' t (hstate t hR)
  refine ⟨houtcome, hstate', ?_⟩
  rw [List.filter_append, ← hevents']
  exact congrArg (· ++ _) hevents

theorem Agree.symm {x : Call σ ε α} {y : Call ρ ε β}
    (h : x.Agree seen R E Q y) :
    y.Agree seen (fun t s => R s t) E (fun b a => Q a b) x := by
  intro t s hR
  obtain ⟨houtcome, hstate, hevents⟩ := h s t hR
  exact ⟨houtcome.symm, hstate, hevents.symm⟩

theorem Silent.bind_right {Q' : α' → β' → Prop} {x : Call σ ε α'}
    {y : Call ρ ε β} {l : β → Call ρ ε β'}
    (h : y.Silent seen fun t s => R s t)
    (hl : ∀ b, x.Agree seen R E Q' (l b)) :
    x.Agree seen R E Q' (y >>= l) :=
  (h.bind_left fun b => (hl b).symm).symm

/-- Silent steps agree with one another. -/
theorem Silent.agree {x : Call σ ε α} {y : Call ρ ε β} (h : x.Silent seen R)
    (h' : y.Silent seen fun t s => R s t) :
    x.Agree seen R E (fun _ _ => True) y := by
  intro s t hR
  obtain ⟨a, hvalue, hstate, hevents⟩ := h s
  obtain ⟨b, hvalue', hstate', hevents'⟩ := h' t
  refine ⟨?_, hstate' _ (hstate t hR), hevents.trans hevents'.symm⟩
  rw [hvalue, hvalue']
  exact .value trivial

/-! ## Calls on a part of the state -/

/-- A call on the larger states `ρ` does what another does on the part `p` of
    them. -/
def Mirrors (p : ρ → σ) (y : Call ρ ε α) (x : Call σ ε α) : Prop :=
  ∀ r, x (p r) = ⟨(y r).outcome, p (y r).state, (y r).events⟩

theorem Mirrors.agree {p : ρ → σ} {y : Call ρ ε α} {x : Call σ ε α}
    (h : y.Mirrors p x) :
    y.Agree seen (fun r s => s = p r) (fun _ => True) Eq x := by
  rintro r _ rfl
  rw [h r]
  exact ⟨.refl _, rfl, rfl⟩

theorem Agree.mirrors {p : ρ → σ} {y : Call ρ ε α} {x : Call σ ε α}
    (h : y.Agree (fun _ => true) (fun r s => s = p r) E Eq x) :
    y.Mirrors p x := by
  intro r
  obtain ⟨houtcome, hstate, hevents⟩ := h r (p r) rfl
  rw [List.filter_eq_self.mpr fun _ _ => rfl,
    List.filter_eq_self.mpr fun _ _ => rfl] at hevents
  generalize x (p r) = z at houtcome hstate hevents ⊢
  rcases z with ⟨o, s, ev⟩
  obtain rfl : s = p (y r).state := hstate
  exact congr (congrArg (Ending.mk · _) houtcome.eq.symm) hevents.symm

end Call

end Provenance
