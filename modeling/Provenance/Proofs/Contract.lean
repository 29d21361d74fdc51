import Provenance.Call

/-! # Contracts of calls

    What a call guarantees is said of its ending: one condition on the value
    and the state it leaves, one on the error, one on the fault.  The events
    are those seen before the call and those it emits, in order.

    Each way to put calls together has one equation (`ensures_bind` and its
    companions), so a contract of a composed call comes down to contracts of
    its parts. -/

namespace Provenance

theorem Outcome.map_map {ε α β γ : Type} (f : α → β) (g : β → γ)
    (o : Outcome ε α) : (o.map f).map g = o.map fun a => g (f a) := by
  cases o <;> rfl

theorem Outcome.map_eq_error_iff {ε α β : Type} {f : α → β} {o : Outcome ε α}
    {e : ε} : o.map f = .error e ↔ o = .error e := by
  cases o <;> simp [Outcome.map]

theorem Outcome.map_eq_value_iff {ε α β : Type} {f : α → β} {o : Outcome ε α}
    {b : β} : o.map f = .value b ↔ ∃ a, o = .value a ∧ f a = b := by
  cases o <;> simp [Outcome.map]

namespace Call

variable {σ τ ε ε' α β : Type}

theorem map_apply (f : α → β) (x : Call σ ε α) (s : σ) :
    (f <$> x) s = ⟨(x s).outcome.map f, (x s).state, (x s).events⟩ := by
  show (x >>= fun a => pure (f a)) s = _
  rw [bind_apply]
  rcases x s with ⟨a | e | k, s', before⟩
  · simp [Outcome.map]
  · rfl
  · rfl

theorem pure_bind (a : α) (f : α → Call σ ε β) : (pure a >>= f) = f a := rfl

theorem bind_assoc {γ : Type} (x : Call σ ε α) (f : α → Call σ ε β)
    (g : β → Call σ ε γ) : (x >>= f) >>= g = x >>= fun a => f a >>= g := by
  funext s
  rw [bind_apply, bind_apply, bind_apply]
  rcases x s with ⟨a | e | k, s', before⟩
  · dsimp only
    rw [bind_apply]
    rcases f a s' with ⟨b | e | k, s'', after⟩
    · simp only [List.append_assoc]
    · rfl
    · rfl
  · rfl
  · rfl

/-- From a state, after some events, a call ends as the three conditions say:
    in a value, in an error, or in a fault. -/
def Ensures (x : Call σ ε α) (s : σ) (seen : List Event)
    (onValue : α → σ → List Event → Prop)
    (onError : ε → σ → List Event → Prop)
    (onFault : Fault → σ → List Event → Prop) : Prop :=
  match x s with
  | ⟨.value a, s', new⟩ => onValue a s' (seen ++ new)
  | ⟨.error e, s', new⟩ => onError e s' (seen ++ new)
  | ⟨.fault f, s', new⟩ => onFault f s' (seen ++ new)

section

variable {x : Call σ ε α} {s : σ} {seen : List Event}
  {V V' : α → σ → List Event → Prop} {E E' : ε → σ → List Event → Prop}
  {F F' : Fault → σ → List Event → Prop}

/-- A contract may be weakened. -/
theorem Ensures.mono (h : x.Ensures s seen V E F)
    (hV : ∀ a s' ev, V a s' ev → V' a s' ev)
    (hE : ∀ e s' ev, E e s' ev → E' e s' ev)
    (hF : ∀ f s' ev, F f s' ev → F' f s' ev) : x.Ensures s seen V' E' F' := by
  simp only [Ensures] at h ⊢
  rcases hx : x s with ⟨a | e | f, s', new⟩ <;> rw [hx] at h
  · exact hV a s' _ h
  · exact hE e s' _ h
  · exact hF f s' _ h

/-- The contract of a call whose ending is known. -/
theorem Ensures.of_eq {o : Outcome ε α} {s' : σ} {new : List Event}
    (hx : x s = ⟨o, s', new⟩)
    (h : match o with
      | .value a => V a s' (seen ++ new)
      | .error e => E e s' (seen ++ new)
      | .fault f => F f s' (seen ++ new)) : x.Ensures s seen V E F := by
  simp only [Ensures]
  rw [hx]
  cases o <;> exact h

/-- A contract is about what the call does from its state alone. -/
theorem Ensures.of_apply_eq {y : Call σ ε α} {s' : σ} (h : x s = y s')
    (hy : y.Ensures s' seen V E F) : x.Ensures s seen V E F := by
  simp only [Ensures] at hy ⊢
  rw [h]
  exact hy

/-- Two contracts of one call hold together. -/
theorem Ensures.and (h : x.Ensures s seen V E F) (h' : x.Ensures s seen V' E' F') :
    x.Ensures s seen (fun a s' ev => V a s' ev ∧ V' a s' ev)
      (fun e s' ev => E e s' ev ∧ E' e s' ev)
      (fun f s' ev => F f s' ev ∧ F' f s' ev) := by
  simp only [Ensures] at h h' ⊢
  rcases hx : x s with ⟨a | e | f, s', new⟩ <;> rw [hx] at h h'
  · exact ⟨h, h'⟩
  · exact ⟨h, h'⟩
  · exact ⟨h, h'⟩

/-- A call ends as it does. -/
theorem ensures_ending (x : Call σ ε α) (s : σ) (seen : List Event) :
    x.Ensures s seen (fun a s' _ => (x s).outcome = .value a ∧ (x s).state = s')
      (fun e s' _ => (x s).outcome = .error e ∧ (x s).state = s')
      (fun f s' _ => (x s).outcome = .fault f ∧ (x s).state = s') := by
  simp only [Ensures]
  rcases x s with ⟨a | e | f, s', new⟩
  · exact ⟨rfl, rfl⟩
  · exact ⟨rfl, rfl⟩
  · exact ⟨rfl, rfl⟩

theorem Ensures.value {a : α} (h : x.Ensures s [] V E F)
    (ha : (x s).outcome = .value a) : V a (x s).state (x s).events := by
  simp only [Ensures] at h
  rcases hx : x s with ⟨o, s', new⟩
  rw [hx] at h ha
  cases ha
  exact h

/-- A call that can end neither in an error nor in a fault ends in a value. -/
theorem Ensures.exists_value
    (h : x.Ensures s [] V (fun _ _ _ => False) fun _ _ _ => False) :
    ∃ a, (x s).outcome = .value a ∧ V a (x s).state (x s).events := by
  simp only [Ensures] at h
  rcases hx : x s with ⟨a | e | f, s', new⟩ <;> rw [hx] at h
  · exact ⟨a, rfl, h⟩
  · exact h.elim
  · exact h.elim

theorem Ensures.error {e : ε} (h : x.Ensures s [] V E F)
    (he : (x s).outcome = .error e) : E e (x s).state (x s).events := by
  simp only [Ensures] at h
  rcases hx : x s with ⟨o, s', new⟩
  rw [hx] at h he
  cases he
  exact h

theorem Ensures.fault {f : Fault} (h : x.Ensures s [] V E F)
    (hf : (x s).outcome = .fault f) : F f (x s).state (x s).events := by
  simp only [Ensures] at h
  rcases hx : x s with ⟨o, s', new⟩
  rw [hx] at h hf
  cases hf
  exact h

end

/-- A condition that a call does not disturb, however it ends. -/
def Keeps (x : Call σ ε α) (P : σ → List Event → Prop) : Prop :=
  ∀ s seen, P s seen → x.Ensures s seen (fun _ => P) (fun _ => P) (fun _ => P)

/-- A condition on states is kept if every ending keeps it. -/
theorem keeps_of_state {x : Call σ ε α} {P : σ → Prop}
    (h : ∀ s, P s → P (x s).state) : x.Keeps fun s _ => P s := by
  intro s seen hs
  have hstate := h s hs
  simp only [Ensures]
  rcases hx : x s with ⟨_ | _ | _, s', new⟩ <;> rw [hx] at hstate <;>
    exact hstate

/-! ## One equation per operation -/

section

variable {s : σ} {seen : List Event} {V : α → σ → List Event → Prop}
  {E : ε → σ → List Event → Prop} {F : Fault → σ → List Event → Prop}

@[simp]
theorem ensures_value (a : α) :
    (value a : Call σ ε α).Ensures s seen V E F ↔ V a s seen := by
  simp [Ensures]

@[simp]
theorem ensures_pure (a : α) :
    (pure a : Call σ ε α).Ensures s seen V E F ↔ V a s seen := by
  simp [Ensures]

@[simp]
theorem ensures_fail (e : ε) :
    (fail e : Call σ ε α).Ensures s seen V E F ↔ E e s seen := by
  simp [Ensures]

@[simp]
theorem ensures_halt (f : Fault) :
    (halt f : Call σ ε α).Ensures s seen V E F ↔ F f s (seen ++ f.events) := by
  simp [Ensures]

@[simp]
theorem ensures_state {V : σ → σ → List Event → Prop} :
    (state : Call σ ε σ).Ensures s seen V E F ↔ V s s seen := by
  simp [Ensures]

@[simp]
theorem ensures_modify (f : σ → σ) {V : Unit → σ → List Event → Prop} :
    (modify f : Call σ ε Unit).Ensures s seen V E F ↔ V () (f s) seen := by
  simp [Ensures]

@[simp]
theorem ensures_emit (e : Event) {V : Unit → σ → List Event → Prop} :
    (emit e : Call σ ε Unit).Ensures s seen V E F ↔ V () s (seen ++ [e]) := by
  simp [Ensures]

@[simp]
theorem ensures_ofStep (f : σ → α × σ) :
    (ofStep f : Call σ ε α).Ensures s seen V E F ↔ V (f s).1 (f s).2 seen := by
  simp [Ensures, ofStep]

theorem ensures_ofTry (f : σ → Except ε α × σ) :
    (ofTry f).Ensures s seen V E F ↔
      match f s with
      | (.ok a, s') => V a s' seen
      | (.error e, s') => E e s' seen := by
  simp only [Ensures, ofTry]
  rcases f s with ⟨_ | _, s'⟩ <;> simp

@[simp]
theorem ensures_bind (x : Call σ ε β) (f : β → Call σ ε α) :
    (x >>= f).Ensures s seen V E F ↔
      x.Ensures s seen (fun b s' ev => (f b).Ensures s' ev V E F) E F := by
  simp only [Ensures, bind_apply]
  rcases x s with ⟨b | e | k, s', before⟩
  · rcases hf : f b s' with ⟨_ | _ | _, s'', after⟩ <;>
      simp only [hf, List.append_assoc]
  · rfl
  · rfl

/-- What a call ensures of its value may be used by what follows. -/
theorem Ensures.bind {x : Call σ ε β} {f : β → Call σ ε α}
    {W : β → σ → List Event → Prop} (hx : x.Ensures s seen W E F)
    (hf : ∀ b s' ev, W b s' ev → (f b).Ensures s' ev V E F) :
    (x >>= f).Ensures s seen V E F := by
  rw [ensures_bind]
  exact hx.mono hf (fun _ _ _ h => h) fun _ _ _ h => h

@[simp]
theorem ensures_map (f : β → α) (x : Call σ ε β) :
    (f <$> x).Ensures s seen V E F ↔
      x.Ensures s seen (fun b s' ev => V (f b) s' ev) E F := by
  rw [show f <$> x = x >>= fun b => pure (f b) from rfl, ensures_bind]
  simp only [ensures_pure]

@[simp]
theorem ensures_attempt (x : Call σ ε β)
    {V : Except ε β → σ → List Event → Prop} {E : ε' → σ → List Event → Prop} :
    (attempt x : Call σ ε' (Except ε β)).Ensures s seen V E F ↔
      x.Ensures s seen (fun b s' ev => V (.ok b) s' ev)
        (fun e s' ev => V (.error e) s' ev) F := by
  simp only [Ensures, attempt]
  rcases x s with ⟨_ | _ | _, s', before⟩ <;> rfl

theorem ensures_ofExcept (r : Except ε α) :
    (ofExcept r : Call σ ε α).Ensures s seen V E F ↔
      match r with
      | .ok a => V a s seen
      | .error e => E e s seen := by
  cases r
  · exact ensures_fail _
  · exact ensures_value _

@[simp]
theorem ensures_mapError (f : ε' → ε) (x : Call σ ε' α) :
    (x.mapError f).Ensures s seen V E F ↔
      x.Ensures s seen V (fun e s' ev => E (f e) s' ev) F := by
  simp only [Ensures, mapError]
  rcases x s with ⟨_ | _ | _, s', before⟩ <;> rfl

@[simp]
theorem ensures_onError (x : Call σ ε α) (cleanup : Call σ ε Unit) :
    (x.onError cleanup).Ensures s seen V E F ↔
      x.Ensures s seen V
        (fun e s' ev => cleanup.Ensures s' ev (fun _ s'' ev' => E e s'' ev') E F)
        F := by
  simp only [onError, ensures_bind, ensures_attempt, ensures_value,
    ensures_fail]

@[simp]
theorem ensures_focus (get : τ → σ) (put : σ → τ → τ) (x : Call σ ε α) {t : τ}
    {V : α → τ → List Event → Prop} {E : ε → τ → List Event → Prop}
    {F : Fault → τ → List Event → Prop} :
    (x.focus get put).Ensures t seen V E F ↔
      x.Ensures (get t) seen (fun a s' ev => V a (put s' t) ev)
        (fun e s' ev => E e (put s' t) ev) (fun f s' ev => F f (put s' t) ev) := by
  simp only [Ensures, focus]
  rcases x (get t) with ⟨_ | _ | _, s', before⟩ <;> rfl

end

/-! ## Conditions that are kept

    A call keeps a condition if its parts do. -/

section

variable {P : σ → List Event → Prop}

theorem keeps_value (a : α) : (value a : Call σ ε α).Keeps P := by
  intro s seen h
  rw [ensures_value]
  exact h

theorem keeps_pure (a : α) : (pure a : Call σ ε α).Keeps P :=
  keeps_value a

theorem keeps_fail (e : ε) : (fail e : Call σ ε α).Keeps P := by
  intro s seen h
  rw [ensures_fail]
  exact h

theorem keeps_state : (state : Call σ ε σ).Keeps P := by
  intro s seen h
  rw [ensures_state]
  exact h

theorem keeps_emit {P : σ → Prop} (e : Event) :
    (emit e : Call σ ε Unit).Keeps fun s _ => P s := by
  intro s seen h
  rw [ensures_emit]
  exact h

theorem keeps_ofExcept (r : Except ε α) : (ofExcept r : Call σ ε α).Keeps P := by
  cases r with
  | ok a => exact keeps_value a
  | error e => exact keeps_fail e

theorem Keeps.bind {x : Call σ ε β} {f : β → Call σ ε α} (hx : x.Keeps P)
    (hf : ∀ b, (f b).Keeps P) : (x >>= f).Keeps P := by
  intro s seen h
  rw [ensures_bind]
  exact (hx s seen h).mono (fun b s' ev hb => hf b s' ev hb) (fun _ _ _ h => h)
    fun _ _ _ h => h

theorem Keeps.attempt {x : Call σ ε β} (hx : x.Keeps P) :
    (x.attempt : Call σ ε' (Except ε β)).Keeps P := by
  intro s seen h
  rw [ensures_attempt]
  exact hx s seen h

/-- After a call that keeps a condition, the contract of what follows is left
    to show; to errors and faults a weaker condition may apply. -/
theorem Keeps.ensures_bind {x : Call σ ε β} {f : β → Call σ ε α} {s : σ}
    {seen : List Event} {V : α → σ → List Event → Prop}
    {Q : σ → List Event → Prop} (hx : x.Keeps P) (h : P s seen)
    (hQ : ∀ s' ev, P s' ev → Q s' ev)
    (hf : ∀ b s' ev, P s' ev →
      (f b).Ensures s' ev V (fun _ => Q) (fun _ => Q)) :
    (x >>= f).Ensures s seen V (fun _ => Q) (fun _ => Q) := by
  rw [Call.ensures_bind]
  exact (hx s seen h).mono hf (fun _ => hQ) fun _ => hQ

theorem Keeps.mapError {x : Call σ ε' α} (f : ε' → ε) (hx : x.Keeps P) :
    (x.mapError f).Keeps P := by
  intro s seen h
  rw [ensures_mapError]
  exact hx s seen h

theorem Keeps.onError {x : Call σ ε α} {cleanup : Call σ ε Unit}
    (hx : x.Keeps P) (hc : cleanup.Keeps P) : (x.onError cleanup).Keeps P := by
  intro s seen h
  rw [ensures_onError]
  exact (hx s seen h).mono (fun _ _ _ h => h) (fun _ s' ev he => hc s' ev he)
    fun _ _ _ h => h

end

/-! ## Conditions that failures spare

    A call may spare a condition where it fails, and disturb it where it
    succeeds. -/

/-- A condition that a call does not disturb when it ends in an error. -/
def Spares (x : Call σ ε α) (P : σ → List Event → Prop) : Prop :=
  ∀ s seen, P s seen → x.Ensures s seen (fun _ _ _ => True) (fun _ => P)
    (fun _ _ _ => True)

/-- A call that ends in no error. -/
def Unfailing (x : Call σ ε α) : Prop :=
  ∀ s seen, x.Ensures s seen (fun _ _ _ => True) (fun _ _ _ => False)
    (fun _ _ _ => True)

section

variable {P : σ → List Event → Prop}

theorem spares_of_error {x : Call σ ε α} {P : σ → Prop}
    (h : ∀ s e, (x s).outcome = .error e → P s → P (x s).state) :
    x.Spares fun s _ => P s := by
  intro s seen hs
  have herror := h s
  simp only [Ensures]
  rcases hx : x s with ⟨a | e | f, s', new⟩ <;> rw [hx] at herror
  · trivial
  · exact herror e rfl hs
  · trivial

theorem unfailing_of_ne {x : Call σ ε α} (h : ∀ s e, (x s).outcome ≠ .error e) :
    x.Unfailing := by
  intro s seen
  have herror := h s
  simp only [Ensures]
  rcases hx : x s with ⟨a | e | f, s', new⟩ <;> rw [hx] at herror
  · trivial
  · exact herror e rfl
  · trivial

theorem Keeps.spares {x : Call σ ε α} (hx : x.Keeps P) : x.Spares P :=
  fun s seen h => (hx s seen h).mono (fun _ _ _ _ => trivial) (fun _ _ _ h => h)
    fun _ _ _ _ => trivial

theorem Unfailing.spares {x : Call σ ε α} (hx : x.Unfailing) : x.Spares P :=
  fun s seen _ => (hx s seen).mono (fun _ _ _ h => h) (fun _ _ _ h => h.elim)
    fun _ _ _ h => h

theorem unfailing_pure (a : α) : (pure a : Call σ ε α).Unfailing := by
  intro s seen
  rw [ensures_pure]
  trivial

theorem unfailing_state : (state : Call σ ε σ).Unfailing := by
  intro s seen
  rw [ensures_state]
  trivial

theorem Unfailing.bind {x : Call σ ε β} {f : β → Call σ ε α} (hx : x.Unfailing)
    (hf : ∀ b, (f b).Unfailing) : (x >>= f).Unfailing := by
  intro s seen
  rw [ensures_bind]
  exact (hx s seen).mono (fun b s' ev _ => hf b s' ev) (fun _ _ _ h => h)
    fun _ _ _ h => h

theorem Unfailing.map {x : Call σ ε β} (f : β → α) (hx : x.Unfailing) :
    (f <$> x).Unfailing :=
  hx.bind fun b => unfailing_pure (f b)

/-- What is kept is still there for what follows. -/
theorem Keeps.bind_spares {x : Call σ ε β} {f : β → Call σ ε α} (hx : x.Keeps P)
    (hf : ∀ b, (f b).Spares P) : (x >>= f).Spares P := by
  intro s seen h
  rw [Call.ensures_bind]
  exact (hx s seen h).mono (fun b s' ev hb => hf b s' ev hb) (fun _ _ _ h => h)
    fun _ _ _ _ => trivial

/-- After the last step that can fail, nothing is left to spare. -/
theorem Spares.bind {x : Call σ ε β} {f : β → Call σ ε α} (hx : x.Spares P)
    (hf : ∀ b, (f b).Unfailing) : (x >>= f).Spares P := by
  intro s seen h
  rw [ensures_bind]
  exact (hx s seen h).mono
    (fun b s' ev _ => (hf b s' ev).mono (fun _ _ _ h => h) (fun _ _ _ h => h.elim)
      fun _ _ _ h => h)
    (fun _ _ _ h => h) fun _ _ _ _ => trivial

theorem Spares.map {x : Call σ ε β} (f : β → α) (hx : x.Spares P) :
    (f <$> x).Spares P :=
  hx.bind fun b => unfailing_pure (f b)

theorem Spares.mapError {x : Call σ ε' α} (f : ε' → ε) (hx : x.Spares P) :
    (x.mapError f).Spares P := by
  intro s seen h
  rw [ensures_mapError]
  exact hx s seen h

theorem Spares.onError {x : Call σ ε α} {cleanup : Call σ ε Unit}
    (hx : x.Spares P) (hc : cleanup.Keeps P) : (x.onError cleanup).Spares P := by
  intro s seen h
  rw [ensures_onError]
  exact (hx s seen h).mono (fun _ _ _ h => h)
    (fun _ s' ev he => (hc s' ev he).mono (fun _ _ _ h => h) (fun _ _ _ h => h)
      fun _ _ _ _ => trivial)
    fun _ _ _ h => h

end

end Call

end Provenance
