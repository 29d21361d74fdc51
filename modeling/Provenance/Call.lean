import Provenance.Event

/-! # Calls

    A call works on a state and ends in one of three ways: with a value, with
    an error that its caller may handle, or with a fault.  Whatever the
    outcome, the state it leaves is part of the ending, and so are the events
    it emitted, in order. -/

namespace Provenance

/-- How a call ended. -/
inductive Outcome (ε α : Type) where
  | value (a : α)
  | error (e : ε)
  | fault (f : Fault)

namespace Outcome

variable {ε ε' α β : Type}

/-- Change the value. -/
def map (f : α → β) : Outcome ε α → Outcome ε β
  | value a => value (f a)
  | error e => error e
  | fault k => fault k

/-- Change the error. -/
def mapError (f : ε → ε') : Outcome ε α → Outcome ε' α
  | value a => value a
  | error e => error (f e)
  | fault k => fault k

/-- The call ended with a value. -/
def isValue : Outcome ε α → Bool
  | value _ => true
  | _ => false

/-- The call ended with a fault. -/
def isFault : Outcome ε α → Bool
  | fault _ => true
  | _ => false

end Outcome

/-- All that a call leaves behind. -/
structure Ending (σ ε α : Type) where
  outcome : Outcome ε α
  state : σ
  events : List Event

/-- A computation on a state `σ` with errors `ε`. -/
def Call (σ ε α : Type) : Type := σ → Ending σ ε α

namespace Call

variable {σ τ ε ε' α β : Type}

/-- End with a value. -/
def value (a : α) : Call σ ε α := fun s => ⟨.value a, s, []⟩

/-- End with an error. -/
def fail (e : ε) : Call σ ε α := fun s => ⟨.error e, s, []⟩

/-- End with a fault, leaving its events. -/
def halt (f : Fault) : Call σ ε α := fun s => ⟨.fault f, s, f.events⟩

/-- Go on with the value of a call; an error or a fault ends both. -/
def andThen (x : Call σ ε α) (f : α → Call σ ε β) : Call σ ε β := fun s =>
  match x s with
  | ⟨.value a, s', before⟩ =>
      let r := f a s'
      ⟨r.outcome, r.state, before ++ r.events⟩
  | ⟨.error e, s', before⟩ => ⟨.error e, s', before⟩
  | ⟨.fault k, s', before⟩ => ⟨.fault k, s', before⟩

instance : Monad (Call σ ε) where
  pure := value
  bind := andThen

/-- The state. -/
def state : Call σ ε σ := fun s => ⟨.value s, s, []⟩

/-- Change the state. -/
def modify (f : σ → σ) : Call σ ε Unit := fun s => ⟨.value (), f s, []⟩

/-- Emit an event. -/
def emit (e : Event) : Call σ ε Unit := fun s => ⟨.value (), s, [e]⟩

/-- A step of the state that has a value of its own. -/
def ofStep (f : σ → α × σ) : Call σ ε α := fun s => ⟨.value (f s).1, (f s).2, []⟩

/-- A step of the state that may be refused. -/
def ofTry (f : σ → Except ε α × σ) : Call σ ε α := fun s =>
  match f s with
  | (.ok a, s') => ⟨.value a, s', []⟩
  | (.error e, s') => ⟨.error e, s', []⟩

/-- Turn an error into a value; faults stay faults. -/
def attempt (x : Call σ ε α) : Call σ ε' (Except ε α) := fun s =>
  match x s with
  | ⟨.value a, s', before⟩ => ⟨.value (.ok a), s', before⟩
  | ⟨.error e, s', before⟩ => ⟨.value (.error e), s', before⟩
  | ⟨.fault k, s', before⟩ => ⟨.fault k, s', before⟩

/-- End as an attempt says. -/
def ofExcept : Except ε α → Call σ ε α
  | .ok a => value a
  | .error e => fail e

/-- Change the error. -/
def mapError (f : ε → ε') (x : Call σ ε α) : Call σ ε' α := fun s =>
  let r := x s
  ⟨r.outcome.mapError f, r.state, r.events⟩

/-- Clean up after an error, and end with that error.  Values and faults pass
    by. -/
def onError (x : Call σ ε α) (cleanup : Call σ ε Unit) : Call σ ε α := do
  match ← attempt x with
  | .ok a => value a
  | .error e =>
      cleanup
      fail e

/-- Work on a part of the state. -/
def focus (get : τ → σ) (put : σ → τ → τ) (x : Call σ ε α) : Call τ ε α :=
  fun t =>
    let r := x (get t)
    ⟨r.outcome, put r.state t, r.events⟩

/-! ## One equation per operation -/

@[simp]
theorem value_apply (a : α) (s : σ) :
    (value a : Call σ ε α) s = ⟨.value a, s, []⟩ := rfl

@[simp]
theorem pure_apply (a : α) (s : σ) :
    (pure a : Call σ ε α) s = ⟨.value a, s, []⟩ := rfl

@[simp]
theorem fail_apply (e : ε) (s : σ) :
    (fail e : Call σ ε α) s = ⟨.error e, s, []⟩ := rfl

@[simp]
theorem halt_apply (f : Fault) (s : σ) :
    (halt f : Call σ ε α) s = ⟨.fault f, s, f.events⟩ := rfl

@[simp]
theorem state_apply (s : σ) :
    (state : Call σ ε σ) s = ⟨.value s, s, []⟩ := rfl

@[simp]
theorem modify_apply (f : σ → σ) (s : σ) :
    (modify f : Call σ ε Unit) s = ⟨.value (), f s, []⟩ := rfl

@[simp]
theorem emit_apply (e : Event) (s : σ) :
    (emit e : Call σ ε Unit) s = ⟨.value (), s, [e]⟩ := rfl

theorem bind_apply (x : Call σ ε α) (f : α → Call σ ε β) (s : σ) :
    (x >>= f) s =
      match x s with
      | ⟨.value a, s', before⟩ =>
          ⟨(f a s').outcome, (f a s').state, before ++ (f a s').events⟩
      | ⟨.error e, s', before⟩ => ⟨.error e, s', before⟩
      | ⟨.fault k, s', before⟩ => ⟨.fault k, s', before⟩ := rfl

theorem bind_of_value {x : Call σ ε α} {f : α → Call σ ε β} {s s' : σ} {a : α}
    {before : List Event} (h : x s = ⟨.value a, s', before⟩) :
    (x >>= f) s =
      ⟨(f a s').outcome, (f a s').state, before ++ (f a s').events⟩ := by
  rw [bind_apply, h]

theorem bind_of_error {x : Call σ ε α} {f : α → Call σ ε β} {s s' : σ} {e : ε}
    {before : List Event} (h : x s = ⟨.error e, s', before⟩) :
    (x >>= f) s = ⟨.error e, s', before⟩ := by
  rw [bind_apply, h]

theorem bind_of_fault {x : Call σ ε α} {f : α → Call σ ε β} {s s' : σ}
    {k : Fault} {before : List Event} (h : x s = ⟨.fault k, s', before⟩) :
    (x >>= f) s = ⟨.fault k, s', before⟩ := by
  rw [bind_apply, h]

theorem onError_of_value {x : Call σ ε α} {s s' : σ} {a : α}
    {before : List Event} (h : x s = ⟨.value a, s', before⟩)
    (cleanup : Call σ ε Unit) :
    x.onError cleanup s = ⟨.value a, s', before⟩ := by
  simp [onError, bind_apply, attempt, h]

theorem onError_of_error {x : Call σ ε α} {cleanup : Call σ ε Unit}
    {s s' s'' : σ} {e : ε} {before after : List Event}
    (h : x s = ⟨.error e, s', before⟩)
    (hcleanup : cleanup s' = ⟨.value (), s'', after⟩) :
    x.onError cleanup s = ⟨.error e, s'', before ++ after⟩ := by
  simp [onError, bind_apply, attempt, h, hcleanup]

end Call

end Provenance
