import Provenance.Proofs.Interceptor.Custody
import Provenance.Proofs.Interceptor.Pace
import Provenance.Proofs.Interceptor.Projection

/-! # A library with a meter

    Any library can be metered: beside its state runs a meter that sees each
    reading of the clock and each call.  The time from one reading to the next is
    the library's if it was called in between, and else it is idle.  The answers
    stay the same, so an interceptor over the metered library does what it does
    over the library itself (`Metered.projects`).

    As long as the clock does not go backward, the time from the first reading to
    the last is what the library took and what was idle (`Meter.elapsed_eq`); on
    any other clock it is at most that. -/

namespace Provenance

/-- The readings of a clock and the calls of a library, summed up. -/
structure Meter where
  first? : Option Duration
  /-- The last reading, once there is one. -/
  last : Duration
  /-- The library was called since the last reading. -/
  calling : Bool
  calls : Nat
  /-- The nanoseconds between readings with calls in between. -/
  spent : Nat
  /-- The nanoseconds between readings without. -/
  idle : Nat
  /-- No reading was before an earlier one. -/
  forward : Bool
  last_le : last.nanos ≤ (first?.getD last).nanos + spent + idle
  last_eq : forward = true → last.nanos = (first?.getD last).nanos + spent + idle

namespace Meter

/-- Nothing was read or called yet. -/
def new : Meter :=
  ⟨none, .zero, false, 0, 0, 0, true, Nat.le_refl _, fun _ => rfl⟩

/-- The library is called. -/
def call (m : Meter) : Meter :=
  { m with calling := true, calls := m.calls + 1 }

/-- The reading before this one, or this one if it is the first. -/
def previous (m : Meter) (now : Duration) : Duration :=
  if m.first?.isSome then m.last else now

theorem previous_le (m : Meter) (now : Duration) :
    (m.previous now).nanos
      ≤ (m.first?.getD now).nanos + m.spent + m.idle := by
  have hle := m.last_le
  rw [previous]
  cases hfirst : m.first? with
  | none =>
      rw [Option.getD_none, Nat.add_assoc]
      exact Nat.le_add_right _ _
  | some first =>
      rw [hfirst] at hle
      exact hle

theorem previous_eq (m : Meter) (now : Duration) (h : m.forward = true) :
    (m.previous now).nanos
      = (m.first?.getD now).nanos + m.spent + m.idle := by
  have heq := m.last_eq h
  rw [previous]
  cases hfirst : m.first? with
  | none =>
      rw [hfirst, Option.getD_none] at heq
      show now.nanos = now.nanos + m.spent + m.idle
      omega
  | some first =>
      rw [hfirst] at heq
      exact heq

/-- The clock is read. -/
def read (m : Meter) (now : Duration) : Meter where
  first? := some (m.first?.getD now)
  last := now
  calling := false
  calls := m.calls
  spent := m.spent +
    if m.calling then now.nanos - (m.previous now).nanos else 0
  idle := m.idle +
    if m.calling then 0 else now.nanos - (m.previous now).nanos
  forward := m.forward && decide ((m.previous now).nanos ≤ now.nanos)
  last_le := by
    have hprevious := m.previous_le now
    rw [Option.getD_some]
    split <;> omega
  last_eq := by
    intro h
    obtain ⟨hforward, hnow⟩ := Bool.and_eq_true_iff.mp h
    have hprevious := m.previous_eq now hforward
    rw [decide_eq_true_iff] at hnow
    rw [Option.getD_some]
    split <;> omega

/-- The time from the first reading to the last. -/
def elapsed (m : Meter) : Duration :=
  m.last.saturatingSub (m.first?.getD m.last)

theorem elapsed_le (m : Meter) : m.elapsed.nanos ≤ m.spent + m.idle := by
  have hle := m.last_le
  rw [elapsed, Duration.nanos_saturatingSub]
  omega

/-- On a clock that does not go backward, no time is lost or counted twice. -/
theorem elapsed_eq (m : Meter) (h : m.forward = true) :
    m.elapsed.nanos = m.spent + m.idle := by
  have heq := m.last_eq h
  rw [elapsed, Duration.nanos_saturatingSub]
  omega

/-- On such a clock, the library takes no more than the whole time. -/
theorem spent_le (m : Meter) (h : m.forward = true) : m.spent ≤ m.elapsed.nanos := by
  rw [m.elapsed_eq h]
  exact Nat.le_add_right _ _

/-- The meter shows so much, and the clock was read after the last call. -/
structure Shows (m : Meter) (first : Duration) (spent calls : Nat) : Prop where
  first?_eq : m.first? = some first
  calling_eq : m.calling = false
  spent_eq : m.spent = spent
  calls_eq : m.calls = calls

section

variable {m : Meter} {first : Duration} {spent calls : Nat}

theorem shows_read_new (now : Duration) : (new.read now).Shows now 0 0 :=
  ⟨rfl, rfl, rfl, rfl⟩

/-- Readings between two calls change nothing that is shown. -/
theorem Shows.read (h : m.Shows first spent calls) (now : Duration) :
    (m.read now).Shows first spent calls where
  first?_eq := by
    show some (m.first?.getD now) = some first
    rw [h.first?_eq, Option.getD_some]
  calling_eq := rfl
  spent_eq := by
    show (m.spent + if m.calling then _ else 0) = spent
    rw [h.calling_eq, if_neg Bool.false_ne_true, h.spent_eq, Nat.add_zero]
  calls_eq := h.calls_eq

/-- A call takes the time from the reading before it to the one after it. -/
theorem Shows.read_call (h : m.Shows first spent calls) (now : Duration) :
    (m.call.read now).Shows first (spent + (now.nanos - m.last.nanos))
      (calls + 1) where
  first?_eq := by
    show some (m.first?.getD now) = some first
    rw [h.first?_eq, Option.getD_some]
  calling_eq := rfl
  spent_eq := by
    show m.spent + (now.nanos - (if m.first?.isSome then m.last else now).nanos)
      = _
    rw [h.first?_eq, Option.isSome_some, if_pos rfl, h.spent_eq]
  calls_eq := congrArg (· + 1) h.calls_eq

theorem Shows.elapsed_eq (h : m.Shows first spent calls) :
    m.elapsed = m.last.saturatingSub first := by
  rw [elapsed, h.first?_eq, Option.getD_some]

theorem idle_le_read (m : Meter) (now : Duration) : m.idle ≤ (m.read now).idle :=
  Nat.le_add_right _ _

end

end Meter

/-- A world with a meter. -/
structure Metered (ω : Type) where
  world : ω
  meter : Meter

namespace Metered

variable {ω η τ α : Type}

/-- A world whose meter has seen nothing. -/
def start (w : ω) : Metered ω := ⟨w, .new⟩

/-- A step that the meter does not see. -/
def pass (f : ω → α × ω) (w : Metered ω) : α × Metered ω :=
  ((f w.world).1, { w with world := (f w.world).2 })

/-- A call of the library. -/
def call (f : ω → α × ω) (w : Metered ω) : α × Metered ω :=
  ((f w.world).1, ⟨(f w.world).2, w.meter.call⟩)

/-- A reading of the clock. -/
def read [Host ω] (w : Metered ω) : Duration × Metered ω :=
  ((Host.now w.world).1,
    ⟨(Host.now w.world).2, w.meter.read (Host.now w.world).1⟩)

instance [Library ω η τ] : Library (Metered ω) η τ where
  compare raw a b := (Identity.compare raw a b).focus Metered.world
    fun w s => { s with world := w }
  connector w := Library.connector w.world
  container access name := call (Library.container access name)
  closeContainer raw := call (Library.closeContainer raw)
  containerId raw := call (Library.containerId raw)
  object access parent kind name := call (Library.object access parent kind name)
  closeObject raw kind := call (Library.closeObject raw kind)
  objectInfo raw kind := call (Library.objectInfo raw kind)
  datasetShape raw := call (Library.datasetShape raw)
  readDataset raw selected := call (Library.readDataset raw selected)
  writeDataset raw selected := call (Library.writeDataset raw selected)

instance [Host ω] : Host (Metered ω) where
  write path contents := pass (Disk.write path contents)
  now := read

/-- The library is called as often as the meter says. -/
def Counted (f : Metered ω → α × Metered ω) : Prop :=
  ∀ w, (f w).2.meter = w.meter.call

theorem counted_call (f : ω → α × ω) : Counted (call f) := fun _ => rfl

variable [Library ω η τ]

/-- Comparisons do not move the meter. -/
theorem compare_keeps (m : Meter) (raw : η) (a b : τ) :
    (Identity.compare raw a b : Call (Metered ω) _ _).Keeps
      fun w _ => w.meter = m :=
  Call.keeps_of_state fun _ h => h

variable [Host ω]

/-- An interceptor cannot tell that its library is metered. -/
theorem projects : Projects (Metered.world : Metered ω → ω) where
  now := fun _ => rfl
  compare := fun _ _ _ _ => rfl
  connector := fun _ => rfl
  container := fun _ _ _ => rfl
  closeContainer := fun _ _ => rfl
  containerId := fun _ _ => rfl
  object := fun _ _ _ _ _ => rfl
  closeObject := fun _ _ _ => rfl
  objectInfo := fun _ _ _ => rfl
  datasetShape := fun _ _ => rfl
  readDataset := fun _ _ _ => rfl
  writeDataset := fun _ _ _ => rfl

/-! ## Clocks that never go backward -/

/-- The clock did not go backward, and will not. -/
def Ahead (w : Metered ω) : Prop :=
  w.meter.forward = true ∧ (w.meter.first?.isSome = true →
    ∀ w', Later w.world w' → w.meter.last.nanos ≤ (Host.now w').1.nanos)

theorem Ahead.step {w : Metered ω} {w' : ω} (h : w.Ahead) (hw : Passes w.world w') :
    Ahead ⟨w', w.meter⟩ :=
  ⟨h.1, fun hfirst w'' hl => h.2 hfirst w'' (.step hw hl)⟩

theorem Ahead.call {w : Metered ω} {f : ω → α × ω} (h : w.Ahead)
    (hw : Passes w.world (f w.world).2) : Ahead (Metered.call f w).2 :=
  h.step hw

theorem Ahead.read {w : Metered ω} (hn : NeverBackward ω) (h : w.Ahead) :
    Ahead (Metered.read w).2 := by
  refine ⟨?_, fun _ w' hl => hn w.world w' hl⟩
  show (w.meter.forward && decide (_ ≤ _)) = true
  rw [h.1, Bool.true_and, decide_eq_true_iff, Meter.previous]
  cases hfirst : w.meter.first?.isSome with
  | true => exact h.2 hfirst _ (.refl _)
  | false => exact Nat.le_refl _

theorem follows_ahead (hn : NeverBackward ω) :
    Follows fun (_ : List (Traffic η)) (w : Metered ω) _ => w.Ahead where
  now h := h.read hn
  compare raw a b := Call.keeps_of_state fun w h => h.step (.compare raw a b w.world)
  containerId raw h := h.call (.containerId raw _)
  objectInfo raw kind h := h.call (.objectInfo raw kind _)
  datasetShape raw h := h.call (.datasetShape raw _)
  readDataset raw selected h := h.call (.readDataset raw selected _)
  writeDataset raw selected h := h.call (.writeDataset raw selected _)
  container access name h := h.call (.container access name _)
  object access parent kind name h := h.call (.object access parent kind name _)
  closeContainer raw h := h.call (.closeContainer raw _)
  closeObject raw kind h := h.call (.closeObject raw kind _)
  loss _ _ h := h
  event _ _ h := h

end Metered

end Provenance
