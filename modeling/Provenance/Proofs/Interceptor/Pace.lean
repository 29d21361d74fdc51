import Provenance.Library.InMemory

/-! # The pace of a world

    An interceptor adds up the times of the library calls of one operation, at
    most three of them.  The sum fits a duration on every clock that never goes
    backward, since the calls follow one another, and on every manual clock,
    since its readings are far below the longest duration even if it wraps
    around (`Spent.le_limit`). -/

namespace Provenance

/-- The latest reading of a manual clock in nanoseconds. -/
def ManualClock.latest : Nat := Word.limit * 1000

theorem ManualClock.now_le_latest (clock : ManualClock) :
    clock.now.nanos ≤ latest :=
  calc clock.now.nanos
    _ ≤ clock.micros.toNat * 1000 := Nat.min_le_left _ _
    _ ≤ Word.limit * 1000 :=
        Nat.mul_le_mul_right 1000 (Nat.le_sub_one_of_lt clock.micros.toNat_lt)

/-- One step of a world: a reading of its clock, a comparison, or a call of its
    library. -/
inductive Passes {ω η τ : Type} [Library ω η τ] [Host ω] : ω → ω → Prop
  | now (w : ω) : Passes w (Host.now w).2
  | compare (raw : η) (a b : τ) (w : ω) :
      Passes w (Identity.compare raw a b w).state
  | container (access : Access) (name : String) (w : ω) :
      Passes w (Library.container access name w).2
  | closeContainer (raw : η) (w : ω) :
      Passes w (Library.closeContainer raw w).2
  | containerId (raw : η) (w : ω) : Passes w (Library.containerId raw w).2
  | object (access : Access) (parent : η) (kind : Kind) (name : String) (w : ω) :
      Passes w (Library.object access parent kind name w).2
  | closeObject (raw : η) (kind : Kind) (w : ω) :
      Passes w (Library.closeObject raw kind w).2
  | objectInfo (raw : η) (kind : Kind) (w : ω) :
      Passes w (Library.objectInfo raw kind w).2
  | datasetShape (raw : η) (w : ω) : Passes w (Library.datasetShape raw w).2
  | readDataset (raw : η) (selected : Option Nat) (w : ω) :
      Passes w (Library.readDataset raw selected w).2
  | writeDataset (raw : η) (selected : Option Nat) (w : ω) :
      Passes w (Library.writeDataset raw selected w).2

section

variable {ω η τ : Type} [Library ω η τ] [Host ω] {w w' : ω} {k d : Nat}

/-- A world that another may become while the interceptor works on it. -/
inductive Later : ω → ω → Prop
  | refl (w : ω) : Later w w
  | step {w w' w'' : ω} (h : Passes w w') (hl : Later w' w'') : Later w w''

/-- Every reading is one of a manual clock. -/
def ReadsManually (ω : Type) [Host ω] : Prop :=
  ∀ w : ω, ∃ clock : ManualClock, (Host.now w).1 = clock.now

/-- No reading is before an earlier one. -/
def NeverBackward (ω : Type) {η τ : Type} [Library ω η τ] [Host ω] : Prop :=
  ∀ w w' : ω, Later (Host.now w).2 w' →
    (Host.now w).1.nanos ≤ (Host.now w').1.nanos

/-- The clock is a manual one, or another that never goes backward.  This is the
    contract of a clock, whose readings are monotonic; a manual clock may wrap
    around, but its readings are too small for their sums to matter. -/
def SteadyClock (ω : Type) {η τ : Type} [Library ω η τ] [Host ω] : Prop :=
  ReadsManually ω ∨ NeverBackward ω

/-- So many calls of a library can have taken so many nanoseconds. -/
structure Spent (k d : Nat) (w : ω) : Prop where
  manual : ReadsManually ω → d ≤ k * ManualClock.latest
  forward : NeverBackward ω → ∀ w', Later w w' → d ≤ (Host.now w').1.nanos

theorem Spent.zero (w : ω) : Spent 0 0 w :=
  ⟨fun _ => Nat.zero_le _, fun _ _ _ => Nat.zero_le _⟩

theorem Spent.step (h : Spent k d w) (hw : Passes w w') : Spent k d w' :=
  ⟨h.manual, fun hn w'' hl => h.forward hn w'' (.step hw hl)⟩

theorem Spent.mono (h : Spent k d w) : Spent (k + 1) d w :=
  ⟨fun hm => Nat.le_trans (h.manual hm)
    (Nat.mul_le_mul_right _ (Nat.le_succ k)), h.forward⟩

/-- One call more, from a reading of the clock before it to one after it. -/
theorem Spent.elapsed (h : Spent k d w) (hl : Later (Host.now w).2 w') :
    Spent (k + 1)
      (d + ((Timer.start (Host.now w).1).elapsed (Host.now w').1).nanos)
      (Host.now w').2 := by
  have htime : ((Timer.start (Host.now w).1).elapsed (Host.now w').1).nanos
      = (Host.now w').1.nanos - (Host.now w).1.nanos := rfl
  rw [htime]
  constructor
  · intro hm
    have hd := h.manual hm
    obtain ⟨clock, hclock⟩ := hm w'
    have hread := clock.now_le_latest
    rw [← hclock] at hread
    rw [Nat.succ_mul]
    omega
  · intro hn w'' hl'
    have hstart := h.forward hn w (.refl w)
    have hbetween := hn w w' hl
    have hend := hn w' w'' hl'
    omega

/-- The time that up to three calls took fits a duration. -/
theorem Spent.le_limit (hs : SteadyClock ω) (h : Spent k d w) (hk : k ≤ 3) :
    d ≤ Duration.limit := by
  rcases hs with hm | hn
  · have hd := h.manual hm
    have hle : k * ManualClock.latest ≤ 3 * ManualClock.latest :=
      Nat.mul_le_mul_right _ hk
    have hfits : 3 * ManualClock.latest ≤ Duration.limit := by decide
    omega
  · exact Nat.le_trans (h.forward hn w (.refl w)) (Host.now w).1.bounded

end

/-- The library in memory lives on a manual clock. -/
theorem InMemory.steadyClock : SteadyClock InMemory.World :=
  Or.inl fun w => ⟨w.clock, rfl⟩

end Provenance
