import Mathlib.Algebra.GroupWithZero.Nat
import Mathlib.Data.List.Basic
import Mathlib.Logic.Relation
import Provenance.Clock.Family

/-! # Clocks and their clones

    What was done on a bench tells where each of its clocks comes from: it is
    new, or a clone of a clock that was there.  Two clocks are kin if both
    descend from one clock by cloning.  Followed back from clone to original, a
    clock leads to its founder, and kin are the clocks with the same founder
    (`kin_iff`), which decides kinship.  Nothing that is done later changes who
    is kin (`kin_append`), so the moves of a family may be added up over any part
    of a history (`moved_append`). -/

namespace Provenance.ClockBench

/-- What was done on a bench, the newest first. -/
abbrev History := List Op

namespace Op

/-- The clock that is moved, and by how many microseconds: the whole ones of a
    duration, at most a word of them. -/
def move? : Op → Option (Nat × Nat)
  | advance clock by_ => some (clock, min (by_.nanos / 1000) (2 ^ 64 - 1))
  | advanceMicros clock step => some (clock, step.toNat)
  | _ => none

/-- The clock that must be there. -/
def clock? : Op → Option Nat
  | new => none
  | advance clock _ => some clock
  | advanceMicros clock _ => some clock
  | clone clock => some clock
  | start clock => some clock

theorem eq_of_move {op : Op} {clock step : Nat} (h : op.move? = some (clock, step)) :
    (∃ by_, op = advance clock by_) ∨ ∃ micros, op = advanceMicros clock micros := by
  cases op with
  | advance _ by_ => cases h; exact .inl ⟨by_, rfl⟩
  | advanceMicros _ micros => cases h; exact .inr ⟨micros, rfl⟩
  | new => cases h
  | clone parent => cases h
  | start clock => cases h

theorem step_lt {op : Op} {clock step : Nat} (h : op.move? = some (clock, step)) :
    step < 2 ^ 64 := by
  rcases eq_of_move h with ⟨by_, rfl⟩ | ⟨micros, rfl⟩
  · cases h
    exact Nat.lt_of_le_of_lt (Nat.min_le_right _ _) (by decide)
  · cases h
    exact micros.toNat_lt

end Op

namespace History

/-- How many clocks were made.  The next one is named by this number. -/
def made : History → Nat
  | [] => 0
  | .new :: earlier => made earlier + 1
  | .clone _ :: earlier => made earlier + 1
  | _ :: earlier => made earlier

/-- How many timers were started.  The next one is named by this number. -/
def started : History → Nat
  | [] => 0
  | .start _ :: earlier => started earlier + 1
  | _ :: earlier => started earlier

/-- All was done with clocks that were there. -/
def Feasible : History → Prop
  | [] => True
  | op :: earlier => (∀ clock ∈ op.clock?, clock < made earlier) ∧ Feasible earlier

/-- A clock was made by cloning another that was there. -/
def ClonedFrom (history : History) (child parent : Nat) : Prop :=
  ∃ earlier, .clone parent :: earlier <:+ history ∧
    parent < made earlier ∧ child = made earlier

/-- A clock is a clone of another, or a clone of a clone, and so on, or the
    other itself. -/
def Descends (history : History) : Nat → Nat → Prop :=
  Relation.ReflTransGen history.ClonedFrom

/-- Two clocks descend from one. -/
def Kin (history : History) (a b : Nat) : Prop :=
  ∃ ancestor, history.Descends a ancestor ∧ history.Descends b ancestor

/-- The clock that clones lead back to. -/
def founder : History → Nat → Nat
  | [], clock => clock
  | .clone parent :: earlier, clock =>
      if clock = made earlier ∧ parent < made earlier then founder earlier parent
      else founder earlier clock
  | _ :: earlier, clock => founder earlier clock

/-- The microseconds by which the clocks of a family were moved. -/
def moved (history : History) (family : Nat → Prop) [DecidablePred family] : Nat :=
  (((history.filterMap Op.move?).filter fun move => family move.1).map Prod.snd).sum

section

variable {history later : History} {op : Op} {a b clock step child parent : Nat}

/-! ## Clocks that were there -/

instance decidableFeasible : (history : History) → Decidable history.Feasible
  | [] => .isTrue trivial
  | op :: earlier =>
      have := decidableFeasible earlier
      inferInstanceAs (Decidable ((∀ clock ∈ op.clock?, clock < made earlier) ∧ _))

theorem made_le_cons (op : Op) (history : History) :
    history.made ≤ made (op :: history) := by
  cases op with
  | new => exact Nat.le_succ _
  | clone parent => exact Nat.le_succ _
  | advance clock by_ => exact Nat.le_refl _
  | advanceMicros clock step => exact Nat.le_refl _
  | start clock => exact Nat.le_refl _

theorem made_of_move (hmove : op.move? = some (clock, step)) :
    made (op :: history) = history.made := by
  rcases Op.eq_of_move hmove with ⟨by_, rfl⟩ | ⟨micros, rfl⟩
  · rfl
  · rfl

theorem started_of_move (hmove : op.move? = some (clock, step)) :
    started (op :: history) = history.started := by
  rcases Op.eq_of_move hmove with ⟨by_, rfl⟩ | ⟨micros, rfl⟩
  · rfl
  · rfl

theorem made_le_append (later history : History) :
    history.made ≤ made (later ++ history) := by
  induction later with
  | nil => exact Nat.le_refl _
  | cons op later ih => exact Nat.le_trans ih (made_le_cons op _)

theorem Feasible.of_append (h : Feasible (later ++ history)) : history.Feasible := by
  induction later with
  | nil => exact h
  | cons op later ih => exact ih h.2

theorem Feasible.clock_lt (h : history.Feasible) {move : Nat × Nat}
    (hmem : move ∈ history.filterMap Op.move?) : move.1 < history.made := by
  induction history with
  | nil => cases hmem
  | cons op earlier ih =>
      obtain ⟨done, hdone, hmove⟩ := List.mem_filterMap.mp hmem
      rcases List.mem_cons.mp hdone with rfl | hdone
      · have hclock : move.1 ∈ done.clock? := by
          rcases Op.eq_of_move hmove with ⟨by_, rfl⟩ | ⟨micros, rfl⟩
          · rfl
          · rfl
        exact Nat.lt_of_lt_of_le (h.1 _ hclock) (made_le_cons _ _)
      · exact Nat.lt_of_lt_of_le (ih h.2 (List.mem_filterMap.mpr ⟨done, hdone, hmove⟩))
          (made_le_cons _ _)

/-! ## Founders -/

theorem founder_cons (op : Op) (h : clock < history.made) :
    founder (op :: history) clock = history.founder clock := by
  cases op with
  | clone parent => exact if_neg fun hclock => Nat.ne_of_lt h hclock.1
  | new => rfl
  | advance clock by_ => rfl
  | advanceMicros clock step => rfl
  | start clock => rfl

theorem founder_append (later : History) (h : clock < history.made) :
    founder (later ++ history) clock = history.founder clock := by
  induction later with
  | nil => rfl
  | cons op later ih =>
      exact (founder_cons op (Nat.lt_of_lt_of_le h (made_le_append later _))).trans ih

theorem founder_clone (h : parent < history.made) :
    founder (.clone parent :: history) history.made = history.founder parent :=
  if_pos ⟨rfl, h⟩

theorem founder_le (history : History) (clock : Nat) :
    history.founder clock ≤ clock := by
  induction history generalizing clock with
  | nil => exact Nat.le_refl _
  | cons op earlier ih =>
      cases op with
      | clone parent =>
          by_cases h : clock = made earlier ∧ parent < made earlier
          · rw [founder, if_pos h]
            exact Nat.le_trans (ih parent) (h.1 ▸ Nat.le_of_lt h.2)
          · rw [founder, if_neg h]
            exact ih clock
      | new => exact ih clock
      | advance => exact ih clock
      | advanceMicros => exact ih clock
      | start => exact ih clock

/-- A clock that is not there is its own founder. -/
theorem founder_of_made_le (h : history.made ≤ clock) :
    history.founder clock = clock := by
  induction history with
  | nil => rfl
  | cons op earlier ih =>
      have hearlier := ih (Nat.le_trans (made_le_cons op earlier) h)
      cases op with
      | clone parent =>
          have hlt : made earlier < clock := h
          exact (if_neg fun hclock => Nat.ne_of_gt hlt hclock.1).trans hearlier
      | new => exact hearlier
      | advance => exact hearlier
      | advanceMicros => exact hearlier
      | start => exact hearlier

/-! ## Kinship -/

theorem ClonedFrom.cons (op : Op) (h : history.ClonedFrom child parent) :
    ClonedFrom (op :: history) child parent := by
  obtain ⟨earlier, hsuffix, hmade⟩ := h
  exact ⟨earlier, hsuffix.trans (List.suffix_cons op history), hmade⟩

theorem Descends.cons (op : Op) (h : history.Descends a b) :
    Descends (op :: history) a b :=
  Relation.ReflTransGen.mono (fun _ _ => ClonedFrom.cons op) a b h

theorem descends_founder (history : History) (clock : Nat) :
    history.Descends clock (history.founder clock) := by
  induction history generalizing clock with
  | nil => exact .refl
  | cons op earlier ih =>
      have hearlier (clock : Nat) :
          Descends (op :: earlier) clock (founder earlier clock) := .cons op (ih clock)
      cases op with
      | clone parent =>
          by_cases h : clock = made earlier ∧ parent < made earlier
          · rw [founder, if_pos h]
            exact .head ⟨earlier, List.suffix_rfl, h.2, h.1⟩ (hearlier parent)
          · rw [founder, if_neg h]
            exact hearlier clock
      | new => exact hearlier clock
      | advance => exact hearlier clock
      | advanceMicros => exact hearlier clock
      | start => exact hearlier clock

theorem ClonedFrom.founder_eq (h : history.ClonedFrom child parent) :
    history.founder child = history.founder parent := by
  obtain ⟨earlier, ⟨later, rfl⟩, hparent, rfl⟩ := h
  have hchild : made earlier < made (.clone parent :: earlier) := Nat.lt_succ_self _
  rw [founder_append later hchild, founder_append later (Nat.lt_trans hparent hchild),
    founder_clone hparent, founder_cons _ hparent]

theorem Descends.founder_eq (h : history.Descends a b) :
    history.founder a = history.founder b := by
  induction h with
  | refl => rfl
  | tail _ hcloned ih => exact ih.trans hcloned.founder_eq

theorem kin_iff : history.Kin a b ↔ history.founder a = history.founder b := by
  constructor
  · rintro ⟨ancestor, ha, hb⟩
    exact ha.founder_eq.trans hb.founder_eq.symm
  · intro h
    exact ⟨_, descends_founder history a, h ▸ descends_founder history b⟩

instance decidableKin (history : History) (a b : Nat) : Decidable (history.Kin a b) :=
  decidable_of_iff _ kin_iff.symm

theorem Kin.symm (h : history.Kin a b) : history.Kin b a :=
  kin_iff.mpr (kin_iff.mp h).symm

theorem Kin.lt (h : history.Kin a b) (ha : a < history.made) : b < history.made := by
  by_contra hb
  have hle := founder_le history a
  rw [kin_iff.mp h, founder_of_made_le (Nat.le_of_not_lt hb)] at hle
  omega

theorem kin_cons (op : Op) (ha : a < history.made) (hb : b < history.made) :
    Kin (op :: history) a b ↔ history.Kin a b := by
  rw [kin_iff, kin_iff, founder_cons op ha, founder_cons op hb]

theorem kin_append (later : History) (ha : a < history.made) (hb : b < history.made) :
    Kin (later ++ history) a b ↔ history.Kin a b := by
  rw [kin_iff, kin_iff, founder_append later ha, founder_append later hb]

theorem not_kin_new (hb : b < history.made) :
    ¬Kin (.new :: history) history.made b := by
  intro hkin
  have hown : founder (.new :: history) history.made = history.made := by
    show history.founder history.made = history.made
    exact founder_of_made_le (Nat.le_refl _)
  have hle := founder_le (.new :: history) b
  rw [← kin_iff.mp hkin, hown] at hle
  exact Nat.not_le_of_lt hb hle

theorem kin_clone (hparent : parent < history.made) (hb : b < history.made) :
    Kin (.clone parent :: history) history.made b ↔ history.Kin parent b := by
  rw [kin_iff, kin_iff, founder_clone hparent, founder_cons _ hb]

/-! ## Moves -/

variable {family family' : Nat → Prop} [DecidablePred family] [DecidablePred family']

theorem moved_cons_of_move (hmove : op.move? = some (clock, step)) :
    moved (op :: history) family
      = (if family clock then step else 0) + history.moved family := by
  rw [moved, List.filterMap_cons_some hmove, List.filter_cons]
  by_cases hclock : family clock
  · simp [hclock, moved]
  · simp [hclock, moved]

theorem moved_cons_of_still (hmove : op.move? = none) :
    moved (op :: history) family = history.moved family := by
  rw [moved, List.filterMap_cons_none hmove, moved]

theorem moved_append (later history : History) :
    moved (later ++ history) family = later.moved family + history.moved family := by
  simp only [moved, List.filterMap_append, List.filter_append, List.map_append,
    List.sum_append]

theorem moved_singleton_lt (op : Op) : moved [op] family < 2 ^ 64 := by
  cases hmove : op.move? with
  | none =>
      rw [moved_cons_of_still hmove]
      exact Nat.two_pow_pos 64
  | some move =>
      obtain ⟨clock, step⟩ := move
      rw [moved_cons_of_move hmove]
      split
      · exact Op.step_lt hmove
      · exact Nat.two_pow_pos 64

theorem Feasible.moved_congr (h : history.Feasible)
    (hfamily : ∀ clock < history.made, family clock ↔ family' clock) :
    history.moved family = history.moved family' := by
  have hsame : ∀ move ∈ history.filterMap Op.move?,
      decide (family move.1) = decide (family' move.1) :=
    fun move hmem => decide_eq_decide.mpr (hfamily _ (h.clock_lt hmem))
  rw [moved, List.filter_congr hsame, moved]

theorem Feasible.moved_eq_zero (h : history.Feasible)
    (hnone : ∀ clock < history.made, ¬family clock) : history.moved family = 0 := by
  have hempty : (history.filterMap Op.move?).filter (fun move => family move.1) = [] :=
    List.filter_eq_nil_iff.mpr fun move hmem hmove =>
      hnone _ (h.clock_lt hmem) (of_decide_eq_true hmove)
  rw [moved, hempty]
  rfl

/-- Who is kin later was kin before. -/
theorem Feasible.moved_kin_append (later : History) (h : Feasible (later ++ history))
    (hclock : clock < history.made) :
    moved (later ++ history) (Kin (later ++ history) clock)
      = later.moved (Kin (later ++ history) clock)
        + history.moved (history.Kin clock) := by
  rw [moved_append,
    h.of_append.moved_congr fun other hother => kin_append later hclock hother]

theorem Feasible.moved_kin_cons (h : Feasible (op :: history))
    (hclock : clock < history.made) :
    ∃ step < 2 ^ 64, moved (op :: history) (Kin (op :: history) clock)
      = step + history.moved (history.Kin clock) :=
  ⟨_, moved_singleton_lt op, Feasible.moved_kin_append [op] h hclock⟩

theorem Feasible.moved_kin_move (h : Feasible (op :: history))
    (hmove : op.move? = some (clock, step)) (ha : a < history.made) :
    moved (op :: history) (Kin (op :: history) a)
      = (if Kin (op :: history) a clock then step else 0)
        + history.moved (history.Kin a) := by
  rw [moved_cons_of_move hmove, Feasible.moved_congr h.2 fun b hb => kin_cons op ha hb]

theorem Feasible.moved_kin_still (h : Feasible (op :: history))
    (hstill : op.move? = none) (hclock : clock < history.made) :
    moved (op :: history) (Kin (op :: history) clock)
      = history.moved (history.Kin clock) := by
  rw [moved_cons_of_still hstill,
    Feasible.moved_congr h.2 fun other hother => kin_cons op hclock hother]

end

end History

end Provenance.ClockBench
