import Provenance.Word

/-! # Durations

    A span of time in whole nanoseconds, at most `Duration.limit`: the seconds
    fit one 64-bit word and the rest is below one second.  Sums of times stop
    at the limit (`saturatingAdd`); where a sum past the limit is a mistake of
    the caller, `add?` and `sum?` say so. -/

namespace Provenance

/-- The longest duration in nanoseconds: `2^64 - 1` seconds and `999999999`
    nanoseconds. -/
def Duration.limit : Nat := (1 <<< 64) * 1000000000 - 1

/-- A span of time in nanoseconds, at most `Duration.limit`. -/
structure Duration where
  nanos : Nat
  bounded : nanos ≤ Duration.limit
deriving DecidableEq

namespace Duration

@[ext]
theorem ext {a b : Duration} (h : a.nanos = b.nanos) : a = b := by
  cases a
  cases b
  cases h
  rfl

/-- The duration of `n` nanoseconds, cut at the limit. -/
def ofNanos (n : Nat) : Duration := ⟨min n limit, Nat.min_le_right _ _⟩

/-- The duration of `n` microseconds, cut at the limit. -/
def ofMicros (n : Nat) : Duration := ofNanos (n * 1000)

/-- The empty span. -/
def zero : Duration := ⟨0, Nat.zero_le _⟩

instance : Inhabited Duration := ⟨zero⟩

/-- Sum of two spans, cut at the limit. -/
def saturatingAdd (a b : Duration) : Duration := ofNanos (a.nanos + b.nanos)

/-- What is left of `a` after `b`, nothing when `b` is the longer span. -/
def saturatingSub (a b : Duration) : Duration :=
  ⟨a.nanos - b.nanos, Nat.le_trans (Nat.sub_le _ _) a.bounded⟩

/-- Sum of two spans, absent when it passes the limit. -/
def add? (a b : Duration) : Option Duration :=
  if h : a.nanos + b.nanos ≤ limit then some ⟨a.nanos + b.nanos, h⟩ else none

/-- Exact sum of a list of spans in nanoseconds. -/
def totalNanos (spans : List Duration) : Nat :=
  spans.foldr (fun d sum => d.nanos + sum) 0

/-- Sum of a list of spans, absent when it passes the limit. -/
def sum? (spans : List Duration) : Option Duration :=
  if h : totalNanos spans ≤ limit then some ⟨totalNanos spans, h⟩ else none

/-- Whole microseconds. -/
def micros (d : Duration) : Nat := d.nanos / 1000

/-- Whole microseconds as a 64-bit word, cut at the largest word. -/
def wordMicros (d : Duration) : Nat := Word.cap d.micros

/-- Whole seconds. -/
def seconds (d : Duration) : Nat := d.nanos / 1000000000

/-- Nanoseconds past the last whole second. -/
def subsecNanos (d : Duration) : Nat := d.nanos % 1000000000

/-! ## One equation per operation -/

@[simp]
theorem nanos_zero : zero.nanos = 0 := rfl

@[simp]
theorem nanos_ofNanos (n : Nat) : (ofNanos n).nanos = min n limit := rfl

@[simp]
theorem nanos_saturatingAdd (a b : Duration) :
    (a.saturatingAdd b).nanos = min (a.nanos + b.nanos) limit := rfl

@[simp]
theorem nanos_saturatingSub (a b : Duration) :
    (a.saturatingSub b).nanos = a.nanos - b.nanos := rfl

theorem add?_eq_some_iff {a b c : Duration} :
    a.add? b = some c ↔ a.nanos + b.nanos = c.nanos := by
  unfold add?
  constructor
  · intro h
    split at h
    · cases h
      rfl
    · cases h
  · intro h
    have hb : a.nanos + b.nanos ≤ limit := h ▸ c.bounded
    rw [dif_pos hb]
    exact congrArg some (Duration.ext h)

theorem seconds_subsecNanos (d : Duration) :
    d.seconds * 1000000000 + d.subsecNanos = d.nanos := by
  unfold seconds subsecNanos
  omega

/-- The microseconds of a word fit a duration. -/
theorem nanos_ofMicros {u : Nat} (h : u ≤ Word.limit) :
    (ofMicros u).nanos = u * 1000 := by
  have hfits : Word.limit * 1000 ≤ limit := by decide
  exact Nat.min_eq_left (Nat.le_trans (Nat.mul_le_mul_right 1000 h) hfits)

theorem wordMicros_ofMicros {u : Nat} (h : u ≤ Word.limit) :
    (ofMicros u).wordMicros = u := by
  rw [wordMicros, micros, nanos_ofMicros h, Nat.mul_div_cancel u (by decide)]
  exact Word.cap_of_le h

end Duration

end Provenance
