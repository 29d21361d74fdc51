import Provenance.Error

/-! # Configuration

    The settings of one execution context.  `validate` says which settings
    cannot be used at all. -/

namespace Provenance

/-- What a table of statistics does when its slots run out. -/
inductive Growth where
  /-- It keeps its slots and refuses new keys. -/
  | fixed
  /-- It doubles its slots before more than three quarters are in use. -/
  | double
deriving DecidableEq

/-- Name of a policy. -/
def Growth.name : Growth → String
  | .fixed => "fixed"
  | .double => "double"

/-- The policies by name. -/
def Growth.names : List (String × Growth) :=
  [(Growth.fixed.name, .fixed), (Growth.double.name, .double)]

/-- The settings of one execution context. -/
structure Config where
  /-- Slots of the table of statistics. -/
  statsCapacity : Nat
  statsGrowth : Growth
  /-- Where the statistics are written at the end, if anywhere. -/
  statFile : Option String
  /-- Name of containers that nobody opened yet. -/
  placeholderName : String
  /-- Measure the time spent on bookkeeping. -/
  recordOverhead : Bool
deriving DecidableEq

namespace Config

/-- The settings of a context that asks for nothing else. -/
def default : Config where
  statsCapacity := 733
  statsGrowth := .fixed
  statFile := none
  placeholderName := "dummy"
  recordOverhead := true

/-- Why settings cannot be used. -/
inductive Invalid where
  | zeroCapacity
  | emptyPlaceholder
deriving DecidableEq

/-- The reason in words. -/
def Invalid.message : Invalid → String
  | zeroCapacity => "stats_capacity must be greater than zero"
  | emptyPlaceholder => "placeholder_container_name must not be empty"

/-- The first reason why settings cannot be used: the capacity is looked at
    before the name. -/
def invalid? (config : Config) : Option Invalid :=
  if config.statsCapacity = 0 then some .zeroCapacity
  else if config.placeholderName = "" then some .emptyPlaceholder
  else none

/-- Settings that can be used. -/
def validate (config : Config) : Except Error Config :=
  match config.invalid? with
  | some reason => .error (.configuration reason.message)
  | none => .ok config

theorem invalid?_eq_none_iff {config : Config} :
    config.invalid? = none ↔
      0 < config.statsCapacity ∧ config.placeholderName ≠ "" := by
  unfold invalid?
  constructor
  · intro h
    split at h
    · cases h
    · split at h
      · cases h
      · exact ⟨by omega, by assumption⟩
  · rintro ⟨h, hn⟩
    rw [if_neg (by omega), if_neg hn]

theorem invalid?_default : default.invalid? = none := by
  decide

end Config

end Provenance
