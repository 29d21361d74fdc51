import Provenance.Identity

/-! # A scripted library

    A library that only compares tokens, by a given rule, and that can be told
    to fail.  It remembers every comparison it was asked for. -/

namespace Provenance

namespace Scripted

/-- How tokens compare. -/
inductive Rule where
  /-- Byte by byte. -/
  | bytes
  /-- By their addresses modulo a number. -/
  | modulo (n : Nat)
  /-- By their addresses; those at most so far apart are equal. -/
  | near (n : Nat)
deriving DecidableEq

/-- Distance of two numbers. -/
def distance (a b : Nat) : Nat := (a - b) + (b - a)

/-- The answer of a rule. -/
def Rule.order {ε : Type} (rule : Rule) (a b : Token) : Outcome ε Ordering :=
  match rule with
  | bytes => .value (a.cmp b)
  | modulo n =>
      if n = 0 then .fault .zeroDivisor
      else .value (compare (a.address % n) (b.address % n))
  | near n =>
      if distance a.address b.address ≤ n then .value .eq
      else .value (compare a.address b.address)

/-- A comparison that was asked for. -/
structure Asked where
  handle : Nat
  first : Token
  second : Token
deriving DecidableEq

/-- A failure that sets in after some more comparisons. -/
structure Failure where
  error : IdentityError
  after : Nat
deriving DecidableEq

/-- The failure after one more comparison. -/
def Failure.tick (f : Failure) : Failure := { f with after := f.after - 1 }

/-- The state of a scripted library. -/
structure State where
  rule : Rule
  failure : Option Failure
  /-- The comparisons so far, the last one first. -/
  asked : List Asked

/-- One comparison.  It is remembered before anything else happens; a failure
    that is due comes before the rule, and one that is not comes one step
    nearer whatever the rule says. -/
def State.compare (handle : Nat) (a b : Token) : Call State IdentityError Ordering :=
  fun s =>
    let s := { s with asked := ⟨handle, a, b⟩ :: s.asked }
    match s.failure with
    | some ⟨error, 0⟩ => ⟨.error error, s, []⟩
    | _ =>
        let s := { s with failure := s.failure.map Failure.tick }
        match s.rule.order a b with
        | .value order => ⟨.value order, s, []⟩
        | .error e => ⟨.error e, s, []⟩
        | .fault f => ⟨.fault f, s, f.events⟩

instance : Identity State Nat Token where
  compare := State.compare

end Scripted

end Provenance
