import Provenance.Call

/-! # Shared values

    A value behind a lock.  A call that ends in a fault while it holds the
    lock poisons it for good: nobody sees the value it left. -/

namespace Provenance

/-- A value behind a lock. -/
structure Shared (α : Type) where
  value : α
  poisoned : Bool
deriving DecidableEq

namespace Shared

variable {σ ε α : Type}

/-- A value that nobody used yet. -/
def ofValue (s : σ) : Shared σ := ⟨s, false⟩

/-- Work on the value, if its lock is not poisoned. -/
def run (poisonedError : ε) (work : Call σ ε α) : Call (Shared σ) ε α :=
  fun s =>
    if s.poisoned then ⟨.error poisonedError, s, []⟩
    else
      let r := work s.value
      ⟨r.outcome, ⟨r.state, r.outcome.isFault⟩, r.events⟩

/-- The value, as long as it can be seen. -/
def get? (s : Shared σ) : Option σ := if s.poisoned then none else some s.value

end Shared

end Provenance
