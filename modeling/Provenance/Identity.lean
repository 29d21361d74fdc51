import Provenance.Call
import Provenance.Source
import Provenance.Token

/-! # Identity of objects

    Tokens mean something only to the library that gave them out, so whether
    two of them name one object is a question to that library.  The answer
    may depend on all that happened before: a comparison is a call on the
    library's own state `ω`. -/

namespace Provenance

/-- Why two tokens could not be compared. -/
inductive IdentityError where
  /-- The comparison itself failed. -/
  | comparison (text : String)
  /-- The library failed underneath it. -/
  | library (cause : Cause)
deriving DecidableEq

/-- The error in words. -/
def IdentityError.message : IdentityError → String
  | .comparison text => "token comparison failed: " ++ text
  | .library _ => "token comparison failed"

/-- What the error was caused by. -/
def IdentityError.source : IdentityError → Option Source
  | .comparison _ => none
  | .library cause => some (.library cause)

/-- Comparison of tokens `τ` on behalf of a raw handle `η`, by a library with
    states `ω`. -/
class Identity (ω : Type) (η τ : outParam Type) where
  compare : η → τ → τ → Call ω IdentityError Ordering

namespace Identity

variable {ω η τ : Type} [Identity ω η τ]

/-- The tokens name one object. -/
def sameObject (handle : η) (a b : τ) : Call ω IdentityError Bool := do
  let order ← compare handle a b
  pure (order == .eq)

/-- The first candidate whose token names the object of `token`.  The
    candidates are asked in order, and none after the first match or the first
    failure. -/
def firstMatch {α : Type} (tokenOf : α → τ) (handle : η) (token : τ) :
    List α → Call ω IdentityError (Option α)
  | [] => pure none
  | a :: rest => do
      if ← sameObject handle (tokenOf a) token then pure (some a)
      else firstMatch tokenOf handle token rest

end Identity

/-- A library whose tokens compare byte by byte, and which has no state. -/
structure Bytewise where

instance : Identity Bytewise Unit Token where
  compare _ a b := pure (a.cmp b)

end Provenance
