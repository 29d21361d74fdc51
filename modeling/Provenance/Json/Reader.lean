import Provenance.Json.Number

/-! # Readers

    A reader takes one token at a time.  It goes on with a state of its own
    until it is done with a value, or ends with a problem.  `read` runs a
    reader over a whole text: a text that ends before the reader is done is
    truncated, and one that goes on after it is malformed, as the library has it
    for a text that is to hold one value. -/

namespace Provenance.Json

/-- What a reader has after one more token. -/
inductive Progress (σ α : Type) where
  | more (s : σ)
  | done (a : α)

/-- A reader of values `α` with states `σ`. -/
structure Reader (σ α : Type) where
  start : σ
  step : σ → Token → Except Problem (Progress σ α)

namespace Reader

variable {σ α : Type}

/-- Run a reader over the rest of a text. -/
def run (r : Reader σ α) : Progress σ α → List Token → Except Problem α
  | .more _, [] => .error .truncated
  | .more s, t :: ts =>
      match r.step s t with
      | .ok p => run r p ts
      | .error e => .error e
  | .done a, [] => .ok a
  | .done _, _ :: _ => .error .malformed

/-- Run a reader over a whole text. -/
def read (r : Reader σ α) (ts : List Token) : Except Problem α :=
  r.run (.more r.start) ts

/-- Run a reader over a piece of a text. -/
def advance (r : Reader σ α) : Progress σ α → List Token →
    Except Problem (Progress σ α)
  | p, [] => .ok p
  | .more s, t :: ts =>
      match r.step s t with
      | .ok p => advance r p ts
      | .error e => .error e
  | .done _, _ :: _ => .error .malformed

theorem run_append (r : Reader σ α) (p : Progress σ α) (front rest : List Token) :
    r.run p (front ++ rest) =
      match r.advance p front with
      | .ok q => r.run q rest
      | .error e => .error e := by
  induction front generalizing p with
  | nil => cases p <;> rfl
  | cons t ts ih =>
      cases p with
      | done a => rfl
      | more s =>
          simp only [List.cons_append, run, advance]
          cases r.step s t with
          | error e => rfl
          | ok q => exact ih q

end Reader

/-- The problem that a flaw of a piece is. -/
def Flaw.problem : Flaw → Problem
  | form => .malformed
  | ending => .truncated

/-! ## Single values -/

/-- The value that a token starts, where it is not the one expected. -/
def Token.found (t : Token) : Except Problem Found :=
  match t with
  | .null => .ok .null
  | .boolean b => .ok (.boolean b)
  | .number n => n.value.map .number
  | .text s => .ok (.text s)
  | .openArray => .ok .sequence
  | .openObject => .ok .map
  | .unpairedText => .error .malformed
  | .brokenText read _ => .error read.problem
  | .broken read _ => .error read.problem
  | _ => .error .malformed

/-- A value of a wrong type. -/
def Token.refuse {α : Type} (t : Token) (expected : String) : Except Problem α :=
  match t.found with
  | .ok found => .error (.mismatch (.wrongType found expected))
  | .error e => .error e

/-- A word of 64 bits. -/
def Token.word (t : Token) (expected : String) : Except Problem Nat :=
  match t with
  | .number n =>
      match n.value with
      | .ok (.word k) => .ok k
      | .ok (.negative k) =>
          .error (.mismatch (.wrongValue (.number (.negative k)) expected))
      | .ok x => .error (.mismatch (.wrongType (.number x) expected))
      | .error e => .error e
  | t => t.refuse expected

/-- A text. -/
def Token.string (t : Token) (expected : String) : Except Problem String :=
  match t with
  | .text s => .ok s
  | t => t.refuse expected

/-- A truth value. -/
def Token.truth (t : Token) (expected : String) : Except Problem Bool :=
  match t with
  | .boolean b => .ok b
  | t => t.refuse expected

/-- A reader of values that are one token long. -/
def Reader.single {α : Type} (f : Token → Except Problem α) : Reader Unit α :=
  ⟨(), fun _ t => (f t).map .done⟩

end Provenance.Json
