import Provenance.Json.Reader

/-! # Skipped values

    A value that nobody asks for is skipped, as the library skips what a derived
    reader ignores: it has to be JSON, however deep it is, but its texts and
    numbers are not looked into. -/

namespace Provenance.Json

/-- An object or an array that is still open. -/
inductive Bracket where
  | object
  | array
deriving DecidableEq

/-- What has to come next within a skipped value. -/
inductive Awaited where
  /-- A value. -/
  | value
  /-- The first key or value after an opening bracket, or its closing one. -/
  | first
  /-- A comma or the closing bracket. -/
  | next
  /-- A key. -/
  | key
  /-- The colon after a key. -/
  | colon
deriving DecidableEq

/-- A value in the middle of being skipped: what comes next, and the open
    brackets, innermost first. -/
structure Skip where
  awaited : Awaited
  open_ : List Bracket
deriving DecidableEq

namespace Skip

/-- Nothing skipped yet. -/
def start : Skip := ⟨.value, []⟩

/-- A value within these brackets is complete. -/
def complete : List Bracket → Progress Skip Unit
  | [] => .done ()
  | outer => .more ⟨.next, outer⟩

/-- The first token of a value. -/
def value (outer : List Bracket) : Token → Except Problem (Progress Skip Unit)
  | .openObject => .ok (.more ⟨.first, .object :: outer⟩)
  | .openArray => .ok (.more ⟨.first, .array :: outer⟩)
  | .null | .boolean _ | .number _ | .text _ | .unpairedText =>
      .ok (complete outer)
  | .brokenText _ skipped => .error skipped.problem
  | .broken _ skipped => .error skipped.problem
  | _ => .error .malformed

/-- A key of an object. -/
def key (outer : List Bracket) : Token → Except Problem (Progress Skip Unit)
  | .text _ | .unpairedText => .ok (.more ⟨.colon, outer⟩)
  | .brokenText _ skipped => .error skipped.problem
  | _ => .error .malformed

/-- One more token of a skipped value. -/
def step (s : Skip) (t : Token) : Except Problem (Progress Skip Unit) :=
  match s.awaited, s.open_, t with
  | .value, outer, t => value outer t
  | .first, .object :: outer, .closeObject => .ok (complete outer)
  | .first, .array :: outer, .closeArray => .ok (complete outer)
  | .first, .object :: outer, t => key (.object :: outer) t
  | .first, outer, t => value outer t
  | .next, .object :: outer, .closeObject => .ok (complete outer)
  | .next, .array :: outer, .closeArray => .ok (complete outer)
  | .next, .object :: outer, .comma => .ok (.more ⟨.key, .object :: outer⟩)
  | .next, .array :: outer, .comma => .ok (.more ⟨.value, .array :: outer⟩)
  | .next, _, _ => .error .malformed
  | .key, outer, t => key outer t
  | .colon, outer, .colon => .ok (.more ⟨.value, outer⟩)
  | .colon, _, _ => .error .malformed

/-- The reader of skipped values. -/
def reader : Reader Skip Unit := ⟨start, step⟩

end Skip

end Provenance.Json
