import Provenance.Json.Reader

/-! # Choices

    A choice is one of some names.  It is written as a text, or as an object
    with the name as its one key and null as its value: the two forms that a
    derived reader takes for a type of names.  Where its name should stand,
    anything but a text is malformed. -/

namespace Provenance.Json

variable {α : Type}

/-- Where the reading of a choice is. -/
inductive ChoiceStage (α : Type) where
  /-- Nothing read yet. -/
  | start
  /-- After the opening brace. -/
  | name
  /-- After the name. -/
  | colon (a : α)
  /-- After the colon. -/
  | content (a : α)
  /-- After the content. -/
  | close (a : α)

/-- The choice of a given name. -/
def chosen (names : List (String × α)) (name : String) : Except Problem α :=
  match names.find? fun e => e.1 == name with
  | some e => .ok e.2
  | none => .error (.mismatch (.unknownVariant name (names.map Prod.fst)))

namespace ChoiceStage

/-- One more token of a choice. -/
def step (names : List (String × α)) :
    ChoiceStage α → Token → Except Problem (Progress (ChoiceStage α) α)
  | start, .text s => (chosen names s).map .done
  | start, .openObject => .ok (.more name)
  | start, .brokenText read _ => .error read.problem
  | start, _ => .error .malformed
  | name, .text s => (chosen names s).map fun a => .more (colon a)
  | name, .brokenText read _ => .error read.problem
  | name, _ => .error .malformed
  | colon a, .colon => .ok (.more (content a))
  | colon _, _ => .error .malformed
  | content a, .null => .ok (.more (close a))
  | content _, t => t.refuse "unit"
  | close a, .closeObject => .ok (.done a)
  | close _, _ => .error .malformed

end ChoiceStage

/-- The reader of choices. -/
def Reader.choice (names : List (String × α)) : Reader (ChoiceStage α) α :=
  ⟨.start, ChoiceStage.step names⟩

end Provenance.Json
