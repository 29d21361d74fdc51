/-! # Tokens of a JSON text

    The JSON library that the program reads and writes with is not part of it,
    and nor are the readers that it derives from types.  The modules on JSON
    stand for both and follow what they document.  The library reads a text once
    from left to right, and the first problem decides: the text is no JSON, it
    ends too early, or its data do not fit.  A derived reader asks for the values
    of its type and skips what it does not know.

    A token is one piece of a JSON text.  Some flaws of a piece matter only
    where its value is asked for: a value that is skipped may hold surrogate
    escapes without a partner, and inside it the end of the text in the middle
    of a number is an error of form.  A token therefore keeps both verdicts. -/

namespace Provenance.Json

/-- A flaw of a single piece of text. -/
inductive Flaw where
  /-- The piece is no JSON. -/
  | form
  /-- The text ends within the piece. -/
  | ending
deriving DecidableEq

/-- A number as written. -/
structure NumberText where
  negative : Bool
  /-- The digits before the point. -/
  whole : List Nat
  /-- The digits after the point, if there is one. -/
  fraction : Option (List Nat)
  /-- Whether the exponent is below zero, and its digits. -/
  exponent : Option (Bool × List Nat)
deriving DecidableEq

/-- A piece of a JSON text. -/
inductive Token where
  | openObject
  | closeObject
  | openArray
  | closeArray
  | colon
  | comma
  | null
  | boolean (b : Bool)
  | number (n : NumberText)
  | text (s : String)
  /-- A text with a surrogate escape that has no partner. -/
  | unpairedText
  /-- A text that does not come to its end: its flaw when read, and when
      skipped. -/
  | brokenText (read skipped : Flaw)
  /-- Anything else that does: its flaw when read, and when skipped. -/
  | broken (read skipped : Flaw)
deriving DecidableEq

end Provenance.Json
