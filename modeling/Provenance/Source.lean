/-! # Failures of collaborators

    What the wrapped library and the operating system say when they fail is
    known by its text only. -/

namespace Provenance

/-- A failure reported by the wrapped library. -/
structure Cause where
  text : String
deriving DecidableEq

/-- A failure reported by the operating system. -/
structure IoError where
  text : String
deriving DecidableEq

/-- What an error was caused by. -/
inductive Source where
  | library (cause : Cause)
  | io (error : IoError)
deriving DecidableEq

/-- The text of a source. -/
def Source.message : Source → String
  | .library cause => cause.text
  | .io error => error.text

end Provenance
