import Provenance.Source
import Provenance.Json.Problem

/-! # The common error

    Every layer has errors of its own; `Error` is the one type in which a
    program that uses several layers sees them all. -/

namespace Provenance

/-- An error of any layer. -/
inductive Error where
  /-- Two tokens could not be compared. -/
  | identity (text : String)
  /-- An error of a table of statistics. -/
  | stats (text : String)
  /-- An error of a registry. -/
  | registry (text : String)
  /-- An error of an intercepted operation. -/
  | intercept (text : String)
  /-- Storage could not be allocated. -/
  | outOfMemory (what : String)
  /-- A configuration that cannot be used. -/
  | configuration (text : String)
  /-- A failure of the operating system. -/
  | io (error : IoError)
  /-- A text that cannot be read. -/
  | json (problem : Json.Problem)
  /-- A lock whose holder ended in a fault. -/
  | lockPoisoned (which : String)
deriving DecidableEq

/-- A problem of a JSON text in words. -/
def Json.Problem.message : Json.Problem → String
  | malformed => "malformed text"
  | truncated => "unexpected end of text"
  | mismatch m => m.message

/-- The error in words. -/
def Error.message : Error → String
  | identity text => "identity comparison failed: " ++ text
  | stats text => "stats error: " ++ text
  | registry text => "registry error: " ++ text
  | intercept text => "interception error: " ++ text
  | outOfMemory what => "out of memory while allocating " ++ what
  | configuration text => "configuration error: " ++ text
  | io error => "IO error: " ++ error.text
  | json problem => "JSON error: " ++ problem.message
  | lockPoisoned which => which ++ " lock poisoned"

end Provenance
