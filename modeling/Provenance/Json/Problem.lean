import Provenance.Decimal.Shortest
import Provenance.Text.Quoted

/-! # Problems of a JSON text

    A JSON text is read once from left to right and the first problem wins:
    the text is no JSON, or it ends too early, or a well-formed piece of it is
    not what its place asks for.  These are the categories of errors of the library,
    and the messages of the last are those of its derived readers. -/

namespace Provenance.Json

/-- A number as read: words stay exact, all else is floating point. -/
inductive Number where
  | word (n : Nat)
  /-- A whole number below zero. -/
  | negative (n : Nat)
  | float (negative : Bool) (magnitude : Binary64)
deriving DecidableEq

/-- What stands in the place of something else. -/
inductive Found where
  | null
  | boolean (b : Bool)
  | number (n : Number)
  | text (s : String)
  | sequence
  | map
deriving DecidableEq

/-- A well-formed piece of text in the wrong place. -/
inductive Mismatch where
  /-- A value of another type. -/
  | wrongType (found : Found) (expected : String)
  /-- A value of the right type outside its range. -/
  | wrongValue (found : Found) (expected : String)
  /-- A name that is none of those known. -/
  | unknownVariant (name : String) (known : List String)
  /-- A field that is given twice. -/
  | duplicateField (name : String)
deriving DecidableEq

/-- Why a text cannot be read. -/
inductive Problem where
  /-- The text is no JSON. -/
  | malformed
  /-- The text ends too early. -/
  | truncated
  | mismatch (m : Mismatch)
deriving DecidableEq

/-- A number between the words that announce its type. -/
def Number.describe : Number → String
  | word n => "integer `" ++ toString n ++ "`"
  | negative n => "integer `-" ++ toString n ++ "`"
  | float below magnitude =>
      "floating point `" ++ (if below then "-" else "") ++ magnitude.text
        ++ "`"

/-- What was found, in words. -/
def Found.describe : Found → String
  | null => "null"
  | boolean b => "boolean `" ++ (if b then "true" else "false") ++ "`"
  | number n => n.describe
  | text s => "string " ++ Quoted.encode s
  | sequence => "sequence"
  | map => "map"

/-- A name between backquotes. -/
def mark (name : String) : String := "`" ++ name ++ "`"

/-- The names that would have been right, in words. -/
def alternatives : List String → String
  | [] => "there are no variants"
  | [a] => "expected " ++ mark a
  | [a, b] => "expected " ++ mark a ++ " or " ++ mark b
  | names => "expected one of " ++ ", ".intercalate (names.map mark)

/-- What is wrong, in words. -/
def Mismatch.message : Mismatch → String
  | wrongType found expected =>
      "invalid type: " ++ found.describe ++ ", expected " ++ expected
  | wrongValue found expected =>
      "invalid value: " ++ found.describe ++ ", expected " ++ expected
  | unknownVariant name known =>
      "unknown variant " ++ mark name ++ ", " ++ alternatives known
  | duplicateField name => "duplicate field " ++ mark name

end Provenance.Json
