/-! # JSON values

    What is written in JSON is a value of this type, which stands for the values of
    the library.  The fields of an object stand in the order in which they are
    written; the library need not keep it, and a text means the same in any. -/

namespace Provenance.Json

/-- A JSON value.  All numbers that are written are whole. -/
inductive Value where
  | null
  | truth (b : Bool)
  | number (n : Int)
  | text (s : String)
  | list (values : List Value)
  | object (fields : List (String × Value))

namespace Value

/-- A count. -/
def count (n : Nat) : Value := number n

/-- A value, or null. -/
def orNull {α : Type} (f : α → Value) : Option α → Value
  | some a => f a
  | none => null

/-- The values of a list. -/
def each {α : Type} (f : α → Value) (values : List α) : Value :=
  list (values.map f)

end Value

end Provenance.Json
