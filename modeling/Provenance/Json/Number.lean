import Provenance.Json.Problem
import Provenance.Json.Token
import Provenance.Word

/-! # The value of a number

    A whole number that fits a word is exact.  All other numbers become
    floating point: the leading digits that fit a word, times or divided by a
    power of ten, both rounded.  Digits past a word only move the exponent,
    and a number too large for floating point is an error of form.  So the library
    has it where it is not asked for exact floating point or for numbers of any
    length. -/

namespace Provenance.Json

/-- The digits gathered so far, as long as they fit a word, and the power of
    ten to apply to them. -/
structure Gathered where
  significand : Nat
  exponent : Int
deriving DecidableEq

namespace Gathered

/-- Gather whole digits.  From the first one that does not fit, each digit
    only raises the exponent. -/
def whole (g : Gathered) : List Nat → Gathered
  | [] => g
  | d :: ds =>
      if g.significand * 10 + d ≤ Word.limit then
        whole { g with significand := g.significand * 10 + d } ds
      else { g with exponent := g.exponent + (d :: ds).length }

/-- Gather digits after the point, up to the first one that does not fit. -/
def fraction (g : Gathered) : List Nat → Gathered
  | [] => g
  | d :: ds =>
      if g.significand * 10 + d ≤ Word.limit then
        fraction ⟨g.significand * 10 + d, g.exponent - 1⟩ ds
      else g

end Gathered

/-- Value of a list of digits. -/
def digitsValue (ds : List Nat) : Nat := ds.foldl (fun n d => n * 10 + d) 0

/-- The largest exponent that is read as it stands. -/
def exponentLimit : Nat := (1 <<< 31) - 1

/-- The greatest power of ten that floating point has. -/
def greatestPower : Nat := 308

/-- Divide by `10^n` in steps: first, `steps` times, by the greatest power. -/
def divideTen (x : Binary64) (n : Nat) : Nat → Option Binary64
  | 0 => (Binary64.tenTo n).bind x.div
  | steps + 1 =>
      if x.mantissa = 0 then some x
      else
        match (Binary64.tenTo greatestPower).bind x.div with
        | some y => divideTen y (n - greatestPower) steps
        | none => none

/-- Apply a power of ten to a magnitude. -/
def scaleTen (x : Binary64) (e : Int) : Option Binary64 :=
  if e < 0 then divideTen x e.natAbs ((e.natAbs - 1) / greatestPower)
  else if e ≤ greatestPower then (Binary64.tenTo e.toNat).bind x.mul
  else if x.mantissa = 0 then some x
  else none

/-- The magnitude of gathered digits. -/
def Gathered.magnitude (g : Gathered) : Option Binary64 :=
  (Binary64.round g.significand 1).bind fun x => scaleTen x g.exponent

/-- Floating point, or an error of form. -/
def floating (negative : Bool) : Option Binary64 → Except Problem Number
  | some x => .ok (.float negative x)
  | none => .error .malformed

/-- A number without point and exponent: exact if it fits a word, or if it is
    below zero and fits a signed word. -/
def wholeValue (negative : Bool) (g : Gathered) : Except Problem Number :=
  if g.exponent ≠ 0 then floating negative g.magnitude
  else if negative then
    if 0 < g.significand ∧ g.significand ≤ 1 <<< 63 then
      .ok (.negative g.significand)
    else floating true g.magnitude
  else .ok (.word g.significand)

/-- The value of a number as written. -/
def NumberText.value (n : NumberText) : Except Problem Number :=
  let g := Gathered.whole ⟨0, 0⟩ n.whole
  match n.fraction, n.exponent with
  | none, none => wholeValue n.negative g
  | some ds, none => floating n.negative (g.fraction ds).magnitude
  | f, some (below, es) =>
      let g := g.fraction (f.getD [])
      let e := digitsValue es
      if exponentLimit < e then
        if g.significand ≠ 0 ∧ ¬ below then .error .malformed
        else .ok (.float n.negative .zero)
      else
        let e : Int := if below then -(e : Int) else e
        floating n.negative
          (Gathered.magnitude { g with exponent := g.exponent + e })

end Provenance.Json
