/-! # Binary floating point

    Magnitudes of 64-bit binary floating-point numbers, in exact arithmetic: a
    mantissa below `2^53` times a power of two.  `round` finds the number
    nearest to a quotient, ties to the even mantissa; products and quotients
    are rounded exact results. -/

namespace Provenance

/-- The magnitude `mantissa · 2^exponent`.  The exponent is the least possible
    one, or the mantissa has all of its 53 bits. -/
structure Binary64 where
  mantissa : Nat
  exponent : Int
deriving DecidableEq

namespace Binary64

/-- The least exponent, that of the subnormal numbers. -/
def leastExponent : Int := -1074

/-- The greatest exponent. -/
def greatestExponent : Int := 971

/-- Zero. -/
def zero : Binary64 := ⟨0, leastExponent⟩

/-- Numerator of `n · 2^e` over `2^0`, for the exponents that enlarge. -/
def scaleUp (n : Nat) (e : Int) : Nat := n <<< e.toNat

/-- The greatest `k` with `2^k ≤ num / den`. -/
def floorLog2 (num den : Nat) : Int :=
  let k : Int := (num.log2 : Int) - (den.log2 : Int)
  if scaleUp den k ≤ scaleUp num (-k) then k else k - 1

/-- The whole number nearest to a quotient, a half going to the even
    neighbour. -/
def nearest (num den : Nat) : Nat :=
  let q := num / den
  let twice := 2 * (num % den)
  if twice < den then q
  else if den < twice then q + 1
  else if q % 2 = 0 then q else q + 1

/-- The number nearest to `num / den`, absent when it is too large. -/
def round (num den : Nat) : Option Binary64 :=
  if num = 0 then some zero
  else
    let e := max leastExponent (floorLog2 num den - 52)
    let m := nearest (scaleUp num (-e)) (scaleUp den e)
    let r : Binary64 := if m = 1 <<< 53 then ⟨1 <<< 52, e + 1⟩ else ⟨m, e⟩
    if r.exponent ≤ greatestExponent then some r else none

/-- Numerator of the exact value. -/
def numerator (x : Binary64) : Nat := scaleUp x.mantissa x.exponent

/-- Denominator of the exact value. -/
def denominator (x : Binary64) : Nat := scaleUp 1 (-x.exponent)

/-- The number nearest to a product, absent when it is too large. -/
def mul (x y : Binary64) : Option Binary64 :=
  round (x.numerator * y.numerator) (x.denominator * y.denominator)

/-- The number nearest to a quotient, absent when it is too large. -/
def div (x y : Binary64) : Option Binary64 :=
  round (x.numerator * y.denominator) (x.denominator * y.numerator)

/-- The number nearest to a power of ten, absent when it is too large. -/
def tenTo (n : Nat) : Option Binary64 := round (Nat.pow 10 n) 1

theorem round_zero (den : Nat) : round 0 den = some zero := rfl

theorem nearest_mul (n den : Nat) (h : 0 < den) : nearest (n * den) den = n := by
  unfold nearest
  simp [Nat.mul_div_cancel _ h, Nat.mul_mod_left, h]

example : round 1 1 = some ⟨2 ^ 52, -52⟩ := by decide +kernel

example : round (2 ^ 53 + 1) 1 = some ⟨2 ^ 52, 1⟩ := by decide +kernel

example : round 1 (2 ^ 1075) = some zero := by decide +kernel

end Binary64

end Provenance
