import Provenance.Decimal.Binary64

/-! # Shortest decimal text of a binary floating-point number

    Of all decimal numbers that round to a given binary number, `shortest`
    takes one with the fewest digits, and of those the nearest.  The search
    goes through the digit counts from one upwards and looks at the two
    neighbours of the value on each decimal grid. -/

namespace Provenance

/-- The decimal number `digits · 10^exponent`. -/
structure Decimal where
  digits : Nat
  exponent : Int
deriving DecidableEq

namespace Binary64

/-- The numbers between which all reals round to `x`, and `x` itself, as
    multiples of a quarter of the last binary place. -/
structure Neighbourhood where
  low : Nat
  middle : Nat
  high : Nat
  /-- The ends round to `x` as well. -/
  closed : Bool

/-- Half a place to either side; a quarter below a power of two, where the
    places halve. -/
def neighbourhood (x : Binary64) : Neighbourhood :=
  let narrow := x.mantissa = 1 <<< 52 ∧ x.exponent ≠ leastExponent
  { low := 4 * x.mantissa - if narrow then 1 else 2
    middle := 4 * x.mantissa
    high := 4 * x.mantissa + 2
    closed := x.mantissa % 2 = 0 }

/-- A multiple `n` of `10^k` against a multiple `q` of a quarter place, both
    brought to whole numbers. -/
def compareGrid (x : Binary64) (n : Nat) (k : Int) (q : Nat) : Ordering :=
  let e := x.exponent - 2
  compare (scaleUp (n * Nat.pow 10 k.toNat) (-e)) (scaleUp q e * Nat.pow 10 (-k).toNat)

/-- The decimal `n · 10^k` rounds to `x`. -/
def readsBack (x : Binary64) (n : Nat) (k : Int) : Bool :=
  let near := x.neighbourhood
  let above := x.compareGrid n k near.low
  let below := x.compareGrid n k near.high
  if near.closed then above != .lt && below != .gt
  else above == .gt && below == .lt

/-- The greatest multiple of `10^k` that is not above `x`. -/
def floorGrid (x : Binary64) (k : Int) : Nat :=
  (x.numerator * Nat.pow 10 (-k).toNat) / (x.denominator * Nat.pow 10 k.toNat)

/-- The multiple of `10^k` that reads back as `x`, the nearer one if both
    neighbours do and the even one if they are equally near. -/
def onGrid (x : Binary64) (k : Int) : Option Nat :=
  let n := x.floorGrid k
  match x.readsBack n k, x.readsBack (n + 1) k with
  | false, false => none
  | true, false => some n
  | false, true => some (n + 1)
  | true, true =>
      let e := x.exponent - 2
      let twice := (scaleUp ((2 * n + 1) * Nat.pow 10 k.toNat) (-e))
      match compare twice (scaleUp (2 * x.neighbourhood.middle) e * Nat.pow 10 (-k).toNat) with
      | .gt => some n
      | .lt => some (n + 1)
      | .eq => some (if n % 2 = 0 then n else n + 1)

/-- The greatest `k` with `10^k ≤ x`, for `x ≠ 0`: counted down from a bound
    that is not below it. -/
def floorLog10From (x : Binary64) (k : Int) : Nat → Int
  | 0 => k
  | fuel + 1 =>
      if x.denominator * Nat.pow 10 k.toNat ≤ x.numerator * Nat.pow 10 (-k).toNat then k
      else floorLog10From x (k - 1) fuel

/-- Place of the first decimal digit of `x`. -/
def floorLog10 (x : Binary64) : Int := floorLog10From x 309 640

/-- The first grid, from one digit to `1 + fuel` digits, with a decimal that
    reads back. -/
def search (x : Binary64) (first : Int) (digits : Nat) : Nat → Decimal
  | 0 => ⟨x.floorGrid (first - digits), first - digits⟩
  | fuel + 1 =>
      match x.onGrid (first - digits) with
      | some n => ⟨n, first - digits⟩
      | none => search x first (digits + 1) fuel

/-- The shortest decimal that reads back as `x`, the nearest of those. -/
def shortest (x : Binary64) : Decimal :=
  if x.mantissa = 0 then ⟨0, 0⟩ else search x x.floorLog10 0 17

end Binary64

/-! ## Text -/

namespace Decimal

/-- Leave out zeros at the end of the digits. -/
def trim : Nat → Decimal → Decimal
  | 0, d => d
  | fuel + 1, d =>
      if d.digits ≠ 0 ∧ d.digits % 10 = 0 then
        trim fuel ⟨d.digits / 10, d.exponent + 1⟩
      else d

/-- Which decimals are written without an exponent: those whose first digit
    has a place from `least` to `greatest`. -/
structure Layout where
  least : Int
  greatest : Int

/-- Positional from `10^-5` to below `10^16`. -/
def Layout.plain : Layout := ⟨-5, 15⟩

/-- A positional text has at least one digit after its point; one with an
    exponent has a point only between digits, and the exponent has a sign. -/
def text (layout : Layout) (d : Decimal) : String :=
  let digits := (toString d.digits).toList
  let place := d.exponent + digits.length - 1
  if layout.least ≤ place ∧ place ≤ layout.greatest then
    if 0 ≤ d.exponent then
      String.ofList (digits ++ List.replicate d.exponent.toNat '0') ++ ".0"
    else if 0 ≤ place then
      String.ofList (digits.take (place + 1).toNat) ++ "."
        ++ String.ofList (digits.drop (place + 1).toNat)
    else
      "0." ++ String.ofList (List.replicate (-place - 1).toNat '0' ++ digits)
  else
    String.ofList (digits.take 1)
      ++ (if digits.length = 1 then ""
          else "." ++ String.ofList (digits.drop 1))
      ++ (if 0 ≤ place then "e+" else "e-") ++ toString place.natAbs

end Decimal

/-- The shortest text of a magnitude. -/
def Binary64.text (x : Binary64) : String :=
  (Decimal.trim 20 x.shortest).text .plain

end Provenance
