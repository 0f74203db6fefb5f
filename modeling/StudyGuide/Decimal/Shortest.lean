/-!
The shortest decimal that reads back as a given binary number. A finite number is a whole number
of units of a power of two, and the reals that round to it form an interval around it. On each
grid of multiples of a power of ten only the two neighbours of the number can lie nearest to it;
the coarsest grid with a neighbour in the interval gives the fewest digits.
-/

set_option autoImplicit false
set_option relaxedAutoImplicit false

namespace StudyGuide.Decimal

/-- The number `digits * 10 ^ exponent`. -/
structure Scaled where
  digits : Nat
  exponent : Int
deriving DecidableEq, Repr

/-- A positive number in quarters of the unit of its last place, with the ends of the interval
that rounds to it; `exponent` is the power of two of a quarter. -/
structure Rounding where
  value : Nat
  lower : Nat
  upper : Nat
  /-- Whether the ends round to the number too. -/
  closed : Bool
  exponent : Int

/-- The interval of a number of 32 bits, sign aside. -/
def Rounding.ofBits (bits : Nat) : Rounding :=
  let fraction := bits % Nat.pow 2 23
  let biased := bits / Nat.pow 2 23 % 256
  let significand := if biased = 0 then fraction else Nat.pow 2 23 + fraction
  { value := 4 * significand
    lower := 4 * significand - (if fraction = 0 ∧ 1 < biased then 1 else 2)
    upper := 4 * significand + 2
    closed := significand % 2 = 0
    exponent := Int.ofNat (max biased 1) - 152 }

/-- Numerator and denominator of a quarter unit in units of `10 ^ exponent`. -/
def Rounding.ratio (r : Rounding) (exponent : Int) : Nat × Nat :=
  (Nat.pow 2 r.exponent.toNat * Nat.pow 10 (-exponent).toNat,
    Nat.pow 2 (-r.exponent).toNat * Nat.pow 10 exponent.toNat)

/-- Whether `n * 10 ^ exponent` rounds to the number. -/
def Rounding.holds (r : Rounding) (n : Nat) (exponent : Int) : Bool :=
  let (numerator, denominator) := r.ratio exponent
  let point := n * denominator
  if r.closed then
    decide (r.lower * numerator ≤ point) && decide (point ≤ r.upper * numerator)
  else decide (r.lower * numerator < point) && decide (point < r.upper * numerator)

/-- The neighbour of the number on the grid of `10 ^ exponent` that rounds to it; of two that do
the nearer one, and the upper one of two equally near. -/
def Rounding.onGrid? (r : Rounding) (exponent : Int) : Option Scaled :=
  let (numerator, denominator) := r.ratio exponent
  let below := r.value * numerator / denominator
  let low := r.holds below exponent
  let high := r.holds (below + 1) exponent
  let nearLow := 2 * (r.value * numerator) < (2 * below + 1) * denominator
  if low && (!high || decide nearLow) then some ⟨below, exponent⟩
  else if high then some ⟨below + 1, exponent⟩
  else none

/-- Exponents of ten from the largest that a number of 32 bits can need to the smallest. -/
def gridExponents : List Int := (List.range 86).map fun i ↦ 39 - Int.ofNat i

/-- The shortest decimal of a positive finite number of 32 bits. -/
def shortest (bits : Nat) : Scaled :=
  ((gridExponents.findSome? (Rounding.ofBits bits).onGrid?)).getD ⟨0, 0⟩

end StudyGuide.Decimal
