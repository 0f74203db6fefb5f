import StudyGuide.Decimal.Shortest
import StudyGuide.Text.Basic

/-!
Decimal text of binary numbers, with the fewest digits that read back.
-/

set_option autoImplicit false
set_option relaxedAutoImplicit false

namespace StudyGuide.Decimal

/-- Digits with a point after the first `place` of them; a whole number keeps one zero after the
point. -/
def positional (digits : Text) (place : Int) : Text :=
  if place ≤ 0 then "0." ++ List.replicate (-place).toNat '0' ++ digits
  else
    let whole := place.toNat
    let after := digits.drop whole
    digits.take whole ++ List.replicate (whole - digits.length) '0' ++ '.' ::
      (if after = [] then ['0'] else after)

/-- One digit, the others after a point, and the power of ten. -/
def scientific (digits : Text) (place : Int) : Text :=
  let tail := digits.drop 1
  digits.take 1 ++ (if tail = [] then [] else '.' :: tail) ++ 'e' :: Text.ofInt (place - 1)

/-- A number is written by place unless it is below a ten-thousandth or from ten to the sixteenth
on. -/
def isPositional (place : Int) : Bool := decide (-3 ≤ place) && decide (place ≤ 16)

def isNegative (x : Float32) : Bool := decide (Nat.pow 2 31 ≤ x.toBits.toNat)

def magnitudeBits (x : Float32) : Nat := x.toBits.toNat % Nat.pow 2 31

/-- The digits of a finite number, and how many of them stand before the point. -/
def digitsOf (bits : Nat) : Text × Int :=
  if bits = 0 then (['0'], 1)
  else
    let scaled := shortest bits
    let digits := Text.ofNat scaled.digits
    (digits, digits.length + scaled.exponent)

def infinityBits : Nat := 0x7F800000

def showMagnitude (bits : Nat) : Text :=
  if bits = infinityBits then "inf"
  else
    let (digits, place) := digitsOf bits
    if isPositional place then positional digits place else scientific digits place

def sign (x : Float32) : Text := if isNegative x then ['-'] else []

/-- A number as a person reads it. -/
def show32 (x : Float32) : Text :=
  if infinityBits < magnitudeBits x then "NaN" else sign x ++ showMagnitude (magnitudeBits x)

/-- A finite number by place, whatever its size. -/
def plain32 (x : Float32) : Text :=
  let (digits, place) := digitsOf (magnitudeBits x)
  sign x ++ positional digits place

end StudyGuide.Decimal
