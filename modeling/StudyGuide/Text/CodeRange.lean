/-!
Classes of characters given as lists of code ranges.
-/

set_option autoImplicit false
set_option relaxedAutoImplicit false

namespace StudyGuide

/-- The codes from `first` to `last`, both included. -/
structure CodeRange where
  first : Nat
  last : Nat
deriving DecidableEq, Repr

namespace CodeRange

def covers (ranges : List CodeRange) (c : Char) : Bool :=
  ranges.any fun r ↦ decide (r.first ≤ c.toNat) && decide (c.toNat ≤ r.last)

theorem covers_iff (ranges : List CodeRange) (c : Char) :
    covers ranges c = true ↔ ∃ r ∈ ranges, r.first ≤ c.toNat ∧ c.toNat ≤ r.last := by
  simp [covers]

end CodeRange

end StudyGuide
