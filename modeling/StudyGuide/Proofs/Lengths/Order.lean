import StudyGuide.Length

/-!
The order of lengths. Two lengths that are numbers compare one way or the other, and comparing
them the other way round turns the answer (`compare_swap`); a length that is no number compares
with nothing. So a length at most another is never more than it (`not_lt_of_le`), while "not at
most" and "more" are two different things.
-/

set_option autoImplicit false
set_option relaxedAutoImplicit false

namespace StudyGuide.Length

open Float.Model Float.Model.UnpackedFloat

theorem compare_swap (a b : UnpackedFloat) : b.compare a = (a.compare b).map Ordering.swap := by
  cases a with
  | notANumber => cases b <;> rfl
  | infinity sign =>
    cases b with
    | notANumber => rfl
    | infinity sign' | zero sign' | finite sign' => cases sign <;> cases sign' <;> rfl
  | zero sign =>
    cases b with
    | notANumber => rfl
    | infinity sign' | zero sign' | finite sign' => cases sign <;> cases sign' <;> rfl
  | finite sign mantissa exponent =>
    cases b with
    | notANumber => rfl
    | infinity sign' | zero sign' => cases sign <;> cases sign' <;> rfl
    | finite sign' mantissa' exponent' =>
      have hswap : (compare exponent' exponent).then (compare mantissa' mantissa) =
          ((compare exponent exponent').then (compare mantissa mantissa')).swap := by
        rw [Ordering.swap_then, ← Std.OrientedCmp.eq_swap, ← Std.OrientedCmp.eq_swap]
      -- Of two negative numbers the one of the larger magnitude is the smaller.
      cases sign with
      | negative =>
        cases sign' with
        | negative => exact congrArg (fun order : Ordering ↦ some order.swap) hswap
        | positive => rfl
      | positive =>
        cases sign' with
        | negative => rfl
        | positive => exact congrArg some hswap

theorem not_lt_of_le {a b : Length} (hle : a ≤ b) : ¬b < a := by
  intro hlt
  have hle : (a.toModel.unpack.compare b.toModel.unpack).any Ordering.isLE = true :=
    of_decide_eq_true hle
  have hlt : (b.toModel.unpack.compare a.toModel.unpack == some .lt) = true :=
    of_decide_eq_true hlt
  rw [compare_swap, beq_iff_eq] at hlt
  obtain ⟨order, horder, hswap⟩ := Option.map_eq_some_iff.mp hlt
  rw [horder, Ordering.swap_eq_lt.mp hswap] at hle
  exact absurd hle (by decide)

end StudyGuide.Length
