import StudyGuide.Proofs.Lengths.Subtraction

/-!
Whole multiples of a length. A number of times is itself turned into a length first, which rounds,
and then multiplied, which rounds again. Neither step comes below what it started from: a number
that is not zero stands for at least one point (`exists_holds_ofNat`), and a length times at least
one is at least that length (`exists_holds_mul`), since rounding keeps the order and leaves both
bounds alone. So no positive multiple of a length is less than the length (`not_mul_ofNat_lt`).
-/

set_option autoImplicit false
set_option relaxedAutoImplicit false

namespace StudyGuide.Length

open Float.Model Float.Model.UnpackedFloat

/-- What is one point at least has a full mantissa, and an exponent that is not small. -/
theorem exists_finite_of_holds {n : Nat} {float : UnpackedFloat} (h : Holds .positive n float)
    (hone : 2 ^ 149 ≤ n) :
    ∃ mantissa exponent hpos, float = .finite .positive mantissa exponent hpos ∧
      n = mantissa * 2 ^ (exponent + 149).toNat ∧ 2 ^ 23 ≤ mantissa ∧ -23 ≤ exponent := by
  cases h with
  | zero => exact absurd hone (by decide)
  | @finite mantissa exponent hpos hbits hleast hfull =>
    have hexponent : -23 ≤ exponent := by
      by_contra! hsmall
      have hpow : 2 ^ (exponent + 149).toNat ≤ 2 ^ 125 :=
        Nat.pow_le_pow_right Nat.two_pos (by omega)
      have hless : mantissa * 2 ^ (exponent + 149).toNat < 2 ^ 24 * 2 ^ 125 :=
        Nat.mul_lt_mul_of_lt_of_le hbits hpow (Nat.two_pow_pos _)
      exact absurd hone (Nat.not_le.mpr hless)
    exact ⟨mantissa, exponent, hpos, rfl, rfl, hfull.resolve_right (by omega), hexponent⟩

/-- A product by one point or more, in units, comes to no less than the other factor. -/
theorem exists_holds_mul {mantissa n : Nat} {exponent : Int} {float : UnpackedFloat}
    (hpos : 0 < mantissa) (hbits : mantissa < 2 ^ 24) (hfull : 2 ^ 23 ≤ mantissa)
    (hleast : -126 ≤ exponent) (hfloat : Holds .positive n float) (hone : 2 ^ 149 ≤ n) :
    ∃ product, mantissa * 2 ^ (exponent + 149).toNat ≤ product ∧ Holds .positive product
      (UnpackedFloat.mul Format.binary32 (.finite .positive mantissa exponent hpos) float) := by
  obtain ⟨mantissa', exponent', hpos', rfl, -, hfull', hleast'⟩ :=
    exists_finite_of_holds hfloat hone
  have hlog : 23 ≤ (mantissa * mantissa').log2 := by
    rw [Nat.le_log2 (Nat.mul_pos hpos hpos').ne']
    exact hfull.trans (Nat.le_mul_of_pos_right mantissa hpos')
  refine ⟨_, ?_, holds_roundWithAccuracy .positive (Nat.mul_pos hpos hpos')
    (by omega : -149 ≤ exponent + exponent') (by omega)⟩
  have hscale : 2 ^ (exponent + 149).toNat ≤
      mantissa' * 2 ^ (exponent + exponent' + 149).toNat := by
    calc 2 ^ (exponent + 149).toNat ≤ 2 ^ (23 + (exponent + exponent' + 149).toNat) :=
          Nat.pow_le_pow_right Nat.two_pos (by omega)
      _ = 2 ^ 23 * 2 ^ (exponent + exponent' + 149).toNat := Nat.pow_add ..
      _ ≤ mantissa' * 2 ^ (exponent + exponent' + 149).toNat := Nat.mul_le_mul_right _ hfull'
  rw [← roundBits_eq_self hbits]
  refine roundBits_mono ?_
  rw [Nat.mul_assoc]
  exact Nat.mul_le_mul_left mantissa hscale

/-! ### Numbers as lengths -/

theorem roundBits_one_point : roundBits (2 ^ 149) = 2 ^ 149 := by
  have hself : roundBits (1 * 2 ^ 149) = 1 * 2 ^ 149 := roundBits_eq_self (by decide) 149
  rwa [Nat.one_mul] at hself

theorem one_point_le_roundBits {n : Nat} (hn : 0 < n) : 2 ^ 149 ≤ roundBits (n * 2 ^ 149) := by
  have hround : roundBits (2 ^ 149) ≤ roundBits (n * 2 ^ 149) :=
    roundBits_mono (Nat.le_mul_of_pos_left _ hn)
  rwa [roundBits_one_point] at hround

theorem exists_holds_toFloat32 {n : Nat} (hn : 0 < n) (hsmall : n < 2 ^ 23) :
    ∃ m, 2 ^ 149 ≤ m ∧ Holds .positive m n.toUInt64.toFloat32.toModel.unpack := by
  have hnat : n.toUInt64.toNat = n := UInt64.toNat_ofNat_of_lt' (hsmall.trans (by decide))
  have hmodel : n.toUInt64.toFloat32.toModel = Float32.Model.pack
      (UnpackedFloat.normalize Format.binary32 (n.toUInt64.toNat : Int) 0 .positive) := rfl
  rw [hnat] at hmodel
  obtain ⟨sign, m, hholds, happly⟩ :=
    exists_holds_normalize (n : Int) (by decide : (-149 : Int) ≤ 0) .positive
  have hround : roundInt ((n : Int) * 2 ^ ((0 : Int) + 149).toNat) = (n * 2 ^ 149 : Nat) := by
    have hcast : (n : Int) * 2 ^ ((0 : Int) + 149).toNat = ((n * 2 ^ 149 : Nat) : Int) := by
      push_cast
      rfl
    rw [hcast, roundInt_natCast, roundBits_eq_self (hsmall.trans (by decide))]
  rw [hround] at happly
  have hpoint : 2 ^ 149 ≤ n * 2 ^ 149 := Nat.le_mul_of_pos_left _ hn
  cases sign with
  | negative =>
    have hnegative : -(m : Int) = (n * 2 ^ 149 : Nat) := happly
    have hpositive : 0 < 2 ^ 149 := Nat.two_pow_pos _
    omega
  | positive =>
    obtain rfl : m = n * 2 ^ 149 := Int.ofNat_inj.mp happly
    have hbound : n * 2 ^ 149 < unitsBound := by
      calc n * 2 ^ 149 < 2 ^ 23 * 2 ^ 149 := Nat.mul_lt_mul_of_pos_right hsmall (Nat.two_pow_pos _)
        _ ≤ unitsBound := Nat.mul_le_mul_left _ (Nat.pow_le_pow_right Nat.two_pos (by decide))
    rw [hmodel, unpack_pack hholds, if_pos hbound]
    exact ⟨_, hpoint, hholds⟩

theorem exists_holds_ofNat_of_lt {n : Nat} (hn : 0 < n) (hsmall : n < 2 ^ 23) :
    ∃ m float, 2 ^ 149 ≤ m ∧ Holds .positive m float ∧
      (Float32.ofNat n).toModel = Float32.Model.pack float := by
  obtain ⟨m, hm, hholds⟩ := exists_holds_toFloat32 hn hsmall
  obtain ⟨mantissa, exponent, hpos, hfinite, hunits, hfull, hleast⟩ :=
    exists_finite_of_holds hholds hm
  have hbits : mantissa < 2 ^ 24 := by
    rw [hfinite] at hholds
    cases hholds
    assumption
  -- The power of ten that a whole number comes with is one.
  have hunit : Holds .positive (2 ^ 23 * 2 ^ ((-23 : Int) + 149).toNat)
      (.finite .positive (2 ^ 23) (-23) (by decide)) :=
    .finite (by decide) (by decide) (by decide) (Or.inl (Nat.le_refl _))
  obtain ⟨product, hproduct, hmul⟩ :=
    exists_holds_mul hpos hbits hfull (by omega : -126 ≤ exponent) hunit (by decide)
  refine ⟨product, _, (hunits ▸ hm).trans hproduct, hmul, ?_⟩
  have hofNat : Float32.ofNat n = n.toUInt64.toFloat32 * Float32.ofBits 0x3F800000 :=
    dif_pos ⟨hsmall, by decide⟩
  rw [hofNat, ← hfinite]
  rfl

theorem exists_holds_ofNat_of_ge {n : Nat} (hlarge : 2 ^ 23 ≤ n) :
    ∃ m float, 2 ^ 149 ≤ m ∧ Holds .positive m float ∧
      (Float32.ofNat n).toModel = Float32.Model.pack float := by
  have hn : 0 < n := by omega
  have hofNat : (Float32.ofNat n).toModel = Float32.Model.ofScientific n 0 :=
    congrArg Float32.toModel (dif_neg fun h ↦ absurd h.1 (Nat.not_lt.mpr hlarge))
  have hmantissa : 0 < n <<< 24 * 10 ^ 0 := by
    rw [Nat.shiftLeft_eq]
    omega
  have hlog : 23 ≤ (n <<< 24 * 10 ^ 0).log2 := by
    rw [Nat.le_log2 hmantissa.ne', Nat.shiftLeft_eq]
    omega
  have hexponent : (-149 : Int) ≤ -24 + 0 := by decide
  have hholds := holds_roundWithAccuracy .positive hmantissa hexponent (by omega)
  refine ⟨_, _, ?_, hholds, ?_⟩
  · have hunits : n <<< 24 * 10 ^ 0 * 2 ^ ((-24 : Int) + 0 + 149).toNat = n * 2 ^ 149 := by
      rw [Nat.shiftLeft_eq, Nat.pow_zero, Nat.mul_one, Nat.mul_assoc]
      rfl
    rw [hunits]
    exact one_point_le_roundBits hn
  · have hleast : ¬(0 : Int) < -(2 ^ Format.binary32.exponentBits + (n.log2 : Int)) := by
      have hbits : Format.binary32.exponentBits = 8 := rfl
      rw [hbits]
      omega
    rw [hofNat, Float32.Model.ofScientific, UnpackedFloat.ofScientific, dif_neg hn.ne',
      if_neg (by decide), if_neg hleast, if_pos (Int.le_refl 0)]
    rfl

/-- A number that is not zero stands for one point or more. -/
theorem exists_holds_ofNat {n : Nat} (hn : 0 < n) :
    ∃ m float, 2 ^ 149 ≤ m ∧ Holds .positive m float ∧
      (Float32.ofNat n).toModel = Float32.Model.pack float := by
  rcases Nat.lt_or_ge n (2 ^ 23) with hsmall | hlarge
  · exact exists_holds_ofNat_of_lt hn hsmall
  · exact exists_holds_ofNat_of_ge hlarge

/-- No positive multiple of a length is less than the length. -/
theorem not_mul_ofNat_lt {a : Length} {mantissa : Nat} {exponent : Int}
    (ha : IsKeptIn a mantissa exponent) (hfull : 2 ^ 23 ≤ mantissa) (hleast : -126 ≤ exponent)
    {n : Nat} (hn : 0 < n) : ¬a * Float32.ofNat n < a := by
  obtain ⟨hbits, -, -, hlargest⟩ := ha.bounds
  have hmost := (exponent_le_iff hbits (Or.inl hfull)).mp hlargest
  obtain ⟨hpos, hunpack⟩ := id ha
  obtain ⟨m, float, hm, hfloat, hmodel⟩ := exists_holds_ofNat hn
  obtain ⟨product, hproduct, hholds⟩ := exists_holds_mul hpos hbits hfull hleast hfloat hm
  have hmul : (a * Float32.ofNat n).toModel.unpack = (Float32.Model.pack
      (UnpackedFloat.mul Format.binary32 (.finite .positive mantissa exponent hpos)
        (Float32.Model.pack float).unpack)).unpack := by
    rw [← hunpack, ← hmodel]
    rfl
  obtain ⟨hnumber, hunits⟩ : (a * Float32.ofNat n).isNaN = false ∧
      units a ≤ units (a * Float32.ofNat n) := by
    rw [isNaN_eq, ha.units_eq, units, hmul, unpack_pack hfloat]
    by_cases hbound : m < unitsBound
    · rw [if_pos hbound, unitsOf_unpack_pack hholds]
      refine ⟨isNaN_unpack_pack hholds, ?_⟩
      dsimp only [Sign.apply]
      unfold clamp
      omega
    · -- Infinity times a positive length is infinity.
      have hinfinite : (Float32.Model.pack (UnpackedFloat.mul Format.binary32
          (.finite .positive mantissa exponent hpos) (.infinity .positive))).unpack =
            .infinity .positive := unpack_packedInfinity .positive
      rw [if_neg hbound, hinfinite]
      exact ⟨rfl, Int.ofNat_le.mpr hmost.le⟩
  rw [lt_iff_units_lt hnumber ha]
  omega

end StudyGuide.Length
