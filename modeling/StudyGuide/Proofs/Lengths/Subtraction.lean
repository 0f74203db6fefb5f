import StudyGuide.Proofs.Lengths.Rounding

/-!
Differences of lengths. A length that is a number is read as a whole number of units
(`units`), with infinity beyond all others; a length in 24 bits is packed and read back
unchanged (`unpack_pack`). A difference is then the exact difference of units, rounded and clamped
(`units_sub`), and so taking the same away from two lengths keeps their order
(`units_sub_mono`). Below a positive finite length are the lengths with fewer units
(`lt_iff_units_lt`), no numbers apart, which are below nothing.

Whoever asks for room asks for a sum, and takes its parts away one by one. The two round
differently; since both keep the order, they agree for every cursor once they agree for the least
one that the sum lets pass (`fits_of_reserve`).
-/

set_option autoImplicit false
set_option relaxedAutoImplicit false

namespace StudyGuide.Length

open Float.Model Float.Model.UnpackedFloat

/-! ### Packing -/

theorem toNat_one_append (mantissa : BitVec 23) :
    (1#1 ++ mantissa).toNat = 2 ^ 23 + mantissa.toNat := by
  rw [BitVec.toNat_append, ← Nat.shiftLeft_add_eq_or_of_lt mantissa.isLt]
  rfl

theorem unpack_packedZero (sign : Sign) :
    unpack Format.binary32 (packedZero Format.binary32 sign) = .zero sign := by
  cases sign <;> rfl

theorem unpack_packedInfinity (sign : Sign) :
    unpack Format.binary32 (packedInfinity Format.binary32 sign) = .infinity sign := by
  cases sign <;> rfl

/-- The sign is the bit in front of the others. -/
theorem ofBitVec_unpackSign (sign : Sign) (exponent : BitVec 8) (mantissa : BitVec 23) :
    Sign.ofBitVec (unpackSign (packComponents Format.binary32 sign exponent mantissa)) = sign := by
  have hfirst : unpackSign (packComponents Format.binary32 sign exponent mantissa) =
      BitVec.extractLsb' 31 1 (sign.toBitVec ++ exponent ++ mantissa) := rfl
  rw [hfirst, BitVec.extractLsb'_append_eq_of_le (by decide),
    BitVec.extractLsb'_append_eq_of_le (by decide)]
  cases sign <;> rfl

theorem finite_congr {sign : Sign} {mantissa mantissa' : Nat} {exponent : Int}
    {hpos : 0 < mantissa} {hpos' : 0 < mantissa'} (h : mantissa = mantissa') :
    UnpackedFloat.finite sign mantissa exponent hpos = .finite sign mantissa' exponent hpos' := by
  subst h
  rfl

theorem unpack_normal (sign : Sign) {biased mantissa : Nat} (hleast : 0 < biased)
    (hmost : biased < 255) (hpos : 0 < mantissa) (hfull : 2 ^ 23 ≤ mantissa)
    (hbits : mantissa < 2 ^ 24) :
    UnpackedFloat.unpack Format.binary32 (packComponents Format.binary32 sign
        (BitVec.ofNat 8 biased) (BitVec.ofNat 23 mantissa)) =
      .finite sign mantissa (biased - 150) hpos := by
  have hexponent : (BitVec.ofNat 8 biased).toNat = biased := by
    rw [BitVec.toNat_ofNat, Nat.mod_eq_of_lt (by omega)]
  have hlast : BitVec.ofNat 8 biased ≠ -1#8 := fun h ↦ by
    have h := congrArg BitVec.toNat h
    rw [hexponent] at h
    exact hmost.ne h
  have hfirst : BitVec.ofNat 8 biased ≠ 0#8 := fun h ↦ by
    have h := congrArg BitVec.toNat h
    rw [hexponent] at h
    exact hleast.ne' h
  have hmantissa : (1#1 ++ BitVec.ofNat 23 mantissa).toNat = mantissa := by
    rw [toNat_one_append, BitVec.toNat_ofNat]
    omega
  unfold UnpackedFloat.unpack
  dsimp only
  rw [unpackExponent_packComponents, ofBitVec_unpackSign, if_neg hlast, if_neg hfirst, hexponent]
  exact finite_congr (by rw [unpackMantissa_packComponents, hmantissa])

theorem unpack_subnormal (sign : Sign) {mantissa : Nat} (hpos : 0 < mantissa)
    (hbits : mantissa < 2 ^ 23) :
    UnpackedFloat.unpack Format.binary32
        (packComponents Format.binary32 sign 0#8 (BitVec.ofNat 23 mantissa)) =
      .finite sign mantissa (-149) hpos := by
  have hmantissa : (BitVec.ofNat 23 mantissa).toNat = mantissa := by
    rw [BitVec.toNat_ofNat, Nat.mod_eq_of_lt hbits]
  have hne : BitVec.ofNat 23 mantissa ≠ 0#23 := fun h ↦ by
    have h := congrArg BitVec.toNat h
    rw [hmantissa] at h
    exact hpos.ne' h
  have hread : unpackMantissa (packComponents Format.binary32 sign 0#8
      (BitVec.ofNat 23 mantissa)) ≠ 0#23 := by rwa [unpackMantissa_packComponents]
  unfold UnpackedFloat.unpack
  dsimp only
  rw [unpackExponent_packComponents, ofBitVec_unpackSign, if_neg (by decide), if_pos rfl,
    dif_neg hread]
  exact finite_congr (by rw [unpackMantissa_packComponents, hmantissa])

theorem pack_finite (sign : Sign) {mantissa : Nat} {exponent : Int} (hpos : 0 < mantissa) :
    UnpackedFloat.pack Format.binary32 (.finite sign mantissa exponent hpos) =
      if 255 ≤ exponent + 150 then packedInfinity Format.binary32 sign
      else if mantissa.log2 = 23 then
        packComponents Format.binary32 sign (BitVec.ofNat 8 (exponent + 150).toNat)
          (BitVec.ofNat 23 mantissa)
      else packComponents Format.binary32 sign 0#8 (BitVec.ofNat 23 mantissa) := by
  have hbias : Format.binary32.exponentBias = 127 := rfl
  have hbits : Format.binary32.mantissaBits = 24 := rfl
  have hbiased : (exponent + (127 : Nat) + (23 : Nat)).toNat = (exponent + 150).toNat := by omega
  unfold UnpackedFloat.pack
  dsimp only
  rw [hbias, hbits, hbiased]
  refine if_congr (by omega) rfl (if_congr (by omega) rfl rfl)

/-- What has 24 bits and an exponent that is not too large is read back as it was packed. -/
theorem unpack_pack_finite (sign : Sign) {mantissa : Nat} {exponent : Int} (hpos : 0 < mantissa)
    (hbits : mantissa < 2 ^ 24) (hleast : -149 ≤ exponent)
    (hfull : 2 ^ 23 ≤ mantissa ∨ exponent = -149) (hmost : exponent ≤ 104) :
    UnpackedFloat.unpack Format.binary32
        (UnpackedFloat.pack Format.binary32 (.finite sign mantissa exponent hpos)) =
      .finite sign mantissa exponent hpos := by
  rw [pack_finite, if_neg (by omega)]
  by_cases hnormal : 2 ^ 23 ≤ mantissa
  · have hlog : mantissa.log2 = 23 := (Nat.log2_eq_iff hpos.ne').mpr ⟨hnormal, hbits⟩
    have hbiased : ((exponent + 150).toNat : Int) - 150 = exponent := by omega
    rw [if_pos hlog, unpack_normal sign (by omega) (by omega) hpos hnormal hbits, hbiased]
  · have hlog : mantissa.log2 < 23 := (Nat.log2_lt hpos.ne').mpr (by omega)
    rw [if_neg hlog.ne, unpack_subnormal sign hpos (by omega),
      hfull.resolve_left hnormal]

/-! ### Lengths in units -/

/-- One more unit than any finite length can have. -/
def unitsBound : Nat := 2 ^ 23 * 2 ^ 254

/-- A length that is no number has none, and infinity has more than all others. -/
def unitsOf : UnpackedFloat → Int
  | .finite sign mantissa exponent _ => sign.apply (mantissa * 2 ^ (exponent + 149).toNat : Nat)
  | .infinity sign => sign.apply unitsBound
  | .zero _ | .notANumber => 0

def units (length : Length) : Int := unitsOf length.toModel.unpack

theorem Holds.unitsOf_eq {sign : Sign} {n : Nat} {float : UnpackedFloat} (h : Holds sign n float) :
    unitsOf float = sign.apply n := by
  cases h with
  | zero => cases sign <;> rfl
  | finite => rfl

theorem exponent_le_iff {mantissa : Nat} {exponent : Int} (hbits : mantissa < 2 ^ 24)
    (hfull : 2 ^ 23 ≤ mantissa ∨ exponent = -149) :
    exponent ≤ 104 ↔ mantissa * 2 ^ (exponent + 149).toNat < unitsBound := by
  constructor
  · intro h
    have hpow : 2 ^ (exponent + 149).toNat ≤ 2 ^ 253 := Nat.pow_le_pow_right Nat.two_pos (by omega)
    calc mantissa * 2 ^ (exponent + 149).toNat < 2 ^ 24 * 2 ^ (exponent + 149).toNat :=
          Nat.mul_lt_mul_of_pos_right hbits (Nat.two_pow_pos _)
      _ ≤ 2 ^ 24 * 2 ^ 253 := Nat.mul_le_mul_left _ hpow
      _ = unitsBound := by decide
  · intro h
    by_contra! hlarge
    have hmantissa : 2 ^ 23 ≤ mantissa := hfull.resolve_right (by omega)
    have hpow : 2 ^ 254 ≤ 2 ^ (exponent + 149).toNat := Nat.pow_le_pow_right Nat.two_pos (by omega)
    exact absurd (Nat.mul_le_mul hmantissa hpow) (Nat.not_le.mpr h)

/-- A float in 24 bits is packed as it is, or as infinity if it is too large. -/
theorem unpack_pack {sign : Sign} {n : Nat} {float : UnpackedFloat} (h : Holds sign n float) :
    (Float32.Model.pack float).unpack = if n < unitsBound then float else .infinity sign := by
  have hunpack : (Float32.Model.pack float).unpack =
      UnpackedFloat.unpack Format.binary32 (UnpackedFloat.pack Format.binary32 float) := rfl
  rw [hunpack]
  cases h with
  | zero => exact unpack_packedZero sign
  | @finite mantissa exponent hpos hbits hleast hfull =>
    by_cases hmost : exponent ≤ 104
    · rw [unpack_pack_finite sign hpos hbits hleast hfull hmost,
        if_pos ((exponent_le_iff hbits hfull).mp hmost)]
    · rw [pack_finite, if_pos (by omega), unpack_packedInfinity,
        if_neg (mt (exponent_le_iff hbits hfull).mpr hmost)]

/-- What stands for a length: no number, an infinity, or a float in 24 bits. -/
theorem unpack_cases (length : Length) :
    length.toModel.unpack = .notANumber ∨ (∃ sign, length.toModel.unpack = .infinity sign) ∨
      ∃ sign n, Holds sign n length.toModel.unpack ∧ n < unitsBound := by
  obtain ⟨bits, hbits⟩ : ∃ bits : BitVec Format.binary32.numBits,
      length.toModel.toBits.toBitVec = bits := ⟨_, rfl⟩
  have hunpack : length.toModel.unpack = UnpackedFloat.unpack Format.binary32 bits := by
    rw [← hbits]
    rfl
  have hbias : Format.binary32.exponentBias = 127 := rfl
  have hmantissa : (unpackMantissa bits).toNat < 2 ^ 23 := (unpackMantissa bits).isLt
  have hexponent : (unpackExponent bits).toNat < 2 ^ 8 := (unpackExponent bits).isLt
  rw [hunpack]
  unfold UnpackedFloat.unpack
  dsimp only
  rw [hbias]
  by_cases hlast : unpackExponent bits = -1#8
  · rw [if_pos hlast]
    by_cases hinfinite : unpackMantissa bits = 0#23
    · exact Or.inr (Or.inl ⟨_, if_pos hinfinite⟩)
    · exact Or.inl (if_neg hinfinite)
  rw [if_neg hlast]
  by_cases hfirst : unpackExponent bits = 0#8
  · have hleast : (unpackExponent bits).toNat = 0 := congrArg BitVec.toNat hfirst
    rw [if_pos hfirst]
    by_cases hzero : unpackMantissa bits = 0#23
    · rw [dif_pos hzero]
      exact Or.inr (Or.inr ⟨_, _, .zero, by decide⟩)
    · rw [dif_neg hzero]
      refine Or.inr (Or.inr ⟨_, _, .finite _ ?_ ?_ ?_, ?_⟩)
      · omega
      · omega
      · omega
      · rw [← exponent_le_iff] <;> omega
  · have hleast : (unpackExponent bits).toNat ≠ 0 := fun h ↦ hfirst (BitVec.eq_of_toNat_eq h)
    have hmost : (unpackExponent bits).toNat ≠ 255 := fun h ↦ hlast (BitVec.eq_of_toNat_eq h)
    have hfull := toNat_one_append (unpackMantissa bits)
    rw [if_neg hfirst]
    refine Or.inr (Or.inr ⟨_, _, .finite _ ?_ ?_ ?_, ?_⟩)
    · omega
    · omega
    · omega
    · rw [← exponent_le_iff] <;> omega

/-! ### Differences -/

theorem roundInt_natCast (n : Nat) : roundInt n = roundBits n := by
  cases n with
  | zero => rfl
  | succ n => exact Int.one_mul _

theorem roundInt_neg (n : Int) : roundInt (-n) = -roundInt n := by
  rw [roundInt, Int.sign_neg, Int.natAbs_neg, Int.neg_mul, roundInt]

/-- What a float holds needs no rounding. -/
theorem Holds.roundInt_eq {sign : Sign} {n : Nat} {float : UnpackedFloat}
    (h : Holds sign n float) : roundInt (sign.apply n) = sign.apply n := by
  have hbits : roundBits n = n := by
    cases h with
    | zero => rfl
    | finite hpos hbits => exact roundBits_eq_self hbits _
  cases sign with
  | negative =>
    calc roundInt (-n) = -roundBits n := by rw [roundInt_neg, roundInt_natCast]
      _ = -n := by rw [hbits]
  | positive =>
    calc roundInt n = roundBits n := roundInt_natCast n
      _ = n := by rw [hbits]

theorem apply_neg (sign : Sign) (n : Int) : (-sign).apply n = -sign.apply n := by
  cases sign with
  | negative => exact (Int.neg_neg n).symm
  | positive => rfl

theorem apply_zero (sign : Sign) : sign.apply 0 = 0 := by
  cases sign <;> rfl

theorem apply_mul (sign : Sign) (n m : Int) : sign.apply (n * m) = sign.apply n * m := by
  cases sign with
  | negative => exact (Int.neg_mul n m).symm
  | positive => rfl

/-- A mantissa in a smaller exponent, in units. -/
theorem apply_shiftLeft (sign : Sign) (mantissa : Nat) {exponent smaller : Int}
    (hleast : -149 ≤ smaller) (h : smaller ≤ exponent) :
    sign.apply (mantissa <<< (exponent - smaller).toNat : Nat) * 2 ^ (smaller + 149).toNat =
      sign.apply (mantissa * 2 ^ (exponent + 149).toNat : Nat) := by
  have hexponent : (exponent - smaller).toNat + (smaller + 149).toNat = (exponent + 149).toNat := by
    omega
  rw [← apply_mul, Nat.shiftLeft_eq, ← hexponent, Nat.pow_add, ← Nat.mul_assoc]
  push_cast
  rfl

/-- A difference is the exact one, rounded. -/
theorem exists_holds_sub {sign sign' : Sign} {n n' : Nat} {float float' : UnpackedFloat}
    (h : Holds sign n float) (h' : Holds sign' n' float') :
    ∃ sign'' n'', Holds sign'' n'' (UnpackedFloat.sub Format.binary32 float float') ∧
      sign''.apply n'' = roundInt (sign.apply n - sign'.apply n') := by
  cases h with
  | zero =>
    rw [Int.natCast_zero, apply_zero, Int.zero_sub, roundInt_neg, h'.roundInt_eq, ← apply_neg]
    cases h' with
    | zero => cases sign <;> cases sign' <;> exact ⟨_, 0, .zero, rfl⟩
    | finite hpos hbits hleast hfull => exact ⟨-sign', _, .finite hpos hbits hleast hfull, rfl⟩
  | @finite mantissa exponent hpos hbits hleast hfull =>
    cases h' with
    | zero =>
      have hholds : Holds sign _ (.finite sign mantissa exponent hpos) :=
        .finite hpos hbits hleast hfull
      rw [Int.natCast_zero, apply_zero, Int.sub_zero, hholds.roundInt_eq]
      exact ⟨sign, _, hholds, rfl⟩
    | @finite mantissa' exponent' hpos' hbits' hleast' hfull' =>
      have hsmaller : -149 ≤ min exponent exponent' := by omega
      rw [← apply_shiftLeft sign mantissa hsmaller (min_le_left ..),
        ← apply_shiftLeft sign' mantissa' hsmaller (min_le_right ..), ← Int.sub_mul]
      exact exists_holds_normalize _ hsmaller .positive

/-- A length that stands for a float in 24 bits. -/
def IsFinite (length : Length) : Prop :=
  ∃ sign n, Holds sign n length.toModel.unpack ∧ n < unitsBound

theorem isFinite_of_isFinite {length : Length} (h : length.isFinite = true) : IsFinite length := by
  have hmodel : length.toModel.unpack.isFinite = true := h
  rcases unpack_cases length with hnan | ⟨sign, hinfinite⟩ | hholds
  · rw [hnan] at hmodel
    contradiction
  · rw [hinfinite] at hmodel
    contradiction
  · exact hholds

theorem Holds.isNaN_eq {sign : Sign} {n : Nat} {float : UnpackedFloat} (h : Holds sign n float) :
    float.isNaN = false := by
  cases h <;> rfl

theorem isNaN_unpack_pack {sign : Sign} {n : Nat} {float : UnpackedFloat}
    (h : Holds sign n float) : (Float32.Model.pack float).unpack.isNaN = false := by
  rw [unpack_pack h]
  split_ifs
  · exact h.isNaN_eq
  · rfl

theorem unpack_sub (a b : Length) : (a - b).toModel.unpack = (Float32.Model.pack
    (UnpackedFloat.sub Format.binary32 a.toModel.unpack b.toModel.unpack)).unpack :=
  rfl

/-- The nearest number of units that a length can have. -/
def clamp (n : Int) : Int := max (-unitsBound) (min n unitsBound)

theorem clamp_mono {n m : Int} (h : n ≤ m) : clamp n ≤ clamp m := by
  unfold clamp
  omega

theorem unitsOf_unpack_pack {sign : Sign} {n : Nat} {float : UnpackedFloat}
    (h : Holds sign n float) :
    unitsOf (Float32.Model.pack float).unpack = clamp (sign.apply n) := by
  rw [unpack_pack h, clamp]
  split_ifs with hn
  · rw [h.unitsOf_eq]
    cases sign <;> dsimp only [Sign.apply] <;> omega
  · cases sign <;> dsimp only [unitsOf, Sign.apply] <;> omega

theorem units_sub {a b : Length} (ha : IsFinite a) (hb : IsFinite b) :
    units (a - b) = clamp (roundInt (units a - units b)) := by
  obtain ⟨sign, n, hholds, -⟩ := ha
  obtain ⟨sign', n', hholds', -⟩ := hb
  obtain ⟨sign'', n'', hdifference, hround⟩ := exists_holds_sub hholds hholds'
  rw [units, unpack_sub, unitsOf_unpack_pack hdifference, hround, units, units,
    hholds.unitsOf_eq, hholds'.unitsOf_eq]

/-- Taking away from an infinity leaves it. -/
theorem unpack_sub_of_infinity {a b : Length} {sign : Sign}
    (ha : a.toModel.unpack = .infinity sign) (hb : IsFinite b) :
    (a - b).toModel.unpack = .infinity sign := by
  obtain ⟨sign', n', hholds', -⟩ := hb
  have hsub : UnpackedFloat.sub Format.binary32 (.infinity sign) b.toModel.unpack =
      .infinity sign := by
    cases hunpack : b.toModel.unpack <;> rw [hunpack] at hholds' <;> cases hholds' <;> rfl
  rw [unpack_sub, ha, hsub]
  exact unpack_packedInfinity sign

/-! ### Order -/

theorem isNaN_eq (length : Length) : length.isNaN = length.toModel.unpack.isNaN := rfl

theorem unpack_of_isNaN {length : Length} (h : length.isNaN = true) :
    length.toModel.unpack = .notANumber := by
  rw [isNaN_eq] at h
  rcases unpack_cases length with hnan | ⟨sign, hinfinite⟩ | ⟨sign, n, hholds, -⟩
  · exact hnan
  · rw [hinfinite] at h
    contradiction
  · rw [hholds.isNaN_eq] at h
    contradiction

theorem isNaN_sub_of_isNaN {a : Length} (ha : a.isNaN = true) (b : Length) :
    (a - b).isNaN = true := by
  have hsub : UnpackedFloat.sub Format.binary32 .notANumber b.toModel.unpack = .notANumber := by
    cases b.toModel.unpack <;> rfl
  rw [isNaN_eq, unpack_sub, unpack_of_isNaN ha, hsub]
  decide

theorem cases_of_isNaN_eq_false {length : Length} (h : length.isNaN = false) :
    (∃ sign, length.toModel.unpack = .infinity sign) ∨ IsFinite length := by
  refine (unpack_cases length).resolve_left fun hnan ↦ ?_
  rw [isNaN_eq, hnan] at h
  contradiction

theorem isNaN_sub {a b : Length} (ha : a.isNaN = false) (hb : IsFinite b) :
    (a - b).isNaN = false := by
  rw [isNaN_eq]
  rcases cases_of_isNaN_eq_false ha with ⟨sign, hinfinite⟩ | ⟨sign, n, hholds, -⟩
  · rw [unpack_sub_of_infinity hinfinite hb]
    rfl
  · obtain ⟨sign', n', hholds', -⟩ := hb
    obtain ⟨sign'', n'', hdifference, -⟩ := exists_holds_sub hholds hholds'
    rw [unpack_sub, isNaN_unpack_pack hdifference]

theorem units_of_infinity {length : Length} {sign : Sign}
    (h : length.toModel.unpack = .infinity sign) :
    units length = unitsBound ∨ units length = -unitsBound := by
  rw [units, h]
  cases sign with
  | negative => exact Or.inr rfl
  | positive => exact Or.inl rfl

theorem units_of_isFinite {length : Length} (h : IsFinite length) :
    -unitsBound < units length ∧ units length < unitsBound := by
  obtain ⟨sign, n, hholds, hn⟩ := h
  rw [units, hholds.unitsOf_eq]
  cases sign <;> dsimp only [Sign.apply] <;> omega

theorem units_of_isNaN_eq_false {length : Length} (h : length.isNaN = false) :
    -unitsBound ≤ units length ∧ units length ≤ unitsBound := by
  rcases cases_of_isNaN_eq_false h with ⟨sign, hinfinite⟩ | hfinite
  · have h := units_of_infinity hinfinite
    omega
  · have h := units_of_isFinite hfinite
    omega

theorem units_sub_of_infinity {a b : Length} {sign : Sign}
    (ha : a.toModel.unpack = .infinity sign) (hb : IsFinite b) : units (a - b) = units a := by
  rw [units, unpack_sub_of_infinity ha hb, units, ha]

/-- Taking the same away from two lengths keeps their order. -/
theorem units_sub_mono {a b c : Length} (ha : a.isNaN = false) (hb : b.isNaN = false)
    (hc : IsFinite c) (h : units a ≤ units b) : units (a - c) ≤ units (b - c) := by
  have hleft := units_of_isNaN_eq_false (isNaN_sub ha hc)
  have hright := units_of_isNaN_eq_false (isNaN_sub hb hc)
  rcases cases_of_isNaN_eq_false ha with ⟨signA, hinfA⟩ | hfinA <;>
    rcases cases_of_isNaN_eq_false hb with ⟨signB, hinfB⟩ | hfinB
  · rwa [units_sub_of_infinity hinfA hc, units_sub_of_infinity hinfB hc]
  · have hA := units_of_infinity hinfA
    have hB := units_of_isFinite hfinB
    rw [units_sub_of_infinity hinfA hc]
    omega
  · have hA := units_of_isFinite hfinA
    have hB := units_of_infinity hinfB
    rw [units_sub_of_infinity hinfB hc]
    omega
  · rw [units_sub hfinA hc, units_sub hfinB hc]
    exact clamp_mono (roundInt_mono (Int.sub_le_sub_right h _))

/-- The larger exponent makes the larger float. -/
theorem mul_two_pow_lt {mantissa mantissa' : Nat} {exponent exponent' : Int}
    (hbits : mantissa < 2 ^ 24) (hleast : -149 ≤ exponent)
    (hfull' : 2 ^ 23 ≤ mantissa' ∨ exponent' = -149) (h : exponent < exponent') :
    mantissa * 2 ^ (exponent + 149).toNat < mantissa' * 2 ^ (exponent' + 149).toNat := by
  have hmantissa : 2 ^ 23 ≤ mantissa' := hfull'.resolve_right (by omega)
  have hpow : 2 ^ ((exponent + 149).toNat + 1) ≤ 2 ^ (exponent' + 149).toNat :=
    Nat.pow_le_pow_right Nat.two_pos (by omega)
  calc mantissa * 2 ^ (exponent + 149).toNat < 2 ^ 24 * 2 ^ (exponent + 149).toNat :=
        Nat.mul_lt_mul_of_pos_right hbits (Nat.two_pow_pos _)
    _ = 2 ^ 23 * 2 ^ ((exponent + 149).toNat + 1) := by
        rw [← Nat.pow_add, ← Nat.pow_add]
        congr 1
        omega
    _ ≤ mantissa' * 2 ^ (exponent' + 149).toNat := Nat.mul_le_mul hmantissa hpow

theorem compare_eq_lt_iff {mantissa mantissa' : Nat} {exponent exponent' : Int}
    (hbits : mantissa < 2 ^ 24) (hleast : -149 ≤ exponent)
    (hfull : 2 ^ 23 ≤ mantissa ∨ exponent = -149) (hbits' : mantissa' < 2 ^ 24)
    (hleast' : -149 ≤ exponent') (hfull' : 2 ^ 23 ≤ mantissa' ∨ exponent' = -149) :
    (compare exponent exponent').then (compare mantissa mantissa') = .lt ↔
      mantissa * 2 ^ (exponent + 149).toNat < mantissa' * 2 ^ (exponent' + 149).toNat := by
  rcases lt_trichotomy exponent exponent' with hlt | rfl | hgt
  · rw [Int.compare_eq_lt.mpr hlt]
    exact iff_of_true rfl (mul_two_pow_lt hbits hleast hfull' hlt)
  · rw [Int.compare_eq_eq.mpr rfl, Nat.mul_lt_mul_right (Nat.two_pow_pos _)]
    exact Nat.compare_eq_lt
  · rw [Int.compare_eq_gt.mpr hgt]
    exact iff_of_false (by simp) (Nat.lt_asymm (mul_two_pow_lt hbits' hleast' hfull hgt))

/-- The length is positive and finite, and kept in this mantissa and exponent. -/
def IsKeptIn (length : Length) (mantissa : Nat) (exponent : Int) : Prop :=
  ∃ hpos, length.toModel.unpack = .finite .positive mantissa exponent hpos

theorem IsKeptIn.bounds {length : Length} {mantissa : Nat} {exponent : Int}
    (h : IsKeptIn length mantissa exponent) :
    mantissa < 2 ^ 24 ∧ -149 ≤ exponent ∧ (2 ^ 23 ≤ mantissa ∨ exponent = -149) ∧
      exponent ≤ 104 := by
  obtain ⟨hpos, hunpack⟩ := h
  rcases unpack_cases length with hnan | ⟨sign, hinfinite⟩ | ⟨sign, n, hholds, hn⟩
  · rw [hunpack] at hnan
    contradiction
  · rw [hunpack] at hinfinite
    contradiction
  · rw [hunpack] at hholds
    cases hholds with
    | finite hpos hbits hleast hfull =>
      exact ⟨hbits, hleast, hfull, (exponent_le_iff hbits hfull).mpr hn⟩

theorem IsKeptIn.units_eq {length : Length} {mantissa : Nat} {exponent : Int}
    (h : IsKeptIn length mantissa exponent) :
    units length = (mantissa * 2 ^ (exponent + 149).toNat : Nat) := by
  obtain ⟨hpos, hunpack⟩ := h
  rw [units, hunpack]
  rfl

theorem lt_iff_lt_eq_true (a b : Length) :
    a < b ↔ a.toModel.unpack.lt b.toModel.unpack = true :=
  decide_eq_true_iff

theorem not_lt_of_isNaN {a : Length} (ha : a.isNaN = true) (b : Length) : ¬a < b := by
  have hlt : UnpackedFloat.lt .notANumber b.toModel.unpack = false := by
    cases b.toModel.unpack <;> rfl
  rw [lt_iff_lt_eq_true, unpack_of_isNaN ha, hlt]
  exact Bool.false_ne_true

/-- Below a positive finite length are the lengths with fewer units. -/
theorem lt_iff_units_lt {a bound : Length} {mantissa : Nat} {exponent : Int}
    (ha : a.isNaN = false) (hbound : IsKeptIn bound mantissa exponent) :
    a < bound ↔ units a < units bound := by
  obtain ⟨hbits, hleast, hfull, hmost⟩ := hbound.bounds
  have hfits := (exponent_le_iff hbits hfull).mp hmost
  rw [lt_iff_lt_eq_true, hbound.units_eq, UnpackedFloat.lt, beq_iff_eq]
  obtain ⟨hpos, hunpack⟩ := hbound
  have hpositive : 0 < mantissa * 2 ^ (exponent + 149).toNat :=
    Nat.mul_pos hpos (Nat.two_pow_pos _)
  rw [hunpack]
  rcases cases_of_isNaN_eq_false ha with ⟨sign, hinfinite⟩ | ⟨sign, n, hholds, -⟩
  · rw [units, hinfinite]
    cases sign with
    | negative => exact iff_of_true rfl (by dsimp only [unitsOf, Sign.apply]; omega)
    | positive =>
      have hgreater : UnpackedFloat.compare (.infinity .positive)
          (.finite .positive mantissa exponent hpos) = some .gt := rfl
      rw [hgreater]
      exact iff_of_false (by decide) (by dsimp only [unitsOf, Sign.apply]; omega)
  · rw [units, hholds.unitsOf_eq]
    generalize a.toModel.unpack = float at hholds
    cases hholds with
    | zero =>
      rw [Int.natCast_zero, apply_zero]
      exact iff_of_true (by cases sign <;> rfl) (Int.natCast_pos.mpr hpositive)
    | @finite mantissa' exponent' hpos' hbits' hleast' hfull' =>
      cases sign with
      | negative => exact iff_of_true rfl (by dsimp only [Sign.apply]; omega)
      | positive =>
        have hcompare : UnpackedFloat.compare (.finite .positive mantissa' exponent' hpos')
            (.finite .positive mantissa exponent hpos) =
              some ((compare exponent' exponent).then (compare mantissa' mantissa)) := rfl
        rw [hcompare, Option.some_inj, compare_eq_lt_iff hbits' hleast' hfull' hbits hleast hfull]
        exact Int.ofNat_lt.symm

/-! ### Room kept by one sum -/

/-- Two lengths with full mantissas and no other between them. -/
def Adjacent (below least : Length) : Prop :=
  ∃ mantissa exponent, 2 ^ 23 ≤ mantissa ∧ IsKeptIn below mantissa exponent ∧
    IsKeptIn least (mantissa + 1) exponent

theorem Adjacent.units_le {below least a : Length} (h : Adjacent below least)
    (ha : a.isNaN = false) (hlt : a < least) : units a ≤ units below := by
  obtain ⟨mantissa, exponent, hfull, hbelow, hleast⟩ := h
  rw [lt_iff_units_lt ha hleast, hleast.units_eq] at hlt
  obtain ⟨hbits, hmin, hfull', hmost⟩ := hleast.bounds
  have hfits := (exponent_le_iff hbits hfull').mp hmost
  rw [hbelow.units_eq]
  rcases cases_of_isNaN_eq_false ha with ⟨sign, hinfinite⟩ | ⟨sign, n, hholds, -⟩
  · have hunits := units_of_infinity hinfinite
    omega
  · rw [units, hholds.unitsOf_eq] at hlt ⊢
    cases sign with
    | negative =>
      exact (Int.neg_nonpos_of_nonneg (Int.natCast_nonneg n)).trans (Int.natCast_nonneg _)
    | positive =>
      generalize a.toModel.unpack = float at hholds
      cases hholds with
      | zero => exact Int.natCast_nonneg _
      | @finite mantissa' exponent' hpos' hbits' hmin' hfull'' =>
        have hlt : mantissa' * 2 ^ (exponent' + 149).toNat <
            (mantissa + 1) * 2 ^ (exponent + 149).toNat := Int.ofNat_lt.mp hlt
        refine Int.ofNat_le.mpr ?_
        rcases lt_trichotomy exponent' exponent with hless | rfl | hmore
        · exact (mul_two_pow_lt hbits' hmin' (Or.inl hfull) hless).le
        · exact Nat.mul_le_mul_right _
            (Nat.le_of_lt_succ ((Nat.mul_lt_mul_right (Nat.two_pow_pos _)).mp hlt))
        · exact absurd hlt (Nat.lt_asymm (mul_two_pow_lt hbits hmin hfull'' hmore))

section

variable {parts : List Length} (hparts : ∀ part ∈ parts, part.isFinite = true)

theorem isNaN_foldl_sub_of_isNaN {a : Length} (ha : a.isNaN = true) (parts : List Length) :
    (parts.foldl (· - ·) a).isNaN = true := by
  induction parts generalizing a with
  | nil => exact ha
  | cons part rest ih => exact ih (isNaN_sub_of_isNaN ha part)

include hparts

/-- Taking away one part after the other keeps the order of two lengths. -/
theorem units_foldl_sub_mono {a b : Length} (ha : a.isNaN = false) (hb : b.isNaN = false)
    (h : units a ≤ units b) :
    (parts.foldl (· - ·) a).isNaN = false ∧ (parts.foldl (· - ·) b).isNaN = false ∧
      units (parts.foldl (· - ·) a) ≤ units (parts.foldl (· - ·) b) := by
  induction parts generalizing a b with
  | nil => exact ⟨ha, hb, h⟩
  | cons part rest ih =>
    obtain ⟨hpart, hrest⟩ := List.forall_mem_cons.mp hparts
    have hpart := isFinite_of_isFinite hpart
    exact ih hrest (isNaN_sub ha hpart) (isNaN_sub hb hpart) (units_sub_mono ha hb hpart h)

/-- Whether a sum fits above `bottom` says the same of its parts one after the other, although
every subtraction rounds, once it does so for the least length that the sum fits under. -/
theorem fits_of_reserve {bottom reserve below least : Length} {mantissa : Nat} {exponent : Int}
    (hbottom : IsKeptIn bottom mantissa exponent) (hreserve : reserve.isFinite = true)
    (hadjacent : Adjacent below least) (hbelow : below - reserve < bottom)
    (hleast : ¬parts.foldl (· - ·) least < bottom) {y : Length} (hy : ¬y - reserve < bottom) :
    ¬parts.foldl (· - ·) y < bottom := by
  cases hnan : y.isNaN with
  | true => exact not_lt_of_isNaN (isNaN_foldl_sub_of_isNaN hnan parts) bottom
  | false =>
    have hleast_nan : least.isNaN = false := by
      obtain ⟨_, _, -, -, hpos, hunpack⟩ := hadjacent
      rw [isNaN_eq, hunpack]
      rfl
    have hbelow_nan : below.isNaN = false := by
      obtain ⟨_, _, -, ⟨hpos, hunpack⟩, -⟩ := hadjacent
      rw [isNaN_eq, hunpack]
      rfl
    have hreserve := isFinite_of_isFinite hreserve
    have hy_least : units least ≤ units y := by
      obtain ⟨_, _, -, -, hkept⟩ := id hadjacent
      by_contra! hlt
      have hunits := hadjacent.units_le hnan ((lt_iff_units_lt hnan hkept).mpr hlt)
      have hrest := units_sub_mono hnan hbelow_nan hreserve hunits
      rw [lt_iff_units_lt (isNaN_sub hbelow_nan hreserve) hbottom] at hbelow
      exact hy ((lt_iff_units_lt (isNaN_sub hnan hreserve) hbottom).mpr (hrest.trans_lt hbelow))
    obtain ⟨hleft, hright, hmono⟩ := units_foldl_sub_mono hparts hleast_nan hnan hy_least
    rw [lt_iff_units_lt hleft hbottom] at hleast
    rw [lt_iff_units_lt hright hbottom]
    omega

end

end StudyGuide.Length
