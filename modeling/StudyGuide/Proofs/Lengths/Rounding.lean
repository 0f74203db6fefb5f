import Mathlib.Algebra.Order.Ring.Nat
import Mathlib.Tactic.Ring
import StudyGuide.Length

/-!
The rounding of lengths. A finite length is a whole number of units of `2 ^ -149`, with 24
significant bits, and what is exact between two of them goes to the nearer one, to the even one
from the middle (`roundBits`). The model of binary floating-point numbers rounds by shifting bits
out on the right and keeping two of them in mind; `Represents` says what the two stand
for, and `holds_round` that the result is the rounded number of units.

Rounding keeps the order (`roundBits_mono`) and leaves what has 24 bits alone
(`roundBits_eq_self`).
-/

set_option autoImplicit false
set_option relaxedAutoImplicit false

namespace StudyGuide.Length

open Float.Model Float.Model.UnpackedFloat

/-! ### The nearest multiple -/

/-- How many times `unit` comes nearest to `n`; from the middle, the even number of times. -/
def nearest (n unit : Nat) : Nat :=
  if 2 * (n % unit) < unit then n / unit
  else if 2 * (n % unit) = unit then n / unit + n / unit % 2
  else n / unit + 1

theorem nearest_eq {n unit times rest : Nat} (hn : n = times * unit + rest) (hrest : rest < unit) :
    nearest n unit =
      if 2 * rest < unit then times else if 2 * rest = unit then times + times % 2
      else times + 1 := by
  have hpos : 0 < unit := Nat.zero_lt_of_lt hrest
  obtain ⟨hdiv, hmod⟩ : n / unit = times ∧ n % unit = rest := by
    rw [Nat.div_mod_unique hpos]
    exact ⟨by rw [hn, Nat.mul_comm, Nat.add_comm], hrest⟩
  rw [nearest, hdiv, hmod]

theorem div_le_nearest (n unit : Nat) : n / unit ≤ nearest n unit := by
  unfold nearest
  split_ifs <;> omega

theorem nearest_le_div_add_one (n unit : Nat) : nearest n unit ≤ n / unit + 1 := by
  unfold nearest
  split_ifs <;> omega

theorem nearest_mul (times : Nat) {unit : Nat} (hunit : 0 < unit) :
    nearest (times * unit) unit = times := by
  have hn : times * unit = times * unit + 0 := rfl
  rw [nearest_eq hn hunit, Nat.mul_zero, if_pos hunit]

theorem nearest_mul_mul (n : Nat) {unit scale : Nat} (hunit : 0 < unit) (hscale : 0 < scale) :
    nearest (n * scale) (unit * scale) = nearest n unit := by
  have hrest : n % unit < unit := Nat.mod_lt n hunit
  have hn : n * scale = n / unit * (unit * scale) + n % unit * scale := by
    rw [← Nat.mul_assoc, ← Nat.add_mul, Nat.div_add_mod']
  have hlt : 2 * (n % unit * scale) < unit * scale ↔ 2 * (n % unit) < unit := by
    rw [← Nat.mul_assoc]
    exact Nat.mul_lt_mul_right hscale
  have heq : 2 * (n % unit * scale) = unit * scale ↔ 2 * (n % unit) = unit := by
    rw [← Nat.mul_assoc]
    exact Nat.mul_left_inj hscale.ne'
  rw [nearest_eq hn (Nat.mul_lt_mul_of_pos_right hrest hscale), nearest]
  simp only [hlt, heq]

theorem nearest_mono {n m : Nat} (h : n ≤ m) (unit : Nat) : nearest n unit ≤ nearest m unit := by
  rcases Nat.lt_or_eq_of_le (Nat.div_le_div_right (c := unit) h) with hlt | heq
  · calc nearest n unit ≤ n / unit + 1 := nearest_le_div_add_one n unit
      _ ≤ m / unit := hlt
      _ ≤ nearest m unit := div_le_nearest m unit
  · -- Between the same two multiples, the one with the larger rest goes further.
    have hrest : n % unit ≤ m % unit := by
      have hn := Nat.div_add_mod n unit
      have hm := Nat.div_add_mod m unit
      rw [heq] at hn
      omega
    unfold nearest
    rw [heq]
    split_ifs <;> omega

/-! ### Twenty-four bits -/

/-- The exponent of the unit in which a number of units has 24 bits. -/
def bitsOver (n : Nat) : Nat := n.log2 - 23

/-- The nearest number of 24 significant bits. -/
def roundBits (n : Nat) : Nat := nearest n (2 ^ bitsOver n) * 2 ^ bitsOver n

theorem roundBits_le (n : Nat) : roundBits n ≤ 2 ^ (n.log2 + 1) := by
  have hsplit : 2 ^ (n.log2 + 1) = 2 ^ (n.log2 + 1 - bitsOver n) * 2 ^ bitsOver n := by
    rw [← Nat.pow_add]
    congr 1
    unfold bitsOver
    omega
  have hdiv : n / 2 ^ bitsOver n < 2 ^ (n.log2 + 1 - bitsOver n) := by
    rw [Nat.div_lt_iff_lt_mul (Nat.two_pow_pos _), ← hsplit]
    exact Nat.lt_log2_self
  rw [roundBits, hsplit]
  exact Nat.mul_le_mul_right _ ((nearest_le_div_add_one n _).trans hdiv)

theorem le_roundBits {n : Nat} (hn : n ≠ 0) : 2 ^ n.log2 ≤ roundBits n := by
  have hsplit : 2 ^ n.log2 = 2 ^ (n.log2 - bitsOver n) * 2 ^ bitsOver n := by
    rw [← Nat.pow_add]
    congr 1
    unfold bitsOver
    omega
  have hdiv : 2 ^ (n.log2 - bitsOver n) ≤ n / 2 ^ bitsOver n := by
    rw [Nat.le_div_iff_mul_le (Nat.two_pow_pos _), ← hsplit]
    exact Nat.log2_self_le hn
  rw [roundBits, hsplit]
  exact Nat.mul_le_mul_right _ (hdiv.trans (div_le_nearest n _))

theorem log2_mono {n m : Nat} (h : n ≤ m) : n.log2 ≤ m.log2 := by
  by_cases hn : n = 0
  · rw [hn, Nat.log2_zero]
    exact Nat.zero_le _
  · have hm : m ≠ 0 := fun hm ↦ hn (Nat.eq_zero_of_le_zero (hm ▸ h))
    exact (Nat.le_log2 hm).mpr ((Nat.log2_self_le hn).trans h)

/-- Numbers in order are in order when they are rounded. -/
theorem roundBits_mono {n m : Nat} (h : n ≤ m) : roundBits n ≤ roundBits m := by
  rcases Nat.lt_or_eq_of_le (log2_mono h) with hlt | heq
  · -- A power of two lies between them, and rounding does not go past it.
    have hm : m ≠ 0 := by
      rintro rfl
      rw [Nat.log2_zero] at hlt
      exact Nat.not_lt_zero _ hlt
    calc roundBits n ≤ 2 ^ (n.log2 + 1) := roundBits_le n
      _ ≤ 2 ^ m.log2 := Nat.pow_le_pow_right Nat.two_pos hlt
      _ ≤ roundBits m := le_roundBits hm
  · have hover : bitsOver n = bitsOver m := by rw [bitsOver, heq, bitsOver]
    rw [roundBits, roundBits, hover]
    exact Nat.mul_le_mul_right _ (nearest_mono h _)

theorem log2_mul_two_pow {n : Nat} (hn : n ≠ 0) (k : Nat) : (n * 2 ^ k).log2 = n.log2 + k := by
  have hne : n * 2 ^ k ≠ 0 := Nat.mul_ne_zero hn (Nat.two_pow_pos k).ne'
  rw [Nat.log2_eq_iff hne, Nat.pow_add, Nat.add_right_comm, Nat.pow_add]
  exact ⟨Nat.mul_le_mul_right _ (Nat.log2_self_le hn),
    Nat.mul_lt_mul_of_pos_right Nat.lt_log2_self (Nat.two_pow_pos k)⟩

/-- A number of 24 bits is not changed. -/
theorem roundBits_eq_self {mantissa : Nat} (h : mantissa < 2 ^ 24) (k : Nat) :
    roundBits (mantissa * 2 ^ k) = mantissa * 2 ^ k := by
  by_cases hzero : mantissa = 0
  · rw [hzero, Nat.zero_mul]
    rfl
  · have hlog : mantissa.log2 < 24 := (Nat.log2_lt hzero).mpr h
    have hover : bitsOver (mantissa * 2 ^ k) ≤ k := by
      rw [bitsOver, log2_mul_two_pow hzero]
      omega
    have hsplit : mantissa * 2 ^ k =
        mantissa * 2 ^ (k - bitsOver (mantissa * 2 ^ k)) * 2 ^ bitsOver (mantissa * 2 ^ k) := by
      rw [Nat.mul_assoc, ← Nat.pow_add, Nat.sub_add_cancel hover]
    rw [roundBits]
    conv_lhs => arg 1; arg 1; rw [hsplit]
    rw [nearest_mul _ (Nat.two_pow_pos _), ← hsplit]

/-! ### Numbers with a sign -/

def roundInt (n : Int) : Int := n.sign * roundBits n.natAbs

theorem roundInt_mul_two_pow (n : Int) (k : Nat) :
    roundInt (n * 2 ^ k) = n.sign * roundBits (n.natAbs * 2 ^ k) := by
  have hpow : (2 : Int) ^ k = (2 ^ k : Nat) := by push_cast; rfl
  have hsign : ((2 ^ k : Nat) : Int).sign = 1 :=
    Int.sign_eq_one_of_pos (Int.natCast_pos.mpr (Nat.two_pow_pos k))
  rw [roundInt, hpow, Int.sign_mul, hsign, Int.mul_one, Int.natAbs_mul, Int.natAbs_natCast]

theorem roundInt_mono {n m : Int} (h : n ≤ m) : roundInt n ≤ roundInt m := by
  unfold roundInt
  rcases lt_trichotomy n 0 with hn | rfl | hn
  · rcases lt_trichotomy m 0 with hm | rfl | hm
    · have hround : roundBits m.natAbs ≤ roundBits n.natAbs := roundBits_mono (by omega)
      rw [Int.sign_eq_neg_one_of_neg hn, Int.sign_eq_neg_one_of_neg hm]
      omega
    · rw [Int.sign_eq_neg_one_of_neg hn, Int.sign_zero]
      omega
    · rw [Int.sign_eq_neg_one_of_neg hn, Int.sign_eq_one_of_pos hm]
      omega
  · have hm : 0 ≤ m.sign := Int.sign_nonneg_iff.mpr h
    rw [Int.sign_zero, Int.zero_mul]
    exact Int.mul_nonneg hm (Int.natCast_nonneg _)
  · have hround : roundBits n.natAbs ≤ roundBits m.natAbs := roundBits_mono (by omega)
    rw [Int.sign_eq_one_of_pos hn, Int.sign_eq_one_of_pos (hn.trans_le h)]
    omega

/-! ### Shifting -/

/-- A mantissa and its two bits tell a multiple of `unit` and where the rest lies: the first bit
whether it reaches the middle, the second whether it is off both the middle and the multiple. -/
def Represents (em : ExtendedMantissa) (n unit : Nat) : Prop :=
  ∃ rest < unit, n = em.mantissa * unit + rest ∧ (em.roundBit = true ↔ unit ≤ 2 * rest) ∧
    (em.stickyBit = true ↔ rest ≠ 0 ∧ 2 * rest ≠ unit)

theorem represents_exact (n : Nat) : Represents (.ofMantissaAndAccuracy n .exact) n 1 :=
  ⟨0, Nat.one_pos, by simp [ExtendedMantissa.ofMantissaAndAccuracy],
    by simp [ExtendedMantissa.ofMantissaAndAccuracy],
    by simp [ExtendedMantissa.ofMantissaAndAccuracy]⟩

theorem Represents.shiftRightOne {em : ExtendedMantissa} {n unit : Nat}
    (h : Represents em n unit) : Represents em.shiftRightOne n (unit * 2) := by
  obtain ⟨rest, hrest, hn, hround, hsticky⟩ := h
  have hkept : (em.roundBit || em.stickyBit) = true ↔ rest ≠ 0 := by
    rw [Bool.or_eq_true, hround, hsticky]
    omega
  have hhalf : em.mantissa = 2 * (em.mantissa / 2) + em.mantissa % 2 :=
    (Nat.div_add_mod ..).symm
  have hmultiple : n = em.mantissa / 2 * (unit * 2) + (em.mantissa % 2 * unit + rest) := by
    rw [hn]
    conv_lhs => rw [hhalf]
    ring
  -- The bit that is shifted out is the new first bit.
  rcases Nat.mod_two_eq_zero_or_one em.mantissa with heven | hodd
  · rw [heven, Nat.zero_mul, Nat.zero_add] at hmultiple
    refine ⟨rest, by omega, hmultiple, ?_, ?_⟩
    · simp only [ExtendedMantissa.shiftRightOne, heven]
      simp
      omega
    · rw [ExtendedMantissa.shiftRightOne, hkept]
      omega
  · rw [hodd, Nat.one_mul] at hmultiple
    refine ⟨unit + rest, by omega, hmultiple, ?_, ?_⟩
    · simp only [ExtendedMantissa.shiftRightOne, hodd]
      simp
      omega
    · rw [ExtendedMantissa.shiftRightOne, hkept]
      omega

theorem Represents.shiftRight {em : ExtendedMantissa} {n unit : Nat} (h : Represents em n unit)
    (k : Nat) : Represents (em >>> k) n (unit * 2 ^ k) := by
  have hshift : em >>> k = k.repeat ExtendedMantissa.shiftRightOne em := rfl
  rw [hshift]
  clear hshift
  induction k with
  | zero => simpa [Nat.repeat] using h
  | succ k ih =>
    rw [Nat.repeat, Nat.pow_succ, ← Nat.mul_assoc]
    exact ih.shiftRightOne

theorem Represents.roundedMantissa {em : ExtendedMantissa} {n unit : Nat}
    (h : Represents em n unit) : em.roundedMantissa = nearest n unit := by
  obtain ⟨rest, hrest, hn, hround, hsticky⟩ := h
  rw [nearest_eq hn hrest]
  rcases em with ⟨mantissa, round, sticky⟩
  cases round with
  | false =>
    have hbelow : 2 * rest < unit := by simpa using hround
    rw [if_pos hbelow]
    cases sticky <;> rfl
  | true =>
    have hreached : ¬2 * rest < unit := by simpa using hround
    rw [if_neg hreached]
    cases sticky with
    | false =>
      have hmiddle : 2 * rest = unit := by
        have hnot : rest ≠ 0 → 2 * rest = unit := by simpa using hsticky
        omega
      rw [if_pos hmiddle]
      rfl
    | true =>
      have hbeyond : ¬2 * rest = unit := (hsticky.mp rfl).2
      rw [if_neg hbeyond]
      rfl

/-- The mantissa that is left of a number when bits are shifted out, rounded. -/
theorem roundedMantissa_shiftRight (n k : Nat) :
    (ExtendedMantissa.ofMantissaAndAccuracy n .exact >>> k).roundedMantissa =
      nearest n (2 ^ k) := by
  have h := ((represents_exact n).shiftRight k).roundedMantissa
  rwa [Nat.one_mul] at h

/-! ### Floats in twenty-four bits -/

/-- A float with no limit to its exponent that stands for `n` units: zero, or a mantissa of 24
bits, or of fewer in the least exponent. -/
inductive Holds (sign : Sign) : Nat → UnpackedFloat → Prop
  | zero : Holds sign 0 (.zero sign)
  | finite {mantissa : Nat} {exponent : Int} (hpos : 0 < mantissa) (hbits : mantissa < 2 ^ 24)
      (hleast : -149 ≤ exponent) (hfull : 2 ^ 23 ≤ mantissa ∨ exponent = -149) :
      Holds sign (mantissa * 2 ^ (exponent + 149).toNat) (.finite sign mantissa exponent hpos)

/-- How far a mantissa is shifted to have 24 bits, or the least exponent. -/
def shiftOf (mantissa : Nat) (exponent : Int) : Nat :=
  (max (mantissa.log2 + exponent - 23) (-149) - exponent).toNat

theorem targetExponent_eq (mantissa : Nat) (exponent : Int) :
    Format.binary32.targetExponent (totalExponent mantissa exponent) =
      max (mantissa.log2 + exponent - 23) (-149) := by
  have hbits : Format.binary32.mantissaBits = 24 := rfl
  have hmin : Format.binary32.minExponent = -149 := rfl
  rw [Format.targetExponent, totalExponent, hbits, hmin]
  omega

theorem shiftToTargetExponent_eq (mantissa : Nat) (exponent : Int) :
    shiftToTargetExponent Format.binary32 mantissa exponent .exact =
      (ExtendedMantissa.ofMantissaAndAccuracy mantissa .exact >>> shiftOf mantissa exponent,
        exponent + shiftOf mantissa exponent) := by
  rw [shiftToTargetExponent, targetExponent_eq]
  rfl

theorem holds_carry (sign : Sign) {mantissa : Nat} {exponent : Int} (hpos : 0 < mantissa)
    (hbits : mantissa ≤ 2 ^ 24) (hleast : -149 ≤ exponent)
    (hfull : 2 ^ 23 ≤ mantissa ∨ exponent = -149) :
    let shifted := shiftToTargetExponent Format.binary32 mantissa exponent .exact
    Holds sign (mantissa * 2 ^ (exponent + 149).toNat)
      (if h : shifted.1.mantissa = 0 then .zero sign
        else .finite sign shifted.1.mantissa shifted.2 (Nat.pos_of_ne_zero h)) := by
  intro shifted
  rcases Nat.lt_or_eq_of_le hbits with hlt | rfl
  · have hlog : mantissa.log2 < 24 := (Nat.log2_lt hpos.ne').mpr hlt
    have hshift : shiftOf mantissa exponent = 0 := by
      unfold shiftOf
      omega
    have hshifted : shifted = (⟨mantissa, false, false⟩, exponent) := by
      have h := shiftToTargetExponent_eq mantissa exponent
      rw [hshift, Int.natCast_zero, Int.add_zero] at h
      exact h
    rw [hshifted, dif_neg hpos.ne']
    exact .finite hpos hlt hleast hfull
  · have hshift : shiftOf (2 ^ 24) exponent = 1 := by
      unfold shiftOf
      rw [Nat.log2_two_pow]
      omega
    have hshifted : shifted = (⟨2 ^ 23, false, false⟩, exponent + 1) := by
      have h := shiftToTargetExponent_eq (2 ^ 24) exponent
      rw [hshift] at h
      exact h
    have hunits : 2 ^ 24 * 2 ^ (exponent + 149).toNat =
        2 ^ 23 * 2 ^ (exponent + 1 + 149).toNat := by
      rw [← Nat.pow_add, ← Nat.pow_add]
      congr 1
      omega
    rw [hshifted, hunits, dif_neg (Nat.two_pow_pos 23).ne']
    exact .finite _ (by decide) (by omega) (Or.inl (Nat.le_refl _))

theorem holds_roundWithAccuracy (sign : Sign) {mantissa : Nat} {exponent : Int}
    (hpos : 0 < mantissa) (hleast : -149 ≤ exponent)
    (hfine : exponent ≤ max (mantissa.log2 + exponent - 23) (-149)) :
    Holds sign (roundBits (mantissa * 2 ^ (exponent + 149).toNat))
      (roundWithAccuracy Format.binary32 sign mantissa exponent .exact) := by
  obtain ⟨k, hk⟩ : ∃ k, shiftOf mantissa exponent = k := ⟨_, rfl⟩
  have htarget : exponent + k = max (mantissa.log2 + exponent - 23) (-149) := by
    rw [← hk, shiftOf]
    omega
  have hpow : 2 ^ k ≤ mantissa := by
    rw [← Nat.le_log2 hpos.ne']
    omega
  have hupper : mantissa / 2 ^ k < 2 ^ 24 := by
    rw [Nat.div_lt_iff_lt_mul (Nat.two_pow_pos k), ← Nat.pow_add, ← Nat.log2_lt hpos.ne']
    omega
  have hlower : 2 ^ 23 ≤ mantissa / 2 ^ k ∨ exponent + k = -149 := by
    rw [Nat.le_div_iff_mul_le (Nat.two_pow_pos k), ← Nat.pow_add, ← Nat.le_log2 hpos.ne']
    omega
  have hnearest := div_le_nearest mantissa (2 ^ k)
  have hone : 0 < mantissa / 2 ^ k := Nat.div_pos hpow (Nat.two_pow_pos k)
  have hunits : roundBits (mantissa * 2 ^ (exponent + 149).toNat) =
      nearest mantissa (2 ^ k) * 2 ^ (exponent + k + 149).toNat := by
    have hover : bitsOver (mantissa * 2 ^ (exponent + 149).toNat) = k + (exponent + 149).toNat := by
      rw [bitsOver, log2_mul_two_pow hpos.ne']
      omega
    have hexponent : (exponent + k + 149).toNat = k + (exponent + 149).toNat := by omega
    rw [roundBits, hover, hexponent, Nat.pow_add,
      nearest_mul_mul mantissa (Nat.two_pow_pos k) (Nat.two_pow_pos _)]
  have hcarry := holds_carry sign (Nat.lt_of_lt_of_le hone hnearest)
    ((nearest_le_div_add_one mantissa (2 ^ k)).trans hupper)
    (by omega : -149 ≤ exponent + k) (hlower.imp_left fun h ↦ h.trans hnearest)
  unfold roundWithAccuracy
  rw [shiftToTargetExponent_eq, hk]
  dsimp only
  rw [roundedMantissa_shiftRight, hunits]
  exact hcarry

/-- A number that is not zero is rounded to 24 bits, whatever its own mantissa and exponent. -/
theorem holds_round (sign : Sign) {mantissa : Nat} {exponent : Int} (hpos : 0 < mantissa)
    (hleast : -149 ≤ exponent) :
    Holds sign (roundBits (mantissa * 2 ^ (exponent + 149).toNat))
      (UnpackedFloat.round Format.binary32 sign mantissa exponent) := by
  obtain ⟨target, htarget⟩ : ∃ target, max (mantissa.log2 + exponent - 23) (-149) = target :=
    ⟨_, rfl⟩
  obtain ⟨k, hk⟩ : ∃ k, (exponent - target).toNat = k := ⟨_, rfl⟩
  have hround : UnpackedFloat.round Format.binary32 sign mantissa exponent =
      roundWithAccuracy Format.binary32 sign (mantissa <<< k) (exponent - k) .exact := by
    unfold UnpackedFloat.round
    dsimp only
    rw [targetExponent_eq, htarget, decreaseExponent, hk]
  have hunits : mantissa * 2 ^ (exponent + 149).toNat =
      mantissa * 2 ^ k * 2 ^ (exponent - k + 149).toNat := by
    have hexponent : (exponent + 149).toNat = k + (exponent - k + 149).toNat := by omega
    rw [hexponent, Nat.pow_add, Nat.mul_assoc]
  rw [hround, hunits, Nat.shiftLeft_eq]
  refine holds_roundWithAccuracy sign (Nat.mul_pos hpos (Nat.two_pow_pos k)) (by omega) ?_
  rw [log2_mul_two_pow hpos.ne']
  omega

theorem exists_holds_normalize (mantissa : Int) {exponent : Int} (hleast : -149 ≤ exponent)
    (zeroSign : Sign) :
    ∃ sign n, Holds sign n (UnpackedFloat.normalize Format.binary32 mantissa exponent zeroSign) ∧
      sign.apply n = roundInt (mantissa * 2 ^ (exponent + 149).toNat) := by
  rw [roundInt_mul_two_pow]
  unfold UnpackedFloat.normalize
  rcases lt_trichotomy mantissa 0 with hneg | rfl | hpos
  · rw [Int.compare_eq_lt.mpr hneg]
    have habs : (-mantissa).toNat = mantissa.natAbs := by omega
    have hmagnitude : 0 < mantissa.natAbs := by omega
    have hholds := holds_round .negative hmagnitude hleast
    dsimp only
    rw [habs, Int.sign_eq_neg_one_of_neg hneg, Int.neg_one_mul]
    exact ⟨.negative, _, hholds, rfl⟩
  · refine ⟨zeroSign, 0, .zero, ?_⟩
    rw [Int.sign_zero, Int.zero_mul]
    cases zeroSign <;> rfl
  · rw [Int.compare_eq_gt.mpr hpos]
    have habs : mantissa.toNat = mantissa.natAbs := by omega
    have hmagnitude : 0 < mantissa.natAbs := by omega
    have hholds := holds_round .positive hmagnitude hleast
    dsimp only
    rw [habs, Int.sign_eq_one_of_pos hpos, Int.one_mul]
    exact ⟨.positive, _, hholds, rfl⟩

end StudyGuide.Length
