import Mathlib.Algebra.Order.ToIntervalMod
import NeoSwift.Pq.RoundedText

/-!
# Normalized angles

Degrees from a half turn to the other, or from zero to a full turn, in the functions of
`CMathUtils` and of `CAngle`. The remainder of a division has the sign of what is divided,
which one full turn more makes up for; the lower end of the half turns becomes the upper one.
So each function is the representative of an interval.

`CAngle` rounds what it normalizes, unless the number of digits is negative. What is rounded
is no longer the same angle.

## Main definitions

* `CMathUtils.round64`: Rounding to digits, with an integer of 64 bits.
* `CMathUtils.normalizeDegrees360`, `CMathUtils.normalizeDegrees180`: Degrees of a range.
* `CAngle.normalizeDegrees360`, `CAngle.normalizeDegrees180`: The same, and rounded.
* `IsNormalized`: An angle of a range, rounded to digits.

## Theorems

* `normalizeDegrees360_eq`, `normalizeDegrees180_eq`: Both are representatives.
* `normalizeDegrees360_spec`, `normalizeDegrees180_spec`: The same angle, in the range.
* `round64_eq_round`, `abs_round_sub_le`: Rounding, and how much it is off.
* `CAngle.normalizeDegrees180_isNormalized`, `CAngle.normalizeDegrees360_isNormalized`: What is
  normalized.
-/

namespace NeoSwift.Pq

namespace CMathUtils

/-- `qRound64`. Numbers outside of 64 bits wrap around. -/
def qRound64 (x : ℚ) : ℤ := (qRound x).bmod (2 ^ 64)

/-- `round` with the integer it has, for digits in front of the point too. -/
def round64 (value : ℚ) (digits : ℤ) : ℚ :=
  if epsilonZeroLimits (fract value) then value
  else
    let m := (10 : ℚ) ^ digits
    qRound64 (value * m) / m

def normalizeDegrees360 (degrees : ℚ) : ℚ :=
  let result := fmod degrees 360
  if result ≥ 0 then result else result + 360

def normalizeDegrees180 (degrees : ℚ) : ℚ :=
  let result := normalizeDegrees360 (degrees + 180) - 180
  -- -180->180
  if result ≤ -180 then 180 else result

end CMathUtils

open CMathUtils

namespace CAngle

def normalizeDegrees180 (degrees : ℚ) (roundDigits : ℤ) : ℚ :=
  let d := CMathUtils.normalizeDegrees360 (degrees + 180) - 180
  let d := if d ≤ -180 then 180 else d
  if roundDigits < 0 then d else CMathUtils.round64 d roundDigits

def normalizeDegrees360 (degrees : ℚ) (roundDigits : ℤ) : ℚ :=
  let d := CMathUtils.normalizeDegrees360 degrees
  if roundDigits < 0 then d else CMathUtils.round64 d roundDigits

end CAngle

/-! ## Representatives -/

namespace CMathUtils

theorem full_turn_pos : (0 : ℚ) < 360 := by norm_num

/-- The remainder is less than what is divided by, on the side of what is divided. -/
theorem fmod_mem {x y : ℚ} (hy : 0 < y) :
    (0 ≤ x → 0 ≤ fmod x y ∧ fmod x y < y) ∧ (x < 0 → -y < fmod x y ∧ fmod x y ≤ 0) := by
  have hsplit : x = y * (x / y) := by rw [mul_div_cancel₀ x hy.ne']
  constructor
  · intro hx
    have hquot : ¬ x / y < 0 := not_lt.mpr (div_nonneg hx hy.le)
    have hlow := mul_le_mul_of_nonneg_left (Int.floor_le (x / y)) hy.le
    have hhigh := mul_lt_mul_of_pos_left (Int.lt_floor_add_one (x / y)) hy
    unfold fmod integerPart
    rw [if_neg hquot]
    constructor <;> linarith
  · intro hx
    have hquot : x / y < 0 := div_neg_of_neg_of_pos hx hy
    have hlow := mul_le_mul_of_nonneg_left (Int.le_ceil (x / y)) hy.le
    have hhigh := mul_lt_mul_of_pos_left (Int.ceil_lt_add_one (x / y)) hy
    unfold fmod integerPart
    rw [if_pos hquot]
    constructor <;> linarith

theorem fmod_eq_sub_zsmul (x y : ℚ) : fmod x y = x - integerPart (x / y) • y := by
  rw [fmod, zsmul_eq_mul, mul_comm]

theorem normalizeDegrees360_eq (degrees : ℚ) :
    normalizeDegrees360 degrees = toIcoMod full_turn_pos 0 degrees := by
  rcases fmod_mem (x := degrees) full_turn_pos with ⟨hnonneg, hneg⟩
  symm
  rw [toIcoMod_eq_iff, zero_add, normalizeDegrees360]
  have hsplit := fmod_eq_sub_zsmul degrees 360
  split_ifs with hresult
  · have hlt : fmod degrees 360 < 360 := by
      rcases lt_or_ge degrees 0 with hdegrees | hdegrees
      · linarith [(hneg hdegrees).2]
      · exact (hnonneg hdegrees).2
    exact ⟨⟨hresult, hlt⟩, integerPart (degrees / 360), by linarith⟩
  · -- Only the remainder of what is negative is negative.
    have hdegrees : degrees < 0 := by
      by_contra hdegrees
      exact hresult (hnonneg (not_lt.mp hdegrees)).1
    refine ⟨⟨by linarith [(hneg hdegrees).1], by linarith⟩, integerPart (degrees / 360) - 1, ?_⟩
    rw [sub_zsmul, one_zsmul]
    linarith

theorem normalizeDegrees180_eq (degrees : ℚ) :
    normalizeDegrees180 degrees = toIocMod full_turn_pos (-180) degrees := by
  symm
  rw [toIocMod_eq_iff, normalizeDegrees180, normalizeDegrees360_eq]
  rcases toIcoMod_mem_Ico' full_turn_pos (degrees + 180) with ⟨hlow, hhigh⟩
  have hsplit := toIcoMod_add_toIcoDiv_zsmul full_turn_pos 0 (degrees + 180)
  split_ifs with hresult
  · -- The lower end is the upper one of the turn before.
    refine ⟨⟨by norm_num, by norm_num⟩, toIcoDiv full_turn_pos 0 (degrees + 180) - 1, ?_⟩
    rw [sub_zsmul, one_zsmul]
    linarith
  · exact ⟨⟨not_le.mp hresult, by linarith⟩, toIcoDiv full_turn_pos 0 (degrees + 180), by linarith⟩

theorem normalizeDegrees360_spec (degrees : ℚ) :
    normalizeDegrees360 degrees ∈ Set.Ico 0 360
      ∧ normalizeDegrees360 degrees ≡ degrees [PMOD 360] := by
  rw [normalizeDegrees360_eq]
  exact ⟨toIcoMod_mem_Ico' full_turn_pos degrees, AddCommGroup.modEq_iff_eq_add_zsmul.mpr
    ⟨_, (toIcoMod_add_toIcoDiv_zsmul full_turn_pos 0 degrees).symm⟩⟩

theorem normalizeDegrees180_spec (degrees : ℚ) :
    normalizeDegrees180 degrees ∈ Set.Ioc (-180) 180
      ∧ normalizeDegrees180 degrees ≡ degrees [PMOD 360] := by
  have hend : (-180 : ℚ) + 360 = 180 := by norm_num
  have hmem := toIocMod_mem_Ioc full_turn_pos (-180) degrees
  rw [hend] at hmem
  rw [normalizeDegrees180_eq]
  exact ⟨hmem, AddCommGroup.modEq_iff_eq_add_zsmul.mpr
    ⟨_, (toIocMod_add_toIocDiv_zsmul full_turn_pos (-180) degrees).symm⟩⟩

/-! ## Rounding -/

theorem abs_qRound_sub_le (x : ℚ) : |qRound x - x| ≤ 1 / 2 := by
  unfold qRound
  split_ifs
  · have hlow := Int.lt_floor_add_one (x + 1 / 2)
    have hhigh := Int.floor_le (x + 1 / 2)
    exact abs_le.mpr ⟨by linarith, by linarith⟩
  · have hlow := Int.lt_floor_add_one (-x + 1 / 2)
    have hhigh := Int.floor_le (-x + 1 / 2)
    push_cast
    exact abs_le.mpr ⟨by linarith, by linarith⟩

/-- Nothing wraps around far from the limits. -/
theorem qRound64_eq {x : ℚ} (h : |x| ≤ 2 ^ 62) : qRound64 x = qRound x := by
  rcases abs_le.mp h with ⟨hlow, hhigh⟩
  rcases abs_le.mp (abs_qRound_sub_le x) with ⟨hbelow, habove⟩
  have hle : (qRound x : ℚ) < ((2 ^ 63 : ℤ) : ℚ) := by push_cast; linarith
  have hge : ((-2 ^ 63 : ℤ) : ℚ) < qRound x := by push_cast; linarith
  have hle' := Int.cast_lt.mp hle
  have hge' := Int.cast_lt.mp hge
  exact Int.bmod_eq_of_le_mul_two (by omega) (by omega)

/-- Where the integer is not too large, it is the rounding of any number. -/
theorem round64_eq_round {value : ℚ} {digits : ℕ} (h : |value * 10 ^ digits| ≤ 2 ^ 62) :
    round64 value digits = round value digits := by
  unfold round64 round
  simp only [zpow_natCast]
  rw [qRound64_eq h]

theorem abs_round_sub_le (value : ℚ) (digits : ℕ) :
    |round value digits - value| ≤ 1 / (2 * 10 ^ digits) := by
  have hm : (0 : ℚ) < 10 ^ digits := by positivity
  unfold round
  split_ifs
  · rw [sub_self]
    positivity
  · -- Half of an integer is half of the last digit.
    have hoff := abs_qRound_sub_le (value * 10 ^ digits)
    have heq : (qRound (value * 10 ^ digits) : ℚ) / 10 ^ digits - value
        = (qRound (value * 10 ^ digits) - value * 10 ^ digits) / 10 ^ digits := by
      field_simp
    rw [heq, abs_div, abs_of_pos hm, div_le_div_iff₀ hm (by positivity)]
    nlinarith [hoff]

end CMathUtils

/-! ## Normalized angles -/

/-- The same angle in a range of degrees, as it is or rounded to digits, which is half of the last
    one off at most. -/
def IsNormalized (range : Set ℚ) (roundDigits : ℤ) (degrees result : ℚ) : Prop :=
  ∃ d ∈ range, d ≡ degrees [PMOD 360] ∧
    if roundDigits < 0 then result = d
    else result = CMathUtils.round d roundDigits.toNat ∧
      |result - d| ≤ 1 / (2 * 10 ^ roundDigits)

namespace CAngle

/-- Up to sixteen digits of a full turn fit. -/
theorem isNormalized_round {range : Set ℚ} {degrees d : ℚ} {roundDigits : ℤ} (hd : d ∈ range)
    (hmod : d ≡ degrees [PMOD 360]) (hturn : |d| ≤ 360) (hdigits : roundDigits ≤ 16) :
    IsNormalized range roundDigits degrees
      (if roundDigits < 0 then d else CMathUtils.round64 d roundDigits) := by
  refine ⟨d, hd, hmod, ?_⟩
  by_cases hround : roundDigits < 0
  · rw [if_pos hround, if_pos hround]
  · rcases Int.eq_ofNat_of_zero_le (not_lt.mp hround) with ⟨digits, rfl⟩
    have hm : (0 : ℚ) < 10 ^ digits := by positivity
    have hle : (10 : ℚ) ^ digits ≤ 10 ^ 16 := pow_le_pow_right₀ (by norm_num) (by omega)
    have hfits : |d * 10 ^ digits| ≤ 2 ^ 62 := by
      calc |d * 10 ^ digits| = |d| * 10 ^ digits := by rw [abs_mul, abs_of_pos hm]
        _ ≤ 360 * 10 ^ 16 := mul_le_mul hturn hle hm.le (by norm_num)
        _ ≤ 2 ^ 62 := by norm_num
    rw [round64_eq_round hfits]
    exact ⟨rfl, abs_round_sub_le d digits⟩

theorem normalizeDegrees360_isNormalized (degrees : ℚ) {roundDigits : ℤ}
    (hdigits : roundDigits ≤ 16) :
    IsNormalized (Set.Ico 0 360) roundDigits degrees
      (CAngle.normalizeDegrees360 degrees roundDigits) := by
  rcases CMathUtils.normalizeDegrees360_spec degrees with ⟨hmem, hmod⟩
  refine isNormalized_round hmem hmod ?_ hdigits
  exact abs_le.mpr ⟨by linarith [hmem.1], hmem.2.le⟩

/-- The function of `CMathUtils` for half turns, and rounded. -/
theorem normalizeDegrees180_eq (degrees : ℚ) (roundDigits : ℤ) :
    CAngle.normalizeDegrees180 degrees roundDigits
      = if roundDigits < 0 then CMathUtils.normalizeDegrees180 degrees
        else CMathUtils.round64 (CMathUtils.normalizeDegrees180 degrees) roundDigits := rfl

theorem normalizeDegrees180_isNormalized (degrees : ℚ) {roundDigits : ℤ}
    (hdigits : roundDigits ≤ 16) :
    IsNormalized (Set.Ioc (-180) 180) roundDigits degrees
      (CAngle.normalizeDegrees180 degrees roundDigits) := by
  rcases CMathUtils.normalizeDegrees180_spec degrees with ⟨hmem, hmod⟩
  rw [CAngle.normalizeDegrees180_eq]
  refine isNormalized_round hmem hmod ?_ hdigits
  exact abs_le.mpr ⟨by linarith [hmem.1], by linarith [hmem.2]⟩

end CAngle

end NeoSwift.Pq
