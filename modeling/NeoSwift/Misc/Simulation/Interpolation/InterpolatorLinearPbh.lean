import NeoSwift.Lib.ShortWay
import NeoSwift.Pq.NormalizedAngle

/-!
# Interpolated angles

`CInterpolatorLinearPbh::interpolateAngle` of
`misc/simulation/interpolation/interpolatorlinearpbh.cpp`: pitch, bank and heading between two
situations. The difference of the angles is corrected once, by a full turn, and a fraction of it
is added to the first angle.

In degrees that is the short way, as long as both angles are normalized to the same range. Sums
and differences are taken in the unit of the angle on the left. Minutes in the decimals of a
number do not add up, so sexagesimal angles lead elsewhere.

## Main definitions

* `CInterpolatorLinearPbh.interpolateAngle`: The angle between two others.
* `InOneRange`: Two angles that are normalized alike.
* `TakesShortWay`: Angles that go the short way from one to the other.

## Theorems

* `interpolateAngle_goesAlong`: They go the short way.
* `interpolated_and_normalized`: That, and what is normalized.
* `rounded_degrees_not_congruent`: Where either of them is not so.
-/

namespace NeoSwift.Misc

namespace Simulation

open Pq ShortWay

namespace CInterpolatorLinearPbh

def interpolateAngle (begin stop : CAngle) (timeFraction0to1 : ℚ) : CAngle :=
  -- determine the right direction (to left, to right) we interpolate towards to
  let deltaDeg := (stop - begin).valueIn .deg
  let deltaDeg :=
    if deltaDeg > 180 then deltaDeg - 360
    else if deltaDeg < -180 then deltaDeg + 360
    else deltaDeg
  -- make sure to not end up we extrapolation
  if timeFraction0to1 ≥ 1 then begin + CAngle.create deltaDeg .deg
  else if timeFraction0to1 ≤ 0 then begin
  else begin + CAngle.create (timeFraction0to1 * deltaDeg) .deg

end CInterpolatorLinearPbh

open CInterpolatorLinearPbh

/-- Degrees of half turns, or of a full turn. -/
def InOneRange (begin stop : ℚ) : Prop :=
  (begin ∈ Set.Icc (-180) 180 ∧ stop ∈ Set.Icc (-180) 180) ∨
    (begin ∈ Set.Icc 0 360 ∧ stop ∈ Set.Icc 0 360)

/-- From one angle along an arc of half a turn or less to the other one. The ends are reached
    where the fraction is at its ends, and a larger fraction is further along. -/
def TakesShortWay (begin stop : CAngle) (path : ℚ → CAngle) : Prop :=
  ∃ arc, GoesAlong 360 (begin.valueIn .deg) (stop.valueIn .deg) arc (fun f => (path f).valueIn .deg)
    ∧ (∀ f ≤ 0, path f = begin)
    ∧ (∀ f ≥ 1, (path f).valueIn .deg ≡ stop.valueIn .deg [PMOD 360])
    ∧ (0 ≤ arc → Monotone (fun f => (path f).valueIn .deg))
    ∧ (arc ≤ 0 → Antitone (fun f => (path f).valueIn .deg))

/-! ## The short way -/

/-- The correction by a full turn makes the difference short. -/
theorem shortArc_full_turn (d : ℚ) :
    shortArc 360 d = if d > 180 then d - 360 else if d < -180 then d + 360 else d := by
  have hhalf : (360 : ℚ) / 2 = 180 := by norm_num
  rw [shortArc, hhalf]

theorem InOneRange.abs_sub_le {begin stop : ℚ} (h : InOneRange begin stop) :
    |stop - begin| ≤ 360 := by
  rcases h with ⟨hbegin, hstop⟩ | ⟨hbegin, hstop⟩
  · exact abs_le.mpr ⟨by linarith [hbegin.2, hstop.1], by linarith [hbegin.1, hstop.2]⟩
  · exact abs_le.mpr ⟨by linarith [hbegin.2, hstop.1], by linarith [hbegin.1, hstop.2]⟩

theorem valueIn_interpolateAngle {begin stop : CAngle} (hbegin : begin.unit.IsLinear)
    (hstop : stop.unit.IsLinear) (f : ℚ) :
    (interpolateAngle begin stop f).valueIn .deg = begin.valueIn .deg
      + max 0 (min f 1) * shortArc 360 (stop.valueIn .deg - begin.valueIn .deg) := by
  have hadd : ∀ d : ℚ, (begin + CAngle.create d .deg).valueIn .deg = begin.valueIn .deg + d :=
    fun d => CAngle.valueIn_deg_add hbegin (.inl rfl)
  unfold interpolateAngle
  rw [CAngle.valueIn_deg_sub hstop hbegin, shortArc_full_turn]
  by_cases hover : f ≥ 1
  · rw [if_pos hover, hadd, min_eq_right hover, max_eq_right zero_le_one, one_mul]
  -- Below the end, the fraction is limited by zero only.
  · rw [if_neg hover]
    by_cases hunder : f ≤ 0
    · rw [if_pos hunder, max_eq_left (min_le_of_left_le hunder), zero_mul, add_zero]
    · rw [if_neg hunder, hadd, min_eq_left (not_le.mp hover).le, max_eq_right (not_le.mp hunder).le]

theorem interpolateAngle_goesAlong {begin stop : CAngle} (hbegin : begin.unit.IsLinear)
    (hstop : stop.unit.IsLinear) (h : InOneRange (begin.valueIn .deg) (stop.valueIn .deg)) :
    GoesAlong 360 (begin.valueIn .deg) (stop.valueIn .deg)
      (shortArc 360 (stop.valueIn .deg - begin.valueIn .deg))
      (fun f => (interpolateAngle begin stop f).valueIn .deg) :=
  goesAlong_shortArc h.abs_sub_le (valueIn_interpolateAngle hbegin hstop)

theorem interpolateAngle_takesShortWay {begin stop : CAngle} (hbegin : begin.unit.IsLinear)
    (hstop : stop.unit.IsLinear) (h : InOneRange (begin.valueIn .deg) (stop.valueIn .deg)) :
    TakesShortWay begin stop (interpolateAngle begin stop) := by
  have halong := interpolateAngle_goesAlong hbegin hstop h
  refine ⟨_, halong, ?_, fun f hf => halong.modEq_stop hf, halong.monotone, halong.antitone⟩
  intro f hf
  have hunder : ¬f ≥ 1 := not_le.mpr (lt_of_le_of_lt hf one_pos)
  unfold interpolateAngle
  rw [if_neg hunder, if_pos hf]

/-- Angles in degrees or radians go the short way. Degrees are normalized to the same angle, and
    then rounded where digits are asked for. -/
theorem interpolated_and_normalized {begin stop : CAngle} (hbegin : begin.unit.IsLinear)
    (hstop : stop.unit.IsLinear) (h : InOneRange (begin.valueIn .deg) (stop.valueIn .deg))
    (degrees : ℚ) {roundDigits : ℤ} (hdigits : roundDigits ≤ 16) :
    TakesShortWay begin stop (interpolateAngle begin stop)
      ∧ (CMathUtils.normalizeDegrees180 degrees ∈ Set.Ioc (-180) 180
        ∧ CMathUtils.normalizeDegrees180 degrees ≡ degrees [PMOD 360])
      ∧ (CMathUtils.normalizeDegrees360 degrees ∈ Set.Ico 0 360
        ∧ CMathUtils.normalizeDegrees360 degrees ≡ degrees [PMOD 360])
      ∧ IsNormalized (Set.Ioc (-180) 180) roundDigits degrees
        (CAngle.normalizeDegrees180 degrees roundDigits)
      ∧ IsNormalized (Set.Ico 0 360) roundDigits degrees
        (CAngle.normalizeDegrees360 degrees roundDigits) :=
  ⟨interpolateAngle_takesShortWay hbegin hstop h, CMathUtils.normalizeDegrees180_spec degrees,
    CMathUtils.normalizeDegrees360_spec degrees,
    CAngle.normalizeDegrees180_isNormalized degrees hdigits,
    CAngle.normalizeDegrees360_isNormalized degrees hdigits⟩

/-- From 170 degrees to -170 degrees, and one and a half turns. -/
theorem interpolated_and_normalized_at_seam :
    TakesShortWay ⟨170, .deg⟩ ⟨-170, .deg⟩ (interpolateAngle ⟨170, .deg⟩ ⟨-170, .deg⟩)
      ∧ (CMathUtils.normalizeDegrees180 540 ∈ Set.Ioc (-180) 180
        ∧ CMathUtils.normalizeDegrees180 540 ≡ 540 [PMOD 360])
      ∧ (CMathUtils.normalizeDegrees360 540 ∈ Set.Ico 0 360
        ∧ CMathUtils.normalizeDegrees360 540 ≡ 540 [PMOD 360])
      ∧ IsNormalized (Set.Ioc (-180) 180) 1 540 (CAngle.normalizeDegrees180 540 1)
      ∧ IsNormalized (Set.Ico 0 360) 1 540 (CAngle.normalizeDegrees360 540 1) :=
  interpolated_and_normalized (.inl rfl) (.inl rfl)
    (.inl ⟨by decide +kernel, by decide +kernel⟩) 540 (by decide)

/-- No number of full turns is less than one of them, but not zero. -/
theorem not_modEq_of_lt {a b : ℚ} (hne : a ≠ b) (hlt : |b - a| < 360) : ¬a ≡ b [PMOD 360] := by
  intro hmod
  rcases AddCommGroup.modEq_iff_zsmul'.mp hmod with ⟨m, hm⟩
  rw [zsmul_eq_mul] at hm
  have hzero : m ≠ 0 := by
    rintro rfl
    rw [Int.cast_zero, zero_mul, sub_eq_zero] at hm
    exact hne hm.symm
  have hone : (1 : ℚ) ≤ |(m : ℚ)| := by exact_mod_cast Int.one_le_abs hzero
  rw [hm, abs_mul, abs_of_pos (by norm_num : (0 : ℚ) < 360)] at hlt
  linarith

/-- Rounded to one digit, 10.26 degrees are 10.3 degrees. From forty minutes to one degree and
    twenty minutes, sexagesimal angles lead to two degrees. -/
theorem rounded_degrees_not_congruent :
    ¬(CAngle.normalizeDegrees180 (1026 / 100) 1 ≡ 1026 / 100 [PMOD 360])
      ∧ InOneRange (CAngle.valueIn ⟨4 / 10, .sexagesimalDegMin⟩ .deg)
        (CAngle.valueIn ⟨12 / 10, .sexagesimalDegMin⟩ .deg)
      ∧ ¬TakesShortWay ⟨4 / 10, .sexagesimalDegMin⟩ ⟨12 / 10, .sexagesimalDegMin⟩
        (interpolateAngle ⟨4 / 10, .sexagesimalDegMin⟩ ⟨12 / 10, .sexagesimalDegMin⟩) := by
  refine ⟨not_modEq_of_lt (by decide +kernel) (by decide +kernel), ?_, ?_⟩
  · exact .inl ⟨by decide +kernel, by decide +kernel⟩
  · rintro ⟨arc, -, -, hstop, -⟩
    exact not_modEq_of_lt (by decide +kernel) (by decide +kernel) (hstop 1 le_rfl)

end Simulation

end NeoSwift.Misc
