import NeoSwift.Pq.MeasurementUnit

/-!
# Rounded Texts

`CMeasurementUnit::makeRoundedQStringWithUnit` of the units that have no format of their own. A
value that is an integer up to the epsilon of doubles is not rounded before it is written, so a
negative one next to zero keeps its sign.

Two values have the same text if they are rounded to the same number and both are next to zero on
the negative side, or neither is.

Numbers are exact, and no number is too large to be rounded. The decimal point is a dot.

## Main definitions

* `CMathUtils.round`: Rounding to some digits.
* `CMeasurementUnit.makeRoundedQStringWithUnit`: The text of a value.
* `NegativeZero`: A negative number next to zero.

## Theorems

* `fixedText_round`: The sign and the digits of a text.
* `makeRoundedQStringWithUnit_eq_iff`: Which values have the same text.
-/

namespace NeoSwift.Pq

namespace CMathUtils

/-- `std::numeric_limits<double>::epsilon()`. -/
def limitsEpsilon : ℚ := 1 / 4503599627370496

def epsilonZeroLimits (v : ℚ) : Bool := |v| ≤ limitsEpsilon

def round (value : ℚ) (digits : ℕ) : ℚ :=
  if epsilonZeroLimits (fract value) then value
  else qRound (value * 10 ^ digits) / 10 ^ digits

end CMathUtils

open CMathUtils Numeral

namespace CMeasurementUnit

def makeRoundedQString (unit : CMeasurementUnit) (value : ℚ) : QString :=
  QString.numberFixed (CMathUtils.round value unit.displayDigits) unit.displayDigits

def makeRoundedQStringWithUnit (unit : CMeasurementUnit) (value : ℚ) : QString :=
  unit.makeRoundedQString value ++ unit.symbol

end CMeasurementUnit

/-- Next to zero, so that it is not rounded. -/
def NegativeZero (value : ℚ) : Prop := -limitsEpsilon ≤ value ∧ value < 0

instance (value : ℚ) : Decidable (NegativeZero value) := inferInstanceAs (Decidable (_ ∧ _))

/-! ## The text of a number -/

/-- The digits of a number with a point in front of the last ones. -/
def digitsText (d k : ℕ) : QString := natText 10 (k / 10 ^ d) ++ '.' :: lastDigits d k

theorem digitsText_injective {d k k' : ℕ} (h : digitsText d k = digitsText d k') : k = k' := by
  have hread := congrArg readMantissa h
  unfold digitsText at hread
  rw [readMantissa_digits, readMantissa_digits, Option.some.injEq] at hread
  have hpow : (10 : ℚ) ^ d ≠ 0 := by positivity
  exact_mod_cast (div_left_inj' hpow).mp hread

theorem digitsText_ne_minus (d k : ℕ) (s : QString) : digitsText d k ≠ '-' :: s := by
  unfold digitsText
  intro h
  cases htext : natText 10 (k / 10 ^ d) with
  | nil =>
    rw [htext] at h
    exact absurd (List.cons.inj h).1 (by decide)
  | cons c cs =>
    rw [htext] at h
    have hc : c ∈ natText 10 (k / 10 ^ d) := by
      rw [htext]
      exact List.mem_cons_self
    rcases mem_natText (by omega) (by omega) hc with ⟨n, hn, hdigit⟩
    rw [hdigit] at h
    exact (digitChar_ne_sign hn).1 (List.cons.inj h).1

theorem fixedText_eq {d k : ℕ} (hd : d ≠ 0) {x : ℚ} (h : roundHalfUp (|x| * 10 ^ d) = k) :
    fixedText d x = if x < 0 then '-' :: digitsText d k else digitsText d k := by
  unfold fixedText digitsText
  rw [h]
  dsimp only
  rw [if_neg hd]

/-! ## Rounding -/

theorem qRound_neg (x : ℚ) : qRound (-x) = -qRound x := by
  unfold qRound
  rcases lt_trichotomy x 0 with hneg | rfl | hpos
  · rw [if_pos (by linarith), if_neg (by linarith), neg_neg]
  · norm_num
  · rw [if_neg (by linarith), if_pos hpos.le, neg_neg]

/-- An integer with less than a half. -/
theorem qRound_add_small {n : ℕ} {e : ℚ} (h0 : 0 ≤ e) (h : e < 1 / 2) : qRound (n + e) = n := by
  unfold qRound
  rw [if_pos (by positivity), Int.floor_eq_iff]
  push_cast
  constructor <;> linarith

theorem abs_fract (v : ℚ) : |fract v| = Int.fract |v| := by
  have hnonneg {w : ℚ} (h : 0 ≤ w) : fract w = Int.fract w := by
    unfold fract integerPart
    rw [if_neg (not_lt.mpr h), Int.fract]
  rcases lt_or_ge v 0 with hneg | hpos
  · have hv : fract v = -fract (-v) := by rw [fract_neg, neg_neg]
    rw [hv, hnonneg (by linarith), abs_neg, abs_of_neg hneg, abs_of_nonneg (Int.fract_nonneg _)]
  · rw [hnonneg hpos, abs_of_nonneg hpos, abs_of_nonneg (Int.fract_nonneg _)]

/-- The integer part of the magnitude and what is left of it. -/
theorem abs_eq_add_abs_fract (v : ℚ) : |v| = (⌊|v|⌋.toNat : ℚ) + |fract v| := by
  have hcast : (⌊|v|⌋.toNat : ℚ) = ⌊|v|⌋ := by
    exact_mod_cast Int.toNat_of_nonneg (Int.floor_nonneg.mpr (abs_nonneg v))
  rw [hcast, abs_fract]
  exact (Int.floor_add_fract |v|).symm

theorem natAbs_qRound (x : ℚ) : (qRound x).natAbs = (qRound |x|).natAbs := by
  rcases abs_choice x with habs | habs
  · rw [habs]
  · rw [habs, qRound_neg, Int.natAbs_neg]

theorem qRound_neg_iff (x : ℚ) : qRound x < 0 ↔ x < 0 ∧ (qRound x).natAbs ≠ 0 := by
  constructor
  · intro h
    refine ⟨?_, by omega⟩
    by_contra hx
    have hnonneg := qRound_nonneg (show (-1 / 2 : ℚ) < x by linarith)
    omega
  · rintro ⟨hx, hne⟩
    have hnonneg := qRound_nonneg (show (-1 / 2 : ℚ) < -x by linarith)
    rw [qRound_neg] at hnonneg
    omega

section Text

variable {d : ℕ} {v w : ℚ}

/-- What is not rounded has the digits of the number it is next to. -/
theorem digits_of_epsilonZeroLimits (hpow : (10 : ℚ) ^ d ≤ 100)
    (h : epsilonZeroLimits (fract v) = true) :
    roundHalfUp (|v| * 10 ^ d) = (qRound (v * 10 ^ d)).natAbs ∧
      (qRound (v * 10 ^ d)).natAbs = ⌊|v|⌋.toNat * 10 ^ d := by
  have hsmall : |fract v| ≤ limitsEpsilon := of_decide_eq_true h
  have hpos : (0 : ℚ) < 10 ^ d := by positivity
  have hle : |fract v| * 10 ^ d ≤ limitsEpsilon * 100 :=
    mul_le_mul hsmall hpow hpos.le (by unfold limitsEpsilon; norm_num)
  have hlt : |fract v| * 10 ^ d < 1 / 2 := by
    unfold limitsEpsilon at hle
    linarith
  have hsplit : |v| * 10 ^ d = ((⌊|v|⌋.toNat * 10 ^ d : ℕ) : ℚ) + |fract v| * 10 ^ d := by
    conv_lhs => rw [abs_eq_add_abs_fract v]
    push_cast
    ring
  have hnonneg : 0 ≤ |fract v| * 10 ^ d := by positivity
  have habs : (qRound (v * 10 ^ d)).natAbs = ⌊|v|⌋.toNat * 10 ^ d := by
    rw [natAbs_qRound, abs_mul, abs_of_pos hpos, hsplit, qRound_add_small hnonneg hlt,
      Int.natAbs_natCast]
  rw [habs, hsplit, roundHalfUp_add_small hnonneg hlt]
  exact ⟨rfl, rfl⟩

/-- The sign and the digits of a rounded number. -/
theorem fixedText_round (hd : d ≠ 0) (hpow : (10 : ℚ) ^ d ≤ 100) (v : ℚ) :
    fixedText d (CMathUtils.round v d)
      = if qRound (v * 10 ^ d) < 0 ∨ NegativeZero v then
          '-' :: digitsText d (qRound (v * 10 ^ d)).natAbs
        else digitsText d (qRound (v * 10 ^ d)).natAbs := by
  have hpos : (0 : ℚ) < 10 ^ d := by positivity
  unfold CMathUtils.round
  -- Close to a whole number the source returns its magnitude with the sign of the value.
  by_cases hlimits : epsilonZeroLimits (fract v) = true
  · rw [if_pos hlimits]
    rcases digits_of_epsilonZeroLimits hpow hlimits with ⟨hround, hdigits⟩
    rw [fixedText_eq hd hround]
    refine if_congr ?_ rfl rfl
    rw [qRound_neg_iff, mul_neg_iff, hdigits]
    have hsmall : |fract v| ≤ limitsEpsilon := of_decide_eq_true hlimits
    constructor
    · intro hneg
      by_cases hzero : ⌊|v|⌋.toNat = 0
      · -- The magnitude is what is left of it.
        have habs := abs_eq_add_abs_fract v
        rw [hzero, Nat.cast_zero, abs_of_neg hneg] at habs
        exact Or.inr ⟨by linarith, hneg⟩
      · have hpow' : 0 < 10 ^ d := by positivity
        exact Or.inl ⟨Or.inr ⟨hneg, hpos⟩, (Nat.mul_pos (Nat.pos_of_ne_zero hzero) hpow').ne'⟩
    · rintro (⟨hsign, -⟩ | ⟨-, hneg⟩)
      · rcases hsign with ⟨-, hpow'⟩ | ⟨hneg, -⟩
        · exact absurd hpow' (not_lt.mpr hpos.le)
        · exact hneg
      · exact hneg
  · rw [if_neg hlimits]
    have hround : roundHalfUp (|(qRound (v * 10 ^ d) : ℚ) / 10 ^ d| * 10 ^ d)
        = (qRound (v * 10 ^ d)).natAbs := by
      rw [abs_div, abs_of_pos hpos, div_mul_cancel₀ _ hpos.ne', ← Int.cast_abs,
        ← Int.natCast_natAbs, Int.cast_natCast, roundHalfUp_natCast]
    rw [fixedText_eq hd hround]
    refine if_congr ?_ rfl rfl
    -- The value is not close to a whole number, so not to zero either.
    have hnot : ¬NegativeZero v := by
      rintro ⟨hle, hneg⟩
      refine hlimits (decide_eq_true ?_)
      have hself : |fract v| ≤ |v| := by
        linarith [abs_eq_add_abs_fract v]
      have habs : |v| ≤ limitsEpsilon := by
        rw [abs_of_neg hneg]
        linarith
      exact hself.trans habs
    rw [or_iff_left hnot, div_neg_iff]
    constructor
    · rintro (⟨-, hneg⟩ | ⟨hneg, -⟩)
      · exact absurd hneg (not_lt.mpr hpos.le)
      · exact_mod_cast hneg
    · intro hneg
      exact Or.inr ⟨by exact_mod_cast hneg, hpos⟩

theorem not_negativeZero_of_qRound (hpow : (10 : ℚ) ^ d ≤ 100)
    (h : (qRound (v * 10 ^ d)).natAbs ≠ 0) : ¬NegativeZero v := by
  rintro ⟨hle, hneg⟩
  have hpos : (0 : ℚ) < 10 ^ d := by positivity
  have hlt : |v| * 10 ^ d < 1 / 2 := by
    have hmul : |v| * 10 ^ d ≤ limitsEpsilon * 100 :=
      mul_le_mul (by rw [abs_of_neg hneg]; linarith) hpow hpos.le
        (by unfold limitsEpsilon; norm_num)
    unfold limitsEpsilon at hmul
    linarith
  have hzero := qRound_add_small (n := 0) (show 0 ≤ |v| * 10 ^ d by positivity) hlt
  rw [Nat.cast_zero, zero_add] at hzero
  rw [natAbs_qRound, abs_mul, abs_of_pos hpos, hzero] at h
  exact h rfl

/-- The same text is the same rounding, and zero with the same sign. -/
theorem fixedText_round_eq_iff (hd : d ≠ 0) (hpow : (10 : ℚ) ^ d ≤ 100) (v w : ℚ) :
    fixedText d (CMathUtils.round v d) = fixedText d (CMathUtils.round w d) ↔
      qRound (v * 10 ^ d) = qRound (w * 10 ^ d) ∧ (NegativeZero v ↔ NegativeZero w) := by
  have hv := @not_negativeZero_of_qRound d v hpow
  have hw := @not_negativeZero_of_qRound d w hpow
  rw [fixedText_round hd hpow, fixedText_round hd hpow]
  generalize qRound (v * 10 ^ d) = k at hv ⊢
  generalize qRound (w * 10 ^ d) = l at hw ⊢
  -- Both with a sign, one with a sign, or none.
  split_ifs with hsign hsign' hsign'
  · rw [List.cons_inj_right]
    refine ⟨fun h => ?_, fun h => by rw [h.1]⟩
    have habs := digitsText_injective h
    by_cases hk : k.natAbs = 0
    · have hk0 : k = 0 := by omega
      have hl0 : l = 0 := by omega
      subst hk0 hl0
      exact ⟨rfl, iff_of_true (hsign.resolve_left (lt_irrefl 0))
        (hsign'.resolve_left (lt_irrefl 0))⟩
    · have hneg := hsign.resolve_right (hv hk)
      have hneg' := hsign'.resolve_right (hw (habs ▸ hk))
      exact ⟨by omega, iff_of_false (hv hk) (hw (habs ▸ hk))⟩
  · refine iff_of_false (fun h => digitsText_ne_minus _ _ _ h.symm) ?_
    rintro ⟨rfl, hzero⟩
    rw [hzero] at hsign
    exact hsign' hsign
  · refine iff_of_false (digitsText_ne_minus _ _ _) ?_
    rintro ⟨rfl, hzero⟩
    rw [hzero] at hsign
    exact hsign hsign'
  · rw [not_or] at hsign hsign'
    refine ⟨fun h => ?_, fun h => by rw [h.1]⟩
    have habs := digitsText_injective h
    exact ⟨by omega, iff_of_false hsign.2 hsign'.2⟩

/-- Texts of values that are written with one or two digits. -/
theorem makeRoundedQStringWithUnit_eq_iff {unit : CMeasurementUnit} (hd : unit.displayDigits ≠ 0)
    (hpow : (10 : ℚ) ^ unit.displayDigits ≤ 100) (v w : ℚ) :
    unit.makeRoundedQStringWithUnit v = unit.makeRoundedQStringWithUnit w ↔
      qRound (v * 10 ^ unit.displayDigits) = qRound (w * 10 ^ unit.displayDigits) ∧
        (NegativeZero v ↔ NegativeZero w) := by
  unfold CMeasurementUnit.makeRoundedQStringWithUnit
  rw [List.append_left_inj]
  exact fixedText_round_eq_iff hd hpow v w

end Text

end NeoSwift.Pq
