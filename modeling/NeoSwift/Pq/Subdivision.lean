import Mathlib.Tactic.Linarith
import Mathlib.Tactic.Positivity
import NeoSwift.Pq.Angle
import NeoSwift.Pq.RoundedText

/-!
# Subdivisions

`SubdivisionConverter` and `SubdivisionConverter2` there and back. `trunc` takes a number just
below an integer for that integer, the remainder of `std::fmod` does not: what is left of such a
number is counted on top of the integer, and it comes back larger by one of the parts.

## Main definitions

* `carry`: What `trunc` adds to the integer part.

## Theorems

* `trunc_add`, `fract_add`: The parts of an integer and a fraction.
* `subdivision_there_and_back`, `subdivision2_there_and_back`: What comes back.
* `subdivision_restored_iff`, `subdivision2_restored_iff`: When it is what was given.
-/

namespace NeoSwift.Pq

open CMathUtils

namespace CMathUtils

/-- One if the fraction is next to one. -/
def carry (e : ℚ) : ℕ := if e < 1 - truncEpsilon then 0 else 1

theorem carry_eq_zero_iff {e : ℚ} : carry e = 0 ↔ e < 1 - truncEpsilon := by
  unfold carry
  split <;> simp_all

theorem carry_le_one (e : ℚ) : carry e ≤ 1 := by
  unfold carry
  split <;> omega

theorem carry_of_le {e : ℚ} (h : e ≤ 9 / 10) : carry e = 0 := by
  rw [carry_eq_zero_iff]
  unfold truncEpsilon
  linarith

variable {n : ℕ} {e : ℚ}

theorem integerPart_add (h0 : 0 ≤ e) (h1 : e < 1) : integerPart (n + e) = n := by
  unfold integerPart
  rw [if_neg (by rw [not_lt]; positivity), Int.floor_eq_iff, Int.cast_natCast]
  constructor <;> linarith

theorem fract_add (h0 : 0 ≤ e) (h1 : e < 1) : fract (n + e) = e := by
  unfold fract
  rw [integerPart_add h0 h1, Int.cast_natCast, add_sub_cancel_left]

theorem trunc_add (h0 : 0 ≤ e) (h1 : e < 1) : trunc (n + e) = (n + carry e : ℕ) := by
  have heps : (0 : ℚ) < truncEpsilon ∧ truncEpsilon < 1 := by
    unfold truncEpsilon
    constructor <;> norm_num
  unfold trunc carry
  rw [if_neg (by rw [not_lt]; positivity), Int.floor_eq_iff]
  split
  · push_cast
    constructor <;> linarith
  · push_cast
    constructor <;> linarith

theorem fmod_one (x : ℚ) : fmod x 1 = fract x := by
  unfold fmod fract
  rw [div_one, one_mul]

end CMathUtils

namespace CAngleUnit

theorem subdivisionFromDefault_neg (factor x : ℚ) :
    subdivisionFromDefault factor (-x) = -subdivisionFromDefault factor x := by
  unfold subdivisionFromDefault
  rw [neg_div, trunc_neg, fmod_neg]
  push_cast
  ring

theorem subdivision2FromDefault_neg (factor x : ℚ) :
    subdivision2FromDefault factor (-x) = -subdivision2FromDefault factor x := by
  unfold subdivision2FromDefault
  dsimp only
  rw [neg_div, trunc_neg, fmod_neg, neg_mul, trunc_neg, fmod_neg]
  push_cast
  ring

variable {factor : ℚ} {n : ℕ} {e : ℚ}

theorem subdivisionFromDefault_add (hfactor : 0 < factor) (h0 : 0 ≤ e) (h1 : e < 1) :
    subdivisionFromDefault factor (factor * (n + e)) = (n + carry e : ℕ) + e * 60 / 100 := by
  unfold subdivisionFromDefault
  dsimp only
  rw [mul_div_cancel_left₀ _ hfactor.ne', trunc_add h0 h1, fmod_one, fract_add h0 h1,
    Int.cast_natCast]

theorem subdivision_there_and_back (hfactor : 0 < factor) (h0 : 0 ≤ e) (h1 : e < 1) :
    CTimeUnit.subdivisionToDefault factor (subdivisionFromDefault factor (factor * (n + e))) =
      factor * (n + e) + factor * carry e := by
  have hpart0 : 0 ≤ e * 60 / 100 := by positivity
  have hpart1 : e * 60 / 100 ≤ 9 / 10 := by linarith
  rw [subdivisionFromDefault_add hfactor h0 h1]
  unfold CTimeUnit.subdivisionToDefault
  rw [fract_add hpart0 (by linarith), trunc_add hpart0 (by linarith), carry_of_le hpart1]
  push_cast
  ring

/-- Three parts in two digits each: `m` sixtieths and `f` of one more. -/
theorem subdivision2FromDefault_add (hfactor : 0 < factor) {m : ℕ} {f : ℚ} (h0 : 0 ≤ e) (h1 : e < 1)
    (hparts : e * 60 = m + f) (hf0 : 0 ≤ f) (hf1 : f < 1) :
    subdivision2FromDefault factor (factor * (n + e)) =
      (n + carry e : ℕ) + ((m + carry f : ℕ) + f * 60 / 100) / 100 := by
  unfold subdivision2FromDefault
  dsimp only
  rw [mul_div_cancel_left₀ _ hfactor.ne', trunc_add h0 h1, fmod_one, fract_add h0 h1, hparts,
    trunc_add hf0 hf1, fmod_one, fract_add hf0 hf1]
  push_cast
  ring

/-- A number of two digits parts that are below sixty, or just reach it. -/
theorem subdivision2ToDefault_add {k m : ℕ} {f : ℚ} (hm : m ≤ 60) (hf0 : 0 ≤ f) (hf1 : f < 1) :
    CTimeUnit.subdivision2ToDefault factor (k + (m + f * 60 / 100) / 100) =
      factor * (k + (m + f) / 60) := by
  have hm' : (m : ℚ) ≤ 60 := by exact_mod_cast hm
  have hlow0 : 0 ≤ f * 60 / 100 := by positivity
  have hlow1 : f * 60 / 100 ≤ 9 / 10 := by linarith
  have hpart0 : 0 ≤ (m + f * 60 / 100) / 100 := by positivity
  have hpart1 : (m + f * 60 / 100) / 100 ≤ 9 / 10 := by linarith
  have hhundred : (m + f * 60 / 100) / 100 * 100 = m + f * 60 / 100 := by ring
  unfold CTimeUnit.subdivision2ToDefault
  dsimp only
  rw [fract_add hpart0 (by linarith), trunc_add hpart0 (by linarith), carry_of_le hpart1, hhundred,
    fract_add hlow0 (by linarith), trunc_add hlow0 (by linarith), carry_of_le hlow1]
  push_cast
  ring

/-- A number of two digits parts, which may reach the next one. -/
theorem subdivision2ToDefault_digits {k m : ℕ} {f : ℚ} (hf0 : 0 ≤ f) (hf1 : f < 1)
    (hlt : (m + f) / 100 < 1) :
    CTimeUnit.subdivision2ToDefault 1 (k + (m + f) / 100) =
      k + carry ((m + f) / 100) + (m + carry f) / 60 + f * 100 / 3600 := by
  have hpart0 : 0 ≤ (m + f) / 100 := by positivity
  have hhundred : (m + f) / 100 * 100 = m + f := by ring
  unfold CTimeUnit.subdivision2ToDefault
  dsimp only
  rw [fract_add hpart0 hlt, trunc_add hpart0 hlt, hhundred, fract_add hf0 hf1, trunc_add hf0 hf1]
  push_cast
  ring

theorem subdivision2_there_and_back (hfactor : 0 < factor) {m : ℕ} {f : ℚ} (h0 : 0 ≤ e)
    (h1 : e < 1) (hparts : e * 60 = m + f) (hf0 : 0 ≤ f) (hf1 : f < 1) :
    CTimeUnit.subdivision2ToDefault factor (subdivision2FromDefault factor (factor * (n + e))) =
      factor * (n + e) + factor * (carry e + carry f / 60) := by
  have hm : m < 60 := by
    have hlt : (m : ℚ) < 60 := by linarith
    exact_mod_cast hlt
  have hle := carry_le_one f
  rw [subdivision2FromDefault_add hfactor h0 h1 hparts hf0 hf1,
    subdivision2ToDefault_add (by omega) hf0 hf1]
  have he : e = (m + f) / 60 := by linarith
  rw [he]
  push_cast
  ring

/-- A number that is not negative as a multiple of the factor. -/
theorem exists_parts (hfactor : 0 < factor) {v : ℚ} (hv : 0 ≤ v) :
    ∃ (n : ℕ) (e : ℚ), v = factor * (n + e) ∧ 0 ≤ e ∧ e < 1 ∧ fract (v / factor) = e := by
  have hr : 0 ≤ v / factor := by positivity
  have hsplit := abs_eq_add_abs_fract (v / factor)
  have hfract : |fract (v / factor)| = fract (v / factor) := abs_of_nonneg (fract_nonneg hr)
  have hlt := Int.fract_lt_one |v / factor|
  rw [← abs_fract, hfract] at hlt
  rw [abs_of_nonneg hr, hfract] at hsplit
  refine ⟨⌊v / factor⌋.toNat, fract (v / factor), ?_, fract_nonneg hr, hlt, rfl⟩
  rw [← hsplit]
  field_simp

theorem subdivision_restored_iff (hfactor : 0 < factor) (v : ℚ) :
    CTimeUnit.subdivisionToDefault factor (subdivisionFromDefault factor v) = v ↔
      |fract (v / factor)| < 1 - truncEpsilon := by
  wlog hv : 0 ≤ v generalizing v
  · have hneg := this (-v) (by linarith)
    rwa [subdivisionFromDefault_neg, CTimeUnit.subdivisionToDefault_neg, neg_inj, neg_div,
      fract_neg, abs_neg] at hneg
  · rcases exists_parts hfactor hv with ⟨n, e, rfl, h0, h1, hfract⟩
    rw [subdivision_there_and_back hfactor h0 h1, hfract, abs_of_nonneg h0, add_eq_left,
      mul_eq_zero, or_iff_right hfactor.ne', Nat.cast_eq_zero, carry_eq_zero_iff]

theorem subdivision2_restored_iff (hfactor : 0 < factor) (v : ℚ) :
    CTimeUnit.subdivision2ToDefault factor (subdivision2FromDefault factor v) = v ↔
      |fract (v / factor)| < 1 - truncEpsilon ∧
        |fract (fract (v / factor) * 60)| < 1 - truncEpsilon := by
  wlog hv : 0 ≤ v generalizing v
  · have hneg := this (-v) (by linarith)
    rwa [subdivision2FromDefault_neg, CTimeUnit.subdivision2ToDefault_neg, neg_inj, neg_div,
      fract_neg, neg_mul, fract_neg, abs_neg, abs_neg] at hneg
  · rcases exists_parts hfactor hv with ⟨n, e, rfl, h0, h1, hfract⟩
    have hsixty : 0 ≤ e * 60 := by positivity
    rcases exists_parts one_pos hsixty with ⟨m, f, hparts, hf0, hf1, hf⟩
    rw [one_mul] at hparts
    rw [div_one] at hf
    rw [subdivision2_there_and_back hfactor h0 h1 hparts hf0 hf1, hfract, hf, abs_of_nonneg h0,
      abs_of_nonneg hf0, add_eq_left, mul_eq_zero, or_iff_right hfactor.ne', ← carry_eq_zero_iff,
      ← carry_eq_zero_iff]
    -- The sum of two parts that are not negative.
    constructor
    · intro hsum
      have hcarry : (0 : ℚ) ≤ carry e ∧ (0 : ℚ) ≤ carry f := ⟨by positivity, by positivity⟩
      have he : (carry e : ℚ) = 0 := by linarith
      have hf : (carry f : ℚ) = 0 := by linarith
      exact ⟨by exact_mod_cast he, by exact_mod_cast hf⟩
    · rintro ⟨he, hf⟩
      rw [he, hf, Nat.cast_zero, zero_div, add_zero]

end CAngleUnit

end NeoSwift.Pq
