import Mathlib.Tactic.Linarith
import Mathlib.Tactic.Positivity
import NeoSwift.Lib.Numeral

/-!
# Groups of Digits

A number with a fixed number of decimals, cut into groups of digits, and the rounding that is
done before it is cut. Half of the last digit is rounded up, so that adding a number goes past the
rounding, and taking from one turns it round.

## Theorems

* `lastDigits_add`: The last digits are those in front and those behind.
* `length_natText_le`: The length of a number.
* `le_roundHalfUp_iff`: What is rounded up.
* `roundHalfUp_add`, `roundHalfUp_sub`: Adding to a number, and taking from one.
-/

namespace NeoSwift.Numeral

/-! ## Digits -/

theorem lastDigits_add (a b n : ℕ) :
    lastDigits (a + b) n = lastDigits a (n / 10 ^ b) ++ lastDigits b n := by
  induction b generalizing n with
  | zero => rw [Nat.add_zero, pow_zero, Nat.div_one, lastDigits, List.append_nil]
  | succ b ih =>
      rw [Nat.add_succ, lastDigits, ih, lastDigits, List.append_assoc, Nat.div_div_eq_div_mul,
        ← pow_succ']

theorem length_natText_le {p n : ℕ} (hp : p ≠ 0) (hn : n < 10 ^ p) : (natText 10 n).length ≤ p := by
  induction p generalizing n with
  | zero => exact absurd rfl hp
  | succ p ih =>
      by_cases hsmall : n < 10
      · rw [natText, Nat.toDigits_of_lt_base hsmall, List.length_singleton]
        omega
      · have hp' : p ≠ 0 := by
          rintro rfl
          exact hsmall (by simpa using hn)
        have hdiv : n / 10 < 10 ^ p := by
          omega
        rw [natText, Nat.toDigits_of_base_le (by omega) (by omega), List.length_append]
        exact Nat.succ_le_succ (ih hp' hdiv)

/-! ## Rounding -/

/-- What is rounded to a number or to one above it. -/
theorem le_roundHalfUp_iff {k : ℕ} {x : ℚ} (hx : 0 ≤ x) : k ≤ roundHalfUp x ↔ k - 1 / 2 ≤ x := by
  have hfloor : 0 ≤ ⌊x + 1 / 2⌋ := Int.floor_nonneg.mpr (by linarith)
  rw [roundHalfUp, Int.le_toNat hfloor, Int.le_floor, Int.cast_natCast, sub_le_iff_le_add]

theorem roundHalfUp_lt_iff {k : ℕ} {x : ℚ} (hx : 0 ≤ x) : roundHalfUp x < k ↔ x < k - 1 / 2 := by
  rw [← not_le, le_roundHalfUp_iff hx, not_le]

theorem roundHalfUp_le {k : ℕ} {x : ℚ} (hx : 0 ≤ x) (h : x < k + 1 / 2) : roundHalfUp x ≤ k := by
  refine Nat.le_of_lt_succ ((roundHalfUp_lt_iff hx).mpr ?_)
  push_cast
  linarith

theorem abs_sub_roundHalfUp_le {x : ℚ} (hx : 0 ≤ x) : |x - roundHalfUp x| ≤ 1 / 2 := by
  have hlow := (le_roundHalfUp_iff hx).mp (le_refl (roundHalfUp x))
  have hhigh := (roundHalfUp_lt_iff hx).mp (Nat.lt_succ_self (roundHalfUp x))
  push_cast at hhigh
  rw [abs_le]
  constructor <;> linarith

/-- Numbers go past the rounding. -/
theorem roundHalfUp_add (m : ℕ) {x : ℚ} (hx : 0 ≤ x) : roundHalfUp (m + x) = m + roundHalfUp x := by
  have hfloor : 0 ≤ ⌊x + 1 / 2⌋ := Int.floor_nonneg.mpr (by linarith)
  rw [roundHalfUp, roundHalfUp, add_assoc, Int.floor_natCast_add]
  omega

/-- What is taken from a number is rounded as well, a half downwards. -/
theorem roundHalfUp_sub {m : ℕ} {x : ℚ} (hx : 0 ≤ x) (hle : x ≤ m) : ∃ t ≤ m,
    |(t : ℚ) - x| ≤ 1 / 2 ∧ (t = 0 ↔ x ≤ 1 / 2) ∧ roundHalfUp (m - x) = m - t := by
  have hrest : 0 ≤ m - x := by linarith
  have hround : roundHalfUp (m - x) ≤ m := roundHalfUp_le hrest (by linarith)
  have hnear := abs_sub_roundHalfUp_le hrest
  refine ⟨m - roundHalfUp (m - x), Nat.sub_le _ _, ?_, ?_, by omega⟩
  · rw [Nat.cast_sub hround]
    rwa [show (m : ℚ) - roundHalfUp (m - x) - x = m - x - roundHalfUp (m - x) by ring]
  · have hfull := le_roundHalfUp_iff (k := m) hrest
    rw [Nat.sub_eq_zero_iff_le, hfull]
    constructor <;> intro h <;> linarith

end NeoSwift.Numeral
