import Mathlib.Algebra.Order.Ring.Int

/-!
# Lengths as ints

`static_cast<int>` of a length. An int of 32 bits is the length modulo `2 ^ 32`, and negative in
the upper half.

## Main definitions

* `castLength`: The cast.

## Theorems

* `castLength_of_lt`: A length that is an int is itself.
* `castLength_le`, `castLength_lt`: What other lengths come to.
* `le_castLength_iff`: When that is still enough.
-/

namespace NeoSwift

/-- `static_cast<int>(length)`. -/
def castLength (length : ℕ) : ℤ := Int.bmod length (2 ^ 32)

theorem castLength_of_lt {length : ℕ} (h : length < 2 ^ 31) : castLength length = length :=
  Int.bmod_eq_of_le (by omega) (by omega)

theorem castLength_le (length : ℕ) : castLength length ≤ length := by
  unfold castLength Int.bmod
  dsimp only
  split <;> omega

theorem castLength_lt (length : ℕ) : castLength length < 2 ^ 31 := by
  unfold castLength Int.bmod
  dsimp only
  split <;> omega

/-- A positive number is at most the cast where it is at most the remainder and this is not in
    the upper half. -/
theorem le_castLength_iff {n : ℤ} (hn : 0 < n) (length : ℕ) :
    n ≤ castLength length ↔ n ≤ length % 2 ^ 32 ∧ (length : ℤ) % 2 ^ 32 < 2 ^ 31 := by
  unfold castLength Int.bmod
  dsimp only
  split <;> omega

end NeoSwift
