import Mathlib.Data.Int.Order.Basic
import Mathlib.Data.Nat.Log
import Mathlib.Tactic.Common
import Mathlib.Tactic.Ring

/-!
# Significands

Integers rounded to a number of significant bits, to the nearest one and to the even one of two
that are as near. An integer is kept exactly if it has that few significant bits in front of its
zeros.

## Main definitions

* `roundQuotient`: The nearest quotient.
* `roundSignificand`, `roundInt`: An integer rounded to a number of bits.
* `Representable`: An integer with that number of bits.

## Theorems

* `roundSignificand_eq_self_iff`: A natural number that is kept.
* `roundInt_eq_self_iff`: An integer that is kept.
* `roundInt_roundInt`: What has been rounded is kept.
* `roundInt_neg`: The sign is kept.
-/

namespace NeoSwift.Significand

/-- The nearest quotient, the even one of two. -/
def roundQuotient (n d : ℕ) : ℕ :=
  let q := n / d
  let r := n % d
  if d < 2 * r ∨ (2 * r = d ∧ q % 2 = 1) then q + 1 else q

/-- A number rounded to `p` significant bits. -/
def roundSignificand (p n : ℕ) : ℕ :=
  if n < 2 ^ p then n
  else
    let d := 2 ^ (Nat.log2 n + 1 - p)
    roundQuotient n d * d

def roundInt (p : ℕ) (n : ℤ) : ℤ :=
  if n < 0 then -(roundSignificand p n.natAbs : ℤ) else roundSignificand p n.natAbs

/-- A number of `p` bits, and zeros. -/
def Representable (p n : ℕ) : Prop := ∃ m e, m < 2 ^ p ∧ n = m * 2 ^ e

/-- A quotient without a remainder is not rounded. -/
theorem roundQuotient_of_dvd {n d : ℕ} (hd : 0 < d) (h : d ∣ n) : roundQuotient n d = n / d := by
  have hr : n % d = 0 := Nat.mod_eq_zero_of_dvd h
  unfold roundQuotient
  rw [if_neg (by omega)]

/-- The bits that are dropped are zeros if there are few enough others. -/
theorem dvd_of_representable {p n : ℕ} (hn : 2 ^ p ≤ n) (h : Representable p n) :
    2 ^ (Nat.log2 n + 1 - p) ∣ n := by
  rcases h with ⟨m, e, hm, rfl⟩
  have hpos : m * 2 ^ e ≠ 0 := by
    omega
  have hlt : m * 2 ^ e < 2 ^ (p + e) := by
    rw [pow_add]
    exact Nat.mul_lt_mul_of_pos_right hm (Nat.two_pow_pos e)
  have hlog : Nat.log2 (m * 2 ^ e) < p + e := (Nat.log2_lt hpos).mpr hlt
  exact (Nat.pow_dvd_pow 2 (by omega)).trans (Nat.dvd_mul_left _ _)

/-- A number is kept if and only if it has few enough significant bits. -/
theorem roundSignificand_eq_self_iff {p n : ℕ} : roundSignificand p n = n ↔ Representable p n := by
  unfold roundSignificand
  by_cases hn : n < 2 ^ p
  · rw [if_pos hn]
    exact iff_of_true rfl ⟨n, 0, hn, by rw [pow_zero, mul_one]⟩
  rw [if_neg hn]
  dsimp only
  have hd : 0 < 2 ^ (Nat.log2 n + 1 - p) := Nat.two_pow_pos _
  constructor
  · intro h
    have hdvd : 2 ^ (Nat.log2 n + 1 - p) ∣ n := ⟨_, (Nat.mul_comm _ _).trans h |>.symm⟩
    refine ⟨n / 2 ^ (Nat.log2 n + 1 - p), Nat.log2 n + 1 - p, ?_, (Nat.div_mul_cancel hdvd).symm⟩
    -- The quotient has as many bits as the number has in front of those that are dropped.
    rw [Nat.div_lt_iff_lt_mul hd, ← pow_add]
    exact Nat.lt_log2_self.trans_le (Nat.pow_le_pow_right (by omega) (by omega))
  · intro h
    have hdvd := dvd_of_representable (not_lt.mp hn) h
    rw [roundQuotient_of_dvd hd hdvd, Nat.div_mul_cancel hdvd]

/-- What is rounded has no more bits. The quotient may be rounded up to a power of two. -/
theorem representable_roundSignificand {p : ℕ} (hp : 0 < p) (n : ℕ) :
    Representable p (roundSignificand p n) := by
  unfold roundSignificand
  by_cases hn : n < 2 ^ p
  · rw [if_pos hn]
    exact ⟨n, 0, hn, by rw [pow_zero, mul_one]⟩
  rw [if_neg hn]
  dsimp only
  generalize hk : Nat.log2 n + 1 - p = k
  have hquotient : n / 2 ^ k < 2 ^ p := by
    rw [Nat.div_lt_iff_lt_mul (Nat.two_pow_pos k), ← pow_add]
    exact Nat.lt_log2_self.trans_le (Nat.pow_le_pow_right (by omega) (by omega))
  have hle : roundQuotient n (2 ^ k) ≤ n / 2 ^ k + 1 := by
    unfold roundQuotient
    dsimp only
    split <;> omega
  rcases lt_or_ge (roundQuotient n (2 ^ k)) (2 ^ p) with hlt | hge
  · exact ⟨_, k, hlt, rfl⟩
  · refine ⟨1, p + k, Nat.one_lt_two_pow hp.ne', ?_⟩
    rw [show roundQuotient n (2 ^ k) = 2 ^ p by omega, pow_add, one_mul]

theorem roundInt_eq_self_iff {p : ℕ} {n : ℤ} : roundInt p n = n ↔ Representable p n.natAbs := by
  rw [← roundSignificand_eq_self_iff]
  unfold roundInt
  split <;> omega

theorem roundInt_roundInt {p : ℕ} (hp : 0 < p) (n : ℤ) :
    roundInt p (roundInt p n) = roundInt p n := by
  have hbits : (roundInt p n).natAbs = roundSignificand p n.natAbs := by
    unfold roundInt
    split <;> omega
  rw [roundInt_eq_self_iff, hbits]
  exact representable_roundSignificand hp _

theorem le_roundQuotient (n d : ℕ) : n / d ≤ roundQuotient n d := by
  unfold roundQuotient
  dsimp only
  split <;> omega

/-- With a bit to keep, nothing is rounded to zero. -/
theorem roundSignificand_pos {p n : ℕ} (hp : 0 < p) (hn : 0 < n) : 0 < roundSignificand p n := by
  unfold roundSignificand
  split
  · exact hn
  · have hle : 2 ^ (Nat.log2 n + 1 - p) ≤ n :=
      (Nat.pow_le_pow_right (by omega) (by omega)).trans (Nat.log2_self_le (by omega))
    have hquotient : 0 < n / 2 ^ (Nat.log2 n + 1 - p) := Nat.div_pos hle (Nat.two_pow_pos _)
    exact Nat.mul_pos (hquotient.trans_le (le_roundQuotient _ _)) (Nat.two_pow_pos _)

theorem roundInt_neg {p : ℕ} (hp : 0 < p) {n : ℤ} (hn : n < 0) : roundInt p n < 0 := by
  have hpos := roundSignificand_pos hp (show 0 < n.natAbs by omega)
  unfold roundInt
  omega

end NeoSwift.Significand
