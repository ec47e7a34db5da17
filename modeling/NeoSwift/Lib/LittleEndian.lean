import Mathlib.Algebra.Order.Ring.Nat
import Mathlib.Tactic.Common

/-!
# Little-Endian Integers

The bytes of a machine integer in memory order, least significant first. An
integer written with `k` bytes keeps its low `k` bytes, so reading it back
gives it modulo `256 ^ k`, and writing what was read gives the same bytes.

## Main definitions

* `toLittleEndian`: The `k` low bytes of a number.
* `ofLittleEndian`: The number a byte string stands for.

## Theorems

* `ofLittleEndian_toLittleEndian`: Reading back what was written.
* `toLittleEndian_ofLittleEndian`: Writing back what was read.
* `ofLittleEndian_lt`: A byte string bounds the number it stands for.
-/

namespace NeoSwift

/-- The `k` low bytes of `n`, least significant first. -/
def toLittleEndian : ℕ → ℕ → List UInt8
  | 0, _ => []
  | k + 1, n => UInt8.ofNat n :: toLittleEndian k (n / 256)

/-- The number a byte string stands for, least significant byte first. -/
def ofLittleEndian : List UInt8 → ℕ
  | [] => 0
  | b :: bs => b.toNat + 256 * ofLittleEndian bs

@[simp] theorem length_toLittleEndian (k n : ℕ) : (toLittleEndian k n).length = k := by
  induction k generalizing n with
  | zero => rfl
  | succ k ih => simp [toLittleEndian, ih]

theorem ofLittleEndian_toLittleEndian (k n : ℕ) :
    ofLittleEndian (toLittleEndian k n) = n % 256 ^ k := by
  induction k generalizing n with
  | zero => simp [toLittleEndian, ofLittleEndian, Nat.mod_one]
  | succ k ih =>
      have hbyte : (UInt8.ofNat n).toNat = n % 256 := UInt8.toNat_ofNat'
      rw [toLittleEndian, ofLittleEndian, ih, hbyte, pow_succ', Nat.mod_mul]

theorem ofLittleEndian_lt (bs : List UInt8) : ofLittleEndian bs < 256 ^ bs.length := by
  induction bs with
  | nil => decide
  | cons b bs ih =>
      have hb := b.toNat_lt
      rw [ofLittleEndian, List.length_cons]
      omega

theorem toLittleEndian_ofLittleEndian (bs : List UInt8) :
    toLittleEndian bs.length (ofLittleEndian bs) = bs := by
  induction bs with
  | nil => rfl
  | cons b bs ih =>
      have hb := b.toNat_lt
      have hdiv : (b.toNat + 256 * ofLittleEndian bs) / 256 = ofLittleEndian bs := by omega
      have hlow : UInt8.ofNat (b.toNat + 256 * ofLittleEndian bs) = b := by
        apply UInt8.toNat_inj.mp
        rw [UInt8.toNat_ofNat']
        omega
      rw [List.length_cons, ofLittleEndian, toLittleEndian, hdiv, ih, hlow]

/-- A number below `256 ^ k` survives being written with `k` bytes. -/
theorem ofLittleEndian_toLittleEndian_of_lt {k n : ℕ} (h : n < 256 ^ k) :
    ofLittleEndian (toLittleEndian k n) = n := by
  rw [ofLittleEndian_toLittleEndian, Nat.mod_eq_of_lt h]

end NeoSwift
