import Mathlib.Order.Lattice
import Mathlib.Order.Compare
import Mathlib.Data.Int.Order.Basic

/-!
# Comparison Functions

A comparison in the manner of C: a negative number, zero or a positive one for less, equal
and greater. Only the sign counts, and by it such a function is an `Ordering` valued one, of
which the library knows what it is to be transitive.

Comparing by one key and then by the next keeps all of that, and so does comparing by a key.

## Main definitions

* `ordering`: The sign of a comparison.
* `IsComparison`: A comparison that is oriented and transitive.
* `firstNonzero`: The first comparison, or the second where that finds no difference.
* `threeWay`: The comparison that belongs to a less-than.

## Theorems

* `IsComparison.firstNonzero`: Comparing by two comparisons.
* `IsComparison.comap`: Comparing by a key.
* `ordering_threeWay`, `IsComparison.threeWay`: Comparing in a linear order.
* `IsComparison.neg_iff`, `IsComparison.lt_trans`: What the sign obeys.
-/

namespace NeoSwift

/-- The sign of a comparison. -/
def ordering (c : ℤ) : Ordering := compare c 0

@[simp] theorem ordering_eq_lt {c : ℤ} : ordering c = .lt ↔ c < 0 := compare_lt_iff_lt

@[simp] theorem ordering_eq_eq {c : ℤ} : ordering c = .eq ↔ c = 0 := compare_eq_iff_eq

@[simp] theorem ordering_eq_gt {c : ℤ} : ordering c = .gt ↔ 0 < c := compare_gt_iff_gt

/-- A comparison that is oriented and transitive. -/
def IsComparison {α : Type*} (cmp : α → α → ℤ) : Prop :=
  Std.TransCmp fun a b => ordering (cmp a b)

/-- The first comparison, or the second where that finds no difference. -/
def firstNonzero (c d : ℤ) : ℤ := if c ≠ 0 then c else d

theorem ordering_firstNonzero (c d : ℤ) :
    ordering (firstNonzero c d) = (ordering c).then (ordering d) := by
  unfold firstNonzero
  by_cases hc : c = 0
  · subst hc
    rfl
  · rw [if_pos hc]
    cases h : ordering c with
    | lt => rfl
    | gt => rfl
    | eq => exact absurd (ordering_eq_eq.mp h) hc

theorem firstNonzero_eq_zero {c d : ℤ} : firstNonzero c d = 0 ↔ c = 0 ∧ d = 0 := by
  unfold firstNonzero
  split
  · next hc => exact ⟨fun h => absurd h hc, fun h => h.1⟩
  · next hc => exact ⟨fun h => ⟨not_not.mp hc, h⟩, fun h => h.2⟩

theorem firstNonzero_neg {c d : ℤ} : firstNonzero c d < 0 ↔ c < 0 ∨ c = 0 ∧ d < 0 := by
  unfold firstNonzero
  split <;> omega

theorem firstNonzero_assoc (c d e : ℤ) :
    firstNonzero (firstNonzero c d) e = firstNonzero c (firstNonzero d e) := by
  unfold firstNonzero
  split_ifs <;> rfl

/-- The comparison that belongs to a less-than. -/
def threeWay {α : Type*} (less : α → α → Bool) (a b : α) : ℤ :=
  if less a b then -1 else if less b a then 1 else 0

section

variable {α : Type*} [LinearOrder α] {less : α → α → Bool}

theorem ordering_threeWay (h : ∀ a b, less a b = true ↔ a < b) (a b : α) :
    ordering (threeWay less a b) = compare a b := by
  unfold threeWay
  rcases lt_trichotomy a b with hlt | heq | hgt
  · rw [if_pos ((h a b).mpr hlt), compare_lt_iff_lt.mpr hlt]
    rfl
  · rw [if_neg (mt (h a b).mp heq.not_lt), if_neg (mt (h b a).mp heq.not_gt),
      compare_eq_iff_eq.mpr heq]
    rfl
  · rw [if_neg (mt (h a b).mp hgt.not_gt), if_pos ((h b a).mpr hgt), compare_gt_iff_gt.mpr hgt]
    rfl

theorem threeWay_eq_zero (h : ∀ a b, less a b = true ↔ a < b) {a b : α} :
    threeWay less a b = 0 ↔ a = b := by
  rw [← ordering_eq_eq, ordering_threeWay h, compare_eq_iff_eq]

theorem threeWay_neg (h : ∀ a b, less a b = true ↔ a < b) {a b : α} :
    threeWay less a b < 0 ↔ a < b := by
  rw [← ordering_eq_lt, ordering_threeWay h, compare_lt_iff_lt]

end

namespace IsComparison

variable {α β : Type*} {cmp cmp' : α → α → ℤ} {a b c : α}

theorem zero : IsComparison fun (_ _ : α) => 0 :=
  { eq_swap := rfl, isLE_trans := fun _ _ => rfl }

theorem firstNonzero (h : IsComparison cmp) (h' : IsComparison cmp') :
    IsComparison fun a b => firstNonzero (cmp a b) (cmp' a b) := by
  unfold IsComparison at h h' ⊢
  have hlex : (fun a b => ordering (NeoSwift.firstNonzero (cmp a b) (cmp' a b)))
      = compareLex (fun a b => ordering (cmp a b)) (fun a b => ordering (cmp' a b)) := by
    funext a b
    exact ordering_firstNonzero _ _
  rw [hlex]
  infer_instance

theorem comap (h : IsComparison cmp) (f : β → α) : IsComparison fun a b => cmp (f a) (f b) :=
  { eq_swap := @fun a b => h.eq_swap (a := f a) (b := f b)
    isLE_trans := @fun a b c => h.isLE_trans (a := f a) (b := f b) (c := f c) }

theorem neg_iff (h : IsComparison cmp) : cmp a b < 0 ↔ 0 < cmp b a := by
  have hswap := h.eq_swap (a := a) (b := b)
  rw [← ordering_eq_lt, ← ordering_eq_gt, hswap]
  cases ordering (cmp b a) with
  | lt => exact iff_of_false (by decide) (by decide)
  | eq => exact iff_of_false (by decide) (by decide)
  | gt => exact iff_of_true rfl rfl

theorem self (h : IsComparison cmp) : cmp a a = 0 := by
  have hswap := h.neg_iff (a := a) (b := a)
  omega

theorem lt_trans (h : IsComparison cmp) (hab : cmp a b < 0) (hbc : cmp b c < 0) : cmp a c < 0 := by
  rw [← ordering_eq_lt] at hab hbc ⊢
  exact @Std.TransCmp.lt_trans α (fun a b => ordering (cmp a b)) h a b c hab hbc

/-- In a linear order, the comparison that belongs to its less-than. -/
theorem threeWay [LinearOrder α] {less : α → α → Bool} (h : ∀ a b, less a b = true ↔ a < b) :
    IsComparison (threeWay less) := by
  unfold IsComparison
  simp only [ordering_threeWay h]
  infer_instance

end IsComparison

end NeoSwift
