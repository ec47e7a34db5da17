import Mathlib.Algebra.Group.ModEq
import Mathlib.Algebra.Order.Field.Basic
import Mathlib.Tactic.Linarith

/-!
# The short way around a circle

Positions on a circle are numbers up to a period. Between two of them there are two arcs, and
the short one is at most half a period long. As long as the numbers are no more than a period
apart, one period more or less makes it out of their difference.

A path takes the short way when a fraction of the arc is added to where it starts. The
fraction is limited to the arc, so the path stays at its ends outside of it.

## Main definitions

* `shortArc`: A difference, with one period more or less.
* `GoesAlong`: A path along an arc that is not long.

## Theorems

* `abs_shortArc_le`, `add_shortArc_modEq`: It is short, and it leads there.
* `GoesAlong.modEq_stop`: Where a path ends.
* `GoesAlong.monotone`, `GoesAlong.antitone`: It goes one way.
-/

namespace NeoSwift.ShortWay

variable {K : Type*} [Field K] [LinearOrder K] [IsStrictOrderedRing K]

/-- The difference with a period more or less where it is more than half of one. -/
def shortArc (period d : K) : K :=
  if period / 2 < d then d - period
  else if d < -(period / 2) then d + period
  else d

/-- Along a signed arc of at most half a period, by the fraction between zero and one. -/
structure GoesAlong (period start stop arc : K) (path : K → K) : Prop where
  abs_le : |arc| ≤ period / 2
  modEq : start + arc ≡ stop [PMOD period]
  path_eq : ∀ f, path f = start + max 0 (min f 1) * arc

theorem abs_shortArc_le {period d : K} (h : |d| ≤ period) : |shortArc period d| ≤ period / 2 := by
  rcases abs_le.mp h with ⟨hlow, hhigh⟩
  unfold shortArc
  split_ifs with hover hunder
  -- Too far one way is not far the other way.
  · exact abs_le.mpr ⟨by linarith, by linarith⟩
  · exact abs_le.mpr ⟨by linarith, by linarith⟩
  · exact abs_le.mpr ⟨not_lt.mp hunder, not_lt.mp hover⟩

omit [IsStrictOrderedRing K] in
theorem shortArc_modEq (period d : K) : shortArc period d ≡ d [PMOD period] := by
  rw [AddCommGroup.modEq_iff_zsmul']
  unfold shortArc
  split_ifs
  · exact ⟨1, by rw [sub_sub_cancel, one_zsmul]⟩
  · exact ⟨-1, by rw [sub_add_cancel_left, neg_one_zsmul]⟩
  · exact ⟨0, by rw [sub_self, zero_zsmul]⟩

omit [IsStrictOrderedRing K] in
theorem add_shortArc_modEq (period start stop : K) :
    start + shortArc period (stop - start) ≡ stop [PMOD period] := by
  have h := (shortArc_modEq period (stop - start)).add_left start
  rwa [add_sub_cancel] at h

/-- Along the difference that is made short. -/
theorem goesAlong_shortArc {period start stop : K} {path : K → K} (h : |stop - start| ≤ period)
    (hpath : ∀ f, path f = start + max 0 (min f 1) * shortArc period (stop - start)) :
    GoesAlong period start stop (shortArc period (stop - start)) path where
  abs_le := abs_shortArc_le h
  modEq := add_shortArc_modEq period start stop
  path_eq := hpath

namespace GoesAlong

variable {period start stop arc : K} {path : K → K}

theorem modEq_stop (h : GoesAlong period start stop arc path) {f : K} (hf : 1 ≤ f) :
    path f ≡ stop [PMOD period] := by
  rw [h.path_eq f, min_eq_right hf, max_eq_right zero_le_one, one_mul]
  exact h.modEq

theorem monotone (h : GoesAlong period start stop arc path) (harc : 0 ≤ arc) : Monotone path := by
  intro f g hfg
  have hclamp : max 0 (min f 1) ≤ max 0 (min g 1) := max_le_max le_rfl (min_le_min hfg le_rfl)
  rw [h.path_eq f, h.path_eq g]
  exact add_le_add le_rfl (mul_le_mul_of_nonneg_right hclamp harc)

theorem antitone (h : GoesAlong period start stop arc path) (harc : arc ≤ 0) : Antitone path := by
  intro f g hfg
  have hclamp : max 0 (min f 1) ≤ max 0 (min g 1) := max_le_max le_rfl (min_le_min hfg le_rfl)
  rw [h.path_eq f, h.path_eq g]
  exact add_le_add le_rfl (mul_le_mul_of_nonpos_right hclamp harc)

end GoesAlong

end NeoSwift.ShortWay
