import Mathlib

/-!
# Functions in Two Pieces

Two differentiable functions that have the same value and the same derivative at a place are
one differentiable function: the first up to the place, the second behind it. Its derivative
has the same two pieces, so it is continuous where the derivatives of the functions are.

## Theorems

* `hasDerivAt_ite_le`: The derivative of a function in two pieces.
* `continuous_ite_le`: The derivative in two pieces is continuous.
-/

namespace NeoSwift

variable {𝕜 : Type*} [NontriviallyNormedField 𝕜] [LinearOrder 𝕜] [OrderClosedTopology 𝕜]
  {f g f' g' : 𝕜 → 𝕜} {b : 𝕜}

theorem hasDerivAt_ite_le (hf : ∀ x, HasDerivAt f (f' x) x) (hg : ∀ x, HasDerivAt g (g' x) x)
    (hb : f b = g b) (hb' : f' b = g' b) (x : 𝕜) :
    HasDerivAt (fun x => if x ≤ b then f x else g x) (if x ≤ b then f' x else g' x) x := by
  rcases lt_trichotomy x b with hx | rfl | hx
  · -- all of a neighbourhood is in the first piece
    rw [if_pos hx.le]
    refine (hf x).congr_of_eventuallyEq ?_
    filter_upwards [Iio_mem_nhds hx] with y hy
    exact if_pos hy.le
  · -- the derivative is that of one piece on either side
    rw [if_pos (le_refl x)]
    have hleft : HasDerivWithinAt (fun y => if y ≤ x then f y else g y) (f' x) (Set.Iic x) x :=
      (hf x).hasDerivWithinAt.congr (fun y hy => if_pos hy) (if_pos (le_refl x))
    have hright : HasDerivWithinAt (fun y => if y ≤ x then f y else g y) (f' x) (Set.Ici x) x := by
      rw [hb']
      refine (hg x).hasDerivWithinAt.congr (fun y hy => ?_) (by rw [if_pos (le_refl x), hb])
      rcases (Set.mem_Ici.mp hy).eq_or_lt with rfl | hlt
      · rw [if_pos (le_refl x), hb]
      · exact if_neg (not_le_of_gt hlt)
    have hboth := hleft.union hright
    rw [Set.Iic_union_Ici] at hboth
    exact hasDerivWithinAt_univ.mp hboth
  · rw [if_neg (not_le_of_gt hx)]
    refine (hg x).congr_of_eventuallyEq ?_
    filter_upwards [Ioi_mem_nhds hx] with y hy
    exact if_neg (not_le_of_gt hy)

theorem continuous_ite_le (hf : Continuous f') (hg : Continuous g') (hb : f' b = g' b) :
    Continuous fun x => if x ≤ b then f' x else g' x :=
  hf.if_le hg continuous_id continuous_const fun x (hx : x = b) => by rw [hx, hb]

end NeoSwift
