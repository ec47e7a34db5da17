import Mathlib
import NeoSwift.Lib.Piecewise
import NeoSwift.Lib.Tridiagonal

/-!
# Cubic Splines

The derivatives of a natural cubic spline through some knots are the solution of a
tridiagonal system, with a row for each knot. Its entries are reciprocals of the distances
between neighbouring knots, so the rows are there when no two neighbours are at the same
place; and when the knots go upwards the diagonal entries are twice the sum of the others.

## Main definitions

* `Knot`: A place and the value there.
* `getDerivatives`: The derivatives at the knots.
* `evalSplineInterval`: The value between two knots.
* `splineValue`: The intervals one after the other.
* `SmoothBetween`, `SmoothThrough`: Curves with the values and the speeds of knots.

## Theorems

* `exists_getDerivatives`: There are derivatives for knots that go upwards.
* `hasDerivAt_interval`: The speed between two knots.
* `exists_smoothThrough`: The intervals are one curve.
* `natural_spline`: What the derivatives are, and what follows of it.
-/

namespace NeoSwift.Misc

namespace Simulation

/-- `x[i]` and `y[i]`. -/
structure Knot where
  x : ℚ
  y : ℚ

/-! ## The rows of the system -/

def firstRow (p q : Knot) : Option (TridiagonalRow ℚ) := do
  let diag ← checkedDiv 2 (q.x - p.x)
  let super ← checkedDiv 1 (q.x - p.x)
  let rhs ← checkedDiv (3 * (q.y - p.y)) ((q.x - p.x) * (q.x - p.x))
  return { sub := 0, diag, super, rhs }

def lastRow (p q : Knot) : Option (TridiagonalRow ℚ) := do
  let sub ← checkedDiv 1 (q.x - p.x)
  let diag ← checkedDiv 2 (q.x - p.x)
  let rhs ← checkedDiv (3 * (q.y - p.y)) ((q.x - p.x) * (q.x - p.x))
  return { sub, diag, super := 0, rhs }

def innerRow (p q r : Knot) : Option (TridiagonalRow ℚ) := do
  let sub ← checkedDiv 1 (q.x - p.x)
  let diag₁ ← checkedDiv 2 (q.x - p.x)
  let diag₂ ← checkedDiv 2 (r.x - q.x)
  let super ← checkedDiv 1 (r.x - q.x)
  let rhs₁ ← checkedDiv (3 * (q.y - p.y)) ((q.x - p.x) * (q.x - p.x))
  let rhs₂ ← checkedDiv (3 * (r.y - q.y)) ((r.x - q.x) * (r.x - q.x))
  return { sub, diag := diag₁ + diag₂, super, rhs := rhs₁ + rhs₂ }

/-- The rows of the knots behind one. -/
def rowsBehind (p : Knot) : List Knot → Option (List (TridiagonalRow ℚ))
  | [] => some []
  | [q] => do
      let row ← lastRow p q
      return [row]
  | q :: r :: knots => do
      let row ← innerRow p q r
      let rows ← rowsBehind q (r :: knots)
      return row :: rows

/-- There are at least two knots. -/
def getDerivatives : List Knot → Option (List ℚ)
  | p :: q :: knots => do
      let row ← firstRow p q
      let rows ← rowsBehind p (q :: knots)
      solveTridiagonal (row :: rows)
  | _ => none

/-- Between the knots at `x₀` and `x₁`, with derivatives `k₀` and `k₁`. -/
def evalSplineInterval (x x₀ x₁ y₀ y₁ k₀ k₁ : ℚ) : Option ℚ := do
  let t ← checkedDiv (x - x₀) (x₁ - x₀)
  let a := k₀ * (x₁ - x₀) - (y₁ - y₀)
  let b := -k₁ * (x₁ - x₀) + (y₁ - y₀)
  return (1 - t) * y₀ + t * y₁ + t * (1 - t) * (a * (1 - t) + b * t)

section Rows

variable {p q r : Knot}

theorem exists_firstRow (h : p.x < q.x) : ∃ row, firstRow p q = some row ∧ row.Dominant := by
  have hpos : 0 < q.x - p.x := sub_pos.mpr h
  simp only [firstRow, checkedDiv_of_ne hpos.ne', checkedDiv_of_ne (mul_pos hpos hpos).ne']
  refine ⟨_, rfl, ?_⟩
  change |(0 : ℚ)| + |1 / (q.x - p.x)| < |2 / (q.x - p.x)|
  rw [abs_zero, zero_add, abs_of_pos (by positivity), abs_of_pos (by positivity)]
  exact div_lt_div_of_pos_right one_lt_two hpos

theorem exists_lastRow (h : p.x < q.x) : ∃ row, lastRow p q = some row ∧ row.Dominant := by
  have hpos : 0 < q.x - p.x := sub_pos.mpr h
  simp only [lastRow, checkedDiv_of_ne hpos.ne', checkedDiv_of_ne (mul_pos hpos hpos).ne']
  refine ⟨_, rfl, ?_⟩
  change |1 / (q.x - p.x)| + |(0 : ℚ)| < |2 / (q.x - p.x)|
  rw [abs_zero, add_zero, abs_of_pos (by positivity), abs_of_pos (by positivity)]
  exact div_lt_div_of_pos_right one_lt_two hpos

/-- The diagonal entry is twice the sum of the other two. -/
theorem exists_innerRow (hpq : p.x < q.x) (hqr : q.x < r.x) :
    ∃ row, innerRow p q r = some row ∧ row.Dominant := by
  have hpos : 0 < q.x - p.x := sub_pos.mpr hpq
  have hpos' : 0 < r.x - q.x := sub_pos.mpr hqr
  simp only [innerRow, checkedDiv_of_ne hpos.ne', checkedDiv_of_ne hpos'.ne',
    checkedDiv_of_ne (mul_pos hpos hpos).ne', checkedDiv_of_ne (mul_pos hpos' hpos').ne']
  refine ⟨_, rfl, ?_⟩
  change |1 / (q.x - p.x)| + |1 / (r.x - q.x)| < |2 / (q.x - p.x) + 2 / (r.x - q.x)|
  rw [abs_of_pos (by positivity), abs_of_pos (by positivity), abs_of_pos (by positivity)]
  exact add_lt_add (div_lt_div_of_pos_right one_lt_two hpos)
    (div_lt_div_of_pos_right one_lt_two hpos')

theorem exists_rowsBehind {knots : List Knot}
    (h : List.IsChain (fun p q : Knot => p.x < q.x) (p :: knots)) :
    ∃ rows, rowsBehind p knots = some rows ∧ rows.length = knots.length ∧
      ∀ row ∈ rows, row.Dominant := by
  induction knots generalizing p with
  | nil => exact ⟨[], rfl, rfl, nofun⟩
  | cons q knots ih =>
    rw [List.isChain_cons_cons] at h
    -- The last knot has a row of its own, and all others are between two knots.
    cases knots with
    | nil =>
      rcases exists_lastRow h.1 with ⟨row, hrow, hdominant⟩
      refine ⟨[row], ?_, rfl, ?_⟩
      · unfold rowsBehind
        rw [hrow]
        rfl
      · intro row' hmem
        rw [List.mem_singleton.mp hmem]
        exact hdominant
    | cons r knots =>
      rcases ih h.2 with ⟨rows, hrows, hlength, hdominants⟩
      rcases exists_innerRow h.1 (List.isChain_cons_cons.mp h.2).1 with ⟨row, hrow, hdominant⟩
      refine ⟨row :: rows, ?_, congrArg (· + 1) hlength, ?_⟩
      · unfold rowsBehind
        rw [hrow, hrows]
        rfl
      · exact List.forall_mem_cons.mpr ⟨hdominant, hdominants⟩

end Rows

/-- Knots that go upwards have derivatives, one each. -/
theorem exists_getDerivatives {p q : Knot} {knots : List Knot}
    (h : List.IsChain (fun p q : Knot => p.x < q.x) (p :: q :: knots)) :
    ∃ ks, getDerivatives (p :: q :: knots) = some ks ∧ ks.length = knots.length + 2 := by
  rcases exists_firstRow (List.isChain_cons_cons.mp h).1 with ⟨row, hrow, hdominant⟩
  rcases exists_rowsBehind h with ⟨rows, hrows, hlength, hdominants⟩
  rcases exists_solveTridiagonal (List.forall_mem_cons.mpr ⟨hdominant, hdominants⟩) with
      ⟨ks, hks, hlength'⟩
  refine ⟨ks, ?_, ?_⟩
  · simp only [getDerivatives, hrow, hrows]
    exact hks
  · rw [hlength', List.length_cons, hlength, List.length_cons]

/-! ## The spline -/

section Interval

/-- What is computed between two knots at different places. -/
def interval (p q : Knot) (k₀ k₁ x : ℚ) : ℚ :=
  let t := (x - p.x) / (q.x - p.x)
  (1 - t) * p.y + t * q.y + t * (1 - t) * ((k₀ * (q.x - p.x) - (q.y - p.y)) * (1 - t)
    + (-k₁ * (q.x - p.x) + (q.y - p.y)) * t)

/-- Its derivative. -/
def intervalSpeed (p q : Knot) (k₀ k₁ x : ℚ) : ℚ :=
  let t := (x - p.x) / (q.x - p.x)
  let a := k₀ * (q.x - p.x) - (q.y - p.y)
  let b := -k₁ * (q.x - p.x) + (q.y - p.y)
  ((q.y - p.y) + (1 - 2 * t) * (a * (1 - t) + b * t) + t * (1 - t) * (b - a)) / (q.x - p.x)

variable {p q : Knot} (k₀ k₁ : ℚ)

theorem evalSplineInterval_eq (h : p.x < q.x) (x : ℚ) :
    evalSplineInterval x p.x q.x p.y q.y k₀ k₁ = some (interval p q k₀ k₁ x) := by
  unfold evalSplineInterval
  rw [checkedDiv_of_ne (sub_pos.mpr h).ne']
  rfl

theorem interval_left : interval p q k₀ k₁ p.x = p.y := by
  unfold interval
  ring

theorem interval_right (h : p.x < q.x) : interval p q k₀ k₁ q.x = q.y := by
  unfold interval
  rw [div_self (sub_pos.mpr h).ne']
  ring

theorem intervalSpeed_left (h : p.x < q.x) : intervalSpeed p q k₀ k₁ p.x = k₀ := by
  have hne := (sub_pos.mpr h).ne'
  unfold intervalSpeed
  field_simp
  ring

theorem intervalSpeed_right (h : p.x < q.x) : intervalSpeed p q k₀ k₁ q.x = k₁ := by
  have hne := (sub_pos.mpr h).ne'
  unfold intervalSpeed
  field_simp
  ring

theorem hasDerivAt_interval (x : ℚ) :
    HasDerivAt (interval p q k₀ k₁) (intervalSpeed p q k₀ k₁ x) x := by
  have ht : HasDerivAt (fun x => (x - p.x) / (q.x - p.x)) (1 / (q.x - p.x)) x :=
    ((hasDerivAt_id' x).sub_const p.x).div_const _
  have ht' := ht.const_sub 1
  have hline := (ht'.mul_const p.y).add (ht.mul_const q.y)
  have hbend := (ht.mul ht').mul ((ht'.const_mul (k₀ * (q.x - p.x) - (q.y - p.y))).add
    (ht.const_mul (-k₁ * (q.x - p.x) + (q.y - p.y))))
  refine (hline.add hbend).congr_deriv ?_
  simp only [Pi.add_apply, Pi.mul_apply]
  unfold intervalSpeed
  ring

theorem continuous_intervalSpeed : Continuous (intervalSpeed p q k₀ k₁) := by
  unfold intervalSpeed
  fun_prop

end Interval

/-- Two knots, with a curve between them that has their values and the given speeds there. -/
def SmoothBetween (p q : Knot) (k₀ k₁ : ℚ) : Prop :=
  ∃ s s' : ℚ → ℚ, (∀ x, evalSplineInterval x p.x q.x p.y q.y k₀ k₁ = some (s x)) ∧
    (∀ x, HasDerivAt s (s' x) x) ∧ s p.x = p.y ∧ s q.x = q.y ∧ s' p.x = k₀ ∧ s' q.x = k₁

theorem smoothBetween {p q : Knot} (h : p.x < q.x) (k₀ k₁ : ℚ) : SmoothBetween p q k₀ k₁ :=
  ⟨interval p q k₀ k₁, intervalSpeed p q k₀ k₁, evalSplineInterval_eq k₀ k₁ h,
    hasDerivAt_interval k₀ k₁, interval_left k₀ k₁, interval_right k₀ k₁ h,
    intervalSpeed_left k₀ k₁ h, intervalSpeed_right k₀ k₁ h⟩

/-- The intervals one after the other: the first one whose end is not passed, or the last. -/
def splineValue : List Knot → List ℚ → ℚ → Option ℚ
  | p :: q :: knots, k₀ :: k₁ :: ks, x =>
      if x ≤ q.x ∨ knots.isEmpty then evalSplineInterval x p.x q.x p.y q.y k₀ k₁
      else splineValue (q :: knots) (k₁ :: ks) x
  | _, _, _ => none

/-- A curve through the knots, whose speed is continuous and has the given values there. -/
structure SmoothThrough (knots : List Knot) (ks : List ℚ) (s s' : ℚ → ℚ) : Prop where
  hasDerivAt : ∀ x, HasDerivAt s (s' x) x
  continuous : Continuous s'
  at_knots : List.Forall₂ (fun knot k => s knot.x = knot.y ∧ s' knot.x = k) knots ks

theorem exists_smoothThrough {p q : Knot} {knots : List Knot} {ks : List ℚ}
    (h : List.IsChain (fun p q : Knot => p.x < q.x) (p :: q :: knots))
    (hlength : ks.length = knots.length + 2) :
    ∃ s s', (∀ x, splineValue (p :: q :: knots) ks x = some (s x)) ∧
      SmoothThrough (p :: q :: knots) ks s s' := by
  induction knots generalizing p q ks with
  | nil =>
    rcases List.length_eq_two.mp hlength with ⟨k₀, k₁, rfl⟩
    have hpq := (List.isChain_cons_cons.mp h).1
    refine ⟨interval p q k₀ k₁, intervalSpeed p q k₀ k₁, fun x => ?_, hasDerivAt_interval k₀ k₁,
      continuous_intervalSpeed k₀ k₁, .cons ?_ (.cons ?_ .nil)⟩
    · rw [splineValue, if_pos (.inr rfl)]
      exact evalSplineInterval_eq k₀ k₁ hpq x
    · exact ⟨interval_left k₀ k₁, intervalSpeed_left k₀ k₁ hpq⟩
    · exact ⟨interval_right k₀ k₁ hpq, intervalSpeed_right k₀ k₁ hpq⟩
  | cons r knots ih =>
    rcases List.exists_cons_of_length_eq_add_one hlength with ⟨k₀, ks, rfl⟩
    rcases List.exists_cons_of_length_eq_add_one (Nat.succ.inj hlength) with ⟨k₁, ks, rfl⟩
    rcases List.isChain_cons_cons.mp h with ⟨hpq, hbehind⟩
    rcases ih hbehind (Nat.succ.inj hlength) with ⟨s, s', hvalue, hs⟩
    rcases List.forall₂_cons.mp hs.at_knots with ⟨⟨hsq, hsq'⟩, hknots⟩
    -- the first interval goes over into the rest at its end
    have hjoin : interval p q k₀ k₁ q.x = s q.x := (interval_right k₀ k₁ hpq).trans hsq.symm
    have hjoin' : intervalSpeed p q k₀ k₁ q.x = s' q.x :=
      (intervalSpeed_right k₀ k₁ hpq).trans hsq'.symm
    refine ⟨fun x => if x ≤ q.x then interval p q k₀ k₁ x else s x,
      fun x => if x ≤ q.x then intervalSpeed p q k₀ k₁ x else s' x, fun x => ?_,
      hasDerivAt_ite_le (hasDerivAt_interval k₀ k₁) hs.hasDerivAt hjoin hjoin',
      continuous_ite_le (continuous_intervalSpeed k₀ k₁) hs.continuous hjoin', ?_⟩
    · rw [splineValue]
      by_cases hx : x ≤ q.x
      · rw [if_pos (.inl hx), evalSplineInterval_eq k₀ k₁ hpq]
        exact congrArg some (if_pos hx).symm
      · rw [if_neg (by simp [hx]), hvalue]
        exact congrArg some (if_neg hx).symm
    · have hlater : ∀ knot ∈ r :: knots, q.x < knot.x :=
        (List.pairwise_cons.mp (List.isChain_iff_pairwise.mp hbehind)).1
      have hrest := (List.forall₂_and_left (p := fun knot : Knot => q.x < knot.x) _ _).mpr
        ⟨hlater, hknots⟩
      refine .cons ?_ (.cons ?_ (hrest.imp ?_))
      · rw [if_pos hpq.le, if_pos hpq.le]
        exact ⟨interval_left k₀ k₁, intervalSpeed_left k₀ k₁ hpq⟩
      · rw [if_pos (le_refl q.x), if_pos (le_refl q.x), hjoin, hjoin']
        exact ⟨hsq, hsq'⟩
      · intro knot k hknot
        rw [if_neg (not_le_of_gt hknot.1), if_neg (not_le_of_gt hknot.1)]
        exact hknot.2

/-- For knots that go upwards the system is there and has one solution, which is what the
derivatives are. With them each interval has the values and the speeds of its ends, and all
intervals together are one curve with a continuous speed. -/
theorem natural_spline {p q : Knot} {knots : List Knot}
    (h : List.IsChain (fun p q : Knot => p.x < q.x) (p :: q :: knots)) :
    ∃ row rows ks, firstRow p q = some row ∧ rowsBehind p (q :: knots) = some rows ∧
      getDerivatives (p :: q :: knots) = some ks ∧ ks.length = knots.length + 2 ∧
      (∀ ks', Solves (row :: rows) ks' ↔ ks' = ks) ∧
      (∀ i p₀ p₁ k₀ k₁, (p :: q :: knots)[i]? = some p₀ → (p :: q :: knots)[i + 1]? = some p₁ →
        ks[i]? = some k₀ → ks[i + 1]? = some k₁ → SmoothBetween p₀ p₁ k₀ k₁) ∧
      ∃ s s', (∀ x, splineValue (p :: q :: knots) ks x = some (s x)) ∧
        SmoothThrough (p :: q :: knots) ks s s' := by
  rcases exists_firstRow (List.isChain_cons_cons.mp h).1 with ⟨row, hrow, _⟩
  rcases exists_rowsBehind h with ⟨rows, hrows, _, _⟩
  rcases exists_getDerivatives h with ⟨ks, hks, hlength⟩
  have hsolved : solveTridiagonal (row :: rows) = some ks := by
    rw [← hks]
    simp [getDerivatives, hrow, hrows]
  refine ⟨row, rows, ks, hrow, hrows, hks, hlength, solves_iff hsolved, ?_,
    exists_smoothThrough h hlength⟩
  intro i p₀ p₁ k₀ k₁ hp₀ hp₁ _ _
  rcases List.getElem?_eq_some_iff.mp hp₀ with ⟨hi₀, rfl⟩
  rcases List.getElem?_eq_some_iff.mp hp₁ with ⟨hi₁, rfl⟩
  exact smoothBetween (List.isChain_iff_getElem.mp h i hi₁) k₀ k₁

/-- Three knots. -/
theorem natural_spline_sample : ∃ row rows ks,
    firstRow ⟨0, 0⟩ ⟨1, 1⟩ = some row ∧ rowsBehind ⟨0, 0⟩ [⟨1, 1⟩, ⟨3, 0⟩] = some rows ∧
      getDerivatives [⟨0, 0⟩, ⟨1, 1⟩, ⟨3, 0⟩] = some ks ∧ ks.length = 3 ∧
      ∀ ks', Solves (row :: rows) ks' ↔ ks' = ks := by
  have h : List.IsChain (fun p q : Knot => p.x < q.x) [⟨0, 0⟩, ⟨1, 1⟩, ⟨3, 0⟩] := by
    refine .cons_cons ?_ (.cons_cons ?_ (.singleton _))
    · exact one_pos
    · exact by norm_num
  rcases natural_spline h with ⟨row, rows, ks, hrow, hrows, hks, hlength, hsolves, _⟩
  exact ⟨row, rows, ks, hrow, hrows, hks, hlength, hsolves⟩

end Simulation

end NeoSwift.Misc
