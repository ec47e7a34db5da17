import Mathlib.Algebra.Order.AbsoluteValue.Basic
import Mathlib.Algebra.Order.Field.Basic
import Mathlib.Tactic.Linarith
import Mathlib.Tactic.Ring

/-!
# Tridiagonal Systems

The elimination of Thomas for a system of linear equations each of which has three
neighbouring unknowns. A sweep forwards eliminates what is left of the diagonal, and a
substitution backwards gives the unknowns.

The sweep divides by what is left of the diagonal entry, which may be zero although no entry
of the system is. Where in each row the diagonal entry outweighs the other two it is not,
because what the sweep keeps of the previous row stays below one.

## Main definitions

* `checkedDiv`: A division that fails where there is none.
* `TridiagonalRow`: A row of a system.
* `forwardSweep`, `backSubstitution`, `solveTridiagonal`: The elimination.
* `TridiagonalRow.Dominant`: The diagonal entry outweighs the others.
* `SolvesBehind`, `Solves`: The unknowns meet the equations of the rows.

## Theorems

* `solvesBehind_iff`: What the sweep keeps of a row is an equation that has the same meaning.
* `solves_iff`: The value the elimination gives is the solution, and the only one.

* `exists_forwardSweep`: The sweep goes through.
* `exists_solveTridiagonal`: So there is a value for each unknown.
-/

namespace NeoSwift

section

variable {K : Type*} [Field K] [DecidableEq K]

/-- A division that fails where the denominator is zero. -/
def checkedDiv (a b : K) : Option K := if b = 0 then none else some (a / b)

theorem checkedDiv_of_ne {a b : K} (h : b ≠ 0) : checkedDiv a b = some (a / b) := if_neg h

theorem checkedDiv_eq_some {a b q : K} (h : checkedDiv a b = some q) : b ≠ 0 ∧ q = a / b := by
  unfold checkedDiv at h
  split at h
  case isTrue => cases h
  case isFalse hb => exact ⟨hb, (Option.some.inj h).symm⟩

/-- What stands left of the diagonal, on it and right of it, and the right hand side. -/
structure TridiagonalRow (K : Type*) where
  sub : K
  diag : K
  super : K
  rhs : K

/-- The rows behind one of which the sweep has kept `c` and `d`. The last row has nothing
right of its diagonal. -/
def forwardSweep (c d : K) : List (TridiagonalRow K) → Option (List (K × K))
  | [] => some []
  | row :: rows => do
      let denom := row.diag - row.sub * c
      let c' ← if rows.isEmpty then some row.super else checkedDiv row.super denom
      let d' ← checkedDiv (row.rhs - row.sub * d) denom
      let swept ← forwardSweep c' d' rows
      return (c', d') :: swept

omit [DecidableEq K] in
def backSubstitution : List (K × K) → List K
  | [] => []
  | (c, d) :: swept =>
      match backSubstitution swept with
      | [] => [d]
      | k :: ks => (d - c * k) :: k :: ks

def solveTridiagonal : List (TridiagonalRow K) → Option (List K)
  | [] => some []
  | row :: rows => do
      let c ← checkedDiv row.super row.diag
      let d ← checkedDiv row.rhs row.diag
      let swept ← forwardSweep c d rows
      return backSubstitution ((c, d) :: swept)

omit [DecidableEq K] in
theorem length_backSubstitution (swept : List (K × K)) :
    (backSubstitution swept).length = swept.length := by
  induction swept with
  | nil => rfl
  | cons cd swept ih =>
    unfold backSubstitution
    cases h : backSubstitution swept with
    | nil =>
      rw [h] at ih
      exact congrArg (· + 1) ih
    | cons k ks =>
      rw [h] at ih
      exact congrArg (· + 1) ih

omit [DecidableEq K] in
/-- The last unknown has no other behind it. -/
theorem backSubstitution_cons (c d : K) (swept : List (K × K)) :
    backSubstitution ((c, d) :: swept)
      = (d - c * (backSubstitution swept).headD 0) :: backSubstitution swept := by
  rw [backSubstitution]
  cases backSubstitution swept with
  | nil => rw [List.headD_nil, mul_zero, sub_zero]
  | cons k ks => rfl

/-! ## The equations -/

/-- The equations of the rows behind an unknown. -/
def SolvesBehind (prev : K) : List (TridiagonalRow K) → List K → Prop
  | [], [] => True
  | row :: rows, k :: ks =>
      row.sub * prev + row.diag * k + row.super * ks.headD 0 = row.rhs ∧ SolvesBehind k rows ks
  | _, _ => False

/-- The equations of all rows: there is nothing left of the first diagonal entry. -/
def Solves (rows : List (TridiagonalRow K)) (ks : List K) : Prop := SolvesBehind 0 rows ks

omit [DecidableEq K] in
/-- A row with what is kept of the one before it is an equation for the next two unknowns. -/
theorem TridiagonalRow.swept_iff (next : K) {row : TridiagonalRow K} {c d prev k : K}
    (hdenom : row.diag - row.sub * c ≠ 0) (hprev : prev + c * k = d) :
    row.sub * prev + row.diag * k + row.super * next = row.rhs
      ↔ k + row.super / (row.diag - row.sub * c) * next
        = (row.rhs - row.sub * d) / (row.diag - row.sub * c) := by
  have hprev' : prev = d - c * k := eq_sub_of_add_eq hprev
  rw [eq_div_iff hdenom, add_mul, mul_right_comm, div_mul_cancel₀ _ hdenom, hprev']
  constructor
  · intro h
    rw [← h]
    ring
  · intro h
    rw [eq_sub_iff_add_eq] at h
    rw [← h]
    ring

variable {rows : List (TridiagonalRow K)}

/-- A step of the sweep that goes through. Right of the last diagonal entry nothing is divided. -/
theorem forwardSweep_cons_eq_some {row : TridiagonalRow K} {c d : K}
    {swept : List (K × K)} (h : forwardSweep c d (row :: rows) = some swept) :
    row.diag - row.sub * c ≠ 0 ∧ ∃ c' swept',
      swept = (c', (row.rhs - row.sub * d) / (row.diag - row.sub * c)) :: swept' ∧
      forwardSweep c' ((row.rhs - row.sub * d) / (row.diag - row.sub * c)) rows = some swept' ∧
      (rows ≠ [] → c' = row.super / (row.diag - row.sub * c)) := by
  rw [forwardSweep] at h
  cases rows with
  -- The last row has no next one, so the entry right of it is not divided.
  | nil =>
    obtain ⟨d', hd', swept', hswept', hcons⟩ : ∃ d', checkedDiv (row.rhs - row.sub * d)
        (row.diag - row.sub * c) = some d' ∧ ∃ swept', forwardSweep row.super d' [] = some swept'
        ∧ pure ((row.super, d') :: swept') = some swept := by
      rw [List.isEmpty_nil, if_pos rfl] at h
      simpa only [Option.bind_eq_bind, Option.bind_eq_some_iff, Option.bind_some] using h
    rcases checkedDiv_eq_some hd' with ⟨hdenom, rfl⟩
    exact ⟨hdenom, row.super, swept', (Option.some.inj hcons).symm, hswept', fun h => absurd rfl h⟩
  | cons next rows =>
    obtain ⟨c', hc', d', hd', swept', hswept', hcons⟩ : ∃ c', checkedDiv row.super
        (row.diag - row.sub * c) = some c' ∧ ∃ d', checkedDiv (row.rhs - row.sub * d)
        (row.diag - row.sub * c) = some d' ∧ ∃ swept', forwardSweep c' d' (next :: rows)
          = some swept' ∧ pure ((c', d') :: swept') = some swept := by
      rw [List.isEmpty_cons, if_neg Bool.false_ne_true] at h
      simpa only [Option.bind_eq_bind, Option.bind_eq_some_iff] using h
    rcases checkedDiv_eq_some hd' with ⟨hdenom, rfl⟩
    exact ⟨hdenom, c', swept', (Option.some.inj hcons).symm, hswept',
      fun _ => (checkedDiv_eq_some hc').2⟩

omit [DecidableEq K] in
/-- One row, if the rows behind it are solved by what is kept of it. -/
theorem solvesBehind_cons_iff {row : TridiagonalRow K}
    {c d prev c' d' : K} {bs : List K} (hdenom : row.diag - row.sub * c ≠ 0)
    (hc' : rows ≠ [] → c' = row.super / (row.diag - row.sub * c))
    (hd' : d' = (row.rhs - row.sub * d) / (row.diag - row.sub * c))
    (hrows : ∀ {k : K} {ks : List K}, k + c' * ks.headD 0 = d' → (SolvesBehind k rows ks ↔ ks = bs))
    {ks : List K} (hprev : prev + c * ks.headD 0 = d) :
    SolvesBehind prev (row :: rows) ks ↔ ks = (d' - c' * bs.headD 0) :: bs := by
  cases ks with
  | nil => exact ⟨False.elim, fun h => absurd h.symm (List.cons_ne_nil _ _)⟩
  | cons k ks =>
    have hrow := TridiagonalRow.swept_iff (ks.headD 0) hdenom hprev
    rw [← hd'] at hrow
    -- behind the last row there is no unknown, so that what is kept there does not matter
    have hkept : SolvesBehind k rows ks →
        row.super / (row.diag - row.sub * c) * ks.headD 0 = c' * ks.headD 0 := by
      intro hsolves
      cases rows with
      | nil =>
        cases ks with
        | nil => rw [List.headD_nil, mul_zero, mul_zero]
        | cons k' ks => exact hsolves.elim
      | cons next rows => rw [hc' (List.cons_ne_nil next rows)]
    constructor
    · rintro ⟨hequation, hsolves⟩
      have hk := hrow.mp hequation
      rw [hkept hsolves] at hk
      rw [← (hrows hk).mp hsolves, ← hk, add_sub_cancel_right, List.headD_cons]
    · intro hks
      rcases List.cons.inj hks with ⟨hk, hks⟩
      rw [← hks] at hk
      have hsolves := (hrows (add_eq_of_eq_sub hk)).mpr hks
      refine ⟨hrow.mpr ?_, hsolves⟩
      rw [hkept hsolves]
      exact add_eq_of_eq_sub hk

theorem solvesBehind_iff {c d prev : K} {swept : List (K × K)}
    (h : forwardSweep c d rows = some swept) {ks : List K} (hprev : prev + c * ks.headD 0 = d) :
    SolvesBehind prev rows ks ↔ ks = backSubstitution swept := by
  induction rows generalizing c d prev swept ks with
  | nil =>
    rw [← Option.some.inj h]
    cases ks with
    | nil => exact ⟨fun _ => rfl, fun _ => trivial⟩
    | cons k ks => exact ⟨False.elim, fun h => absurd h (List.cons_ne_nil k ks)⟩
  | cons row rows ih =>
    rcases forwardSweep_cons_eq_some h with ⟨hdenom, c', swept', rfl, hswept', hc'⟩
    rw [backSubstitution_cons]
    exact solvesBehind_cons_iff hdenom hc' rfl (ih hswept') hprev

/-- What the elimination gives is the solution, and there is no other. -/
theorem solves_iff {ks : List K}
    (h : solveTridiagonal rows = some ks) (ks' : List K) : Solves rows ks' ↔ ks' = ks := by
  cases rows with
  | nil =>
    rw [← Option.some.inj h]
    cases ks' with
    | nil => exact ⟨fun _ => rfl, fun _ => trivial⟩
    | cons k ks => exact ⟨False.elim, fun h => absurd h (List.cons_ne_nil k ks)⟩
  | cons row rows =>
    obtain ⟨c, hc, d, hd, swept, hswept, hks⟩ : ∃ c, checkedDiv row.super row.diag = some c ∧
        ∃ d, checkedDiv row.rhs row.diag = some d ∧ ∃ swept, forwardSweep c d rows = some swept ∧
          pure (backSubstitution ((c, d) :: swept)) = some ks := by
      simpa only [solveTridiagonal, Option.bind_eq_bind, Option.bind_eq_some_iff] using h
    rcases checkedDiv_eq_some hd with ⟨hdiag, rfl⟩
    rcases checkedDiv_eq_some hc with ⟨_, rfl⟩
    -- the first row is a step behind nothing
    have hdenom : row.diag - row.sub * 0 = row.diag := by rw [mul_zero, sub_zero]
    rw [← Option.some.inj hks, backSubstitution_cons]
    refine solvesBehind_cons_iff (c := 0) (d := 0) ?_ ?_ ?_ (solvesBehind_iff hswept) ?_
    · rwa [hdenom]
    · exact fun _ => by rw [hdenom]
    · rw [hdenom, mul_zero, sub_zero]
    · rw [zero_mul, add_zero]

end

section

variable {K : Type*} [Field K] [LinearOrder K] [IsStrictOrderedRing K]

/-- The diagonal entry outweighs the others. -/
def TridiagonalRow.Dominant (row : TridiagonalRow K) : Prop :=
  |row.sub| + |row.super| < |row.diag|

/-- The denominator of a step outweighs what is right of the diagonal. -/
theorem TridiagonalRow.Dominant.lt_denom {row : TridiagonalRow K} (h : row.Dominant) {c : K}
    (hc : |c| < 1) : |row.super| < |row.diag - row.sub * c| := by
  have hle : |row.sub * c| ≤ |row.sub| := by
    rw [abs_mul]
    exact mul_le_of_le_one_right (abs_nonneg _) hc.le
  have htriangle := abs_sub_abs_le_abs_sub row.diag (row.sub * c)
  unfold TridiagonalRow.Dominant at h
  linarith

theorem TridiagonalRow.Dominant.denom_ne_zero {row : TridiagonalRow K} (h : row.Dominant) {c : K}
    (hc : |c| < 1) : row.diag - row.sub * c ≠ 0 :=
  abs_pos.mp ((abs_nonneg _).trans_lt (h.lt_denom hc))

/-- What the sweep keeps of a row stays below one. -/
theorem TridiagonalRow.Dominant.kept_lt_one {row : TridiagonalRow K} (h : row.Dominant) {c : K}
    (hc : |c| < 1) : |row.super / (row.diag - row.sub * c)| < 1 := by
  rw [abs_div, div_lt_one (abs_pos.mpr (h.denom_ne_zero hc))]
  exact h.lt_denom hc

theorem exists_forwardSweep {rows : List (TridiagonalRow K)} (h : ∀ row ∈ rows, row.Dominant)
    {c : K} (hc : |c| < 1) (d : K) :
    ∃ swept, forwardSweep c d rows = some swept ∧ swept.length = rows.length := by
  induction rows generalizing c d with
  | nil => exact ⟨[], rfl, rfl⟩
  | cons row rows ih =>
    have hrow := h row List.mem_cons_self
    have hrows : ∀ row ∈ rows, row.Dominant := fun r hr => h r (List.mem_cons_of_mem row hr)
    unfold forwardSweep
    dsimp only
    rw [checkedDiv_of_ne (hrow.denom_ne_zero hc), checkedDiv_of_ne (hrow.denom_ne_zero hc)]
    cases hlast : rows.isEmpty with
    | true =>
      -- nothing is divided right of the last diagonal entry, and nothing follows
      rw [List.isEmpty_iff.mp hlast]
      exact ⟨_, rfl, rfl⟩
    | false =>
      rcases ih hrows (hrow.kept_lt_one hc)
          ((row.rhs - row.sub * d) / (row.diag - row.sub * c)) with ⟨swept, hswept, hlength⟩
      simp only [Option.bind_eq_bind, Option.bind_some, hswept]
      exact ⟨_, rfl, congrArg (· + 1) hlength⟩

/-- A system with dominant rows is solved without a division by zero. -/
theorem exists_solveTridiagonal {rows : List (TridiagonalRow K)} (h : ∀ row ∈ rows, row.Dominant) :
    ∃ ks, solveTridiagonal rows = some ks ∧ ks.length = rows.length := by
  cases rows with
  | nil => exact ⟨[], rfl, rfl⟩
  | cons row rows =>
    have hrow := h row List.mem_cons_self
    -- the first row is a step behind nothing
    have hdiag : row.diag ≠ 0 := by
      simpa only [mul_zero, sub_zero] using hrow.denom_ne_zero (c := 0) (by simp)
    have hc : |row.super / row.diag| < 1 := by
      simpa only [mul_zero, sub_zero] using hrow.kept_lt_one (c := 0) (by simp)
    rcases exists_forwardSweep
        (fun r hr => h r (List.mem_cons_of_mem row hr)) hc (row.rhs / row.diag) with
        ⟨swept, hswept, hlength⟩
    simp only [solveTridiagonal, checkedDiv_of_ne hdiag, Option.bind_eq_bind, Option.bind_some,
      hswept]
    refine ⟨_, rfl, ?_⟩
    rw [length_backSubstitution]
    exact congrArg (· + 1) hlength

end

end NeoSwift
