import NeoSwift.Lib.Fallible

/-!
# Buffers with bounds

Loops over the first elements of a buffer and copies of its first elements, where an index that
is not in the buffer is an error.

## Main definitions

* `updateFirst`: A loop that changes the first elements one by one.
* `copyFirst`: The first elements of one buffer written over those of another.

## Theorems

* `yields_updateFirst`, `ensures_updateFirst`: The loop in its bounds, and what it keeps.
* `yields_copyFirst`, `ensures_copyFirst`: The copy.
-/

namespace NeoSwift.Buffer

open Fallible

universe u v

variable {ε : Type u} {α : Type v} (outOfRange : ε)

/-- `for (i = 0; i < n; i++) { l[i] = f(i, l[i]); }`. -/
def updateFirst (f : ℕ → α → Except ε α) (l : List α) : ℕ → Except ε (List α)
  | 0 => .ok l
  | n + 1 => do
    let l ← updateFirst f l n
    match l[n]? with
    | none => .error outOfRange
    | some x => do
      let y ← f n x
      .ok (l.set n y)

/-- `memcpy` of `n` elements. -/
def copyFirst (target source : List α) (n : ℕ) : Except ε (List α) :=
  if n ≤ source.length ∧ n ≤ target.length then .ok (source.take n ++ target.drop n)
  else .error outOfRange

variable {outOfRange} {f : ℕ → α → Except ε α} {l target source : List α} {n : ℕ}

/-- In the buffer the loop fails only where `f` does. -/
theorem yields_updateFirst (hn : n ≤ l.length) (hf : ∀ i < n, ∀ x, Yields (fun _ => True) (f i x)) :
    Yields (fun l' => l'.length = l.length) (updateFirst outOfRange f l n) := by
  induction n with
  | zero => exact yields_ok rfl
  | succ n ih =>
    refine yields_bind (ih (Nat.le_of_succ_le hn) fun i hi => hf i (Nat.lt_succ_of_lt hi)) ?_
    intro l' hl'
    have hlt : n < l'.length := by omega
    rw [List.getElem?_eq_getElem hlt]
    exact yields_bind (hf n (Nat.lt_succ_self n) _) fun y _ =>
      yields_ok (by rw [List.length_set, hl'])

/-- The loop keeps the length. -/
theorem ensures_updateFirst (n : ℕ) :
    Ensures (fun l' => l'.length = l.length) (updateFirst outOfRange f l n) := by
  induction n with
  | zero => exact (ensures_ok _ _).mpr rfl
  | succ n ih =>
    refine ensures_bind fun l' hl' => ?_
    cases l'[n]? with
    | none => exact ensures_error _ _
    | some x => exact ensures_bind fun y _ =>
      (ensures_ok _ _).mpr (by rw [List.length_set, ih l' hl'])

theorem yields_copyFirst (hsource : n ≤ source.length) (htarget : n ≤ target.length) :
    Yields (fun copied => copied = source.take n ++ target.drop n)
      (copyFirst outOfRange target source n) := by
  rw [copyFirst, if_pos ⟨hsource, htarget⟩]
  exact yields_ok rfl

/-- A copy that works is in the bounds. -/
theorem ensures_copyFirst :
    Ensures (fun _ => n ≤ source.length) (copyFirst outOfRange target source n) := by
  refine ensures_ite (fun h => (ensures_ok _ _).mpr h.1) fun _ => ensures_error _ _

end NeoSwift.Buffer
