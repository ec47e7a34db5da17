import Mathlib.Tactic.Common

/-!
# Fallible Computations

Rules for computations in `Except`: which errors they avoid, and what holds of
their results. Each rule takes one construct apart, so that a computation is
followed the way it is written.

## Main definitions

* `Avoids`: A computation does not end in a given error.
* `Ensures`: What holds of the result if there is one.
* `Yields`: There is a result of which something holds.

## Theorems

* `avoids_bind`, `ensures_bind`, `yields_bind`: One computation after another.
* `avoids_ite`, `ensures_ite`, `yields_ite`: A choice between two.
-/

namespace NeoSwift.Fallible

universe u v

variable {ε : Type u} {α β : Type v}

/-- The computation does not end in the error `e`. -/
def Avoids (e : ε) (x : Except ε α) : Prop := x ≠ .error e

/-- If the computation has a result, `P` holds of it. -/
def Ensures (P : α → Prop) (x : Except ε α) : Prop := ∀ a, x = .ok a → P a

@[simp] theorem avoids_ok (e : ε) (a : α) : Avoids e (.ok a) := by
  intro h
  cases h

theorem avoids_error {e f : ε} (h : f ≠ e) : Avoids e (.error f : Except ε α) := by
  intro heq
  cases heq
  exact h rfl

variable {x : Except ε α}

theorem avoids_bind {e : ε} {f : α → Except ε β} (hx : Avoids e x)
    (hf : ∀ a, x = .ok a → Avoids e (f a)) : Avoids e (x >>= f) := by
  cases x with
  | error f =>
      intro heq
      cases heq
      exact hx rfl
  | ok a => exact hf a rfl

theorem avoids_ite {e : ε} {c : Prop} [Decidable c] {x y : Except ε α} (hx : c → Avoids e x)
    (hy : ¬c → Avoids e y) : Avoids e (if c then x else y) := by
  split
  · exact hx ‹_›
  · exact hy ‹_›

/-- An error comes through what follows. -/
theorem bind_error {e : ε} (f : α → Except ε β) (h : x = .error e) : (x >>= f) = .error e := by
  rw [h]
  rfl

/-- A result goes on to what follows. -/
theorem bind_ok {a : α} (f : α → Except ε β) (h : x = .ok a) : (x >>= f) = f a := by
  rw [h]
  rfl

@[simp] theorem ensures_ok (P : α → Prop) (a : α) : Ensures P (.ok a : Except ε α) ↔ P a := by
  constructor
  · intro h
    exact h a rfl
  · intro h b hb
    cases hb
    exact h

@[simp] theorem ensures_error (P : α → Prop) (e : ε) : Ensures P (.error e) := by
  intro a h
  cases h

theorem ensures_bind {P : β → Prop} {f : α → Except ε β}
    (hf : ∀ a, x = .ok a → Ensures P (f a)) : Ensures P (x >>= f) := by
  cases x with
  | error e => exact ensures_error P e
  | ok a => exact hf a rfl

theorem ensures_ite {P : α → Prop} {c : Prop} [Decidable c] {x y : Except ε α}
    (hx : c → Ensures P x) (hy : ¬c → Ensures P y) : Ensures P (if c then x else y) := by
  split
  · exact hx ‹_›
  · exact hy ‹_›

theorem ensures_mono {P Q : α → Prop} (h : Ensures P x) (hPQ : ∀ a, P a → Q a) : Ensures Q x := by
  intro a ha
  exact hPQ a (h a ha)

/-- The computation has a result, and `P` holds of it. -/
def Yields (P : α → Prop) (x : Except ε α) : Prop := ∃ a, x = .ok a ∧ P a

theorem yields_ok {P : α → Prop} {a : α} (h : P a) : Yields P (.ok a : Except ε α) := ⟨a, rfl, h⟩

theorem yields_bind {P : α → Prop} {Q : β → Prop} {f : α → Except ε β}
    (hx : Yields P x) (hf : ∀ a, P a → Yields Q (f a)) : Yields Q (x >>= f) := by
  rcases hx with ⟨a, ha, hPa⟩
  rw [bind_ok f ha]
  exact hf a hPa

theorem yields_ite {P : α → Prop} {c : Prop} [Decidable c] {x y : Except ε α}
    (hx : c → Yields P x) (hy : ¬c → Yields P y) : Yields P (if c then x else y) := by
  split
  · exact hx ‹_›
  · exact hy ‹_›

end NeoSwift.Fallible
