import Mathlib.Data.List.Rotate
import Mathlib.Data.List.Nodup
import Mathlib.Logic.Function.Iterate

/-!
# Cyclic Walks

Walking through a list from one element to the next, and from the last one to the first.
An element that is not in the list is followed by the first one, so from the second step on
a walk is in the list.

In a list without duplicates as many steps as there are elements visit each of them once
and come back. A step that stays where it is at one of the elements spoils that for all of
them, unless there is no other.

## Main definitions

* `cyclicNext`: The element that follows.
* `VisitsAll`: A walk that visits each element once and comes back.

## Theorems

* `exists_cyclicNext`: There is one in a list that is not empty.
* `iterate_getElem`: The walk, by positions.
* `visitsAll_of_cyclicNext`: A walk along the list visits all.
* `not_visitsAll_of_fixed`: One that stays somewhere does not.
-/

namespace NeoSwift

variable {α : Type*} [DecidableEq α]

/-- The element behind the first occurrence, where there is one behind it; else the first. -/
def cyclicNext (l : List α) (x : α) : Option α :=
  let i := l.idxOf x
  let i := if i ≠ l.length then i + 1 else i
  let i := if i = l.length then 0 else i
  l[i]?

/-- As many steps as there are elements visit each of them once and come back. -/
def VisitsAll (step : α → α) (l : List α) (x : α) : Prop :=
  ((List.range l.length).map fun k => step^[k + 1] x).Perm l ∧ step^[l.length] x = x

omit [DecidableEq α] in
theorem VisitsAll.of_perm {step : α → α} {l l' : List α} {x : α} (h : VisitsAll step l x)
    (hperm : l.Perm l') : VisitsAll step l' x := by
  unfold VisitsAll at h ⊢
  rw [← hperm.length_eq]
  exact ⟨h.1.trans hperm, h.2⟩

omit [DecidableEq α] in
theorem visitsAll_singleton {step : α → α} {x : α} (h : step x = x) : VisitsAll step [x] x := by
  refine ⟨?_, h⟩
  change [step x].Perm [x]
  rw [h]

theorem exists_cyclicNext {l : List α} (h : l ≠ []) (x : α) : ∃ y ∈ l, cyclicNext l x = some y := by
  have hpos := List.length_pos_iff.mpr h
  have hle := List.idxOf_le_length (a := x) (l := l)
  have hindex : ∀ i < l.length, ∃ y ∈ l, l[i]? = some y :=
    fun i hi => ⟨l[i], List.getElem_mem hi, List.getElem?_eq_getElem hi⟩
  unfold cyclicNext
  refine hindex _ ?_
  split
  · split
    · exact hpos
    · omega
  · split
    · exact hpos
    · omega

/-- In a list without duplicates the next position is the next one modulo the length. -/
theorem cyclicNext_getElem {l : List α} (hnodup : l.Nodup) {i : ℕ} (hi : i < l.length) :
    cyclicNext l l[i] = l[(i + 1) % l.length]? := by
  unfold cyclicNext
  dsimp only
  have hmem : i ≠ l.length := by omega
  rw [hnodup.idxOf_getElem i hi, if_pos hmem]
  by_cases hlast : i + 1 = l.length
  · rw [if_pos hlast, hlast, Nat.mod_self]
  · rw [if_neg hlast, Nat.mod_eq_of_lt (by omega)]

section Walk

variable {l : List α} {step : α → α}

theorem iterate_getElem (hnodup : l.Nodup) (hstep : ∀ x ∈ l, cyclicNext l x = some (step x))
    {i : ℕ} (hi : i < l.length) (k : ℕ) : l[(i + k) % l.length]? = some (step^[k] l[i]) := by
  induction k with
  | zero =>
      rw [Nat.add_zero, Nat.mod_eq_of_lt hi]
      exact List.getElem?_eq_getElem hi
  | succ k ih =>
      have hlt : (i + k) % l.length < l.length := Nat.mod_lt _ (by omega)
      rw [List.getElem?_eq_getElem hlt, Option.some.injEq] at ih
      have hnext := (hstep _ (List.getElem_mem hlt)).symm.trans (cyclicNext_getElem hnodup hlt)
      rw [ih, Nat.mod_add_mod, Nat.add_assoc] at hnext
      rw [Function.iterate_succ_apply', hnext]

/-- A walk along the list visits each element once and comes back. -/
theorem visitsAll_of_cyclicNext (hnodup : l.Nodup)
    (hstep : ∀ x ∈ l, cyclicNext l x = some (step x)) {x : α} (hx : x ∈ l) :
    VisitsAll step l x := by
  rcases List.getElem_of_mem hx with ⟨i, hi, rfl⟩
  have hwalk := iterate_getElem hnodup hstep hi
  constructor
  · have hrotated : ((List.range l.length).map fun k => step^[k + 1] l[i]) = l.rotate (i + 1) := by
      refine List.ext_getElem (by rw [List.length_map, List.length_range, List.length_rotate]) ?_
      intro k hk hk'
      rw [List.getElem_map, List.getElem_range, List.getElem_rotate]
      have hlt : (k + (i + 1)) % l.length < l.length := Nat.mod_lt _ (by omega)
      have hsame := hwalk (k + 1)
      rw [show i + (k + 1) = k + (i + 1) by omega, List.getElem?_eq_getElem hlt,
        Option.some.injEq] at hsame
      exact hsame.symm
    rw [hrotated]
    exact List.rotate_perm l (i + 1)
  · have hround := hwalk l.length
    rw [Nat.add_mod_right, Nat.mod_eq_of_lt hi, List.getElem?_eq_getElem hi,
      Option.some.injEq] at hround
    exact hround.symm

omit [DecidableEq α] in
/-- A walk that stays at one element does not visit the others and come back. -/
theorem not_visitsAll_of_fixed (hnodup : l.Nodup) {s : α} (hs : s ∈ l) (hfixed : step s = s)
    (htwo : 2 ≤ l.length) (x : α) : ¬VisitsAll step l x := by
  rintro ⟨hperm, hround⟩
  have hstays : ∀ k, step^[k] s = s := Function.iterate_fixed hfixed
  rcases List.mem_map.mp (hperm.mem_iff.mpr hs) with ⟨k, hk, hvisit⟩
  rw [List.mem_range] at hk
  -- Once there, the walk does not get back, so it starts there.
  have hend : step^[l.length] x = s := by
    rw [show l.length = (l.length - (k + 1)) + (k + 1) by omega, Function.iterate_add_apply,
      hvisit, hstays]
  have hstart : x = s := hround.symm.trans hend
  have hall : ∀ y ∈ l, y = s := by
    intro y hy
    rcases List.mem_map.mp (hperm.mem_iff.mpr hy) with ⟨j, -, rfl⟩
    rw [hstart, hstays]
  have hfirst := hall l[0] (List.getElem_mem (by omega))
  have hsecond := hall l[1] (List.getElem_mem (by omega))
  have hsame := (hnodup.getElem_inj_iff).mp (hfirst.trans hsecond.symm)
  exact absurd hsame (by omega)

end Walk

end NeoSwift
