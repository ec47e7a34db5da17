import Mathlib.Data.List.Perm.Lattice
import Mathlib.Order.Defs.Unbundled
import Mathlib.Data.Nat.Basic

/-!
# Topological Sorting

`topologicalSort` and `topologicallySortedInsert` of `misc/algorithm.h`. The order they
sort by is a partial one, so that of two elements neither needs to go first.

The sort moves to the front of a range whatever nothing in the range has to precede, and
goes on with what is behind. An order that is irreflexive and transitive leaves some element
of every range free, which is why each round is progress. What is moved to the front is not
preceded by anything behind, and that is all the result needs. The insertion goes behind the
last element that has to precede the new one.

`std::partition` is a parameter: it puts the elements that satisfy a predicate in front and
makes no promise about their arrangement. Its predicate reads the range that is being
rearranged, which never changes what there is in the range.

## Main definitions

* `Partition`: What `std::partition` promises.
* `IsStrictPartialOrder`: The comparators that are partial orderings.
* `topologicalSort`, `topologicallySortedInsert`: The two functions.
* `TopologicallySorted`: No element is behind one it has to precede.

## Theorems

* `exists_isFree`: Some element of a range is preceded by nothing.
* `topologicalSort_eq_some`: The sort comes to an end, with the range sorted.
* `topologicallySorted_insert`: An insertion keeps a list sorted.
* `topologically_sorts`: The two functions do what they are to do.
-/

namespace NeoSwift.Misc

variable {α : Type*}

/-- `std::partition`: the elements that satisfy the predicate, and the others. -/
structure Partition (α : Type*) where
  partition : (α → Bool) → List α → List α × List α
  satisfying_perm : ∀ p l, (partition p l).1.Perm (l.filter p)
  others_perm : ∀ p l, (partition p l).2.Perm (l.filter fun a => ¬ p a)

/-- Keeping both in the arrangement they are in. -/
def Partition.stable (α : Type*) : Partition α where
  partition p l := (l.filter p, l.filter fun a => ¬ p a)
  satisfying_perm _ _ := .refl _
  others_perm _ _ := .refl _

/-- The comparators of partial orderings. -/
structure IsStrictPartialOrder (comparator : α → α → Bool) : Prop where
  irrefl : ∀ a, ¬ comparator a a
  trans : ∀ a b c, comparator a b → comparator b c → comparator a c

/-- Nothing in the range has to precede the element. -/
def isFree (comparator : α → α → Bool) (range : List α) (a : α) : Bool :=
  range.all fun b => ¬ comparator b a

def topologicalSort (P : Partition α) (comparator : α → α → Bool) : ℕ → List α → Option (List α)
  | _, [] => some []
  | 0, _ :: _ => none
  | fuel + 1, a :: rest =>
    let parted := P.partition (isFree comparator (a :: rest)) (a :: rest)
    (topologicalSort P comparator fuel parted.2).map (parted.1 ++ ·)

/-- The elements up to the last one that precedes the value, and those behind it. -/
def splitBehindLast (comparator : α → α → Bool) (value : α) : List α → List α × List α
  | [] => ([], [])
  | a :: rest =>
    let split := splitBehindLast comparator value rest
    if split.1.isEmpty ∧ ¬ comparator a value then ([], a :: rest) else (a :: split.1, split.2)

def topologicallySortedInsert (comparator : α → α → Bool) (container : List α) (value : α) :
    List α :=
  let split := splitBehindLast comparator value container
  split.1 ++ value :: split.2

/-- No element is behind one it has to precede. -/
def TopologicallySorted (comparator : α → α → Bool) (l : List α) : Prop :=
  l.Pairwise fun a b => ¬ comparator b a

instance (comparator : α → α → Bool) (l : List α) : Decidable (TopologicallySorted comparator l) :=
  inferInstanceAs (Decidable (l.Pairwise _))

variable {comparator : α → α → Bool}

theorem isFree_eq_true {range : List α} {a : α} :
    isFree comparator range a = true ↔ ∀ b ∈ range, ¬ comparator b a := by
  simp [isFree]

/-! ## Sorting -/

/-- Some element of a range is free: going down from an element ends, since nothing comes
    twice on the way. -/
theorem exists_isFree (h : IsStrictPartialOrder comparator)
    {l : List α} (hne : l ≠ []) : ∃ a ∈ l, isFree comparator l a := by
  induction l with
  | nil => exact absurd rfl hne
  | cons a rest ih =>
    by_cases hrest : rest = []
    · subst hrest
      refine ⟨a, List.mem_cons_self, isFree_eq_true.mpr fun b hb => ?_⟩
      rw [List.mem_singleton.mp hb]
      exact h.irrefl a
    rcases ih hrest with ⟨c, hc, hfree⟩
    by_cases hac : comparator a c
    · -- the new element precedes the free one, and nothing in the rest precedes it then
      refine ⟨a, List.mem_cons_self, isFree_eq_true.mpr fun b hb hba => ?_⟩
      rcases List.mem_cons.mp hb with rfl | hmem
      · exact h.irrefl b hba
      · exact isFree_eq_true.mp hfree b hmem (h.trans b a c hba hac)
    · refine ⟨c, List.mem_cons_of_mem a hc, isFree_eq_true.mpr fun b hb => ?_⟩
      rcases List.mem_cons.mp hb with rfl | hmem
      · exact hac
      · exact isFree_eq_true.mp hfree b hmem

theorem partition_perm (P : Partition α) (p : α → Bool) (l : List α) :
    ((P.partition p l).1 ++ (P.partition p l).2).Perm l := by
  refine ((P.satisfying_perm p l).append (P.others_perm p l)).trans ?_
  simp only [Bool.not_eq_true, Bool.decide_eq_false]
  exact List.filter_append_perm p l

theorem mem_partition_fst {P : Partition α} {p : α → Bool} {l : List α} {a : α} :
    a ∈ (P.partition p l).1 ↔ a ∈ l ∧ p a :=
  (P.satisfying_perm p l).mem_iff.trans List.mem_filter

theorem mem_of_mem_partition_snd {P : Partition α} {p : α → Bool} {l : List α} {a : α}
    (h : a ∈ (P.partition p l).2) : a ∈ l :=
  (List.mem_filter.mp ((P.others_perm p l).mem_iff.mp h)).1

/-- A round moves something to the front. -/
theorem length_partition_snd_lt (P : Partition α)
    (h : IsStrictPartialOrder comparator) {l : List α} (hne : l ≠ []) :
    (P.partition (isFree comparator l) l).2.length < l.length := by
  rcases exists_isFree h hne with ⟨a, ha, hfree⟩
  have hpos := List.length_pos_of_mem (mem_partition_fst (P := P).mpr ⟨ha, hfree⟩)
  have hlength := (partition_perm P (isFree comparator l) l).length_eq
  rw [List.length_append] at hlength
  omega

/-- Elements that nothing in the range precedes go in front of the rest of it. -/
theorem topologicallySorted_append {range front behind : List α}
    (hfront : ∀ a ∈ front, a ∈ range ∧ isFree comparator range a) (hbehind : behind ⊆ range)
    (hsorted : TopologicallySorted comparator behind) :
    TopologicallySorted comparator (front ++ behind) := by
  refine List.pairwise_append.mpr ⟨?_, hsorted, ?_⟩
  · refine List.pairwise_iff_forall_sublist.mpr fun {a b} hsub => ?_
    have ha := hfront a (hsub.subset List.mem_cons_self)
    have hb := hfront b (hsub.subset (List.mem_cons_of_mem a List.mem_cons_self))
    exact isFree_eq_true.mp ha.2 b hb.1
  · intro a ha b hb
    exact isFree_eq_true.mp (hfront a ha).2 b (hbehind hb)

/-- The sort comes to an end, with a permutation of the range that is sorted. The induction
    is on the fuel, of which each round uses no more than it moves to the front. -/
theorem topologicalSort_eq_some (P : Partition α)
    (h : IsStrictPartialOrder comparator) (fuel : ℕ) (l : List α) (hfuel : l.length ≤ fuel) :
    ∃ sorted, topologicalSort P comparator fuel l = some sorted ∧ sorted.Perm l ∧
      TopologicallySorted comparator sorted := by
  induction fuel generalizing l with
  | zero =>
    rcases List.length_eq_zero_iff.mp (Nat.le_zero.mp hfuel) with rfl
    exact ⟨[], rfl, .refl _, .nil⟩
  | succ fuel ih =>
    cases l with
    | nil => exact ⟨[], rfl, .refl _, .nil⟩
    | cons a rest =>
      have hlt := length_partition_snd_lt P h (List.cons_ne_nil a rest)
      rcases ih (P.partition (isFree comparator (a :: rest)) (a :: rest)).2 (by omega) with
          ⟨sorted, hsome, hperm, hsorted⟩
      refine ⟨_, by rw [topologicalSort, hsome, Option.map_some], ?_, ?_⟩
      · exact (hperm.append_left _).trans (partition_perm P _ _)
      · refine topologicallySorted_append (fun b hb => mem_partition_fst.mp hb) ?_ hsorted
        intro b hb
        exact mem_of_mem_partition_snd (hperm.mem_iff.mp hb)

/-! ## Insertion -/

theorem splitBehindLast_append (comparator : α → α → Bool) (value : α) (l : List α) :
    (splitBehindLast comparator value l).1 ++ (splitBehindLast comparator value l).2 = l := by
  induction l with
  | nil => rfl
  | cons a rest ih =>
    unfold splitBehindLast
    dsimp only
    split
    · rfl
    · rw [List.cons_append, ih]

/-- Nothing behind the split precedes the value. -/
theorem not_comparator_of_mem_snd {value : α} {l : List α} :
    ∀ b ∈ (splitBehindLast comparator value l).2, ¬ comparator b value := by
  induction l with
  | nil => exact nofun
  | cons a rest ih =>
    unfold splitBehindLast
    dsimp only
    split
    case isTrue hfirst =>
      -- nothing in the rest does either, since the split is in front of it
      have hrest := splitBehindLast_append comparator value rest
      rw [List.isEmpty_iff.mp hfirst.1, List.nil_append] at hrest
      intro b hb
      rcases List.mem_cons.mp hb with rfl | hmem
      · exact hfirst.2
      · exact ih b (hrest.symm ▸ hmem)
    case isFalse => exact ih

/-- The split is in front, or its last element precedes the value. -/
theorem splitBehindLast_fst (comparator : α → α → Bool) (value : α) (l : List α) :
    (splitBehindLast comparator value l).1 = [] ∨
    ∃ front last, (splitBehindLast comparator value l).1 = front ++ [last] ∧
      comparator last value := by
  induction l with
  | nil => exact .inl rfl
  | cons a rest ih =>
    unfold splitBehindLast
    dsimp only
    split
    case isTrue => exact .inl rfl
    case isFalse hnot =>
      rcases ih with hempty | ⟨front, last, hsplit, hlast⟩
      · refine .inr ⟨[], a, by rw [hempty, List.nil_append], ?_⟩
        by_contra hcomparator
        exact hnot ⟨by rw [hempty]; rfl, hcomparator⟩
      · exact .inr ⟨a :: front, last, by rw [hsplit, List.cons_append], hlast⟩

theorem perm_topologicallySortedInsert (comparator : α → α → Bool) (container : List α)
    (value : α) :
    (topologicallySortedInsert comparator container value).Perm (value :: container) := by
  refine List.perm_middle.trans (.of_eq ?_)
  rw [splitBehindLast_append]

/-- An insertion keeps a list sorted. -/
theorem topologicallySorted_insert (h : IsStrictPartialOrder comparator) {container : List α}
    (hsorted : TopologicallySorted comparator container) (value : α) :
    TopologicallySorted comparator (topologicallySortedInsert comparator container value) := by
  have hsplit := splitBehindLast_append comparator value container
  have hbehind : ∀ b ∈ (splitBehindLast comparator value container).2, ¬ comparator b value :=
    not_comparator_of_mem_snd
  rw [← hsplit] at hsorted
  rcases List.pairwise_append.mp hsorted with ⟨hfront, hrest, hbetween⟩
  refine List.pairwise_append.mpr ⟨hfront, List.pairwise_cons.mpr ⟨hbehind, hrest⟩, ?_⟩
  intro a ha b hb
  rcases List.mem_cons.mp hb with rfl | hmem
  · -- what the value preceded would be preceded by the last element that precedes the value
    intro hvalue
    rcases splitBehindLast_fst comparator b container with hempty | ⟨front, last, hfst, hlast⟩
    · exact absurd (hempty ▸ ha) List.not_mem_nil
    have hla := h.trans last b a hlast hvalue
    rw [hfst] at ha hfront
    rcases List.mem_append.mp ha with hin | hin
    · exact (List.pairwise_append.mp hfront).2.2 a hin last List.mem_cons_self hla
    · rw [List.mem_singleton.mp hin] at hla
      exact h.irrefl last hla
  · exact hbetween a ha b hmem

/-- The sort ends with a permutation of any list that is topologically sorted, and an
    insertion into a sorted list adds the value and keeps it so. -/
theorem topologically_sorts (P : Partition α) (comparator : α → α → Bool)
    (h : IsStrictPartialOrder comparator) :
    (∀ l, ∃ enough, ∀ fuel ≥ enough, ∃ sorted, topologicalSort P comparator fuel l = some sorted ∧
      sorted.Perm l ∧ TopologicallySorted comparator sorted) ∧
    ∀ container value, TopologicallySorted comparator container →
      (topologicallySortedInsert comparator container value).Perm (value :: container) ∧
      TopologicallySorted comparator (topologicallySortedInsert comparator container value) := by
  refine ⟨fun l => ⟨l.length, fun fuel hfuel => ?_⟩, fun container value hsorted => ⟨?_, ?_⟩⟩
  · exact topologicalSort_eq_some P h fuel l hfuel
  · exact perm_topologicallySortedInsert comparator container value
  · exact topologicallySorted_insert h hsorted value

/-- One number properly divides another, which is not a total order. -/
def properlyDivides (a b : ℕ) : Bool := a ≠ 0 ∧ b % a = 0 ∧ a < b

theorem isStrictPartialOrder_properlyDivides : IsStrictPartialOrder properlyDivides := by
  constructor
  case irrefl =>
    intro a ha
    exact absurd (of_decide_eq_true ha).2.2 (lt_irrefl a)
  case trans =>
    intro a b c hab hbc
    rcases of_decide_eq_true hab with ⟨ha, hdvd, hlt⟩
    rcases of_decide_eq_true hbc with ⟨_, hdvd', hlt'⟩
    refine decide_eq_true ⟨ha, ?_, Nat.lt_trans hlt hlt'⟩
    exact Nat.mod_eq_zero_of_dvd
      (Nat.dvd_trans (Nat.dvd_of_mod_eq_zero hdvd) (Nat.dvd_of_mod_eq_zero hdvd'))

/-- Five numbers are sorted by divisibility, and another one is inserted. -/
theorem topologically_sorts_divisors :
    (∃ enough, ∀ fuel ≥ enough, ∃ sorted,
      topologicalSort (Partition.stable ℕ) properlyDivides fuel [12, 4, 5, 2, 10] = some sorted ∧
      sorted.Perm [12, 4, 5, 2, 10] ∧ TopologicallySorted properlyDivides sorted) ∧
    (topologicallySortedInsert properlyDivides [5, 2, 4, 10, 12] 6).Perm [6, 5, 2, 4, 10, 12] ∧
    TopologicallySorted properlyDivides
      (topologicallySortedInsert properlyDivides [5, 2, 4, 10, 12] 6) := by
  have h := topologically_sorts (Partition.stable ℕ) properlyDivides
    isStrictPartialOrder_properlyDivides
  exact ⟨h.1 _, h.2 _ 6 (by decide)⟩

example : topologicalSort (Partition.stable ℕ) properlyDivides 9 [12, 4, 5, 2, 10] =
    some [5, 2, 4, 10, 12] := by
  decide

end NeoSwift.Misc
