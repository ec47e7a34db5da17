import Mathlib.Data.List.Lex
import NeoSwift.Lib.Comparison

/-!
# Less-than by Metaclass

`LessThanByMetaClass` for a class whose members are given by what they are less in. A member of
a class has the less-than of its own class, which is why these are put together from each other.

A less-than comes with the comparison it belongs to. So values of which neither is less than the
other are alike in the sense of an equivalence.

## Main definitions

* `LessOperator`: A less-than and its comparison.
* `LessOperator.ofKey`, `LessOperator.comap`: By a key, and by a member.
* `LessOperator.byMetaClass`: By all members.
* `LessOperator.alike`: Neither is less than the other.

## Theorems

* `lessMembers_iff`: What the fold over the members finds.
* `alike_iff`, `alike_symm`, `alike_trans`: An equivalence.
-/

namespace NeoSwift.Misc

/-- `operator<`, and the comparison it belongs to. -/
structure LessOperator (α : Type) where
  less : α → α → Bool
  cmp : α → α → ℤ
  comparison : IsComparison cmp
  less_iff : ∀ a b, less a b = true ↔ cmp a b < 0

namespace LessOperator

variable {α β : Type}

theorem ofKey_comparison {κ : Type} [LinearOrder κ] (key : α → κ) :
    IsComparison fun a b => threeWay (fun k l : κ => decide (k < l)) (key a) (key b) :=
  (IsComparison.threeWay fun _ _ => decide_eq_true_iff).comap key

theorem ofKey_less_iff {κ : Type} [LinearOrder κ] (key : α → κ) (a b : α) :
    decide (key a < key b) = true
      ↔ threeWay (fun k l : κ => decide (k < l)) (key a) (key b) < 0 := by
  rw [threeWay_neg fun _ _ => decide_eq_true_iff, decide_eq_true_eq]

/-- By a key, such as a member of a plain type. -/
def ofKey {κ : Type} [LinearOrder κ] (key : α → κ) : LessOperator α where
  less a b := key a < key b
  cmp a b := threeWay (fun k l : κ => decide (k < l)) (key a) (key b)
  comparison := ofKey_comparison key
  less_iff := ofKey_less_iff key

/-- By a member that has a less-than. -/
def comap (o : LessOperator β) (f : α → β) : LessOperator α where
  less a b := o.less (f a) (f b)
  cmp a b := o.cmp (f a) (f b)
  comparison := o.comparison.comap f
  less_iff a b := o.less_iff (f a) (f b)

/-- `forEachMember` in `less`, from a result and `gt` so far. -/
def lessMembers : List (LessOperator α) → Bool → Bool → α → α → Bool
  | [], result, _, _, _ => result
  | m :: ms, result, gt, a, b =>
    if result then lessMembers ms result gt a b
    -- `membersLess`
    else if gt then lessMembers ms false gt a b
    else lessMembers ms (m.less a b) (m.less b a) a b

/-- The first difference. -/
def compareMembers : List (LessOperator α) → α → α → ℤ
  | [], _, _ => 0
  | m :: ms, a, b => firstNonzero (m.cmp a b) (compareMembers ms a b)

variable (ms : List (LessOperator α))

theorem compareMembers_comparison : IsComparison (compareMembers ms) := by
  induction ms with
  | nil => exact IsComparison.zero
  | cons m ms ih => exact m.comparison.firstNonzero ih

theorem lessMembers_true (gt : Bool) (a b : α) : lessMembers ms true gt a b = true := by
  induction ms with
  | nil => rfl
  | cons m ms ih => rwa [lessMembers]

theorem lessMembers_greater (a b : α) : lessMembers ms false true a b = false := by
  induction ms with
  | nil => rfl
  | cons m ms ih => rwa [lessMembers]

/-- The fold finds whether the first difference is a less. -/
theorem lessMembers_iff (a b : α) :
    lessMembers ms false false a b = true ↔ compareMembers ms a b < 0 := by
  induction ms with
  | nil => exact iff_of_false Bool.false_ne_true (lt_irrefl _)
  | cons m ms ih =>
    rw [lessMembers, if_neg Bool.false_ne_true, if_neg Bool.false_ne_true, compareMembers,
      firstNonzero_neg]
    have hless := m.less_iff a b
    have hgreater := m.less_iff b a
    rw [m.comparison.neg_iff] at hgreater
    -- The first member that is less or greater decides, and otherwise the next members do.
    cases hab : m.less a b with
    | true =>
      rw [lessMembers_true]
      exact iff_of_true rfl (Or.inl (hless.mp hab))
    | false =>
      rw [hab] at hless
      cases hba : m.less b a with
      | true =>
        rw [lessMembers_greater]
        have hpos := hgreater.mp hba
        exact iff_of_false Bool.false_ne_true (by omega)
      | false =>
        rw [hba] at hgreater
        rw [ih]
        simp only [Bool.false_eq_true, false_iff] at hless hgreater
        omega

/-- `LessThanByMetaClass`, without a base class. -/
def byMetaClass (members : List (LessOperator α)) : LessOperator α where
  less := lessMembers members false false
  cmp := compareMembers members
  comparison := compareMembers_comparison members
  less_iff := lessMembers_iff members

/-! ## Values that are alike -/

variable (o : LessOperator α)

/-- Keys that an ordered map takes for the same. -/
def alike (a b : α) : Bool := !o.less a b && !o.less b a

variable {o}

theorem alike_iff {a b : α} : o.alike a b = true ↔ o.cmp a b = 0 := by
  have hless := o.less_iff a b
  have hgreater := o.less_iff b a
  rw [o.comparison.neg_iff] at hgreater
  unfold alike
  rw [Bool.and_eq_true, Bool.not_eq_true', Bool.not_eq_true', ← Bool.not_eq_true,
    ← Bool.not_eq_true, hless, hgreater]
  omega

theorem alike_refl (a : α) : o.alike a a = true := alike_iff.mpr o.comparison.self

theorem alike_symm {a b : α} (h : o.alike a b = true) : o.alike b a = true := by
  unfold alike at h ⊢
  rwa [Bool.and_comm]

theorem alike_trans {a b c : α} (hab : o.alike a b = true) (hbc : o.alike b c = true) :
    o.alike a c = true := by
  rw [alike_iff, ← ordering_eq_eq] at hab hbc ⊢
  exact @Std.TransCmp.eq_trans α (fun a b => ordering (o.cmp a b)) o.comparison a b c hab hbc

end LessOperator

end NeoSwift.Misc
