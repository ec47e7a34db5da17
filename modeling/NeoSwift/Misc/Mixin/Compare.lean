import NeoSwift.Lib.Comparison

/-!
# Comparing by Metaclass

A value class lists its members in a metaclass, and inherits `==`, `<` and `compare` from
mixins which fold over the list. The three folds are written separately: equality is a
conjunction, `compare` keeps the first difference, and less-than carries a second flag along,
that the right hand side has already turned out to be smaller.

Each starts from what the base class says and leaves out the members that are disabled for
comparison; a member marked as case insensitive is compared so by all of them. Hence all
three are read off one comparison, the lexicographic one over the base class and the members
that count.

## Main definitions

* `ValueType`: The type of a member, with the operations the mixins call.
* `MetaMember`: A member with its flags.
* `MetaClass`: A chain of classes, each with its members.
* `MetaClass.equals`, `MetaClass.less`, `MetaClass.compare`: The three folds.

## Theorems

* `MetaClass.comparison`: The comparison is oriented and transitive.
* `MetaClass.equals_iff`: Equality is that it finds no difference.
* `MetaClass.less_iff`: Less-than is that it is negative.
-/

namespace NeoSwift.Misc

/-- `compare` where the type has one, else the comparison that belongs to `<`. -/
def callCompare {α : Type} (less : α → α → Bool) : Option (α → α → ℤ) → α → α → ℤ
  | some cmp => cmp
  | none => threeWay less

/-- The type of a member: what it offers to the mixins, and that these operations belong
together. -/
structure ValueType where
  Carrier : Type
  /-- The value of a member nothing was assigned to. -/
  default : Carrier
  equal : Carrier → Carrier → Bool
  less : Carrier → Carrier → Bool
  /-- Not every type has it. -/
  compare : Option (Carrier → Carrier → ℤ)
  /-- `a.compare(b, Qt::CaseInsensitive)`. -/
  compareCaseInsensitive : Carrier → Carrier → ℤ
  qHash : Carrier → UInt64
  equal_iff : ∀ a b, equal a b = true ↔ callCompare less compare a b = 0
  less_iff : ∀ a b, less a b = true ↔ callCompare less compare a b < 0
  comparison : IsComparison (callCompare less compare)
  comparison_caseInsensitive : IsComparison compareCaseInsensitive
  qHash_eq : ∀ a b, equal a b = true → qHash a = qHash b

/-- A member with those of its flags that the mixins for comparison and hashing read. -/
structure MetaMember where
  type : ValueType
  disabledForComparison : Bool
  disabledForHashing : Bool
  caseInsensitiveComparison : Bool

namespace MetaMember

variable (m : MetaMember)

def membersEqual (a b : m.type.Carrier) : Bool :=
  if m.caseInsensitiveComparison then m.type.compareCaseInsensitive a b == 0
  else m.type.equal a b

/-- The flag `io_greaterThan` afterwards, and the result. -/
def membersLess (greaterThan : Bool) (a b : m.type.Carrier) : Bool × Bool :=
  if greaterThan then (greaterThan, false)
  else if m.caseInsensitiveComparison then
    (decide (m.type.compareCaseInsensitive b a < 0), decide (m.type.compareCaseInsensitive a b < 0))
  else (m.type.less b a, m.type.less a b)

def membersCompare (a b : m.type.Carrier) : ℤ :=
  if m.caseInsensitiveComparison then m.type.compareCaseInsensitive a b
  else callCompare m.type.less m.type.compare a b

/-- What the member contributes to a comparison. -/
def difference (a b : m.type.Carrier) : ℤ :=
  if m.disabledForComparison then 0 else m.membersCompare a b

variable {m}

theorem membersCompare_comparison : IsComparison m.membersCompare := by
  unfold membersCompare
  by_cases hcase : m.caseInsensitiveComparison = true
  · simp only [if_pos hcase]
    exact m.type.comparison_caseInsensitive
  · simp only [if_neg hcase]
    exact m.type.comparison

theorem difference_comparison : IsComparison m.difference := by
  unfold difference
  by_cases hdisabled : m.disabledForComparison = true
  · simp only [if_pos hdisabled]
    exact IsComparison.zero
  · simp only [if_neg hdisabled]
    exact membersCompare_comparison

theorem membersEqual_iff {a b : m.type.Carrier} :
    m.membersEqual a b = true ↔ m.membersCompare a b = 0 := by
  unfold membersEqual membersCompare
  split
  · exact beq_iff_eq
  · exact m.type.equal_iff a b

theorem membersLess_false {a b : m.type.Carrier} :
    m.membersLess false a b
      = (decide (m.membersCompare b a < 0), decide (m.membersCompare a b < 0)) := by
  unfold membersLess membersCompare
  rw [if_neg Bool.false_ne_true]
  split
  · rfl
  · refine Prod.ext ?_ ?_
    · exact Bool.eq_iff_iff.mpr ((m.type.less_iff b a).trans decide_eq_true_iff.symm)
    · exact Bool.eq_iff_iff.mpr ((m.type.less_iff a b).trans decide_eq_true_iff.symm)

end MetaMember

/-- The values of the members of a class. -/
@[reducible] def Members : List MetaMember → Type
  | [] => Unit
  | m :: ms => m.type.Carrier × Members ms

/-- A class of values with the members it declares, on top of those of its base class. At the
end of the chain there is `CEmpty`, or no base class at all. -/
inductive MetaClass : Type 1
  | empty
  | derived (base : MetaClass) (members : List MetaMember)

/-- The values of a class. -/
@[reducible] def MetaClass.Object : MetaClass → Type
  | .empty => Unit
  | .derived base members => base.Object × Members members

/-! ## The folds over the members -/

/-- `forEachMember` in `equals`, from a result so far. -/
def equalsFrom : (ms : List MetaMember) → Bool → Members ms → Members ms → Bool
  | [], result, _, _ => result
  | m :: ms, result, a, b =>
    equalsFrom ms
      (if m.disabledForComparison then result else result && m.membersEqual a.1 b.1) a.2 b.2

/-- `forEachMember` in `less`, from a result and `gt` so far. Where the result is true the
next member is not looked at, and `gt` stays. -/
def lessFrom : (ms : List MetaMember) → Bool → Bool → Members ms → Members ms → Bool
  | [], result, _, _, _ => result
  | m :: ms, result, gt, a, b =>
    if m.disabledForComparison || result then lessFrom ms result gt a.2 b.2
    else
      let step := m.membersLess gt a.1 b.1
      lessFrom ms step.2 step.1 a.2 b.2

/-- `forEachMember` in `compareImpl`, from a result so far. -/
def compareFrom : (ms : List MetaMember) → ℤ → Members ms → Members ms → ℤ
  | [], result, _, _ => result
  | m :: ms, result, a, b =>
    compareFrom ms
      (if m.disabledForComparison then result
        else if result ≠ 0 then result else m.membersCompare a.1 b.1) a.2 b.2

/-- A fold that starts from a difference keeps it. -/
theorem compareFrom_eq (ms : List MetaMember) (result : ℤ) (a b : Members ms) :
    compareFrom ms result a b = firstNonzero result (compareFrom ms 0 a b) := by
  induction ms generalizing result with
  | nil =>
    unfold compareFrom firstNonzero
    split
    · rfl
    · next h => exact not_not.mp h
  | cons m ms ih =>
    unfold compareFrom
    by_cases hdisabled : m.disabledForComparison = true
    · rw [if_pos hdisabled, if_pos hdisabled]
      exact ih result a.2 b.2
    · rw [if_neg hdisabled, if_neg hdisabled]
      -- The first difference wins, whichever way the members are grouped.
      calc compareFrom ms (firstNonzero result (m.membersCompare a.1 b.1)) a.2 b.2
          = firstNonzero (firstNonzero result (m.membersCompare a.1 b.1))
              (compareFrom ms 0 a.2 b.2) := ih _ a.2 b.2
        _ = firstNonzero result
              (firstNonzero (m.membersCompare a.1 b.1) (compareFrom ms 0 a.2 b.2)) :=
            firstNonzero_assoc _ _ _
        _ = firstNonzero result (compareFrom ms (m.membersCompare a.1 b.1) a.2 b.2) :=
            congrArg (firstNonzero result) (ih _ a.2 b.2).symm

theorem compareFrom_cons (m : MetaMember) (ms : List MetaMember) (a b : Members (m :: ms)) :
    compareFrom (m :: ms) 0 a b
      = firstNonzero (m.difference a.1 b.1) (compareFrom ms 0 a.2 b.2) := by
  conv_lhs => unfold compareFrom
  rw [compareFrom_eq]
  rfl

theorem compareFrom_comparison (ms : List MetaMember) : IsComparison (compareFrom ms 0) := by
  induction ms with
  | nil => exact IsComparison.zero
  | cons m ms ih =>
    have hsplit : compareFrom (m :: ms) 0
        = fun a b => firstNonzero (m.difference a.1 b.1) (compareFrom ms 0 a.2 b.2) := by
      funext a b
      exact compareFrom_cons m ms a b
    rw [hsplit]
    exact IsComparison.firstNonzero (MetaMember.difference_comparison.comap Prod.fst)
      (ih.comap Prod.snd)

theorem equalsFrom_iff (ms : List MetaMember) (result : Bool) (a b : Members ms) :
    equalsFrom ms result a b = true ↔ result = true ∧ compareFrom ms 0 a b = 0 := by
  induction ms generalizing result with
  | nil => exact ⟨fun h => ⟨h, rfl⟩, fun h => h.1⟩
  | cons m ms ih =>
    rw [compareFrom_cons, firstNonzero_eq_zero]
    unfold equalsFrom MetaMember.difference
    rw [ih]
    by_cases hdisabled : m.disabledForComparison = true
    · rw [if_pos hdisabled, if_pos hdisabled]
      exact ⟨fun h => ⟨h.1, rfl, h.2⟩, fun h => ⟨h.1, h.2.2⟩⟩
    · rw [if_neg hdisabled, if_neg hdisabled, Bool.and_eq_true, MetaMember.membersEqual_iff,
        and_assoc]

/-- Once the right hand side has turned out to be smaller, no member changes that. -/
theorem lessFrom_iff (ms : List MetaMember) (result gt : Bool) (a b : Members ms) :
    lessFrom ms result gt a b = true
      ↔ result = true ∨ gt = false ∧ compareFrom ms 0 a b < 0 := by
  induction ms generalizing result gt with
  | nil => exact ⟨Or.inl, fun h => h.elim id fun h => absurd h.2 (lt_irrefl _)⟩
  | cons m ms ih =>
    rw [compareFrom_cons, firstNonzero_neg]
    unfold lessFrom MetaMember.difference
    by_cases hdisabled : m.disabledForComparison = true
    · rw [hdisabled, Bool.true_or, if_pos rfl, ih]
      simp
    · rw [if_neg hdisabled, Bool.eq_false_iff.mpr hdisabled, Bool.false_or]
      cases result with
      | true =>
        rw [if_pos rfl, ih]
        exact iff_of_true (Or.inl rfl) (Or.inl rfl)
      | false =>
        rw [if_neg Bool.false_ne_true, ih]
        cases gt with
        | true =>
          refine iff_of_false ?_ ?_ <;> simp [MetaMember.membersLess]
        | false =>
          -- the flag for the next member says that this one compares greater
          have hswap := (MetaMember.membersCompare_comparison (m := m)).neg_iff
            (a := b.1) (b := a.1)
          rw [MetaMember.membersLess_false]
          simp only [decide_eq_true_eq, decide_eq_false_iff_not, Bool.false_eq_true, false_or,
            true_and]
          omega

namespace MetaClass

/-! ## The chain of base classes -/

def equals : (M : MetaClass) → M.Object → M.Object → Bool
  | .empty, _, _ => true
  | .derived base ms, a, b => equalsFrom ms (base.equals a.1 b.1) a.2 b.2

def less : (M : MetaClass) → M.Object → M.Object → Bool
  | .empty, _, _ => false
  | .derived base ms, a, b => lessFrom ms (base.less a.1 b.1) (base.less b.1 a.1) a.2 b.2

/-- `compareImpl`. -/
def compare : (M : MetaClass) → M.Object → M.Object → ℤ
  | .empty, _, _ => 0
  | .derived base ms, a, b => compareFrom ms (base.compare a.1 b.1) a.2 b.2

theorem compare_derived (base : MetaClass) (ms : List MetaMember) (a b : (derived base ms).Object) :
    (derived base ms).compare a b
      = firstNonzero (base.compare a.1 b.1) (compareFrom ms 0 a.2 b.2) := by
  conv_lhs => unfold compare
  exact compareFrom_eq ms _ a.2 b.2

theorem comparison (M : MetaClass) : IsComparison M.compare := by
  induction M with
  | empty => exact IsComparison.zero
  | derived base ms ih =>
    have hsplit : (derived base ms).compare
        = fun a b => firstNonzero (base.compare a.1 b.1) (compareFrom ms 0 a.2 b.2) := by
      funext a b
      exact compare_derived base ms a b
    rw [hsplit]
    exact IsComparison.firstNonzero (ih.comap Prod.fst)
      ((compareFrom_comparison ms).comap Prod.snd)

theorem equals_iff (M : MetaClass) (a b : M.Object) : M.equals a b = true ↔ M.compare a b = 0 := by
  induction M with
  | empty => exact iff_of_true rfl rfl
  | derived base ms ih =>
    rw [compare_derived, firstNonzero_eq_zero, ← ih]
    exact equalsFrom_iff ms _ a.2 b.2

theorem less_iff (M : MetaClass) (a b : M.Object) : M.less a b = true ↔ M.compare a b < 0 := by
  induction M with
  | empty => exact iff_of_false Bool.false_ne_true (lt_irrefl _)
  | derived base ms ih =>
    have hswap := base.comparison.neg_iff (a := b.1) (b := a.1)
    rw [compare_derived, firstNonzero_neg]
    refine (lessFrom_iff ms _ _ a.2 b.2).trans ?_
    rw [ih, ← Bool.not_eq_true, ih]
    omega

end MetaClass

end NeoSwift.Misc
