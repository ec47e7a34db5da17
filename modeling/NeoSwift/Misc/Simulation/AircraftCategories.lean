import NeoSwift.Misc.Simulation.ModelSelection

/-!
# Aircraft Categories

`CAircraftCategory` and the searches of `CAircraftCategoryList` in the tree of categories. A
category has three levels, of which the last ones are zero if it is not a leaf.

`findInParallelBranch` goes through the levels from the first to the last one of a list that is
sorted, and assigns each to one of the levels of a category. A category that does not have that
level, and a last level that cannot be exceeded, make this undefined.

## Main definitions

* `CAircraftCategory.getLevel`, `compareByLevel`: The place of a category in the tree.
* `findSiblings`, `findInParallelBranch`: Categories next to one.
* `BranchesDefined`: The categories for which the latter can be told.

## Theorems

* `mem_of_mem_findSiblings`: Siblings are among the categories searched.
* `findInParallelBranch_isSome_iff`: When parallel branches can be told.
-/

namespace NeoSwift.Misc

namespace Memoized

open Aviation (UnicodeData)

namespace CAircraftCategory

variable (category : CAircraftCategory)

/-- Without a name and a description. -/
def isNull : Bool := category.name.isEmpty && category.description.isEmpty

def matchesName (u : UnicodeData) (name : QString) : Bool := u.sameText name category.name

/-- Without levels below. -/
def isFirstLevel : Bool := decide (category.l3 = 0 ∧ category.l2 = 0 ∧ 0 < category.l1)

/-- How many levels it has. -/
def getDepth : ℕ :=
  if category.isFirstLevel then 1
  else if category.l3 = 0 ∧ 0 < category.l2 ∧ 0 < category.l1 then 2
  else 3

/-- The levels that are set. -/
def getLevel : List Int32 := [category.l1, category.l2, category.l3].filter (fun l => 0 < l)

def isLevel (level : List Int32) : Bool := [category.l1, category.l2, category.l3] == level

/-- By a part of the levels. -/
def matchesLevel : List Int32 → Bool
  | [] => false
  | [l1] => l1 == category.l1
  | [l1, l2] => l1 == category.l1 && (decide (l2 ≤ 0) || l2 == category.l2)
  | l1 :: l2 :: l3 :: _ => l1 == category.l1 && (decide (l2 ≤ 0) || l2 == category.l2) &&
      (decide (l3 ≤ 0) || l3 == category.l3)

/-- Level by level. -/
def compareByLevel (other : CAircraftCategory) : Ordering :=
  ((compare category.l1 other.l1).then (compare category.l2 other.l2)).then
    (compare category.l3 other.l3)

end CAircraftCategory

namespace CAircraftCategoryList

variable (u : UnicodeData) (categories : List CAircraftCategory)

/-- By first, second and third level. -/
def sortByLevel : List CAircraftCategory :=
  categories.mergeSort (fun a b => a.compareByLevel b != .gt)

def findByName (name : QString) : List CAircraftCategory :=
  categories.filter (fun category => category.matchesName u name)

def findFirstLevels : List CAircraftCategory := categories.filter CAircraftCategory.isFirstLevel

/-- The categories of a first level. -/
def findByFirstLevel (level : Int32) : List CAircraftCategory :=
  categories.filter (fun category => category.l1 == level)

/-- `CSetBuilder::sortAndDeduplicate`. -/
def sortAndDeduplicate (list : List Int32) : List Int32 :=
  (list.insertionSort (· ≤ ·)).destutter (· ≠ ·)

/-- The levels that occur, without zero. -/
def levelsOf (level : CAircraftCategory → Int32) : List Int32 :=
  (sortAndDeduplicate (categories.map level)).erase 0

example : sortAndDeduplicate [3, 1, 3, 0, 1] = [0, 1, 3] := by decide

/-- Sorted and without duplicates. -/
def getFirstLevels : List Int32 := levelsOf categories CAircraftCategory.l1

def getSecondLevels : List Int32 := levelsOf categories CAircraftCategory.l2

/-- Categories as deep as there are levels are left out if they are taken for roots. -/
def findByLevel (level : List Int32) (noRootNode : Bool) : List CAircraftCategory :=
  if level.isEmpty then []
  else categories.filter (fun category =>
    !(noRootNode && level.length == category.getDepth) && category.matchesLevel level)

/-- The first category at these levels, or a null one. -/
def findByFullLevel (level : List Int32) : CAircraftCategory :=
  if level.length ≠ 3 then {}
  else (categories.find? (fun category => category.isLevel level)).getD {}

/-- What has the same parent. -/
def findSiblings (category : CAircraftCategory) : List CAircraftCategory :=
  let levels := category.getLevel
  let siblings := if levels.length < 2 then findFirstLevels categories
    else findByLevel categories levels.dropLast true
  siblings.filter (fun sibling => sibling != category)

/-- The loop over the levels, where one of the category is replaced. -/
def branchesFrom (category : CAircraftCategory) (index : ℕ) (front back : Int32) :
    Option (List CAircraftCategory) :=
  if back < front then some []
  -- There is no such level, or the counter of the loop cannot go on.
  else if category.getLevel.length ≤ index ∨ back = Int32.maxValue then none
  else some ((List.range (back.toInt - front.toInt + 1).toNat).filterMap fun (n : ℕ) =>
    let level := category.getLevel.set index (front + Int32.ofNat n)
    if category.isLevel level then none
    else
      let cat := findByFullLevel categories level
      if cat.isNull then none else some cat)

/-- The levels the loop goes through. -/
def loopLevels (category : CAircraftCategory) : List Int32 :=
  if category.getDepth == 2 then getFirstLevels categories
  else getSecondLevels categories

/-- The categories with another number at one of the levels. -/
def findInParallelBranch (category : CAircraftCategory) : Option (List CAircraftCategory) :=
  if category.isNull || categories.isEmpty then some []
  else if category.isFirstLevel then some []
  else
    let index := if category.getDepth == 2 then 0 else 1
    match (loopLevels categories category).head?,
      (loopLevels categories category).getLast? with
    | some front, some back => branchesFrom categories category index front back
    | _, _ => some []

/-- The category has the level that is replaced, and the loop over the levels ends, unless
    there is nothing to replace. -/
def BranchesDefined (category : CAircraftCategory) : Prop :=
  category.isNull = true ∨ categories = [] ∨ category.isFirstLevel = true ∨
    ∀ front back, (loopLevels categories category).head? = some front →
      (loopLevels categories category).getLast? = some back → ¬back < front →
        (category.getDepth = 2 ∨ 1 < category.getLevel.length) ∧ back ≠ Int32.maxValue

/-! ## What is found -/

variable {categories}

variable {category : CAircraftCategory}

theorem mem_sortByLevel : category ∈ sortByLevel categories ↔ category ∈ categories :=
  (List.mergeSort_perm categories _).mem_iff

theorem sortByLevel_eq_nil_iff : sortByLevel categories = [] ↔ categories = [] := by
  rw [← List.length_eq_zero_iff, sortByLevel, List.length_mergeSort, List.length_eq_zero_iff]

theorem mem_of_mem_findSiblings {category sibling : CAircraftCategory}
    (h : sibling ∈ findSiblings categories category) : sibling ∈ categories := by
  have hmem := List.mem_of_mem_filter h
  split_ifs at hmem with hlevels
  · exact List.mem_of_mem_filter hmem
  · unfold findByLevel at hmem
    split_ifs at hmem with hempty
    · cases hmem
    · exact List.mem_of_mem_filter hmem

/-- A category of the second level has a first one. -/
theorem getLevel_length_pos (h : category.getDepth = 2) : 0 < category.getLevel.length := by
  unfold CAircraftCategory.getDepth at h
  split_ifs at h with hfirst hsecond
  · exact absurd h (by omega)
  · have hmem : category.l1 ∈ category.getLevel :=
      List.mem_filter.mpr ⟨List.mem_cons_self, decide_eq_true hsecond.2.2⟩
    exact List.length_pos_of_mem hmem
  · exact absurd h (by omega)

theorem branchesFrom_isSome_iff {index : ℕ} {front back : Int32} :
    (branchesFrom categories category index front back).isSome = true ↔
      (¬back < front → index < category.getLevel.length ∧ back ≠ Int32.maxValue) := by
  unfold branchesFrom
  split_ifs with hloop hundefined
  · exact iff_of_true rfl fun h => absurd hloop h
  · refine iff_of_false Bool.false_ne_true fun h => ?_
    rcases hundefined with hlevel | hback
    · exact absurd (h hloop).1 (Nat.not_lt.mpr hlevel)
    · exact (h hloop).2 hback
  · rw [not_or, Nat.not_le] at hundefined
    exact iff_of_true rfl fun _ => hundefined

theorem findInParallelBranch_isSome_iff :
    (findInParallelBranch categories category).isSome = true ↔
      BranchesDefined categories category := by
  unfold findInParallelBranch BranchesDefined
  -- The source returns before its loops for a null category, no categories or a first level.
  by_cases hnull : category.isNull = true
  · rw [if_pos (by rw [hnull]; rfl)]
    exact iff_of_true rfl (Or.inl hnull)
  by_cases hempty : categories = []
  · rw [if_pos (by rw [hempty]; exact Bool.or_true _)]
    exact iff_of_true rfl (Or.inr (Or.inl hempty))
  rw [if_neg (by rw [Bool.or_eq_true, List.isEmpty_iff]; exact not_or.mpr ⟨hnull, hempty⟩),
    or_iff_right hnull, or_iff_right hempty]
  by_cases hfirst : category.isFirstLevel = true
  · rw [if_pos hfirst]
    exact iff_of_true rfl (Or.inl hfirst)
  rw [if_neg hfirst, or_iff_right hfirst]
  -- The loop runs from the level of the first category to the one of the last.
  cases hfront : (loopLevels categories category).head? with
  | none => exact iff_of_true rfl fun _ _ h => absurd h.symm (Option.some_ne_none _)
  | some front =>
    cases hback : (loopLevels categories category).getLast? with
    | none => exact iff_of_true rfl fun _ _ _ h => absurd h.symm (Option.some_ne_none _)
    | some back =>
      rw [branchesFrom_isSome_iff]
      have hloop : ∀ p : Int32 → Int32 → Prop,
          (∀ front' back', some front = some front' → some back = some back' → p front' back') ↔
            p front back := fun p =>
        ⟨fun h => h front back rfl rfl, by rintro h _ _ ⟨⟩ ⟨⟩; exact h⟩
      rw [hloop fun front back => ¬back < front →
        (category.getDepth = 2 ∨ 1 < category.getLevel.length) ∧ back ≠ Int32.maxValue]
      refine imp_congr_right fun _ => and_congr_left fun _ => ?_
      -- At a depth of two the level has a number, so it is not empty.
      by_cases hdepth : category.getDepth = 2
      · rw [if_pos (beq_iff_eq.mpr hdepth)]
        exact iff_of_true (getLevel_length_pos hdepth) (Or.inl hdepth)
      · rw [if_neg (mt beq_iff_eq.mp hdepth), or_iff_right hdepth]

end CAircraftCategoryList

end Memoized

end NeoSwift.Misc
