import NeoSwift.Core.AircraftMatcher.StepwiseReduce
import NeoSwift.Misc.Simulation.AircraftCategories

/-!
# Category Matching

`CCategoryMatcher` keeps the gliders among the categories it was given, and reduces a model
set to gliders if the remote aircraft is one. The list of gliders is replaced only by
categories that have gliders, so that those of an earlier call are kept otherwise.

The result is not defined where the categories next to the one of the remote aircraft are
not. Log messages are left out.

## Main definitions

* `CCategoryMatcher`, `setCategories`: The lists that are kept.
* `reduceByCategories`: The reduction.
* `ReducesToGliders`: What it is to return.
* `LeavesGliders`, `FindsGlider`: The calls for which it does not.

## Theorems

* `gliders_setCategories`: Which gliders are kept.
* `reduces_to_gliders_iff`: When the reduction returns what it is to.
-/

namespace NeoSwift.Core

namespace CategoryMatching

open Aviation (UnicodeData)
open Misc.Memoized Misc.Memoized.CAircraftCategoryList MatchingMode

/-- `CAircraftMatcherSetup::MatchingMode`, the categories. -/
def byCategoryGlider : MatchingMode := 2 ^ 20

def byCategoryMilitary : MatchingMode := 2 ^ 21

def useCategoryMatching (mode : MatchingMode) : Bool :=
  mode.testFlag byCategoryGlider || mode.testFlag byCategoryMilitary

/-- `CCategoryMatcher`. -/
structure CCategoryMatcher where
  all : List CAircraftCategory := []
  gliders : List CAircraftCategory := []
  militaryWingAircraft : List CAircraftCategory := []
  militaryRotorAircraft : List CAircraftCategory := []

section Model

variable (u : UnicodeData)

/-- The first level of the categories with a name. -/
def firstLevelOf (name : String) (categories : List CAircraftCategory) : Option Int32 :=
  (findFirstLevels (findByName u categories name.toList)).head?.map CAircraftCategory.l1

/-- The categories of the first level with a name. Without any, the list is as it was. -/
def specialized (name : String) (previous categories : List CAircraftCategory) :
    List CAircraftCategory :=
  match firstLevelOf u name categories with
  | none => previous
  | some fl => sortByLevel (findByFirstLevel categories fl)

/-- All categories, and those of gliders and military aircraft where there are any. -/
def setCategories (matcher : CCategoryMatcher) (categories : List CAircraftCategory) :
    CCategoryMatcher where
  all := sortByLevel categories
  gliders := specialized u "glider" matcher.gliders categories
  militaryWingAircraft := specialized u "wing military" matcher.militaryWingAircraft categories
  militaryRotorAircraft := specialized u "rotor military" matcher.militaryRotorAircraft categories

/-- The first level of gliders, -1 if there is none. -/
def gliderFirstLevel (matcher : CCategoryMatcher) : Int32 :=
  match matcher.gliders with
  | [] => -1
  | front :: _ => front.l1

def hasCategory (icao : CAircraftIcaoCode) : Bool := !icao.category.isNull

/-- By its designator, or by the first level of its category. -/
def isGlider (matcher : CCategoryMatcher) (icao : CAircraftIcaoCode) : Bool :=
  icao.designator == "GLID" ||
    (decide (0 ≤ gliderFirstLevel matcher) && hasCategory icao &&
      icao.category.l1 == gliderFirstLevel matcher)

/-! ## Searches in a model set -/

section Searches

variable (models : List CAircraftModel)

/-- The models whose category has the first level. -/
def findByCategoryFirstLevel (firstLevel : Int32) : List CAircraftModel :=
  if firstLevel < 0 then []
  else models.filter (fun model =>
    hasCategory model.aircraftIcao && model.aircraftIcao.category.l1 == firstLevel)

/-- The models of the category. -/
def findByCategory (category : CAircraftCategory) : List CAircraftModel :=
  if category.isNull then []
  else models.filter (fun model =>
    hasCategory model.aircraftIcao && model.aircraftIcao.category == category)

/-- The models of one of the categories. -/
def findByCategories (categories : List CAircraftCategory) : List CAircraftModel :=
  if categories.isEmpty then []
  else models.filter (fun model =>
    hasCategory model.aircraftIcao && categories.contains model.aircraftIcao.category)

/-- The models with a color livery and one of the designators as designator or family. -/
def findByDesignatorsOrFamilyWithColorLivery (designators : QStringList) : List CAircraftModel :=
  models.filter (fun model =>
    model.livery.combinedCode.startsWith Aviation.CLivery.colorLiveryMarker &&
      (designators.contains model.aircraftIcao.designator ||
        (!model.aircraftIcao.family.isEmpty && designators.contains model.aircraftIcao.family)))

end Searches

/-- Models with the category, or in a parallel branch, or at its side, or all gliders. -/
def reduceGliders (matcher : CCategoryMatcher) (modelSet gliders : List CAircraftModel)
    (category : CAircraftCategory) : Option (List CAircraftModel) :=
  let sameGliders := findByCategory gliders category
  if !sameGliders.isEmpty then some sameGliders
  else (findInParallelBranch matcher.gliders category).map fun otherBranches =>
    let otherBranchGliders := findByCategories gliders otherBranches
    if !otherBranches.isEmpty && !otherBranchGliders.isEmpty then otherBranchGliders
    else
      let siblings := findSiblings matcher.gliders category
      -- The siblings are searched in the whole set.
      let siblingGliders := findByCategories modelSet siblings
      if !siblings.isEmpty && !siblingGliders.isEmpty then siblingGliders else gliders

/-- What is taken if the set has no gliders. -/
def substitutes (alreadyMatchedModels : List CAircraftModel) : List CAircraftModel :=
  let colored := findByDesignatorsOrFamilyWithColorLivery alreadyMatchedModels
    ["UHEL", "GLID", "ULAC"]
  if colored.isEmpty then Selection.findByCombinedType u alreadyMatchedModels "L1P"
  else colored

/-- The models and whether they were reduced. -/
def reduceByCategories (matcher : CCategoryMatcher)
    (alreadyMatchedModels modelSet : List CAircraftModel) (mode : MatchingMode)
    (remote : CAircraftIcaoCode) : Option (List CAircraftModel × Bool) :=
  if !useCategoryMatching mode then some (alreadyMatchedModels, false)
  else if matcher.all.isEmpty then some (alreadyMatchedModels, false)
  else if !hasCategory remote then some (alreadyMatchedModels, false)
  else if !matcher.gliders.isEmpty && mode.testFlag byCategoryGlider && isGlider matcher remote then
    let gliders := findByCategoryFirstLevel modelSet (gliderFirstLevel matcher)
    if !gliders.isEmpty then
      (reduceGliders matcher modelSet gliders remote.category).map fun models => (models, true)
    else if (substitutes u alreadyMatchedModels).isEmpty then some (alreadyMatchedModels, false)
    else some (substitutes u alreadyMatchedModels, true)
  else some (alreadyMatchedModels, false)

/-! ## What the reduction is to return -/

/-- The matcher after some calls. -/
def matcherAfter (calls : List (List CAircraftCategory)) : CCategoryMatcher :=
  calls.foldl (setCategories u) {}

/-- The first level of the gliders that are kept after some calls. -/
def keptLevel (calls : List (List CAircraftCategory)) : Option Int32 :=
  calls.reverse.findSome? (firstLevelOf u "glider")

def isOfFirstLevel (fl : Int32) (icao : CAircraftIcaoCode) : Bool :=
  hasCategory icao && icao.category.l1 == fl

/-- The aircraft is a glider if gliders are of that level. -/
def isGliderOf (fl : Int32) (icao : CAircraftIcaoCode) : Bool :=
  icao.designator == "GLID" || isOfFirstLevel fl icao

variable (calls : List (List CAircraftCategory)) (last : List CAircraftCategory)
  (alreadyMatchedModels modelSet : List CAircraftModel) (mode : MatchingMode)
  (remote : CAircraftIcaoCode)

/-- The result depends on the last categories only, and gliders are reduced to gliders. -/
structure ReducesToGliders : Prop where
  lastOnly :
    reduceByCategories u (matcherAfter u (calls ++ [last])) alreadyMatchedModels modelSet
        mode remote =
      reduceByCategories u (matcherAfter u [last]) alreadyMatchedModels modelSet mode remote
  gliders : ∀ fl, firstLevelOf u "glider" last = some fl → useCategoryMatching mode = true →
    mode.testFlag byCategoryGlider = true → hasCategory remote = true →
    isGliderOf fl remote = true →
      (∃ model ∈ modelSet, isOfFirstLevel fl model.aircraftIcao = true) →
      ∃ models, reduceByCategories u (matcherAfter u (calls ++ [last]))
          alreadyMatchedModels modelSet mode remote = some (models, true) ∧
        models ≠ [] ∧ ∀ model ∈ models, isOfFirstLevel fl model.aircraftIcao = true

/-- The remote aircraft is reduced to gliders of an earlier call, the last one having none. -/
structure LeavesGliders : Prop where
  categories : last ≠ []
  noGliders : firstLevelOf u "glider" last = none
  mode : mode.testFlag byCategoryGlider = true
  category : hasCategory remote = true
  earlier : ∃ fl, keptLevel u calls = some fl ∧ isGliderOf fl remote = true ∧
    ((∃ model ∈ modelSet, isOfFirstLevel fl model.aircraftIcao = true) ∨
      substitutes u alreadyMatchedModels ≠ [])

/-- The remote aircraft is a glider whose category is at a place in the tree that has no
    parallel branches, and no model has that category. -/
structure LacksBranches : Prop where
  mode : mode.testFlag byCategoryGlider = true
  category : hasCategory remote = true
  glider : ∃ fl, firstLevelOf u "glider" last = some fl ∧ isGliderOf fl remote = true ∧
    (∃ model ∈ modelSet, isOfFirstLevel fl model.aircraftIcao = true) ∧
      ∀ model ∈ modelSet, isOfFirstLevel fl model.aircraftIcao = true →
        model.aircraftIcao.category ≠ remote.category
  branches : ¬BranchesDefined (specialized u "glider" [] last) remote.category

/-! ## The gliders that are kept -/

variable {u calls last alreadyMatchedModels modelSet mode remote}

/-- Gliders are kept with their first level, which all of them have. -/
structure KeepsLevel (matcher : CCategoryMatcher) (fl : Int32) : Prop where
  nonempty : matcher.gliders ≠ []
  level : ∀ category ∈ matcher.gliders, category.l1 = fl
  pos : 0 < fl

variable {categories : List CAircraftCategory} {fl : Int32}

theorem firstLevelOf_eq_some {name : String} (h : firstLevelOf u name categories = some fl) :
    0 < fl ∧ ∃ category ∈ categories, category.l1 = fl := by
  unfold firstLevelOf at h
  rw [Option.map_eq_some_iff] at h
  rcases h with ⟨category, hhead, rfl⟩
  have hfirst := List.mem_filter.mp (List.mem_of_mem_head? hhead)
  exact ⟨(of_decide_eq_true hfirst.2).2.2, category, List.mem_of_mem_filter hfirst.1, rfl⟩

theorem keepsLevel_setCategories (matcher : CCategoryMatcher)
    (h : firstLevelOf u "glider" categories = some fl) :
    KeepsLevel (setCategories u matcher categories) fl := by
  have hlevel := firstLevelOf_eq_some h
  have hgliders : (setCategories u matcher categories).gliders =
      sortByLevel (findByFirstLevel categories fl) := by
    unfold setCategories specialized
    rw [h]
  refine ⟨?_, fun category hmem => ?_, hlevel.1⟩
  · rcases hlevel.2 with ⟨category, hmem, hl1⟩
    rw [hgliders, Ne, sortByLevel_eq_nil_iff]
    exact List.ne_nil_of_mem (List.mem_filter.mpr ⟨hmem, beq_iff_eq.mpr hl1⟩)
  · rw [hgliders, mem_sortByLevel] at hmem
    exact beq_iff_eq.mp (List.mem_filter.mp hmem).2

/-- Without gliders the list is as it was. -/
theorem gliders_setCategories (matcher : CCategoryMatcher)
    (h : firstLevelOf u "glider" categories = none) :
    (setCategories u matcher categories).gliders = matcher.gliders := by
  unfold setCategories specialized
  rw [h]

theorem matcherAfter_append :
    matcherAfter u (calls ++ [last]) = setCategories u (matcherAfter u calls) last := by
  unfold matcherAfter
  rw [List.foldl_append]
  rfl

theorem keptLevel_append :
    keptLevel u (calls ++ [last]) = (firstLevelOf u "glider" last).or (keptLevel u calls) := by
  unfold keptLevel
  rw [List.reverse_append, List.reverse_singleton, List.singleton_append, List.findSome?_cons]
  cases firstLevelOf u "glider" last <;> rfl

/-- Induction on the calls, the last one first. -/
theorem gliders_matcherAfter (calls : List (List CAircraftCategory)) :
    (keptLevel u calls = none → (matcherAfter u calls).gliders = []) ∧
      ∀ fl, keptLevel u calls = some fl → KeepsLevel (matcherAfter u calls) fl := by
  induction calls using List.reverseRecOn with
  | nil => exact ⟨fun _ => rfl, fun fl h => absurd h.symm (Option.some_ne_none fl)⟩
  | append_singleton calls last ih =>
    rw [keptLevel_append, matcherAfter_append]
    cases hlast : firstLevelOf u "glider" last with
    | none =>
      have hkept := gliders_setCategories (matcherAfter u calls) hlast
      refine ⟨fun h => hkept.trans (ih.1 h), fun fl h => ?_⟩
      have hlevel := ih.2 fl h
      exact ⟨hkept ▸ hlevel.nonempty, hkept ▸ hlevel.level, hlevel.pos⟩
    | some fl =>
      refine ⟨fun h => absurd h (Option.some_ne_none fl), fun fl' h => ?_⟩
      rw [← Option.some.inj h]
      exact keepsLevel_setCategories _ hlast

variable {matcher : CCategoryMatcher}

theorem gliderFirstLevel_of_keepsLevel
    (h : KeepsLevel matcher fl) : gliderFirstLevel matcher = fl := by
  unfold gliderFirstLevel
  cases hgliders : matcher.gliders with
  | nil => exact absurd hgliders h.nonempty
  | cons front gliders =>
    exact h.level front (hgliders ▸ List.mem_cons_self)

theorem isGlider_of_keepsLevel
    (h : KeepsLevel matcher fl) : isGlider matcher remote = isGliderOf fl remote := by
  have hnonneg : (0 : Int32) ≤ fl := Int32.le_of_lt h.pos
  rw [isGlider, gliderFirstLevel_of_keepsLevel h, decide_eq_true hnonneg]
  rfl

/-! ## The models that are found -/

/-- All models of the first level. -/
theorem mem_findByCategoryFirstLevel (hpos : 0 < fl) {model : CAircraftModel} :
    model ∈ findByCategoryFirstLevel modelSet fl ↔
      model ∈ modelSet ∧ isOfFirstLevel fl model.aircraftIcao = true := by
  unfold findByCategoryFirstLevel
  rw [if_neg (Int32.not_lt.mpr (Int32.le_of_lt hpos)), List.mem_filter]
  rfl

theorem not_isEmpty_iff {α : Type} {l : List α} : (!l.isEmpty) = true ↔ l ≠ [] := by
  rw [Bool.not_eq_true', List.isEmpty_eq_false_iff]

variable {models : List CAircraftModel} {category : CAircraftCategory}

theorem mem_of_mem_findByCategory
    {model : CAircraftModel} (h : model ∈ findByCategory models category) :
    model ∈ models ∧ model.aircraftIcao.category = category := by
  unfold findByCategory at h
  split_ifs at h with hnull
  · cases h
  · rw [List.mem_filter, Bool.and_eq_true, beq_iff_eq] at h
    exact ⟨h.1, h.2.2⟩

theorem mem_of_mem_findByCategories {model : CAircraftModel}
    (h : model ∈ findByCategories models categories) :
    model ∈ models ∧ hasCategory model.aircraftIcao = true ∧
      model.aircraftIcao.category ∈ categories := by
  unfold findByCategories at h
  split_ifs at h with hempty
  · cases h
  · rw [List.mem_filter, Bool.and_eq_true, List.contains_iff_mem] at h
    exact h

/-- What is returned for gliders are gliders. Siblings are searched in the whole set, but they
    are of the level of all gliders that are kept. -/
theorem reduceGliders_spec (hkeeps : KeepsLevel matcher fl)
    (hset : findByCategoryFirstLevel modelSet fl ≠ [])
    (h : reduceGliders matcher modelSet (findByCategoryFirstLevel modelSet fl) category =
      some models) :
    models ≠ [] ∧ ∀ model ∈ models, isOfFirstLevel fl model.aircraftIcao = true := by
  have hgliders : ∀ model ∈ findByCategoryFirstLevel modelSet fl,
      isOfFirstLevel fl model.aircraftIcao = true := fun model hmodel =>
    ((mem_findByCategoryFirstLevel hkeeps.pos).mp hmodel).2
  unfold reduceGliders at h
  dsimp only at h
  -- The searches in the order of the source: the category, other branches, the siblings.
  by_cases hsame : findByCategory (findByCategoryFirstLevel modelSet fl) category = []
  · rw [hsame, List.isEmpty_nil, Bool.not_true, if_neg Bool.false_ne_true,
      Option.map_eq_some_iff] at h
    rcases h with ⟨otherBranches, -, rfl⟩
    split_ifs with hbranch hsibling
    · rw [Bool.and_eq_true, not_isEmpty_iff, not_isEmpty_iff] at hbranch
      exact ⟨hbranch.2, fun model hmodel => hgliders model (mem_of_mem_findByCategories hmodel).1⟩
    · rw [Bool.and_eq_true, not_isEmpty_iff, not_isEmpty_iff] at hsibling
      refine ⟨hsibling.2, fun model hmodel => ?_⟩
      -- A sibling is found in the tree of the whole set, and its level is the one of the gliders.
      have hmem := (mem_of_mem_findByCategories hmodel).2
      rw [isOfFirstLevel, hmem.1, hkeeps.level _ (mem_of_mem_findSiblings hmem.2), beq_self_eq_true]
      rfl
    · exact ⟨hset, hgliders⟩
  · rw [if_pos (not_isEmpty_iff.mpr hsame)] at h
    rw [← Option.some.inj h]
    exact ⟨hsame, fun model hmodel => hgliders model (mem_of_mem_findByCategory hmodel).1⟩

/-- The models are found by the category itself, or the parallel branches can be told. -/
theorem reduceGliders_isSome_iff {gliders : List CAircraftModel} :
    (reduceGliders matcher modelSet gliders category).isSome = true ↔
      findByCategory gliders category ≠ [] ∨ BranchesDefined matcher.gliders category := by
  unfold reduceGliders
  dsimp only
  by_cases hsame : findByCategory gliders category = []
  · rw [hsame, List.isEmpty_nil, Bool.not_true, if_neg Bool.false_ne_true, Option.isSome_map,
      findInParallelBranch_isSome_iff, or_iff_right (not_not_intro rfl)]
  · rw [if_pos (not_isEmpty_iff.mpr hsame)]
    exact iff_of_true rfl (Or.inl hsame)

/-! ## The reduction -/

/-- The remote aircraft is looked for among the gliders. -/
def UsesGliders (matcher : CCategoryMatcher) (mode : MatchingMode) (remote : CAircraftIcaoCode) :
    Prop :=
  mode.testFlag byCategoryGlider = true ∧ matcher.all ≠ [] ∧ hasCategory remote = true ∧
    matcher.gliders ≠ [] ∧ isGlider matcher remote = true

theorem reduceByCategories_of_not_usesGliders (h : ¬UsesGliders matcher mode remote) :
    reduceByCategories u matcher alreadyMatchedModels modelSet mode remote =
      some (alreadyMatchedModels, false) := by
  unfold reduceByCategories
  split_ifs with huse hall hcategory hglider
  any_goals rfl
  -- All that is asked for gliders holds.
  all_goals
    rw [Bool.and_eq_true, Bool.and_eq_true, not_isEmpty_iff] at hglider
    rw [Bool.not_eq_true', Bool.not_eq_false] at hcategory
    exact absurd ⟨hglider.1.2, mt List.isEmpty_iff.mpr hall, hcategory, hglider.1.1, hglider.2⟩ h

theorem reduceByCategories_of_usesGliders
    (h : UsesGliders matcher mode remote) :
    reduceByCategories u matcher alreadyMatchedModels modelSet mode remote =
      if findByCategoryFirstLevel modelSet (gliderFirstLevel matcher) ≠ [] then
        (reduceGliders matcher modelSet
          (findByCategoryFirstLevel modelSet (gliderFirstLevel matcher)) remote.category).map
            fun models => (models, true)
      else if substitutes u alreadyMatchedModels = [] then some (alreadyMatchedModels, false)
      else some (substitutes u alreadyMatchedModels, true) := by
  rcases h with ⟨hmode, hall, hcategory, hgliders, hglider⟩
  unfold reduceByCategories
  rw [useCategoryMatching, hmode, Bool.true_or, if_neg (by decide),
    if_neg (mt List.isEmpty_iff.mp hall), hcategory, if_neg (by decide), hglider,
    if_pos (by rw [Bool.and_true, Bool.and_true]; exact not_isEmpty_iff.mpr hgliders)]
  dsimp only
  by_cases hset : findByCategoryFirstLevel modelSet (gliderFirstLevel matcher) = []
  · rw [hset, List.isEmpty_nil, Bool.not_true, if_neg Bool.false_ne_true,
      if_neg (not_not_intro rfl)]
    exact if_congr List.isEmpty_iff rfl rfl
  · rw [if_pos hset, if_pos (not_isEmpty_iff.mpr hset)]

/-- The military categories do not matter. -/
theorem reduceByCategories_congr {matcher other : CCategoryMatcher} (hall : matcher.all = other.all)
    (hgliders : matcher.gliders = other.gliders) :
    reduceByCategories u matcher alreadyMatchedModels modelSet mode remote =
      reduceByCategories u other alreadyMatchedModels modelSet mode remote := by
  unfold reduceByCategories reduceGliders isGlider gliderFirstLevel
  rw [hall, hgliders]

theorem findByCategoryFirstLevel_ne_nil_iff (hpos : 0 < fl) :
    findByCategoryFirstLevel modelSet fl ≠ [] ↔
      ∃ model ∈ modelSet, isOfFirstLevel fl model.aircraftIcao = true := by
  constructor
  · intro hne
    rcases List.exists_mem_of_ne_nil _ hne with ⟨model, hmodel⟩
    exact ⟨model, (mem_findByCategoryFirstLevel hpos).mp hmodel⟩
  · rintro ⟨model, hmodel⟩
    exact List.ne_nil_of_mem ((mem_findByCategoryFirstLevel hpos).mpr hmodel)

theorem findByCategory_ne_nil_iff (hcategory : category.isNull = false) :
    findByCategory models category ≠ [] ↔
      ∃ model ∈ models, model.aircraftIcao.category = category := by
  constructor
  · intro hne
    rcases List.exists_mem_of_ne_nil _ hne with ⟨model, hmodel⟩
    exact ⟨model, mem_of_mem_findByCategory hmodel⟩
  · rintro ⟨model, hmodel, rfl⟩
    unfold findByCategory
    rw [hcategory]
    refine List.ne_nil_of_mem (a := model) (List.mem_filter.mpr ⟨hmodel, ?_⟩)
    rw [hasCategory, hcategory, beq_self_eq_true]
    rfl

/-- Without gliders in the last call, those of an earlier one are kept. -/
theorem keepsLevel_of_noGliders (hlast : firstLevelOf u "glider" last = none)
    (hlevel : keptLevel u calls = some fl) :
    KeepsLevel (setCategories u (matcherAfter u calls) last) fl := by
  have hkept := gliders_setCategories (matcherAfter u calls) hlast
  have hkeeps := (gliders_matcherAfter calls).2 fl hlevel
  exact ⟨hkept ▸ hkeeps.nonempty, hkept ▸ hkeeps.level, hkeeps.pos⟩

/-- The gliders of an earlier call show if the aircraft is looked for among them, with models
    of their level or substitutes for them. -/
theorem lastOnly_iff_of_noGliders (hlast : firstLevelOf u "glider" last = none) :
    (reduceByCategories u (matcherAfter u (calls ++ [last])) alreadyMatchedModels modelSet
        mode remote =
      reduceByCategories u (matcherAfter u [last]) alreadyMatchedModels modelSet mode remote) ↔
      ¬LeavesGliders u calls last alreadyMatchedModels modelSet mode remote := by
  have halone : reduceByCategories u (matcherAfter u [last]) alreadyMatchedModels modelSet
      mode remote = some (alreadyMatchedModels, false) := by
    refine reduceByCategories_of_not_usesGliders fun huses => huses.2.2.2.1 ?_
    exact gliders_setCategories _ hlast
  -- The last call alone has no gliders and changes nothing.
  rw [halone, matcherAfter_append]
  have hall : (setCategories u (matcherAfter u calls) last).all ≠ [] ↔ last ≠ [] :=
    not_congr sortByLevel_eq_nil_iff
  by_cases huses : UsesGliders (setCategories u (matcherAfter u calls) last) mode remote
  · rcases id huses with ⟨hmode, hne, hcategory, hgliders, hglider⟩
    -- The gliders are those of the last call that had some.
    cases hlevel : keptLevel u calls with
    | none =>
      refine absurd ?_ hgliders
      exact (gliders_setCategories _ hlast).trans ((gliders_matcherAfter calls).1 hlevel)
    | some fl =>
      have hkeeps := keepsLevel_of_noGliders hlast hlevel
      rw [isGlider_of_keepsLevel hkeeps] at hglider
      rw [reduceByCategories_of_usesGliders huses, gliderFirstLevel_of_keepsLevel hkeeps]
      have hleaves : LeavesGliders u calls last alreadyMatchedModels modelSet mode remote ↔
          findByCategoryFirstLevel modelSet fl ≠ [] ∨ substitutes u alreadyMatchedModels ≠ [] := by
        rw [findByCategoryFirstLevel_ne_nil_iff hkeeps.pos]
        constructor
        · intro h
          rcases h.earlier with ⟨fl', hlevel', -, hmodels⟩
          rw [hlevel, Option.some.injEq] at hlevel'
          exact hlevel' ▸ hmodels
        · intro hmodels
          exact ⟨hall.mp hne, hlast, hmode, hcategory, fl, hlevel, hglider, hmodels⟩
      rw [hleaves]
      split_ifs with hset hsubstitutes
      · refine iff_of_false ?_ (not_not_intro (Or.inl hset))
        rw [Option.map_eq_some_iff]
        rintro ⟨models, -, hpair⟩
        exact Bool.false_ne_true (congrArg Prod.snd hpair).symm
      · exact iff_of_true rfl (not_or.mpr ⟨hset, not_not_intro hsubstitutes⟩)
      · refine iff_of_false ?_ (not_not_intro (Or.inr hsubstitutes))
        intro hpair
        exact Bool.false_ne_true (congrArg Prod.snd (Option.some.inj hpair)).symm
  · rw [reduceByCategories_of_not_usesGliders huses]
    refine iff_of_true rfl fun h => huses ?_
    rcases h.earlier with ⟨fl, hlevel, hglider, -⟩
    have hkeeps := keepsLevel_of_noGliders hlast hlevel
    exact ⟨h.mode, hall.mpr h.categories, h.category, hkeeps.nonempty,
      (isGlider_of_keepsLevel hkeeps).trans hglider⟩

variable (calls alreadyMatchedModels) in
/-- With gliders in the last call, the result is gliders if the branches can be told. -/
theorem gliders_iff_of_gliders (hlast : firstLevelOf u "glider" last = some fl) :
    (mode.testFlag byCategoryGlider = true → hasCategory remote = true →
      isGliderOf fl remote = true →
      (∃ model ∈ modelSet, isOfFirstLevel fl model.aircraftIcao = true) →
        ∃ models, reduceByCategories u (matcherAfter u (calls ++ [last]))
            alreadyMatchedModels modelSet mode remote = some (models, true) ∧
          models ≠ [] ∧ ∀ model ∈ models, isOfFirstLevel fl model.aircraftIcao = true) ↔
      ¬LacksBranches u last modelSet mode remote := by
  have hkeeps := keepsLevel_setCategories (matcherAfter u calls) hlast
  have hgliders : (setCategories u (matcherAfter u calls) last).gliders =
      specialized u "glider" [] last := by
    unfold setCategories specialized
    rw [hlast]
  have hall : (setCategories u (matcherAfter u calls) last).all ≠ [] := by
    rcases firstLevelOf_eq_some hlast with ⟨-, category, hmem, -⟩
    exact mt sortByLevel_eq_nil_iff.mp (List.ne_nil_of_mem hmem)
  rw [matcherAfter_append]
  -- What is returned for a glider.
  have hreduce : mode.testFlag byCategoryGlider = true → hasCategory remote = true →
      isGliderOf fl remote = true →
      (∃ model ∈ modelSet, isOfFirstLevel fl model.aircraftIcao = true) →
        reduceByCategories u (setCategories u (matcherAfter u calls) last)
            alreadyMatchedModels modelSet mode remote =
          (reduceGliders (setCategories u (matcherAfter u calls) last) modelSet
            (findByCategoryFirstLevel modelSet fl) remote.category).map
              fun models => (models, true) := by
    intro hmode hcategory hglider hmodel
    rw [reduceByCategories_of_usesGliders ⟨hmode, hall, hcategory, hkeeps.nonempty,
      (isGlider_of_keepsLevel hkeeps).trans hglider⟩, gliderFirstLevel_of_keepsLevel hkeeps,
      if_pos ((findByCategoryFirstLevel_ne_nil_iff hkeeps.pos).mpr hmodel)]
  constructor
  · intro h hlacks
    rcases hlacks.glider with ⟨fl', hlast', hglider, hmodel, hother⟩
    rcases Option.some.inj (hlast.symm.trans hlast') with rfl
    rcases h hlacks.mode hlacks.category hglider hmodel with ⟨models, hresult, -⟩
    rw [hreduce hlacks.mode hlacks.category hglider hmodel, Option.map_eq_some_iff] at hresult
    rcases hresult with ⟨found, hfound, -⟩
    rcases reduceGliders_isSome_iff.mp (Option.isSome_of_eq_some hfound) with hsame | hbranches
    · rcases List.exists_mem_of_ne_nil _ hsame with ⟨model, hmem⟩
      have hcategory := mem_of_mem_findByCategory hmem
      have hlevel := (mem_findByCategoryFirstLevel hkeeps.pos).mp hcategory.1
      exact hother model hlevel.1 hlevel.2 hcategory.2
    · exact hlacks.branches (hgliders ▸ hbranches)
  · intro hlacks hmode hcategory hglider hmodel
    rw [hreduce hmode hcategory hglider hmodel]
    have hset := (findByCategoryFirstLevel_ne_nil_iff hkeeps.pos).mpr hmodel
    cases hfound : reduceGliders (setCategories u (matcherAfter u calls) last) modelSet
        (findByCategoryFirstLevel modelSet fl) remote.category with
    | some models => exact ⟨models, rfl, reduceGliders_spec hkeeps hset hfound⟩
    | none =>
      have hnot := mt reduceGliders_isSome_iff.mpr (by rw [hfound]; exact Bool.false_ne_true)
      rw [not_or, hgliders] at hnot
      refine absurd ⟨hmode, hcategory, ⟨fl, hlast, hglider, hmodel, ?_⟩, hnot.2⟩ hlacks
      intro model hmem hlevel hsame
      refine hnot.1 ((findByCategory_ne_nil_iff ?_).mpr
        ⟨model, (mem_findByCategoryFirstLevel hkeeps.pos).mpr ⟨hmem, hlevel⟩, hsame⟩)
      rwa [hasCategory, Bool.not_eq_true'] at hcategory

/-- The result is as it is to be unless gliders of an earlier call are used, or the category
    of a glider has no place in the tree. -/
theorem reduces_to_gliders_iff :
    ReducesToGliders u calls last alreadyMatchedModels modelSet mode remote ↔
      ¬LeavesGliders u calls last alreadyMatchedModels modelSet mode remote ∧
        ¬LacksBranches u last modelSet mode remote := by
  -- Without gliders in the last call the members of an earlier one are used.
  cases hlast : firstLevelOf u "glider" last with
  | none =>
    have hlacks : ¬LacksBranches u last modelSet mode remote := by
      intro h
      rcases h.glider with ⟨fl, hfl, -⟩
      exact Option.some_ne_none fl (hfl.symm.trans hlast)
    rw [and_iff_left hlacks, ← lastOnly_iff_of_noGliders hlast]
    refine ⟨ReducesToGliders.lastOnly, fun h => ⟨h, fun fl hfl => ?_⟩⟩
    exact absurd (hfl.symm.trans hlast) (Option.some_ne_none fl)
  | some fl =>
    have hleaves : ¬LeavesGliders u calls last alreadyMatchedModels modelSet mode remote :=
      fun h => Option.some_ne_none fl (hlast.symm.trans h.noGliders)
    -- The flag for gliders is one of those that turn category matching on.
    have hmode : mode.testFlag byCategoryGlider = true → useCategoryMatching mode = true := by
      intro hmode
      rw [useCategoryMatching, hmode, Bool.true_or]
    rw [and_iff_right hleaves, ← gliders_iff_of_gliders calls alreadyMatchedModels hlast]
    constructor
    · intro h hglider
      exact h.gliders fl hlast (hmode hglider) hglider
    · intro h
      refine ⟨?_, fun fl' hfl _ => Option.some.inj (hlast.symm.trans hfl) ▸ h⟩
      -- With gliders every call sets the same members, whatever was there before.
      have hgliders : ∀ matcher : CCategoryMatcher, (setCategories u matcher last).gliders =
          sortByLevel (findByFirstLevel last fl) := by
        intro matcher
        unfold setCategories specialized
        rw [hlast]
      rw [matcherAfter_append]
      exact reduceByCategories_congr rfl ((hgliders _).trans (hgliders _).symm)

/-- Gliders have the first level 3 in the first call, and there are none in the second. -/
theorem gliders_left_behind :
    let glider : CAircraftCategory := { name := "Glider", l1 := 3 }
    let plane : CAircraftCategory := { name := "Plane", l1 := 1 }
    let remote : CAircraftIcaoCode := { designator := "GLID", category := plane }
    let model : CAircraftModel := { aircraftIcao := { category := glider } }
    ¬ReducesToGliders .ascii [[glider]] [plane] [] [model] byCategoryGlider remote := by
  intro glider plane remote model h
  refine (lastOnly_iff_of_noGliders (by decide)).mp h.lastOnly ?_
  refine ⟨List.cons_ne_nil _ _, by decide, by decide, by decide, 3, by decide, by decide, ?_⟩
  exact Or.inl ⟨model, List.mem_singleton_self _, by decide⟩

end Model

end CategoryMatching

end NeoSwift.Core
