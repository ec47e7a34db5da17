import NeoSwift.Core.AircraftMatcher.StepwiseReduce

/-!
# Livery and Default Model

Two searches of `CAircraftMatcher` in a model set that find less than they look for. The
livery step hands over the combined code where the designator belongs. The default for a
combined type is looked for among the models with a color livery, and if there is none,
among all models of the type. But the second search is made in what the first one found.

## Main definitions

* `getCombinedTypeDefaultModel`: The default for the combined type of a remote aircraft.
* `PrefersType`: Which model is to be the default.

## Theorems

* `livery_selected_iff`: When the livery step selects what it is to.
* `prefers_type_iff`: When the default is a model of the type.
-/

namespace NeoSwift.Core

open Aviation Misc.Simulation.Matching Misc.Simulation.Matching.CAircraftModelList

section DefaultModel

variable (u : UnicodeData) (remote : CAircraftModel)

/-- The list that the first search left is searched if it is empty. -/
def getCombinedTypeDefaultModel (modelSet : CAircraftModelList) (defaultModel : CAircraftModel) :
    CAircraftModel :=
  let combinedType := remote.aircraftIcao.combinedType
  if combinedType.isEmpty then defaultModel
  else if modelSet = [] then defaultModel
  else
    let matchedModels := modelSet.findByCombinedTypeWithColorLivery u combinedType
    let matchedModels := if matchedModels ≠ [] then matchedModels
      else matchedModels.findByCombinedType u combinedType
    match matchedModels with
    | [] => defaultModel
    | front :: _ => front

/-! ## The livery -/

/-- What the livery step is to return. -/
def selectLivery (inList : CAircraftModelList) : Reduction :=
  let byLivery := inList.filter (hasLiveryAndDesignator u remote)
  if byLivery = [] then ⟨inList, false⟩ else ⟨byLivery, true⟩

variable {u remote}

/-- A step that keeps what meets a criterion shows which models these are. -/
theorem reduction_eq_iff {inList : CAircraftModelList} (p q : CAircraftModel → Bool) :
    ((if inList.filter p = [] then ⟨inList, false⟩ else ⟨inList.filter p, true⟩ : Reduction) =
        if inList.filter q = [] then ⟨inList, false⟩ else ⟨inList.filter q, true⟩) ↔
      inList.filter p = inList.filter q := by
  by_cases hp : inList.filter p = []
  · by_cases hq : inList.filter q = []
    · rw [hp, hq]
      exact iff_of_true rfl rfl
    · rw [if_neg hq, hp]
      refine iff_of_false (fun h => ?_) fun h => hq h.symm
      exact Bool.false_ne_true (congrArg Reduction.reduced h)
  · by_cases hq : inList.filter q = []
    · rw [if_neg hp, hq]
      refine iff_of_false (fun h => ?_) hp
      exact Bool.false_ne_true (congrArg Reduction.reduced h).symm
    · rw [if_neg hp, if_neg hq]
      exact ⟨fun h => congrArg Reduction.models h, fun h => by rw [h]⟩

/-- The step selects the models with the designator and the combined code of the remote
    aircraft if both are the same text or no model has them in either order. -/
theorem livery_selected_iff {inList : CAircraftModelList} :
    ifPossibleReduceByLiveryAndAircraftIcaoCode u remote inList = selectLivery u remote inList ↔
      u.unified remote.aircraftIcao.designator = u.unified remote.livery.combinedCode ∨
        ∀ m ∈ inList, hasLiveryAndDesignator u remote m = false ∧
          hasDesignatorAsLivery u remote m = false := by
  rw [ifPossibleReduceByLivery_eq, selectLivery, reduction_eq_iff]
  constructor
  · intro hsame
    -- A model that meets one of the criteria is in both lists, so that its designator is
    -- both texts.
    have hboth : ∀ m, m ∈ inList.filter (hasLiveryAndDesignator u remote) →
        u.unified remote.aircraftIcao.designator = u.unified remote.livery.combinedCode := by
      intro m hm
      have hswapped := (List.mem_filter.mp (hsame ▸ hm)).2
      exact (hasLiveryAndDesignator_iff.mp (List.mem_filter.mp hm).2).2.1.symm.trans
        (hasDesignatorAsLivery_iff.mp hswapped).2.1
    by_cases hnone : inList.filter (hasLiveryAndDesignator u remote) = []
    · refine Or.inr fun m hm => ?_
      rw [← Bool.not_eq_true, ← Bool.not_eq_true]
      exact ⟨List.filter_eq_nil_iff.mp hnone m hm,
        List.filter_eq_nil_iff.mp (hsame.trans hnone) m hm⟩
    · rcases List.exists_mem_of_ne_nil _ hnone with ⟨m, hm⟩
      exact Or.inl (hboth m hm)
  · rintro (htexts | hnone)
    · refine List.filter_congr fun m _ => ?_
      rw [Bool.eq_iff_iff, hasDesignatorAsLivery_iff, hasLiveryAndDesignator_iff, htexts]
    · exact List.filter_congr fun m hm => (hnone m hm).2.trans (hnone m hm).1.symm

/-- The model has the designator and the combined code, and the step does not find it. -/
theorem livery_not_selected :
    let remote : CAircraftModel :=
      { aircraftIcao := { designator := "B738" }
        livery := { combinedCode := "DLH._STD" } }
    let model : CAircraftModel := { remote with modelString := "B738 DLH" }
    hasLiveryAndDesignator .ascii remote model = true ∧
      ifPossibleReduceByLiveryAndAircraftIcaoCode .ascii remote [model] = ⟨[model], false⟩ ∧
        selectLivery .ascii remote [model] = ⟨[model], true⟩ := by
  decide

/-! ## The default for a combined type -/

/-- The models of the combined type of the remote aircraft. -/
def modelsOfType (u : UnicodeData) (remote : CAircraftModel) (modelSet : CAircraftModelList) :
    CAircraftModelList :=
  modelSet.findByCombinedType u remote.aircraftIcao.combinedType

/-- A model of the type comes first, and among these one with a color livery. The given
    default is returned if there is none. -/
structure PrefersType (u : UnicodeData) (remote : CAircraftModel) (modelSet : CAircraftModelList)
    (defaultModel result : CAircraftModel) : Prop where
  ofType : modelsOfType u remote modelSet ≠ [] → result ∈ modelsOfType u remote modelSet
  colored : (modelsOfType u remote modelSet).findColorLiveries ≠ [] →
    result ∈ (modelsOfType u remote modelSet).findColorLiveries
  defaultOnly : result = defaultModel →
    modelsOfType u remote modelSet = [] ∨ defaultModel ∈ modelsOfType u remote modelSet
  defaultGiven : modelsOfType u remote modelSet = [] → result = defaultModel

/-- The second search finds nothing, so that the color liveries decide. -/
theorem getCombinedTypeDefaultModel_eq (modelSet : CAircraftModelList)
    (defaultModel : CAircraftModel) :
    getCombinedTypeDefaultModel u remote modelSet defaultModel =
      (modelsOfType u remote modelSet).findColorLiveries.headD defaultModel := by
  -- The second search is in what the first did not leave, which is nothing.
  have hnothing : ∀ combinedType, findByCombinedType u [] combinedType = [] := by
    intro combinedType
    unfold findByCombinedType
    split_ifs
    · rfl
    · rfl
  unfold getCombinedTypeDefaultModel modelsOfType
  by_cases htype : remote.aircraftIcao.combinedType = []
  · rw [htype]
    rfl
  · rw [if_neg (by rwa [List.isEmpty_iff])]
    by_cases hset : modelSet = []
    · rw [hset, hnothing]
      rfl
    · rw [if_neg hset]
      unfold findByCombinedTypeWithColorLivery
      cases hcolored : (findByCombinedType u modelSet
          remote.aircraftIcao.combinedType).findColorLiveries with
      | nil =>
        dsimp only
        rw [hnothing]
        rfl
      | cons front models => rfl

/-- The default is a model of the type if there is one with a color livery, or if the given
    one is of that type anyway. -/
theorem prefers_type_iff (modelSet : CAircraftModelList) (defaultModel : CAircraftModel) :
    PrefersType u remote modelSet defaultModel
        (getCombinedTypeDefaultModel u remote modelSet defaultModel) ↔
      modelsOfType u remote modelSet = [] ∨
        (modelsOfType u remote modelSet).findColorLiveries ≠ [] ∨
          defaultModel ∈ modelsOfType u remote modelSet := by
  rw [getCombinedTypeDefaultModel_eq]
  -- Without a color livery the given default is returned, else the first of the liveries.
  cases hcolored : (modelsOfType u remote modelSet).findColorLiveries with
  | nil =>
    constructor
    · intro hprefers
      rcases hprefers.defaultOnly rfl with hnone | hmem
      · exact Or.inl hnone
      · exact Or.inr (Or.inr hmem)
    · intro hdefault
      have hmem : modelsOfType u remote modelSet ≠ [] →
          defaultModel ∈ modelsOfType u remote modelSet := by
        intro hne
        rcases hdefault with hnone | hno | hmem
        · exact absurd hnone hne
        · exact absurd rfl hno
        · exact hmem
      exact ⟨hmem, fun hne => absurd hcolored hne,
        fun _ => Decidable.or_iff_not_imp_left.mpr hmem, fun _ => rfl⟩
  | cons front models =>
    have hfront : front ∈ (modelsOfType u remote modelSet).findColorLiveries :=
      hcolored ▸ List.mem_cons_self
    have hmem : front ∈ modelsOfType u remote modelSet := List.mem_of_mem_filter hfront
    refine iff_of_true ?_ (Or.inr (Or.inl (List.cons_ne_nil _ _)))
    exact ⟨fun _ => hmem, fun _ => hfront, fun h => Or.inr (h ▸ hmem),
      fun hnone => absurd hnone (List.ne_nil_of_mem hmem)⟩

/-- The set has a model of the type, but none with a color livery. -/
theorem type_not_preferred :
    let remote : CAircraftModel := { aircraftIcao := { combinedType := "L2J" } }
    let model : CAircraftModel :=
      { remote with
        modelString := "B738 DLH"
        livery := { combinedCode := "DLH._STD" } }
    let defaultModel : CAircraftModel :=
      { modelString := "C172", aircraftIcao := { combinedType := "L1P" } }
    modelsOfType .ascii remote [model] = [model] ∧
      getCombinedTypeDefaultModel .ascii remote [model] defaultModel = defaultModel ∧
        defaultModel ∉ modelsOfType .ascii remote [model] := by
  decide

end DefaultModel

end NeoSwift.Core
