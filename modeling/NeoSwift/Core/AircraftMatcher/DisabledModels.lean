import NeoSwift.Lib.Machine
import NeoSwift.Misc.Simulation.AircraftModel

/-!
# Models Disabled for Matching

What becomes of the model set of `CAircraftMatcher` when models are disabled and restored.
A model that is disabled is taken out of the set by its string and put on a second list,
and what is on that list comes back when it is restored. The list is that of the models
handed over, though, and restoring leaves it as it is.

## Main definitions

* `CAircraftMatcher`: The two lists.
* `setModelSet`, `disableModelsForMatching`, `restoreDisabledModels`: The operations.
* `aircraftMatcher`: They as a machine.
* `DisablesCleanly`: What a step is to leave behind.
* `Restorable`: The steps that do.

## Theorems

* `modelSet_setModelSet`: The set the matcher starts with.
* `disables_cleanly_step`: What a step leaves behind.
* `disables_cleanly_iff`: The same for runs.
-/

namespace NeoSwift.Core

open Aviation Misc.Simulation.Matching Misc.Simulation.Matching.CAircraftModelList

/-- `CAircraftMatcher`. -/
structure CAircraftMatcher (S : Type) where
  modelSet : CAircraftModelList := []
  disabledModels : CAircraftModelList := []
  simulator : Option S := none

/-- What is asked of the matcher. -/
inductive MatcherAction where
  | disableModelsForMatching (removedModels : CAircraftModelList) (incremental : Bool)
  | addingRemoteModelFailed (removeFromSetIfFailed : Bool) (callsign : Callsign)
      (model : CAircraftModel)
  | restoreDisabledModels

namespace CAircraftMatcher

variable {S : Type} [DecidableEq S] (u : UnicodeData) (matcher : CAircraftMatcher S)

/-- The set is not updated for the same simulator with as many models, unless forced. -/
def setModelSet (isSingleSimulator : S → Bool) (models : CAircraftModelList) (simulator : S)
    (forced : Bool) : CAircraftMatcher S :=
  if isSingleSimulator simulator then
    let modelsCleaned := models.removeAllWithoutModelString.removeIfExcluded
    if !forced && matcher.simulator == some simulator &&
        matcher.modelSet.length == modelsCleaned.length then matcher
    else { matcher with modelSet := modelsCleaned, simulator := some simulator }
  else matcher

omit [DecidableEq S] in
def restoreDisabledModels : CAircraftMatcher S :=
  { matcher with
    modelSet := matcher.modelSet.replaceOrAddModelsWithString u matcher.disabledModels }

def disableModelsForMatching (removedModels : CAircraftModelList) (incremental : Bool) :
    CAircraftMatcher S :=
  if incremental then
    { matcher with
      modelSet := matcher.modelSet.removeModelsWithString u removedModels.getModelStringList
      disabledModels := matcher.disabledModels ++ removedModels }
  else
    let restored := matcher.restoreDisabledModels u
    { restored with
      modelSet := restored.modelSet.removeModelsWithString u removedModels.getModelStringList
      disabledModels := removedModels }

/-- The setup says whether models that fail are removed. -/
def addingRemoteModelFailed (removeFromSetIfFailed : Bool) (callsign : Callsign)
    (model : CAircraftModel) : CAircraftMatcher S :=
  if removeFromSetIfFailed && !callsign.isEmpty && model.hasModelString then
    matcher.disableModelsForMatching u [model] true
  else matcher

end CAircraftMatcher

/-- The matcher as a machine. -/
def aircraftMatcher (S : Type) (u : UnicodeData) :
    Machine (CAircraftMatcher S) MatcherAction Unit where
  step matcher action :=
    match action with
    | .disableModelsForMatching removedModels incremental =>
      (matcher.disableModelsForMatching u removedModels incremental, [])
    | .addingRemoteModelFailed removeFromSetIfFailed callsign model =>
      (matcher.addingRemoteModelFailed u removeFromSetIfFailed callsign model, [])
    | .restoreDisabledModels => (matcher.restoreDisabledModels u, [])

section DisabledModels

variable {S : Type} (u : UnicodeData) (given : CAircraftModelList)

/-- After a step, no model of the set has the string of a disabled one, and all are of the
    set that was given. Restoring leaves just these, and nothing disabled. -/
structure DisablesCleanly (matcher : CAircraftMatcher S) (action : MatcherAction) : Prop where
  disabled : ∀ model ∈ ((aircraftMatcher S u).step matcher action).1.disabledModels,
    ∀ model' ∈ ((aircraftMatcher S u).step matcher action).1.modelSet,
      u.sameText model'.modelString model.modelString = false
  fromGiven : ∀ model ∈ ((aircraftMatcher S u).step matcher action).1.modelSet, model ∈ given
  restored : action = .restoreDisabledModels →
    (∀ model, model ∈ ((aircraftMatcher S u).step matcher action).1.modelSet ↔ model ∈ given) ∧
      ((aircraftMatcher S u).step matcher action).1.disabledModels = []

/-- Models that come back are of the set that was given, and none of it is lost. Nothing
    is restored explicitly while something is disabled. -/
def Restorable (matcher : CAircraftMatcher S) : MatcherAction → Prop
  | .disableModelsForMatching removedModels incremental =>
    incremental = false →
      (∀ model ∈ matcher.disabledModels, model ∈ given ∨
        listed u (getModelStringList removedModels) model = true) ∧
      (∀ model ∈ given, listed u (getModelStringList matcher.disabledModels) model = true →
        model ∈ matcher.disabledModels ∨ listed u (getModelStringList removedModels) model = true)
  | .addingRemoteModelFailed _ _ _ => True
  | .restoreDisabledModels => matcher.disabledModels = []

/-- No two models have the same string. -/
def UniqueStrings : Prop :=
  ∀ model ∈ given, ∀ model' ∈ given,
    u.sameText model.modelString model'.modelString = true → model = model'

/-- What is kept: every model of the set that was given is in the set or was disabled. -/
structure Keeps (matcher : CAircraftMatcher S) : Prop where
  disabled : ∀ model ∈ matcher.disabledModels, ∀ model' ∈ matcher.modelSet,
    u.sameText model'.modelString model.modelString = false
  fromGiven : ∀ model ∈ matcher.modelSet, model ∈ given
  covered : ∀ model ∈ given, model ∈ matcher.modelSet ∨
    listed u (getModelStringList matcher.disabledModels) model = true

variable {u given}

/-- The string of a model that is taken out does not stay. -/
theorem sameText_of_not_listed {models : CAircraftModelList} {model removed : CAircraftModel}
    (hremoved : removed ∈ models) (hstring : model.hasModelString = true)
    (hlisted : listed u (getModelStringList models) model = false) :
    u.sameText model.modelString removed.modelString = false := by
  rw [← Bool.not_eq_true]
  intro hsame
  by_cases hmodel : removed.hasModelString = true
  · rw [listed_iff.mpr ⟨removed, hremoved, hmodel, hsame⟩] at hlisted
    cases hlisted
  · rw [hasModelString_iff, not_not] at hmodel
    exact absurd (isEmpty_of_sameText hsame hmodel) (hasModelString_iff.mp hstring)

theorem listed_append {models models' : CAircraftModelList} {model : CAircraftModel} :
    listed u (getModelStringList (models ++ models')) model = true ↔
      listed u (getModelStringList models) model = true ∨
        listed u (getModelStringList models') model = true := by
  simp [listed_iff, or_and_right, exists_or]

variable {matcher : CAircraftMatcher S}

/-- Models taken out by their strings are covered by them. -/
theorem keeps_disable (hstrings : ∀ model ∈ given, model.hasModelString = true)
    (h : Keeps u given matcher) (removed : CAircraftModelList) :
    Keeps u given (matcher.disableModelsForMatching u removed true) := by
  constructor
  case disabled =>
    intro model hmodel model' hmodel'
    rcases mem_removeModelsWithString.mp hmodel' with ⟨hset, hlisted⟩
    rcases List.mem_append.mp hmodel with hold | hnew
    · exact h.disabled model hold model' hset
    · exact sameText_of_not_listed hnew (hstrings model' (h.fromGiven model' hset)) hlisted
  case fromGiven =>
    intro model hmodel
    exact h.fromGiven model (mem_removeModelsWithString.mp hmodel).1
  case covered =>
    intro model hmodel
    change model ∈ removeModelsWithString u matcher.modelSet (getModelStringList removed) ∨
      listed u (getModelStringList (matcher.disabledModels ++ removed)) model = true
    rw [listed_append, mem_removeModelsWithString]
    -- What leaves the set now is disabled now.
    rcases h.covered model hmodel with hset | hlisted
    · cases hremoved : listed u (getModelStringList removed) model with
      | false => exact .inl ⟨hset, rfl⟩
      | true => exact .inr (.inr rfl)
    · exact .inr (.inl hlisted)

theorem mem_disable_false {removed : CAircraftModelList} {model : CAircraftModel} :
    model ∈ (matcher.disableModelsForMatching u removed false).modelSet ↔
      (model ∈ matcher.disabledModels ∨ model ∈ matcher.modelSet ∧
        listed u (getModelStringList matcher.disabledModels) model = false) ∧
      listed u (getModelStringList removed) model = false := by
  change model ∈ removeModelsWithString u
    (replaceOrAddModelsWithString u matcher.modelSet matcher.disabledModels)
    (getModelStringList removed) ↔ _
  rw [mem_removeModelsWithString, mem_replaceOrAddModelsWithString]

theorem keeps_replace (hstrings : ∀ model ∈ given, model.hasModelString = true)
    (h : Keeps u given matcher) {removed : CAircraftModelList}
    (hrestorable : Restorable u given matcher (.disableModelsForMatching removed false)) :
    Keeps u given (matcher.disableModelsForMatching u removed false) := by
  rcases hrestorable rfl with ⟨hback, hlost⟩
  -- What is put back was given, unless it is to be removed at once.
  have hgiven : ∀ model ∈ (matcher.disableModelsForMatching u removed false).modelSet,
      model ∈ given := by
    intro model hmodel
    rcases mem_disable_false.mp hmodel with ⟨hdisabled | hset, hlisted⟩
    · rcases hback model hdisabled with hgiven | hremoved
      · exact hgiven
      · exact absurd (hlisted.symm.trans hremoved) (by decide)
    · exact h.fromGiven model hset.1
  refine ⟨fun model hmodel model' hmodel' => ?_, hgiven, fun model hmodel => ?_⟩
  · exact sameText_of_not_listed hmodel (hstrings model' (hgiven model' hmodel'))
      (mem_disable_false.mp hmodel').2
  · cases hremoved : listed u (getModelStringList removed) model with
    | true => exact .inr hremoved
    | false =>
        refine .inl (mem_disable_false.mpr ⟨?_, hremoved⟩)
        -- A given model was disabled or is still in the set, or else it is listed.
        cases hlisted : listed u (getModelStringList matcher.disabledModels) model with
        | true =>
            rcases hlost model hmodel hlisted with hdisabled | hlisted'
            · exact .inl hdisabled
            · exact absurd (hremoved.symm.trans hlisted') (by decide)
        | false =>
            rcases h.covered model hmodel with hset | hlisted'
            · exact .inr ⟨hset, rfl⟩
            · exact absurd (hlisted.symm.trans hlisted') (by decide)

/-- Restorable steps are clean. -/
theorem disables_cleanly_step (hstrings : ∀ model ∈ given, model.hasModelString = true)
    {action : MatcherAction} (h : Keeps u given matcher)
    (hrestorable : Restorable u given matcher action) :
    DisablesCleanly u given matcher action ∧
      Keeps u given ((aircraftMatcher S u).step matcher action).1 := by
  have hkeeps : Keeps u given ((aircraftMatcher S u).step matcher action).1 := by
    cases action with
    | disableModelsForMatching removed incremental =>
        -- Incremental steps only add to what is disabled.
        cases incremental with
        | true => exact keeps_disable hstrings h removed
        | false => exact keeps_replace hstrings h hrestorable
    | addingRemoteModelFailed remove callsign model =>
        change Keeps u given (matcher.addingRemoteModelFailed u remove callsign model)
        unfold CAircraftMatcher.addingRemoteModelFailed
        split_ifs
        · exact keeps_disable hstrings h [model]
        · exact h
    | restoreDisabledModels =>
        -- Restoring is harmless where nothing is disabled.
        have hsame : matcher.restoreDisabledModels u = matcher := by
          have hnone : replaceOrAddModelsWithString u matcher.modelSet matcher.disabledModels
              = matcher.modelSet := if_pos hrestorable
          rw [CAircraftMatcher.restoreDisabledModels, hnone]
        change Keeps u given (matcher.restoreDisabledModels u)
        rw [hsame]
        exact h
  refine ⟨⟨hkeeps.disabled, hkeeps.fromGiven, ?_⟩, hkeeps⟩
  rintro rfl
  refine ⟨fun model => ⟨hkeeps.fromGiven model, fun hmodel => ?_⟩, hrestorable⟩
  rcases hkeeps.covered model hmodel with hset | hlisted
  · exact hset
  · -- Nothing is disabled, and so nothing is covered.
    change listed u (getModelStringList matcher.disabledModels) model = true at hlisted
    rw [hrestorable] at hlisted
    cases hlisted

/-- Where strings are unique, no other steps are. -/
theorem restorable_of_disablesCleanly (hunique : UniqueStrings u given) {action : MatcherAction}
    (h : DisablesCleanly u given matcher action) : Restorable u given matcher action := by
  cases action with
  | addingRemoteModelFailed remove callsign model => trivial
  | restoreDisabledModels => exact (h.restored rfl).2
  | disableModelsForMatching removed incremental =>
      rintro rfl
      -- What was disabled before and is not removed now is back in the set, so it was given.
      have hback : ∀ model ∈ matcher.disabledModels, model ∈ given ∨
          listed u (getModelStringList removed) model = true := by
        intro model hmodel
        cases hremoved : listed u (getModelStringList removed) model with
        | true => exact .inr rfl
        | false => exact .inl (h.fromGiven model (mem_disable_false.mpr ⟨.inl hmodel, hremoved⟩))
      refine ⟨hback, fun model hmodel hlisted => ?_⟩
      rcases listed_iff.mp hlisted with ⟨disabled, hdisabled, -, hsame⟩
      rcases hback disabled hdisabled with hgiven | hremoved
      · left
        rw [hunique model hmodel disabled hgiven hsame]
        exact hdisabled
      · right
        rcases listed_iff.mp hremoved with ⟨m, hm, hstring, hsame'⟩
        exact listed_iff.mpr ⟨m, hm, hstring, sameText_trans hsame hsame'⟩

/-- A new matcher with a set. -/
def startedWith [DecidableEq S] (isSingleSimulator : S → Bool) (models : CAircraftModelList)
    (simulator : S) (forced : Bool) : CAircraftMatcher S :=
  ({} : CAircraftMatcher S).setModelSet isSingleSimulator models simulator forced

/-- The set the matcher starts with. -/
theorem modelSet_setModelSet [DecidableEq S] (isSingleSimulator : S → Bool)
    (models : CAircraftModelList) (simulator : S) (forced : Bool)
    (hsingle : isSingleSimulator simulator = true) :
    (startedWith isSingleSimulator models simulator forced).modelSet
        = models.removeAllWithoutModelString.removeIfExcluded ∧
      (startedWith isSingleSimulator models simulator forced).disabledModels = [] := by
  unfold startedWith CAircraftMatcher.setModelSet
  dsimp only
  split_ifs with hsame
  · simp at hsame
  · exact ⟨rfl, rfl⟩

/-- Whatever set is given, a run of restorable steps is clean. Where the strings of the set
    are unique, no other run is. -/
theorem disables_cleanly_iff [DecidableEq S] (isSingleSimulator : S → Bool)
    (models : CAircraftModelList) (simulator : S) (forced : Bool)
    (hsingle : isSingleSimulator simulator = true) (actions : List MatcherAction)
    {given : CAircraftModelList}
    (hgiven : given = models.removeAllWithoutModelString.removeIfExcluded) :
    ((aircraftMatcher S u).AllSteps (Restorable u given)
          (startedWith isSingleSimulator models simulator forced) actions →
        (aircraftMatcher S u).AllSteps (DisablesCleanly u given)
          (startedWith isSingleSimulator models simulator forced) actions) ∧
      (UniqueStrings u given → (aircraftMatcher S u).AllSteps (DisablesCleanly u given)
          (startedWith isSingleSimulator models simulator forced) actions →
        (aircraftMatcher S u).AllSteps (Restorable u given)
          (startedWith isSingleSimulator models simulator forced) actions) := by
  rcases modelSet_setModelSet isSingleSimulator models simulator forced hsingle
    with ⟨hset, hdisabled⟩
  rw [← hgiven] at hset
  generalize startedWith isSingleSimulator models simulator forced = start at hset hdisabled ⊢
  have hstrings : ∀ model ∈ given, model.hasModelString = true := by
    intro model hmodel
    rw [hgiven] at hmodel
    exact (List.mem_filter.mp (List.mem_of_mem_filter hmodel)).2
  refine ⟨fun hall => ?_, fun hunique hall => ?_⟩
  · -- The run starts with the given set and nothing disabled.
    refine (aircraftMatcher S u).allSteps_of_invariant
      (fun matcher action h hrestorable => disables_cleanly_step hstrings h hrestorable)
      actions start ⟨?_, ?_, ?_⟩ hall
    · rw [hdisabled]
      exact nofun
    · rw [hset]
      exact fun model hmodel => hmodel
    · rw [hset]
      exact fun model hmodel => .inl hmodel
  · exact (aircraftMatcher S u).allSteps_mono
      (fun matcher action h => restorable_of_disablesCleanly hunique h) actions start hall

end DisabledModels

/-! ## A model disabled, and restored -/

/-- A model with just a string. -/
def sampleModel (modelString : QString) : CAircraftModel := { modelString := modelString }

/-- A model that is disabled comes back when another one is disabled in its place. -/
theorem disables_cleanly_replaced :
    (aircraftMatcher Unit UnicodeData.ascii).AllSteps (DisablesCleanly UnicodeData.ascii
        [sampleModel "A320", sampleModel "B738"])
      (startedWith (fun _ => true) [sampleModel "A320", sampleModel "B738"] () true)
      [.disableModelsForMatching [sampleModel "A320"] true,
        .disableModelsForMatching [sampleModel "B738"] false] := by
  refine (disables_cleanly_iff (fun _ => true) _ () true rfl _ (by decide)).1 ⟨?_, ?_, trivial⟩
  · exact fun h => absurd h (by decide)
  · refine fun _ => ⟨fun model hmodel => .inl ?_, fun model hmodel hlisted => .inl ?_⟩
    · rw [List.mem_singleton.mp hmodel]
      exact List.mem_cons_self
    · rcases List.mem_cons.mp hmodel with rfl | hmodel
      · exact List.mem_cons_self
      · rw [List.mem_singleton.mp hmodel] at hlisted
        cases hlisted

/-- Restoring leaves what was disabled on the list. -/
theorem restored_model_stays_disabled : ∃ actions : List MatcherAction,
    ¬(aircraftMatcher Unit UnicodeData.ascii).AllSteps
      (DisablesCleanly UnicodeData.ascii [sampleModel "A320", sampleModel "B738"])
      (startedWith (fun _ => true) [sampleModel "A320", sampleModel "B738"] () true) actions := by
  refine ⟨[.disableModelsForMatching [sampleModel "A320"] true, .restoreDisabledModels],
    fun h => ?_⟩
  exact absurd (h.2.1.restored rfl).2 (by decide)

end NeoSwift.Core
