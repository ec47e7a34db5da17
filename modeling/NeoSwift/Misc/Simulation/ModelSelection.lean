import NeoSwift.Lib.OrderedMap
import NeoSwift.Aviation.FlightPlanAircraftInfo
import NeoSwift.Misc.Simulation.MemoizedModels

/-!
# Selections of Models

Four functions of `CAircraftModelList` that select models by their simulator, by their model
string, by type and wake turbulence category, and by the airline. Each goes wrong in its own
way. The models that do not match a simulator are counted the wrong way round and never
removed. Model strings are counted under the names of the model modes. The category is looked
for in the whole list. The telephony designator is searched for the name.

The simulators are flags of an `int`. What is left to the Unicode database is taken as a
parameter.

## Main definitions

* `removeIfNotMatchingSimulator`, `findDuplicateModelStrings`, `findByCombinedTypeAndWtc`,
  `findByAirlineNameAndTelephonyDesignator`: The selections.
* `SelectsSoundly`: What they are to return.
* `Selectable`: The arguments for which they do.

## Theorems

* `countPerModelString_gt_one`: What is counted more than once.
* `selects_soundly_iff`: When the selections return what they are to.
-/

namespace NeoSwift.Misc

namespace Memoized

open Aviation (UnicodeData)

/-- `QString::contains`, caseless. -/
def containsText (u : UnicodeData) (s part : QString) : Bool :=
  QString.contains (s.map u.foldCase) (part.map u.foldCase)

namespace CAirlineIcaoCode

variable (icao : CAirlineIcaoCode)

def hasName : Bool := !icao.name.isEmpty

def hasTelephonyDesignator : Bool := !icao.telephonyDesignator.isEmpty

/-- `isValidAirlineDesignator`. -/
def hasValidDesignator (u : UnicodeData) : Bool :=
  decide (2 ≤ icao.designator.length) && decide (icao.designator.length ≤ 5) &&
    icao.designator.all (fun c => u.isUpper c || u.isDigit c)

end CAirlineIcaoCode

namespace CWakeTurbulenceCategory

/-- The numbers of `WakeTurbulenceCategory`. -/
def ofCategory : Aviation.WakeTurbulenceCategory → CWakeTurbulenceCategory
  | .unknown => ⟨0⟩
  | .light => ⟨1⟩
  | .medium => ⟨2⟩
  | .heavy => ⟨3⟩
  | .super => ⟨4⟩

/-- The category of a letter. -/
def ofLetter (u : UnicodeData) (letter : Char) : CWakeTurbulenceCategory :=
  ofCategory (Aviation.CWakeTurbulenceCategory.ofLetter u letter).wtc

end CWakeTurbulenceCategory

/-- The members of the code that are compared with a combined type. -/
def CAircraftIcaoCode.matchesCombinedType (u : UnicodeData) (icao : CAircraftIcaoCode)
    (combinedType : QString) : Bool :=
  Aviation.CAircraftIcaoCode.matchesCombinedType u { combinedType := icao.combinedType }
    combinedType

namespace CAircraftModel

variable (u : UnicodeData) (model : CAircraftModel)

def hasValidDbKey : Bool := decide (0 ≤ model.dbKey)

def getAirlineIcaoCode : CAirlineIcaoCode := model.livery.airline

def hasAirlineDesignator : Bool := model.getAirlineIcaoCode.hasValidDesignator u

/-- `matchesModelString`, caseless. -/
def matchesModelString (modelString : QString) : Bool := u.sameText modelString model.modelString

/-- One of the simulators is among those of the model. -/
def matchesSimulator (simulator : CSimulatorInfo) : Bool :=
  decide (0 < simulator.simulator &&& model.simulator.simulator)

/-- `modelModeToString`. Other modes than the two do not occur. -/
def getModelModeAsString : QString :=
  if model.modelMode = 2 then "Exclude" else "Include"

end CAircraftModel

namespace Selection

variable (u : UnicodeData) (models : List CAircraftModel)

/-- The models that stay and what is returned, a difference of two sizes. -/
def removeIfNotMatchingSimulator (needToMatch : CSimulatorInfo) : List CAircraftModel × ℤ :=
  if models.isEmpty then (models, 0)
  else
    let matching := models.filter (fun model => model.matchesSimulator needToMatch)
    let diff : ℤ := matching.length - models.length
    (if 0 < diff then matching else models, diff)

def findByModelString (modelString : QString) : List CAircraftModel :=
  models.filter (fun model => model.matchesModelString u modelString)

/-- One model more. The string is looked up, but its mode is counted. -/
def countModel (modelStrings : OrderedMap QString ℕ) (model : CAircraftModel) :
    OrderedMap QString ℕ :=
  if modelStrings.contains model.modelString then
    modelStrings.insert model.getModelModeAsString
      ((modelStrings.lookup model.getModelModeAsString).getD 0 + 1)
  else modelStrings.insert model.getModelModeAsString 1

/-- The counts, model by model. -/
def countPerModelString : OrderedMap QString ℕ := models.foldl countModel ∅

/-- The models of each string that is counted more than once. -/
def findDuplicateModelStrings : List CAircraftModel :=
  (countPerModelString models).collect fun string count =>
    if 1 < count then findByModelString u models string else []

/-- The models with the combined type, none if it has not three letters. -/
def findByCombinedType (combinedType : QString) : List CAircraftModel :=
  if combinedType.length ≠ 3 then []
  else models.filter (fun model =>
    model.aircraftIcao.matchesCombinedType u (u.toUpper combinedType.trimmed))

/-- The category of a text. Blanks have no first letter, so that reading it is not defined. -/
def wtcOfText (wtc : QString) : Option CWakeTurbulenceCategory :=
  if wtc.isEmpty then some {}
  else (u.toUpper wtc).trimmed.head?.map (CWakeTurbulenceCategory.ofLetter u)

/-- The models of the category, if there is one of the combined type. -/
def findByCombinedTypeAndWtc (combinedType wtc : QString) : Option (List CAircraftModel) :=
  if (findByCombinedType u models combinedType).isEmpty then some []
  else (wtcOfText u wtc).map fun wtcUc =>
    models.filter (fun model => model.aircraftIcao.wtc == wtcUc)

/-- The name is what is searched for in the telephony designator. -/
def matchesAirline (name telephony : QString) (onlyIfExistInModel : Bool)
    (model : CAircraftModel) : Bool :=
  if !model.hasAirlineDesignator u || !model.hasValidDbKey then false
  else
    let icao := model.getAirlineIcaoCode
    if !name.isEmpty && (icao.hasName || !onlyIfExistInModel) &&
        !containsText u icao.name name then false
    else if !telephony.isEmpty && (icao.hasTelephonyDesignator || !onlyIfExistInModel) &&
        !containsText u icao.telephonyDesignator name then false
    else true

/-- The models whose airline has the name and the telephony designator. -/
def findByAirlineNameAndTelephonyDesignator (name telephony : QString)
    (onlyIfExistInModel : Bool) : List CAircraftModel :=
  models.filter (matchesAirline u name telephony onlyIfExistInModel)

/-! ## What the selections are to return -/

/-- The string of the model occurs more than once. -/
def isDuplicate (model : CAircraftModel) : Bool :=
  decide (1 < models.countP (fun other => other.matchesModelString u model.modelString))

/-- The airline has the name and the telephony designator, if they are given. -/
def hasNameAndTelephony (name telephony : QString) (model : CAircraftModel) : Bool :=
  model.hasAirlineDesignator u && model.hasValidDbKey &&
    (name.isEmpty || containsText u model.getAirlineIcaoCode.name name) &&
    (telephony.isEmpty || containsText u model.getAirlineIcaoCode.telephonyDesignator telephony)

/-- The selections return what their names say. -/
structure SelectsSoundly (simulator : CSimulatorInfo) (combinedType wtc name telephony : QString) :
    Prop where
  simulator : removeIfNotMatchingSimulator models simulator =
    (models.filter (fun model => model.matchesSimulator simulator),
      (models.countP (fun model => !model.matchesSimulator simulator) : ℤ))
  duplicates : ∀ model, model ∈ findDuplicateModelStrings u models ↔
    model ∈ models ∧ isDuplicate u models model = true
  typeAndWtc : ∃ found, findByCombinedTypeAndWtc u models combinedType wtc = some found ∧
    found.Sublist (findByCombinedType u models combinedType)
  airline : findByAirlineNameAndTelephonyDesignator u models name telephony false =
    models.filter (hasNameAndTelephony u name telephony)

/-! ## When they do -/

/-- The last model of a mode is not its first one, and its string is the name of a mode that
    a model in front of it has. -/
def countsTwice (mode : QString) : Bool :=
  match models.reverse.dropWhile (fun model => model.getModelModeAsString != mode) with
  | [] => false
  | last :: earlier =>
    earlier.any (fun model => model.getModelModeAsString == mode) &&
      earlier.any (fun model => model.getModelModeAsString == last.modelString)

/-- The models and texts for which they do. -/
structure Selectable (simulator : CSimulatorInfo) (combinedType wtc name telephony : QString) :
    Prop where
  simulator : ∀ model ∈ models, model.matchesSimulator simulator = true
  duplicates : ∀ model ∈ models, isDuplicate u models model = true ↔
    ∃ mode, countsTwice models mode = true ∧ u.sameText mode model.modelString = true
  typeAndWtc : findByCombinedType u models combinedType = [] ∨
    ∃ wtcUc, wtcOfText u wtc = some wtcUc ∧ ∀ model ∈ models, model.aircraftIcao.wtc = wtcUc →
      model ∈ findByCombinedType u models combinedType
  airline : telephony = [] ∨ ∀ model ∈ models, model.hasAirlineDesignator u = true →
    model.hasValidDbKey = true →
    (name = [] ∨ containsText u model.getAirlineIcaoCode.name name = true) →
      (containsText u model.getAirlineIcaoCode.telephonyDesignator name = true ↔
        containsText u model.getAirlineIcaoCode.telephonyDesignator telephony = true)

/-! ## The simulator -/

variable {u models}

/-- The difference is never positive, so that all models stay. -/
theorem removeIfNotMatchingSimulator_eq (simulator : CSimulatorInfo) :
    removeIfNotMatchingSimulator models simulator =
      (models, -(models.countP (fun model => !model.matchesSimulator simulator) : ℤ)) := by
  unfold removeIfNotMatchingSimulator
  cases models with
  | nil => rfl
  | cons model models =>
    rw [List.isEmpty_cons, if_neg Bool.false_ne_true]
    dsimp only
    have hlength := List.length_eq_countP_add_countP
      (fun model => model.matchesSimulator simulator) (l := model :: models)
    rw [← List.countP_eq_length_filter, if_neg (by omega)]
    simp only [Prod.mk.injEq, true_and]
    have hnot : (model :: models).countP (fun model => !model.matchesSimulator simulator) =
        (model :: models).countP (fun model => decide (¬model.matchesSimulator simulator)) := by
      refine List.countP_congr fun m _ => ?_
      rw [Bool.not_eq_true', decide_eq_true_eq, Bool.not_eq_true]
    omega

theorem simulator_selected_iff {simulator : CSimulatorInfo} :
    removeIfNotMatchingSimulator models simulator =
        (models.filter (fun model => model.matchesSimulator simulator),
          (models.countP (fun model => !model.matchesSimulator simulator) : ℤ)) ↔
      ∀ model ∈ models, model.matchesSimulator simulator = true := by
  rw [removeIfNotMatchingSimulator_eq, Prod.mk.injEq]
  constructor
  · intro h
    exact List.filter_eq_self.mp h.1.symm
  · intro hall
    have hnone : models.countP (fun model => !model.matchesSimulator simulator) = 0 := by
      refine List.countP_eq_zero.mpr fun model hmodel => ?_
      rw [hall model hmodel]
      exact Bool.false_ne_true
    rw [hnone]
    exact ⟨(List.filter_eq_self.mpr hall).symm, rfl⟩

/-! ## Model strings that occur more than once -/

/-- The count of a mode after one model more of it. -/
theorem countModel_eq (modelStrings : OrderedMap QString ℕ) (model : CAircraftModel) :
    countModel modelStrings model = modelStrings.insert model.getModelModeAsString
      (if modelStrings.contains model.modelString
        then (modelStrings.lookup model.getModelModeAsString).getD 0 + 1 else 1) := by
  unfold countModel
  split_ifs <;> rfl

theorem lookup_countPerModelString_append (model : CAircraftModel) (mode : QString) :
    (countPerModelString (models ++ [model])).lookup mode =
      if mode = model.getModelModeAsString then
        some (if (countPerModelString models).contains model.modelString
          then ((countPerModelString models).lookup mode).getD 0 + 1 else 1)
      else (countPerModelString models).lookup mode := by
  have hstep : countPerModelString (models ++ [model]) =
      countModel (countPerModelString models) model := by
    unfold countPerModelString
    rw [List.foldl_append]
    rfl
  rw [hstep, countModel_eq, OrderedMap.lookup_insert]
  by_cases hmode : mode = model.getModelModeAsString
  · rw [if_pos hmode, if_pos hmode, hmode]
  · rw [if_neg hmode, if_neg hmode]

/-- The modes of the models are what can be looked up. -/
theorem contains_countPerModelString (string : QString) :
    (countPerModelString models).contains string =
      models.any (fun model => model.getModelModeAsString == string) := by
  induction models using List.reverseRecOn with
  | nil => rfl
  | append_singleton models model ih =>
    rw [List.any_append, ← ih, OrderedMap.contains, lookup_countPerModelString_append]
    by_cases hmode : string = model.getModelModeAsString
    · rw [hmode]
      simp
    · rw [if_neg hmode, List.any_cons, beq_false_of_ne (Ne.symm hmode)]
      simp only [List.any_nil, Bool.or_false]
      rfl

/-- Each is there with a positive count. -/
theorem countPerModelString_pos {mode : QString} {count : ℕ}
    (h : (countPerModelString models).lookup mode = some count) : 0 < count := by
  induction models using List.reverseRecOn generalizing count with
  | nil => cases h
  | append_singleton models model ih =>
    rw [lookup_countPerModelString_append] at h
    by_cases hmode : mode = model.getModelModeAsString
    · rw [if_pos hmode, Option.some.injEq] at h
      split_ifs at h
      · omega
      · omega
    · rw [if_neg hmode] at h
      exact ih h

/-- A count of more than one is left behind by the last model of its mode. -/
theorem countPerModelString_gt_one (mode : QString) :
    (∃ count, (countPerModelString models).lookup mode = some count ∧ 1 < count) ↔
      countsTwice models mode = true := by
  induction models using List.reverseRecOn with
  | nil =>
    refine iff_of_false ?_ Bool.false_ne_true
    rintro ⟨count, hcount, -⟩
    exact Option.some_ne_none _ hcount.symm
  | append_singleton models model ih =>
    rw [lookup_countPerModelString_append]
    unfold countsTwice
    rw [List.reverse_append, List.reverse_singleton, List.singleton_append]
    by_cases hmode : mode = model.getModelModeAsString
    · -- The model is the last one of its mode.
      have hlast : ¬(model.getModelModeAsString != mode) = true := by
        rw [hmode, bne_self_eq_false]
        exact Bool.false_ne_true
      rw [if_pos hmode, List.dropWhile_cons, if_neg hlast]
      dsimp only
      rw [List.any_reverse, List.any_reverse, ← contains_countPerModelString,
        ← contains_countPerModelString]
      simp only [Option.some.injEq, exists_eq_left']
      have hcontains : (countPerModelString models).contains mode =
        ((countPerModelString models).lookup mode).isSome := rfl
      rw [hcontains]
      -- It is counted once, or one more than before if another model has its string.
      cases hlookup : (countPerModelString models).lookup mode with
      | none =>
        refine iff_of_false ?_ Bool.false_ne_true
        rw [Option.getD_none]
        split_ifs
        · omega
        · omega
      | some count =>
        have hpos := countPerModelString_pos hlookup
        rw [Option.getD_some]
        split_ifs with hstring
        · exact iff_of_true (by omega) hstring
        · exact iff_of_false (by omega) hstring
    · rw [if_neg hmode, List.dropWhile_cons, if_pos (bne_iff_ne.mpr (Ne.symm hmode))]
      exact ih

/-- What is returned are the models with the name of a mode that is counted more than once. -/
theorem mem_findDuplicateModelStrings {model : CAircraftModel} :
    model ∈ findDuplicateModelStrings u models ↔
      model ∈ models ∧ ∃ mode, countsTwice models mode = true ∧
        u.sameText mode model.modelString = true := by
  unfold findDuplicateModelStrings
  rw [OrderedMap.mem_collect]
  constructor
  · rintro ⟨mode, count, hlookup, hmem⟩
    split_ifs at hmem with hcount
    · rw [findByModelString, List.mem_filter] at hmem
      exact ⟨hmem.1, mode, countPerModelString_gt_one mode |>.mp ⟨count, hlookup, hcount⟩, hmem.2⟩
    · cases hmem
  · rintro ⟨hmem, mode, htwice, hsame⟩
    rcases (countPerModelString_gt_one mode).mpr htwice with ⟨count, hlookup, hcount⟩
    refine ⟨mode, count, hlookup, ?_⟩
    rw [if_pos hcount, findByModelString, List.mem_filter]
    exact ⟨hmem, hsame⟩

theorem duplicates_selected_iff :
    (∀ model, model ∈ findDuplicateModelStrings u models ↔
        model ∈ models ∧ isDuplicate u models model = true) ↔
      ∀ model ∈ models, isDuplicate u models model = true ↔
        ∃ mode, countsTwice models mode = true ∧ u.sameText mode model.modelString = true := by
  simp only [mem_findDuplicateModelStrings, and_congr_right_iff]
  exact forall₂_congr fun _ _ => iff_comm

/-! ## The wake turbulence category -/

variable (u models) in
theorem exists_findByCombinedType_eq (combinedType : QString) :
    ∃ p, findByCombinedType u models combinedType = models.filter p := by
  unfold findByCombinedType
  split_ifs with hlength
  · exact ⟨fun _ => false, (List.filter_false models).symm⟩
  · exact ⟨_, rfl⟩

/-- The models of the category are some of the type if all of them are. -/
theorem typeAndWtc_selected_iff {combinedType wtc : QString} :
    (∃ found, findByCombinedTypeAndWtc u models combinedType wtc = some found ∧
        found.Sublist (findByCombinedType u models combinedType)) ↔
      findByCombinedType u models combinedType = [] ∨
        ∃ wtcUc, wtcOfText u wtc = some wtcUc ∧ ∀ model ∈ models,
          model.aircraftIcao.wtc = wtcUc → model ∈ findByCombinedType u models combinedType := by
  unfold findByCombinedTypeAndWtc
  by_cases hnone : findByCombinedType u models combinedType = []
  · rw [hnone]
    exact iff_of_true ⟨[], rfl, List.nil_sublist _⟩ (Or.inl rfl)
  · rw [if_neg (mt List.isEmpty_iff.mp hnone), or_iff_right hnone]
    cases hwtc : wtcOfText u wtc with
    | none =>
      refine iff_of_false ?_ ?_
      · rintro ⟨found, hfound, -⟩
        exact Option.some_ne_none found hfound.symm
      · rintro ⟨wtcUc, hwtcUc, -⟩
        exact Option.some_ne_none wtcUc hwtcUc.symm
    | some wtcUc =>
      simp only [Option.map_some, Option.some.injEq, exists_eq_left']
      constructor
      · intro hsub model hmodel hwtcModel
        exact hsub.subset (List.mem_filter.mpr ⟨hmodel, beq_iff_eq.mpr hwtcModel⟩)
      · -- The type is a filter as well, which the models of the category pass.
        intro hall
        rcases exists_findByCombinedType_eq u models combinedType with ⟨p, hp⟩
        have hwtcs : models.filter (fun model => model.aircraftIcao.wtc == wtcUc) =
            (models.filter p).filter (fun model => model.aircraftIcao.wtc == wtcUc) := by
          rw [List.filter_filter]
          refine List.filter_congr fun model hmodel => ?_
          cases hmodelWtc : model.aircraftIcao.wtc == wtcUc with
          | false => rfl
          | true =>
            have hmem := hall model hmodel (beq_iff_eq.mp hmodelWtc)
            rw [hp] at hmem
            rw [(List.mem_filter.mp hmem).2]
            rfl
        rw [hwtcs, hp]
        exact List.filter_sublist

/-! ## The airline -/

/-- Two filters that leave the same agree on the list. -/
theorem filter_eq_filter_iff {α : Type*} {p q : α → Bool} {l : List α} :
    l.filter p = l.filter q ↔ ∀ a ∈ l, p a = q a := by
  refine ⟨fun h a ha => ?_, List.filter_congr⟩
  have hmem : a ∈ l.filter p ↔ a ∈ l.filter q := by rw [h]
  rw [List.mem_filter, List.mem_filter, and_iff_right ha, and_iff_right ha] at hmem
  exact Bool.eq_iff_iff.mpr hmem

/-- The search as it is made, in the form of the one that is wanted. -/
theorem matchesAirline_eq (name telephony : QString) (model : CAircraftModel) :
    matchesAirline u name telephony false model =
      (model.hasAirlineDesignator u && model.hasValidDbKey &&
        (name.isEmpty || containsText u model.getAirlineIcaoCode.name name) &&
        (telephony.isEmpty || containsText u
          model.getAirlineIcaoCode.telephonyDesignator name)) := by
  unfold matchesAirline
  dsimp only
  cases model.hasAirlineDesignator u
  · rfl
  cases model.hasValidDbKey
  · rfl
  rw [Bool.not_false, Bool.or_true, Bool.or_true]
  cases name.isEmpty
  · cases containsText u model.getAirlineIcaoCode.name name
    · rfl
    · cases telephony.isEmpty
      · cases containsText u model.getAirlineIcaoCode.telephonyDesignator name <;> rfl
      · rfl
  · cases telephony.isEmpty
    · cases containsText u model.getAirlineIcaoCode.telephonyDesignator name <;> rfl
    · rfl

theorem airline_selected_iff {name telephony : QString} :
    findByAirlineNameAndTelephonyDesignator u models name telephony false =
        models.filter (hasNameAndTelephony u name telephony) ↔
      telephony = [] ∨ ∀ model ∈ models, model.hasAirlineDesignator u = true →
        model.hasValidDbKey = true →
        (name = [] ∨ containsText u model.getAirlineIcaoCode.name name = true) →
          (containsText u model.getAirlineIcaoCode.telephonyDesignator name = true ↔
            containsText u model.getAirlineIcaoCode.telephonyDesignator telephony = true) := by
  -- The searches agree on the name, so that only the telephony designator is left.
  rw [findByAirlineNameAndTelephonyDesignator, filter_eq_filter_iff, ← List.isEmpty_iff,
    ← List.isEmpty_iff]
  cases htelephony : telephony.isEmpty with
  | true =>
    refine iff_of_true (fun model _ => ?_) (Or.inl rfl)
    rw [matchesAirline_eq, hasNameAndTelephony, htelephony, Bool.true_or, Bool.true_or]
  | false =>
    rw [or_iff_right Bool.false_ne_true]
    refine forall₂_congr fun model _ => ?_
    rw [matchesAirline_eq, hasNameAndTelephony, htelephony, Bool.false_or, Bool.false_or,
      Bool.eq_iff_iff, Bool.and_eq_true, Bool.and_eq_true _
        (containsText u model.getAirlineIcaoCode.telephonyDesignator telephony),
      and_congr_right_iff, Bool.and_eq_true, Bool.and_eq_true, Bool.or_eq_true]
    constructor
    · intro h hdesignator hkey hname
      exact h ⟨⟨hdesignator, hkey⟩, hname⟩
    · intro h hall
      exact h hall.1.1 hall.1.2 hall.2

/-! ## All of them -/

theorem selects_soundly_iff {simulator : CSimulatorInfo}
    {combinedType wtc name telephony : QString} :
    SelectsSoundly u models simulator combinedType wtc name telephony ↔
      Selectable u models simulator combinedType wtc name telephony := by
  constructor
  · intro h
    exact ⟨simulator_selected_iff.mp h.simulator, duplicates_selected_iff.mp h.duplicates,
      typeAndWtc_selected_iff.mp h.typeAndWtc, airline_selected_iff.mp h.airline⟩
  · intro h
    exact ⟨simulator_selected_iff.mpr h.simulator, duplicates_selected_iff.mpr h.duplicates,
      typeAndWtc_selected_iff.mpr h.typeAndWtc, airline_selected_iff.mpr h.airline⟩

/-- A jet and a piston of the same category for one simulator, twice the same string. None is
    for the other simulator, of both only one is a jet, and none is called as the airline. -/
theorem selects_unsoundly :
    let jet : CAircraftModel :=
      { dbKey := 1
        modelString := "A320"
        simulator := ⟨1⟩
        aircraftIcao := { combinedType := "L2J", wtc := ⟨2⟩ }
        livery := { airline :=
          { designator := "DLH"
            name := "Lufthansa"
            telephonyDesignator := "LUFTHANSA" } } }
    let piston : CAircraftModel :=
      { jet with aircraftIcao := { combinedType := "L4P", wtc := ⟨2⟩ } }
    let models := [jet, piston]
    ((removeIfNotMatchingSimulator models ⟨4⟩).1.length,
        (removeIfNotMatchingSimulator models ⟨4⟩).2) = (2, -2) ∧
      ((models.filter (isDuplicate .ascii models)).length,
        (findDuplicateModelStrings .ascii models).length) = (2, 0) ∧
      ((findByCombinedType .ascii models "L2J").length,
        (findByCombinedTypeAndWtc .ascii models "L2J" "M").map List.length) =
          (1, some 2) ∧
      ((models.filter (hasNameAndTelephony .ascii "Lufthansa" "CONDOR")).length,
        (findByAirlineNameAndTelephonyDesignator .ascii models "Lufthansa"
          "CONDOR" false).length) = (0, 2) := by
  decide +kernel

end Selection

end Memoized

end NeoSwift.Misc
