import NeoSwift.Misc.Simulation.AircraftModel

/-!
# Stepwise Matching

The steps by which `CAircraftMatcher` reduces a model set to the models that are closest
to a remote aircraft. Each step returns the models that meet its criterion and reports
that it reduced the list, or returns the list as it was if there are none. What the next
step does depends on the report.

Of the remote aircraft, its current model is all that matters. Scripts and category
matching are off, and log messages are left out, although a step is skipped where none
are wanted.

## Main definitions

* `MatchingMode`: The flags of the setup.
* `ifPossibleReduceByAirline`, `ifPossibleReduceByFamily`: The steps.
* `getClosestMatchStepwiseReduceImplementation`: All of them.
* `Reduces`, `ReducesTo`: What a step is to return and report.
* `Reducible`: The model sets for which the steps do.

## Theorems

* `subperm_addWithoutStrings_iff`: Two selections, without the second's known strings.
* `reducesTo_filter`: A step that keeps what meets a criterion.
* `reducesTo_livery_iff`: The search with its arguments the other way round.
* `reducesTo_unreported_iff`: A step that keeps what meets a criterion, but does not say so.
* `triesFamily_ne`: The family that is returned unreported is never the whole list.
* `kept_stepwise`: All steps together keep something of the model set.
* `reduces_soundly_iff`: When all steps do what they are to.
-/

namespace NeoSwift.Core

open Aviation Misc.Simulation.Matching Misc.Simulation.Matching.CAircraftModelList

/-- `CAircraftMatcherSetup::MatchingMode`. -/
abbrev MatchingMode := ℕ

namespace MatchingMode

/-- `QFlags::testFlag`. -/
def testFlag (mode flag : MatchingMode) : Bool := mode &&& flag == flag

/-- The bits of `CAircraftMatcherSetup::MatchingModeFlag`. -/
def byIcaoData : MatchingMode := 2 ^ 1

def byFamily : MatchingMode := 2 ^ 2

def byLivery : MatchingMode := 2 ^ 3

def byCombinedType : MatchingMode := 2 ^ 4

def byManufacturer : MatchingMode := 2 ^ 5

def byMilitary : MatchingMode := 2 ^ 6

def byCivilian : MatchingMode := 2 ^ 7

def byVtol : MatchingMode := 2 ^ 8

def byIcaoOrderAirlineFirst : MatchingMode := 2 ^ 10 ||| byIcaoData

def byAirlineGroupSameAsAirline : MatchingMode := 2 ^ 11 ||| byIcaoData

def byAirlineGroupIfNoAirline : MatchingMode := 2 ^ 12 ||| byIcaoData

end MatchingMode

open MatchingMode

/-- What a step returns, and whether it reports that it reduced the list. -/
structure Reduction where
  models : CAircraftModelList
  reduced : Bool
  deriving DecidableEq

section StepwiseReduce

variable (u : UnicodeData) (mode : MatchingMode) (remote : CAircraftModel)

/-- The arguments of the search are in the order of the source. -/
def ifPossibleReduceByLiveryAndAircraftIcaoCode (inList : CAircraftModelList) : Reduction :=
  if !remote.livery.hasCombinedCode then ⟨inList, false⟩
  else
    let byLivery := inList.findByAircraftDesignatorAndLiveryCombinedCode u
      remote.livery.combinedCode remote.aircraftIcao.designator
    if byLivery = [] then ⟨inList, false⟩ else ⟨byLivery, true⟩

/-- Unless nothing would be left. -/
def ifPossibleReduceByManufacturer (inList : CAircraftModelList) : Reduction :=
  if inList = [] then ⟨inList, false⟩
  else if remote.aircraftIcao.manufacturer.isEmpty then ⟨inList, false⟩
  else
    let outList := inList.findByManufacturer u remote.aircraftIcao.manufacturer
    if outList = [] then ⟨inList, false⟩ else ⟨outList, true⟩

/-- The models of a family, and those of the pseudo family, the combined type and the
    manufacturer. -/
def ifPossibleReduceByFamilyName (family : QString) (allowPseudoFamily : Bool)
    (inList : CAircraftModelList) : Reduction :=
  if family.isEmpty && !allowPseudoFamily then ⟨inList, false⟩
  else if inList = [] then ⟨inList, false⟩
  else
    let foundByFamily := inList.findByFamily u family
    if foundByFamily = [] && !allowPseudoFamily then ⟨inList, false⟩
    else
      let foundByCM := if allowPseudoFamily then
        inList.findByCombinedAndManufacturer u remote.aircraftIcao else []
      if foundByCM = [] && foundByFamily = [] then ⟨inList, false⟩
      else ⟨foundByFamily ++
        foundByCM.removeModelsWithString u foundByFamily.getModelStringList, true⟩

/-- The family of the aircraft, or its designator treated as a family. With the family
    that was used. -/
def ifPossibleReduceByFamily (allowPseudoFamily : Bool) (inList : CAircraftModelList) :
    Reduction × QString :=
  let byFamily := ifPossibleReduceByFamilyName u remote remote.aircraftIcao.family
    allowPseudoFamily inList
  if !remote.aircraftIcao.family.isEmpty && byFamily.reduced then
    (byFamily, remote.aircraftIcao.family)
  else
    (ifPossibleReduceByFamilyName u remote remote.aircraftIcao.designator allowPseudoFamily inList,
      remote.aircraftIcao.designator)

/-- By the ICAO designator. -/
def ifPossibleReduceByAircraft (inList : CAircraftModelList) : Reduction :=
  if inList = [] then ⟨inList, false⟩
  else if !remote.aircraftIcao.hasDesignator then ⟨inList, false⟩
  else
    let outList := inList.findByIcaoDesignators remote.aircraftIcao.designator []
    if outList = [] then ⟨inList, false⟩ else ⟨outList, true⟩

/-- The family if the designator does not reduce. -/
def ifPossibleReduceByAircraftOrFamily (allowPseudoFamily : Bool) (inList : CAircraftModelList) :
    Reduction :=
  let byAircraft := ifPossibleReduceByAircraft remote inList
  if byAircraft.reduced || !mode.testFlag byFamily then byAircraft
  else (ifPossibleReduceByFamily u remote allowPseudoFamily inList).1

/-- Models of the airline, and models of its group in addition or in their place. -/
def ifPossibleReduceByAirline (inList : CAircraftModelList) : Reduction :=
  if inList = [] then ⟨inList, false⟩
  else if !remote.getAirlineIcaoCode.hasValidDesignator u then ⟨inList, false⟩
  else
    let byAirline := inList.findByIcaoDesignators [] remote.getAirlineIcaoCode.designator
    let outList :=
      if mode.testFlag byAirlineGroupSameAsAirline ||
          (byAirline = [] || mode.testFlag byAirlineGroupIfNoAirline) then
        if remote.getAirlineIcaoCode.hasGroupMembership then
          byAirline.replaceOrAddModelsWithString u
            (inList.findByAirlineGroup remote.getAirlineIcaoCode)
        else byAirline
      else byAirline
    if outList = [] then ⟨inList, false⟩ else ⟨outList, true⟩

/-- An empty list leaves the report as it was. -/
def ifPossibleReduceByIcaoData (inList : CAircraftModelList) (reduced : Bool) : Reduction :=
  if inList = [] then ⟨inList, reduced⟩
  else if mode.testFlag byIcaoOrderAirlineFirst then
    let first := ifPossibleReduceByAirline u mode remote inList
    let second := ifPossibleReduceByAircraftOrFamily u mode remote true first.models
    if first.reduced || second.reduced then ⟨second.models, true⟩ else ⟨inList, false⟩
  else if mode.testFlag byIcaoData then
    let first := ifPossibleReduceByAircraftOrFamily u mode remote true inList
    let second := ifPossibleReduceByAirline u mode remote first.models
    let models2nd := ifPossibleReduceByAirline u mode remote
      (ifPossibleReduceByFamily u remote true inList).1.models
    if remote.getAirlineIcaoCode.hasValidDesignator u && !second.reduced &&
        mode.testFlag byFamily && models2nd.reduced then
      ⟨models2nd.models, false⟩
    else if first.reduced || second.reduced then ⟨second.models, true⟩
    else ⟨inList, false⟩
  else ⟨inList, false⟩

/-- Several models are reduced by airline and manufacturer as well. -/
def ifPossibleReduceByCombinedType (inList : CAircraftModelList) : Reduction :=
  if !remote.aircraftIcao.hasValidCombinedType u then ⟨inList, false⟩
  else
    let modelsByCombinedCode := inList.findByCombinedType u remote.aircraftIcao.combinedType
    if modelsByCombinedCode = [] then ⟨inList, false⟩
    else if 1 < modelsByCombinedCode.length then
      ⟨(ifPossibleReduceByManufacturer u remote
        (ifPossibleReduceByAirline u mode remote modelsByCombinedCode).models).models, true⟩
    else ⟨modelsByCombinedCode, false⟩

/-- Unless nothing would be left. -/
def ifPossibleReduceByMilitaryFlag (inList : CAircraftModelList) : Reduction :=
  let byMilitaryFlag := inList.findByMilitaryFlag remote.isMilitary
  if byMilitaryFlag = [] then ⟨inList, false⟩ else ⟨byMilitaryFlag, false⟩

/-- Unless there is none. -/
def ifPossibleReduceByVTOLFlag (inList : CAircraftModelList) : Reduction :=
  if !inList.containsVtol then ⟨inList, false⟩ else ⟨inList.findByVtolFlag true, false⟩

/-- The livery, or the codes, or the family, which is tried only where its steps are
    logged. `none` if this is all. -/
def reduceByCodes (reduceLog : Bool) (modelSet : CAircraftModelList) :
    CAircraftModelList × Option Reduction :=
  let livery := if mode.testFlag byLivery then
    ifPossibleReduceByLiveryAndAircraftIcaoCode u remote modelSet else ⟨modelSet, false⟩
  if livery.reduced then (livery.models, none)
  else if mode.testFlag byIcaoData then
    let icao := ifPossibleReduceByIcaoData u mode remote livery.models livery.reduced
    (icao.models, some icao)
  else if reduceLog && mode.testFlag byFamily then
    let family := (ifPossibleReduceByFamily u remote true livery.models).1
    (family.models, if family.reduced then none else some family)
  else (livery.models, some livery)

/-- By VTOL, unless reduced before, then by the military or the civilian flag, then by the
    combined type. -/
def reduceByFlags (reduction : Reduction) : CAircraftModelList :=
  let vtol := if !reduction.reduced && remote.isVtol && reduction.models.containsVtol &&
      mode.testFlag byVtol then reduction.models.findByVtolFlag true else reduction.models
  let military := if (mode.testFlag byMilitary && remote.isMilitary) ||
      (mode.testFlag byCivilian && !remote.isMilitary) then
    (ifPossibleReduceByMilitaryFlag remote vtol).models else vtol
  if mode.testFlag byCombinedType then
    (ifPossibleReduceByCombinedType u mode remote military).models else military

/-- All steps in their order. -/
def getClosestMatchStepwiseReduceImplementation (reduceLog : Bool)
    (modelSet : CAircraftModelList) : CAircraftModelList :=
  let byCodes := reduceByCodes u mode remote reduceLog modelSet
  let matchedModels := match byCodes.2 with
    | none => byCodes.1
    | some reduction => reduceByFlags u mode remote reduction
  if 1 < matchedModels.length && mode.testFlag byManufacturer then
    (ifPossibleReduceByManufacturer u remote matchedModels).models
  else matchedModels

/-! ## What the steps are to do -/

/-- The criterion of the livery. -/
def hasLiveryAndDesignator (m : CAircraftModel) : Bool :=
  m.aircraftIcao.matchesDesignator u remote.aircraftIcao.designator &&
    m.livery.matchesCombinedCode u remote.livery.combinedCode

/-- What is looked for instead, the arguments being the other way round. -/
def hasDesignatorAsLivery (m : CAircraftModel) : Bool :=
  m.aircraftIcao.matchesDesignator u remote.livery.combinedCode &&
    m.livery.matchesCombinedCode u remote.aircraftIcao.designator

/-- The manufacturer of the remote aircraft. -/
def isOfManufacturer (m : CAircraftModel) : Bool :=
  m.aircraftIcao.manufacturer == (u.toUpper remote.aircraftIcao.manufacturer).trimmed

/-- A family that is not empty. -/
def isOfFamily (family : QString) (m : CAircraftModel) : Bool :=
  !family.isEmpty && (m.aircraftIcao.hasFamily &&
    m.aircraftIcao.family == (u.toUpper family).trimmed)

/-- The combined type and the manufacturer, or the one the aircraft has. -/
def isOfPseudoFamily (m : CAircraftModel) : Bool :=
  findByCombinedAndManufacturer u [m] remote.aircraftIcao != []

/-- The airline of the remote aircraft. -/
def isOfAirline (m : CAircraftModel) : Bool :=
  m.getAirlineIcaoCode.designator == remote.getAirlineIcaoCode.designator

/-- The group of airlines of the remote aircraft. -/
def isOfGroup (m : CAircraftModel) : Bool :=
  decide (0 ≤ remote.getAirlineIcaoCode.groupId) &&
    m.getAirlineIcaoCode.groupId == remote.getAirlineIcaoCode.groupId

/-- Group models are added to those of the airline. -/
def addsGroup : Bool :=
  remote.getAirlineIcaoCode.hasGroupMembership &&
    (mode.testFlag byAirlineGroupSameAsAirline || mode.testFlag byAirlineGroupIfNoAirline)

/-- The group counts if it is added or there is no model of the airline. -/
def isOfAirlineOrGroup (inList : CAircraftModelList) (m : CAircraftModel) : Bool :=
  isOfAirline remote m ||
    ((addsGroup mode remote || (remote.getAirlineIcaoCode.hasGroupMembership &&
      inList.all (fun m => !isOfAirline remote m))) && isOfGroup remote m)

/-- Models are returned, each at most as often as the list has it. The list is as it was
    unless the step reports that it is not. -/
structure Reduces (inList : CAircraftModelList) (reduction : Reduction) : Prop where
  nonempty : reduction.models ≠ []
  sublist : reduction.models.Subperm inList
  unchanged : reduction.reduced = false → reduction.models = inList

/-- If the step reports that it reduced the list, it returned the models that meet the
    criterion, where one of several with the same string will do. -/
structure ReducesTo (criterion : CAircraftModel → Bool) (inList : CAircraftModelList)
    (reduction : Reduction) : Prop extends Reduces inList reduction where
  sound : reduction.reduced = true → ∀ m ∈ reduction.models, criterion m = true
  complete : reduction.reduced = true → ∀ m ∈ inList, criterion m = true →
    ∃ m' ∈ reduction.models, u.sameText m'.modelString m.modelString = true

/-- All the steps reduce soundly, and so do they together. -/
structure ReducesSoundly (inList : CAircraftModelList) : Prop where
  livery : ReducesTo u (hasLiveryAndDesignator u remote) inList
    (ifPossibleReduceByLiveryAndAircraftIcaoCode u remote inList)
  manufacturer : ReducesTo u (isOfManufacturer u remote) inList
    (ifPossibleReduceByManufacturer u remote inList)
  family : ∀ allowPseudoFamily, ReducesTo u (fun m =>
      isOfFamily u (ifPossibleReduceByFamily u remote allowPseudoFamily inList).2 m ||
        (allowPseudoFamily && isOfPseudoFamily u remote m)) inList
    (ifPossibleReduceByFamily u remote allowPseudoFamily inList).1
  aircraft : ReducesTo u
    (fun m => m.aircraftIcao.designator == remote.aircraftIcao.designator) inList
    (ifPossibleReduceByAircraft remote inList)
  aircraftOrFamily : ∀ allowPseudoFamily, Reduces inList
    (ifPossibleReduceByAircraftOrFamily u mode remote allowPseudoFamily inList)
  airline : ReducesTo u (isOfAirlineOrGroup mode remote inList) inList
    (ifPossibleReduceByAirline u mode remote inList)
  icaoData : ∀ reduced, Reduces inList (ifPossibleReduceByIcaoData u mode remote inList reduced)
  combinedType : Reduces inList (ifPossibleReduceByCombinedType u mode remote inList) ∧
    ((ifPossibleReduceByCombinedType u mode remote inList).reduced = true →
      ∀ m ∈ (ifPossibleReduceByCombinedType u mode remote inList).models,
        m.aircraftIcao.matchesCombinedType u (u.toUpper remote.aircraftIcao.combinedType.trimmed)
          = true)
  military : ReducesTo u (fun m => m.isMilitary == remote.isMilitary) inList
    (ifPossibleReduceByMilitaryFlag remote inList)
  vtol : ReducesTo u CAircraftModel.isVtol inList (ifPossibleReduceByVTOLFlag inList)
  stepwise : ∀ reduceLog,
    getClosestMatchStepwiseReduceImplementation u mode remote reduceLog inList ≠ [] ∧
      (getClosestMatchStepwiseReduceImplementation u mode remote reduceLog inList).Subperm inList

/-! ## When they do -/

/-- The models that meet the first criterion, and those that meet the second, unless their
    strings are there already. -/
def addWithoutStrings (p q : CAircraftModel → Bool) (models : CAircraftModelList) :
    CAircraftModelList :=
  models.filter p ++
    CAircraftModelList.removeModelsWithString u (models.filter q)
      (getModelStringList (models.filter p))

/-- The models of a family, with those that are treated as such if they are allowed. -/
def familySelection (family : QString) (allowPseudoFamily : Bool) (inList : CAircraftModelList) :
    CAircraftModelList :=
  addWithoutStrings u (isOfFamily u family)
    (fun m => allowPseudoFamily && isOfPseudoFamily u remote m) inList

/-- The models of the family of the aircraft, or of its designator treated as one, or all. -/
def familyModels (inList : CAircraftModelList) : CAircraftModelList :=
  if !remote.aircraftIcao.family.isEmpty &&
      familySelection u remote remote.aircraftIcao.family true inList != [] then
    familySelection u remote remote.aircraftIcao.family true inList
  else if familySelection u remote remote.aircraftIcao.designator true inList = [] then inList
  else familySelection u remote remote.aircraftIcao.designator true inList

/-- The models of the aircraft's designator, or of its family. -/
def aircraftModels (inList : CAircraftModelList) : CAircraftModelList :=
  let found := inList.filter
    (fun m => m.aircraftIcao.designator == remote.aircraftIcao.designator)
  if remote.aircraftIcao.hasDesignator && found != [] then found
  else if mode.testFlag byFamily then familyModels u remote inList
  else inList

/-- Models that would be there twice have a string. -/
def FamilyDistinct (inList : CAircraftModelList) : Prop :=
  ∀ m ∈ inList, isOfFamily u (if remote.aircraftIcao.family.isEmpty
      then remote.aircraftIcao.designator else remote.aircraftIcao.family) m = true →
    isOfPseudoFamily u remote m = true → m.hasModelString = true

/-- The same for those of the airline that are of its group. -/
def AirlineDistinct (inList : CAircraftModelList) : Prop :=
  remote.getAirlineIcaoCode.hasValidDesignator u = true → addsGroup mode remote = true →
    ∀ m ∈ inList, isOfAirline remote m = true → isOfGroup remote m = true → m.hasModelString = true

/-- The inputs on which the steps reduce soundly. -/
structure Reducible (inList : CAircraftModelList) : Prop where
  livery : (∃ m ∈ inList, hasDesignatorAsLivery u remote m = true) →
    u.unified remote.aircraftIcao.designator = u.unified remote.livery.combinedCode
  family : FamilyDistinct u remote inList
  airline : AirlineDistinct u mode remote inList
  icaoData : mode.testFlag byIcaoOrderAirlineFirst = false → mode.testFlag byIcaoData = true →
    mode.testFlag byFamily = true → remote.getAirlineIcaoCode.hasValidDesignator u = true →
    (∃ m ∈ aircraftModels u mode remote inList, isOfAirline remote m = true ∨
        remote.getAirlineIcaoCode.hasGroupMembership = true ∧ isOfGroup remote m = true) ∨
      ∀ m ∈ familyModels u remote inList, isOfAirline remote m = false ∧
        (remote.getAirlineIcaoCode.hasGroupMembership = true → isOfGroup remote m = false)
  combinedType : remote.aircraftIcao.hasValidCombinedType u = true →
    (inList.findByCombinedType u remote.aircraftIcao.combinedType).length = 1 → inList.length = 1
  military : (∀ m ∈ inList, m.isMilitary = remote.isMilitary) ∨
    ∀ m ∈ inList, m.isMilitary ≠ remote.isMilitary
  vtol : (∀ m ∈ inList, m.isVtol = true) ∨ ∀ m ∈ inList, m.isVtol = false

/-! ## Selections -/

variable {u mode remote}

/-- Two selections one after the other are a selection unless one element is in both. -/
theorem subperm_filter_append_filter_iff {α : Type*} [BEq α] [LawfulBEq α] (p q : α → Bool)
    (l : List α) : (l.filter p ++ l.filter q).Subperm l ↔ ∀ a ∈ l, p a = true → q a = false := by
  constructor
  · intro hsub a ha hp
    by_contra hq
    rw [Bool.not_eq_false] at hq
    -- An element in both selections would be counted twice.
    have hle := hsub.count_le a
    rw [List.count_append, List.count_filter hp, List.count_filter hq] at hle
    have hpos := List.count_pos_iff.mpr ha
    omega
  · intro hdisjoint
    have hsub : (l.filter q).Sublist (l.filter (fun a => !p a)) := by
      have hfilter : l.filter q = (l.filter (fun a => !p a)).filter q := by
        rw [List.filter_filter]
        apply List.filter_congr
        intro a ha
        cases hp : p a with
        | true => rw [hdisjoint a ha hp]; rfl
        | false => rw [Bool.not_false, Bool.and_true]
      rw [hfilter]
      exact List.filter_sublist
    exact ((List.Sublist.refl _).append hsub).subperm.trans (List.filter_append_perm p l).subperm

variable {models : CAircraftModelList} {m : CAircraftModel}

/-- A model is listed among its own kind if it has a string. -/
theorem listed_of_mem (hm : m ∈ models)
    (hstring : m.hasModelString = true) : listed u (getModelStringList models) m = true :=
  listed_iff.mpr ⟨m, hm, hstring, beq_self_eq_true _⟩

theorem not_listed_of_no_string
    (hstring : m.hasModelString = false) : listed u (getModelStringList models) m = false := by
  rw [← Bool.not_eq_true, listed_iff]
  rintro ⟨m', -, hstring', hsame⟩
  rw [CAircraftModel.hasModelString, Bool.not_eq_false', List.isEmpty_iff] at hstring
  exact hasModelString_iff.mp hstring' (isEmpty_of_sameText (sameText_symm hsame) hstring)

theorem removeModelsWithString_eq (models : CAircraftModelList) (modelStrings : QStringList) :
    removeModelsWithString u models modelStrings =
      models.filter (fun m => !listed u modelStrings m) := by
  unfold removeModelsWithString
  split_ifs with hempty
  · rw [hempty]
    exact (List.filter_eq_self.mpr fun _ _ => rfl).symm
  · rfl

variable {p q : CAircraftModel → Bool}

theorem mem_addWithoutStrings :
    m ∈ addWithoutStrings u p q models ↔ m ∈ models ∧
      (p m = true ∨ q m = true ∧ listed u (getModelStringList (models.filter p)) m = false) := by
  unfold addWithoutStrings
  rw [List.mem_append, mem_removeModelsWithString, List.mem_filter, List.mem_filter, and_assoc,
    and_or_left]

/-- Only models without a string can be there twice. -/
theorem subperm_addWithoutStrings_iff :
    (addWithoutStrings u p q models).Subperm models ↔
      ∀ m ∈ models, p m = true → q m = true → m.hasModelString = true := by
  unfold addWithoutStrings
  rw [removeModelsWithString_eq, List.filter_filter, subperm_filter_append_filter_iff]
  constructor
  · intro h m hm hp hq
    by_contra hstring
    rw [Bool.not_eq_true] at hstring
    have hlisted := h m hm hp
    rw [hq, not_listed_of_no_string hstring] at hlisted
    cases hlisted
  · intro h m hm hp
    cases hq : q m with
    | false => rw [Bool.and_false]
    | true =>
      rw [listed_of_mem (List.mem_filter.mpr ⟨hm, hp⟩) (h m hm hp hq)]
      rfl

theorem addWithoutStrings_eq_nil_iff :
    addWithoutStrings u p q models = [] ↔ ∀ m ∈ models, p m = false ∧ q m = false := by
  rw [List.eq_nil_iff_forall_not_mem]
  constructor
  · intro h m hm
    have hp : ∀ m' ∈ models, p m' = false := fun m' hm' => by
      rw [← Bool.not_eq_true]
      exact fun hp => h m' (mem_addWithoutStrings.mpr ⟨hm', Or.inl hp⟩)
    refine ⟨hp m hm, ?_⟩
    -- nothing meets the first criterion, so no string is known
    have hnone : models.filter p = [] := List.filter_eq_nil_iff.mpr
      fun m' hm' => Bool.not_eq_true _ ▸ hp m' hm'
    rw [← Bool.not_eq_true]
    intro hq
    refine h m (mem_addWithoutStrings.mpr ⟨hm, Or.inr ⟨hq, ?_⟩⟩)
    rw [hnone]
    rfl
  · intro h m hm
    rw [mem_addWithoutStrings] at hm
    rcases hm with ⟨hm, hp | ⟨hq, -⟩⟩
    · exact absurd hp (by rw [(h m hm).1]; decide)
    · exact absurd hq (by rw [(h m hm).2]; decide)

/-- Whatever meets a criterion is there, or one with its string is. -/
theorem exists_sameText_addWithoutStrings (hm : m ∈ models) (hpq : p m = true ∨ q m = true) :
    ∃ m' ∈ addWithoutStrings u p q models, u.sameText m'.modelString m.modelString = true := by
  by_cases hmem : m ∈ addWithoutStrings u p q models
  · exact ⟨m, hmem, beq_self_eq_true _⟩
  · rw [mem_addWithoutStrings, not_and, not_or, not_and, Bool.not_eq_false] at hmem
    rcases hpq with hp | hq
    · exact absurd hp (hmem hm).1
    · rcases listed_iff.mp ((hmem hm).2 hq) with ⟨m', hm', -, hsame⟩
      rw [List.mem_filter] at hm'
      exact ⟨m', mem_addWithoutStrings.mpr ⟨hm'.1, Or.inl hm'.2⟩, sameText_symm hsame⟩

/-- The other way to join two selections: of two models with one string, the later counts. -/
theorem perm_replaceOrAddModelsWithString (p q : CAircraftModel → Bool)
    (models : CAircraftModelList) :
    (replaceOrAddModelsWithString u (models.filter p) (models.filter q)).Perm
      (addWithoutStrings u q p models) := by
  unfold replaceOrAddModelsWithString addWithoutStrings
  split_ifs with hq hp
  · rw [hq]
    exact List.Perm.refl _
  · rw [hp, show removeModelsWithString u [] (getModelStringList (models.filter q)) = [] by
      rw [removeModelsWithString_eq]; rfl, List.append_nil]
  · exact List.perm_append_comm

/-! ## Single steps -/

variable {inList : CAircraftModelList}

theorem reduces_refl (h : inList ≠ []) (reduced : Bool) :
    Reduces inList ⟨inList, reduced⟩ where
  nonempty := h
  sublist := List.Subperm.refl _
  unchanged _ := rfl

theorem reduces_of_subperm {inList models : CAircraftModelList} (h : models ≠ [])
    (hsub : models.Subperm inList) : Reduces inList ⟨models, true⟩ where
  nonempty := h
  sublist := hsub
  unchanged hreduced := absurd hreduced.symm Bool.false_ne_true

/-- One step after another. -/
theorem Reduces.trans {first second : Reduction}
    (hfirst : Reduces inList first) (hsecond : Reduces first.models second) :
    Reduces inList ⟨second.models, first.reduced || second.reduced⟩ where
  nonempty := hsecond.nonempty
  sublist := hsecond.sublist.trans hfirst.sublist
  unchanged hreduced := by
    rw [Bool.or_eq_false_iff] at hreduced
    exact (hsecond.unchanged hreduced.2).trans (hfirst.unchanged hreduced.1)

/-- A step that does nothing. -/
theorem reducesTo_refl (h : inList ≠ [])
    (criterion : CAircraftModel → Bool) : ReducesTo u criterion inList ⟨inList, false⟩ where
  toReduces := reduces_refl h false
  sound hreduced := absurd hreduced Bool.false_ne_true
  complete hreduced := absurd hreduced Bool.false_ne_true

/-- A step that keeps the models that meet its criterion. -/
theorem reducesTo_filter (h : inList ≠ [])
    (criterion : CAircraftModel → Bool) :
    ReducesTo u criterion inList (if inList.filter criterion = [] then ⟨inList, false⟩
      else ⟨inList.filter criterion, true⟩) := by
  split_ifs with hempty
  · exact reducesTo_refl h criterion
  · constructor
    case toReduces => exact reduces_of_subperm hempty List.filter_sublist.subperm
    case sound => exact fun _ m hm => (List.mem_filter.mp hm).2
    case complete =>
      exact fun _ m hm hcriterion =>
        ⟨m, List.mem_filter.mpr ⟨hm, hcriterion⟩, beq_self_eq_true _⟩

/-- The selection of models of the wanted combined type and manufacturer. -/
theorem findByCombinedAndManufacturer_eq (inList : CAircraftModelList) :
    findByCombinedAndManufacturer u inList remote.aircraftIcao =
      inList.filter (isOfPseudoFamily u remote) := by
  -- every search is a filter, or finds nothing
  have hfilter (c : CAircraftModel → Bool) (l : CAircraftModelList) :
      l.filter c = l.filter (fun m => [m].filter c != []) := by
    apply List.filter_congr
    intro m _
    cases hc : c m with
    | true => rw [List.filter_cons_of_pos hc]; rfl
    | false => rw [List.filter_cons_of_neg (by rw [hc]; exact Bool.false_ne_true)]; rfl
  have hnone (l : CAircraftModelList) :
      ([] : CAircraftModelList) = l.filter (fun _ => ([] : CAircraftModelList) != []) :=
    (List.filter_eq_nil_iff.mpr fun _ _ => Bool.false_ne_true).symm
  unfold isOfPseudoFamily findByCombinedAndManufacturer findByCombinedType findByManufacturer
  split_ifs
  · exact hnone inList
  · exact hfilter _ inList
  · exact hfilter _ inList
  · exact hfilter _ inList

theorem findByFamily_eq (family : QString) (inList : CAircraftModelList) :
    findByFamily u inList family = inList.filter (isOfFamily u family) := by
  unfold findByFamily
  split_ifs with hempty
  · refine (List.filter_eq_nil_iff.mpr fun m _ => ?_).symm
    rw [isOfFamily, hempty]
    exact Bool.false_ne_true
  · apply List.filter_congr
    intro m _
    rw [isOfFamily, Bool.not_eq_true _ |>.mp hempty]
    rfl

theorem findByManufacturer_eq (h : remote.aircraftIcao.manufacturer.isEmpty = false) :
    findByManufacturer u inList remote.aircraftIcao.manufacturer =
      inList.filter (isOfManufacturer u remote) := by
  rw [findByManufacturer, h]
  rfl

variable (u remote) in
theorem reducesTo_manufacturer (h : inList ≠ []) :
    ReducesTo u (isOfManufacturer u remote) inList
      (ifPossibleReduceByManufacturer u remote inList) := by
  unfold ifPossibleReduceByManufacturer
  rw [if_neg h]
  split_ifs with hempty
  · exact reducesTo_refl h _
  · rw [Bool.not_eq_true] at hempty
    rw [findByManufacturer_eq hempty]
    exact reducesTo_filter h _

theorem findByIcaoDesignators_aircraft (designator : QString) (inList : CAircraftModelList) :
    findByIcaoDesignators inList designator [] =
      inList.filter (fun m => m.aircraftIcao.designator == designator) := rfl

theorem reducesTo_aircraft (h : inList ≠ []) :
    ReducesTo u (fun m => m.aircraftIcao.designator == remote.aircraftIcao.designator) inList
      (ifPossibleReduceByAircraft remote inList) := by
  unfold ifPossibleReduceByAircraft
  rw [if_neg h]
  split_ifs with hdesignator
  · exact reducesTo_refl h _
  · exact reducesTo_filter h _

/-! ## The family -/

/-- Nothing is found where nothing is looked for. -/
theorem ifPossibleReduceByFamilyName_skips (family : QString) (allowPseudoFamily : Bool)
    (inList : CAircraftModelList)
    (h : (family.isEmpty && !allowPseudoFamily) = true ∨ inList = []) :
    familySelection u remote family allowPseudoFamily inList = [] := by
  refine addWithoutStrings_eq_nil_iff.mpr fun m hm => ?_
  rcases h with hskip | hempty
  · rw [Bool.and_eq_true, Bool.not_eq_true'] at hskip
    rw [isOfFamily, hskip.1, hskip.2]
    exact ⟨rfl, rfl⟩
  · rw [hempty] at hm
    cases hm

theorem ifPossibleReduceByFamilyName_eq (family : QString) (allowPseudoFamily : Bool)
    (inList : CAircraftModelList) :
    ifPossibleReduceByFamilyName u remote family allowPseudoFamily inList =
      if familySelection u remote family allowPseudoFamily inList = []
      then ⟨inList, false⟩
      else ⟨familySelection u remote family allowPseudoFamily inList, true⟩ := by
  -- Without the pseudo family there is nothing to find by combined type and manufacturer.
  have hfound : (if allowPseudoFamily then
      findByCombinedAndManufacturer u inList remote.aircraftIcao else []) =
        inList.filter (fun m => allowPseudoFamily && isOfPseudoFamily u remote m) := by
    cases allowPseudoFamily with
    | true => exact findByCombinedAndManufacturer_eq inList
    | false => exact (List.filter_eq_nil_iff.mpr fun _ _ => Bool.false_ne_true).symm
  by_cases hskip : (family.isEmpty && !allowPseudoFamily) = true ∨ inList = []
  · rw [if_pos (ifPossibleReduceByFamilyName_skips family allowPseudoFamily inList hskip)]
    unfold ifPossibleReduceByFamilyName
    rcases hskip with hskip | hempty
    · rw [if_pos hskip]
    · rw [if_pos hempty, ite_self]
  rw [not_or] at hskip
  unfold ifPossibleReduceByFamilyName familySelection addWithoutStrings
  dsimp only
  rw [if_neg hskip.1, if_neg hskip.2, hfound, findByFamily_eq]
  -- The pseudo family is only looked for if the family is not found.
  by_cases hfamily : inList.filter (isOfFamily u family) = []
  · have hknown (l : CAircraftModelList) :
        removeModelsWithString u l (getModelStringList []) = l := if_pos rfl
    rw [hfamily, hknown]
    cases allowPseudoFamily with
    | true => simp
    | false => simp
  · simp [hfamily]

/-- The family is used if there is one and it is found, the designator otherwise. -/
theorem ifPossibleReduceByFamily_snd (allowPseudoFamily : Bool) (inList : CAircraftModelList) :
    (ifPossibleReduceByFamily u remote allowPseudoFamily inList).2 =
      if remote.aircraftIcao.family.isEmpty = false ∧
          familySelection u remote remote.aircraftIcao.family allowPseudoFamily inList ≠ []
      then remote.aircraftIcao.family else remote.aircraftIcao.designator := by
  unfold ifPossibleReduceByFamily
  rw [ifPossibleReduceByFamilyName_eq]
  by_cases hfound :
      familySelection u remote remote.aircraftIcao.family allowPseudoFamily inList = []
  · simp [hfound]
  · simp only [hfound, if_false, Bool.and_true, Bool.not_eq_true', ne_eq, not_false_eq_true,
      and_true]
    split_ifs <;> rfl

theorem ifPossibleReduceByFamily_fst (allowPseudoFamily : Bool) (inList : CAircraftModelList) :
    (ifPossibleReduceByFamily u remote allowPseudoFamily inList).1 =
      if familySelection u remote (ifPossibleReduceByFamily u remote allowPseudoFamily inList).2
          allowPseudoFamily inList = []
      then ⟨inList, false⟩
      else ⟨familySelection u remote
        (ifPossibleReduceByFamily u remote allowPseudoFamily inList).2 allowPseudoFamily inList,
        true⟩ := by
  rw [← ifPossibleReduceByFamilyName_eq]
  unfold ifPossibleReduceByFamily
  dsimp only
  split_ifs <;> rfl

theorem familyModels_eq (inList : CAircraftModelList) :
    familyModels u remote inList = (ifPossibleReduceByFamily u remote true inList).1.models := by
  rw [ifPossibleReduceByFamily_fst, ifPossibleReduceByFamily_snd]
  unfold familyModels
  by_cases hused : remote.aircraftIcao.family.isEmpty = false ∧
      familySelection u remote remote.aircraftIcao.family true inList ≠ []
  · rw [if_pos hused, if_neg hused.2, if_pos]
    rw [Bool.and_eq_true, Bool.not_eq_true', bne_iff_ne]
    exact hused
  · rw [if_neg hused, if_neg, apply_ite Reduction.models]
    rw [Bool.and_eq_true, Bool.not_eq_true', bne_iff_ne]
    exact hused

theorem FamilyDistinct.subperm (h : FamilyDistinct u remote inList) (allowPseudoFamily : Bool) :
    (familySelection u remote (ifPossibleReduceByFamily u remote allowPseudoFamily inList).2
      allowPseudoFamily inList).Subperm inList := by
  refine subperm_addWithoutStrings_iff.mpr fun m hm hfamily hpseudo => ?_
  rw [Bool.and_eq_true] at hpseudo
  rw [ifPossibleReduceByFamily_snd] at hfamily
  cases hempty : remote.aircraftIcao.family.isEmpty with
  | true =>
    rw [if_neg (fun hused => absurd (hempty.symm.trans hused.1) (by decide))] at hfamily
    exact h m hm (by rw [if_pos hempty]; exact hfamily) hpseudo.2
  | false =>
    by_cases hfound :
        familySelection u remote remote.aircraftIcao.family allowPseudoFamily inList = []
    · -- then there is nothing of the pseudo family either
      have hnone := (addWithoutStrings_eq_nil_iff.mp hfound m hm).2
      rw [hpseudo.1, hpseudo.2] at hnone
      cases hnone
    · rw [if_pos ⟨hempty, hfound⟩] at hfamily
      refine h m hm ?_ hpseudo.2
      rw [if_neg (by rw [hempty]; exact Bool.false_ne_true)]
      exact hfamily

theorem familyDistinct_of_subperm
    (h : (ifPossibleReduceByFamily u remote true inList).1.models.Subperm inList) :
    FamilyDistinct u remote inList := by
  intro m hm hfamily hpseudo
  rw [← familyModels_eq] at h
  unfold familyModels at h
  cases hempty : remote.aircraftIcao.family.isEmpty with
  | true =>
    rw [if_pos hempty] at hfamily
    rw [hempty, Bool.not_true, Bool.false_and, if_neg Bool.false_ne_true, if_neg] at h
    · exact subperm_addWithoutStrings_iff.mp h m hm hfamily hpseudo
    · intro hnone
      exact absurd hfamily (by rw [(addWithoutStrings_eq_nil_iff.mp hnone m hm).1]; decide)
  | false =>
    rw [if_neg (by rw [hempty]; exact Bool.false_ne_true)] at hfamily
    rw [hempty, Bool.not_false, Bool.true_and, if_pos] at h
    · exact subperm_addWithoutStrings_iff.mp h m hm hfamily hpseudo
    · rw [bne_iff_ne]
      intro hnone
      exact absurd hfamily (by rw [(addWithoutStrings_eq_nil_iff.mp hnone m hm).1]; decide)

theorem FamilyDistinct.reducesTo
    (hdistinct : FamilyDistinct u remote inList) (h : inList ≠ []) (allowPseudoFamily : Bool) :
    ReducesTo u (fun m =>
      isOfFamily u (ifPossibleReduceByFamily u remote allowPseudoFamily inList).2 m ||
        (allowPseudoFamily && isOfPseudoFamily u remote m)) inList
      (ifPossibleReduceByFamily u remote allowPseudoFamily inList).1 := by
  have hsub := hdistinct.subperm allowPseudoFamily
  rw [ifPossibleReduceByFamily_fst]
  split_ifs with hnone
  · exact reducesTo_refl h _
  · constructor
    case toReduces => exact reduces_of_subperm hnone hsub
    case sound =>
      intro _ m hm
      rw [Bool.or_eq_true]
      exact (mem_addWithoutStrings.mp hm).2.imp id And.left
    case complete =>
      intro _ m hm hcriterion
      rw [Bool.or_eq_true] at hcriterion
      exact exists_sameText_addWithoutStrings hm hcriterion

theorem FamilyDistinct.mono {inList models : CAircraftModelList}
    (h : FamilyDistinct u remote inList) (hsub : models.Subperm inList) :
    FamilyDistinct u remote models := fun m hm => h m (hsub.subset hm)

variable (mode) in
theorem FamilyDistinct.reduces_aircraftOrFamily
    (hdistinct : FamilyDistinct u remote inList) (h : inList ≠ []) (allowPseudoFamily : Bool) :
    Reduces inList (ifPossibleReduceByAircraftOrFamily u mode remote allowPseudoFamily inList) := by
  unfold ifPossibleReduceByAircraftOrFamily
  dsimp only
  split_ifs
  · exact (reducesTo_aircraft (u := u) h).toReduces
  · exact (hdistinct.reducesTo h allowPseudoFamily).toReduces

theorem ifPossibleReduceByAircraft_eq (h : inList ≠ []) :
    ifPossibleReduceByAircraft remote inList =
      if remote.aircraftIcao.hasDesignator = true ∧ inList.filter
        (fun m => m.aircraftIcao.designator == remote.aircraftIcao.designator) ≠ []
      then ⟨inList.filter
        (fun m => m.aircraftIcao.designator == remote.aircraftIcao.designator), true⟩
      else ⟨inList, false⟩ := by
  unfold ifPossibleReduceByAircraft
  rw [if_neg h]
  rw [findByIcaoDesignators_aircraft]
  cases hdesignator : remote.aircraftIcao.hasDesignator with
  | false => simp
  | true => simp only [Bool.not_true, Bool.false_eq_true, if_false, true_and, ite_not]

theorem aircraftModels_eq (h : inList ≠ []) :
    aircraftModels u mode remote inList =
      (ifPossibleReduceByAircraftOrFamily u mode remote true inList).models := by
  unfold aircraftModels ifPossibleReduceByAircraftOrFamily
  rw [ifPossibleReduceByAircraft_eq h, familyModels_eq]
  simp only [Bool.and_eq_true, bne_iff_ne]
  by_cases hfound : remote.aircraftIcao.hasDesignator = true ∧ inList.filter
      (fun m => m.aircraftIcao.designator == remote.aircraftIcao.designator) ≠ []
  · rw [if_pos hfound, if_pos hfound, Bool.true_or, if_pos rfl]
  · rw [if_neg hfound, if_neg hfound]
    cases mode.testFlag byFamily <;> rfl

/-! ## The airline -/

variable (u mode remote) in
/-- The models of the airline, or of its group, where the latter counts. -/
def airlineSelection (inList : CAircraftModelList) : CAircraftModelList :=
  if addsGroup mode remote || (remote.getAirlineIcaoCode.hasGroupMembership &&
      inList.all (fun m => !isOfAirline remote m)) then
    replaceOrAddModelsWithString u (inList.filter (isOfAirline remote))
      (inList.filter (isOfGroup remote))
  else inList.filter (isOfAirline remote)

theorem findByAirlineGroup_eq (inList : CAircraftModelList) :
    findByAirlineGroup inList remote.getAirlineIcaoCode = inList.filter (isOfGroup remote) := by
  unfold findByAirlineGroup
  split_ifs with hnone
  · refine (List.filter_eq_nil_iff.mpr fun m _ => ?_).symm
    rw [isOfGroup, decide_eq_false (not_le.mpr hnone)]
    exact Bool.false_ne_true
  · apply List.filter_congr
    intro m _
    rw [isOfGroup, decide_eq_true (not_lt.mp hnone)]
    rfl

theorem findByIcaoDesignators_airline (h : remote.getAirlineIcaoCode.hasValidDesignator u = true) :
    findByIcaoDesignators inList [] remote.getAirlineIcaoCode.designator =
      inList.filter (isOfAirline remote) := by
  have hdesignator : remote.getAirlineIcaoCode.designator.isEmpty = false := by
    unfold CAirlineIcaoCode.hasValidDesignator at h
    cases hairline : remote.getAirlineIcaoCode.designator with
    | nil => rw [hairline] at h; cases h
    | cons c s => rfl
  unfold findByIcaoDesignators
  rw [hdesignator]
  rfl

theorem filter_isOfAirline_eq_nil_iff :
    inList.filter (isOfAirline remote) = [] ↔
      inList.all (fun m => !isOfAirline remote m) = true := by
  simp

theorem ifPossibleReduceByAirline_eq (h : inList ≠ []) :
    ifPossibleReduceByAirline u mode remote inList =
      if remote.getAirlineIcaoCode.hasValidDesignator u = true ∧
        airlineSelection u mode remote inList ≠ []
      then ⟨airlineSelection u mode remote inList, true⟩
      else ⟨inList, false⟩ := by
  unfold ifPossibleReduceByAirline
  rw [if_neg h]
  cases hvalid : remote.getAirlineIcaoCode.hasValidDesignator u with
  | false => simp
  | true =>
    rw [findByIcaoDesignators_airline hvalid, findByAirlineGroup_eq]
    have hselection : (if (mode.testFlag byAirlineGroupSameAsAirline ||
          (decide (inList.filter (isOfAirline remote) = []) ||
            mode.testFlag byAirlineGroupIfNoAirline)) = true then
        if remote.getAirlineIcaoCode.hasGroupMembership = true then
          replaceOrAddModelsWithString u (inList.filter (isOfAirline remote))
            (inList.filter (isOfGroup remote))
        else inList.filter (isOfAirline remote)
      else inList.filter (isOfAirline remote)) = airlineSelection u mode remote inList := by
      unfold airlineSelection addsGroup
      -- The group is added if no model of the airline was found.
      have hnone : decide (inList.filter (isOfAirline remote) = []) =
          inList.all (fun m => !isOfAirline remote m) := by
        rw [Bool.eq_iff_iff, decide_eq_true_iff, filter_isOfAirline_eq_nil_iff]
      cases remote.getAirlineIcaoCode.hasGroupMembership
      · simp
      · simp [Bool.or_assoc, Bool.or_comm, Bool.or_left_comm]
    simp only [Bool.not_true, Bool.false_eq_true, if_false, hselection, true_and, ite_not]

theorem mem_airlineSelection (h : m ∈ airlineSelection u mode remote inList) :
    m ∈ inList ∧ isOfAirlineOrGroup mode remote inList m = true := by
  unfold airlineSelection at h
  unfold isOfAirlineOrGroup
  split_ifs at h with hgroup
  · rw [(perm_replaceOrAddModelsWithString _ _ _).mem_iff, mem_addWithoutStrings] at h
    rw [hgroup, Bool.or_eq_true, or_comm]
    exact ⟨h.1, h.2.imp id And.left⟩
  · rw [Bool.not_eq_true] at hgroup
    rw [hgroup, Bool.false_and, Bool.or_false]
    exact List.mem_filter.mp h

theorem exists_sameText_airlineSelection
    (hm : m ∈ inList) (h : isOfAirlineOrGroup mode remote inList m = true) :
    ∃ m' ∈ airlineSelection u mode remote inList,
      u.sameText m'.modelString m.modelString = true := by
  unfold airlineSelection
  unfold isOfAirlineOrGroup at h
  split_ifs with hgroup
  · rw [hgroup, Bool.true_and, Bool.or_eq_true, or_comm] at h
    rcases exists_sameText_addWithoutStrings hm h with ⟨m', hm', hsame⟩
    exact ⟨m', (perm_replaceOrAddModelsWithString _ _ _).mem_iff.mpr hm', hsame⟩
  · rw [Bool.not_eq_true] at hgroup
    rw [hgroup, Bool.false_and, Bool.or_false] at h
    exact ⟨m, List.mem_filter.mpr ⟨hm, h⟩, beq_self_eq_true _⟩

theorem isOfAirlineOrGroup_or (h : isOfAirlineOrGroup mode remote inList m = true) :
    isOfAirline remote m = true ∨
      remote.getAirlineIcaoCode.hasGroupMembership = true ∧ isOfGroup remote m = true := by
  rw [isOfAirlineOrGroup, Bool.or_eq_true] at h
  refine h.imp id fun hgroup => ?_
  rw [Bool.and_eq_true, Bool.or_eq_true, addsGroup, Bool.and_eq_true, Bool.and_eq_true] at hgroup
  exact ⟨hgroup.1.elim And.left And.left, hgroup.2⟩

variable (u mode) in
/-- With a group, there is something if there is something of the airline or the group. -/
theorem airlineSelection_ne_nil_iff :
    airlineSelection u mode remote inList ≠ [] ↔ ∃ m ∈ inList, isOfAirline remote m = true ∨
        remote.getAirlineIcaoCode.hasGroupMembership = true ∧ isOfGroup remote m = true := by
  constructor
  · intro hne
    rcases List.exists_mem_of_ne_nil _ hne with ⟨m, hm⟩
    rcases mem_airlineSelection hm with ⟨hm, hcriterion⟩
    exact ⟨m, hm, isOfAirlineOrGroup_or hcriterion⟩
  · rintro ⟨m, hm, hairline | ⟨hmember, hgroup⟩⟩
    · have hcriterion : isOfAirlineOrGroup mode remote inList m = true := by
        rw [isOfAirlineOrGroup, hairline, Bool.true_or]
      rcases exists_sameText_airlineSelection hm hcriterion with ⟨m', hm', -⟩
      exact List.ne_nil_of_mem hm'
    -- the group counts unless there is a model of the airline
    · cases hall : inList.all (fun m => !isOfAirline remote m) with
      | true =>
        have hcriterion : isOfAirlineOrGroup mode remote inList m = true := by
          simp [isOfAirlineOrGroup, hall, hmember, hgroup]
        rcases exists_sameText_airlineSelection hm hcriterion with ⟨m', hm', -⟩
        exact List.ne_nil_of_mem hm'
      | false =>
        rcases List.all_eq_false.mp hall with ⟨m', hm', hairline⟩
        rw [Bool.not_eq_true, Bool.not_eq_false'] at hairline
        have hcriterion : isOfAirlineOrGroup mode remote inList m' = true := by
          rw [isOfAirlineOrGroup, hairline, Bool.true_or]
        rcases exists_sameText_airlineSelection hm' hcriterion with ⟨m', hm', -⟩
        exact List.ne_nil_of_mem hm'

theorem AirlineDistinct.mono {inList models : CAircraftModelList}
    (h : AirlineDistinct u mode remote inList) (hsub : models.Subperm inList) :
    AirlineDistinct u mode remote models :=
  fun hvalid hadds m hm => h hvalid hadds m (hsub.subset hm)

theorem airlineDistinct_iff_subperm
    (hvalid : remote.getAirlineIcaoCode.hasValidDesignator u = true) :
    AirlineDistinct u mode remote inList ↔
      (airlineSelection u mode remote inList).Subperm inList := by
  unfold airlineSelection
  split_ifs with hgroup
  · rw [(perm_replaceOrAddModelsWithString _ _ _).subperm_right, subperm_addWithoutStrings_iff]
    constructor
    · intro hdistinct m hm hgroup' hairline
      rw [Bool.or_eq_true, Bool.and_eq_true, List.all_eq_true] at hgroup
      rcases hgroup with hadds | ⟨-, hall⟩
      · exact hdistinct hvalid hadds m hm hairline hgroup'
      · exact absurd hairline (by rw [(Bool.not_eq_true' _).mp (hall m hm)]; decide)
    · exact fun h _ _ m hm hairline hgroup' => h m hm hgroup' hairline
  · rw [Bool.not_eq_true, Bool.or_eq_false_iff] at hgroup
    refine iff_of_true (fun _ hadds => ?_) List.filter_sublist.subperm
    exact absurd (hadds.symm.trans hgroup.1) (by decide)

theorem airlineDistinct_of_subperm (h : inList ≠ [])
    (hsub : (ifPossibleReduceByAirline u mode remote inList).models.Subperm inList) :
    AirlineDistinct u mode remote inList := by
  intro hvalid
  refine (airlineDistinct_iff_subperm hvalid).mpr ?_ hvalid
  rw [ifPossibleReduceByAirline_eq h] at hsub
  by_cases hnone : airlineSelection u mode remote inList = []
  · rw [hnone]
    exact List.nil_subperm
  · rw [if_pos ⟨hvalid, hnone⟩] at hsub
    exact hsub

theorem AirlineDistinct.reducesTo
    (hdistinct : AirlineDistinct u mode remote inList) (h : inList ≠ []) :
    ReducesTo u (isOfAirlineOrGroup mode remote inList) inList
      (ifPossibleReduceByAirline u mode remote inList) := by
  rw [ifPossibleReduceByAirline_eq h]
  split_ifs with hfound
  · constructor
    case toReduces =>
      exact reduces_of_subperm hfound.2 ((airlineDistinct_iff_subperm hfound.1).mp hdistinct)
    case sound => exact fun _ m hm => (mem_airlineSelection hm).2
    case complete => exact fun _ m hm hcriterion => exists_sameText_airlineSelection hm hcriterion
  · exact reducesTo_refl h _

theorem ifPossibleReduceByAirline_reduced_iff (h : inList ≠ []) :
    (ifPossibleReduceByAirline u mode remote inList).reduced = true ↔
      remote.getAirlineIcaoCode.hasValidDesignator u = true ∧
        ∃ m ∈ inList, isOfAirline remote m = true ∨
          remote.getAirlineIcaoCode.hasGroupMembership = true ∧ isOfGroup remote m = true := by
  rw [ifPossibleReduceByAirline_eq h, ← airlineSelection_ne_nil_iff u mode]
  split_ifs with hfound
  · exact iff_of_true rfl hfound
  · exact iff_of_false id hfound

/-! ## The livery -/

theorem ifPossibleReduceByLivery_eq (inList : CAircraftModelList) :
    ifPossibleReduceByLiveryAndAircraftIcaoCode u remote inList =
      if inList.filter (hasDesignatorAsLivery u remote) = [] then ⟨inList, false⟩
      else ⟨inList.filter (hasDesignatorAsLivery u remote), true⟩ := by
  unfold ifPossibleReduceByLiveryAndAircraftIcaoCode CLivery.hasCombinedCode
    findByAircraftDesignatorAndLiveryCombinedCode
  cases hcode : remote.livery.combinedCode.isEmpty with
  | true =>
    refine Eq.trans ?_ (if_pos (List.filter_eq_nil_iff.mpr fun m _ => ?_)).symm
    · rfl
    · rw [hasDesignatorAsLivery, CAircraftIcaoCode.matchesDesignator, hcode]
      exact Bool.false_ne_true
  | false => rfl

theorem hasLiveryAndDesignator_iff :
    hasLiveryAndDesignator u remote m = true ↔ (remote.aircraftIcao.designator.isEmpty = false ∧
        remote.livery.combinedCode.isEmpty = false ∧ m.livery.hasCombinedCode = true) ∧
      m.aircraftIcao.designator = u.unified remote.aircraftIcao.designator ∧
        m.livery.combinedCode = u.unified remote.livery.combinedCode := by
  unfold hasLiveryAndDesignator CAircraftIcaoCode.matchesDesignator CLivery.matchesCombinedCode
  simp only [Bool.and_eq_true, Bool.not_eq_true', beq_iff_eq]
  constructor
  · rintro ⟨⟨hdesignator, hicao⟩, ⟨hcode, hhas⟩, hlivery⟩
    exact ⟨⟨hdesignator, hcode, hhas⟩, hicao, hlivery.symm⟩
  · rintro ⟨⟨hdesignator, hcode, hhas⟩, hicao, hlivery⟩
    exact ⟨⟨hdesignator, hicao⟩, ⟨hcode, hhas⟩, hlivery.symm⟩

theorem hasDesignatorAsLivery_iff :
    hasDesignatorAsLivery u remote m = true ↔ (remote.aircraftIcao.designator.isEmpty = false ∧
        remote.livery.combinedCode.isEmpty = false ∧ m.livery.hasCombinedCode = true) ∧
      m.aircraftIcao.designator = u.unified remote.livery.combinedCode ∧
        m.livery.combinedCode = u.unified remote.aircraftIcao.designator := by
  unfold hasDesignatorAsLivery CAircraftIcaoCode.matchesDesignator CLivery.matchesCombinedCode
  simp only [Bool.and_eq_true, Bool.not_eq_true', beq_iff_eq]
  constructor
  · rintro ⟨⟨hcode, hicao⟩, ⟨hdesignator, hhas⟩, hlivery⟩
    exact ⟨⟨hdesignator, hcode, hhas⟩, hicao, hlivery.symm⟩
  · rintro ⟨⟨hdesignator, hcode, hhas⟩, hicao, hlivery⟩
    exact ⟨⟨hcode, hicao⟩, ⟨hdesignator, hhas⟩, hlivery.symm⟩

/-- The search finds what it is to find only if both texts are the same. -/
theorem reducesTo_livery_iff (h : inList ≠ []) :
    ReducesTo u (hasLiveryAndDesignator u remote) inList
        (ifPossibleReduceByLiveryAndAircraftIcaoCode u remote inList) ↔
      ((∃ m ∈ inList, hasDesignatorAsLivery u remote m = true) →
        u.unified remote.aircraftIcao.designator = u.unified remote.livery.combinedCode) := by
  rw [ifPossibleReduceByLivery_eq]
  constructor
  · -- The search compares the livery with the designator, which is what a sound step forbids.
    rintro hstep ⟨m, hm, hswapped⟩
    have hmem := List.mem_filter.mpr ⟨hm, hswapped⟩
    rw [if_neg (List.ne_nil_of_mem hmem)] at hstep
    have hsound := hasLiveryAndDesignator_iff.mp (hstep.sound rfl m hmem)
    exact hsound.2.1.symm.trans (hasDesignatorAsLivery_iff.mp hswapped).2.1
  · intro hsame
    have hcriterion : inList.filter (hasDesignatorAsLivery u remote) = [] ∨
        hasDesignatorAsLivery u remote = hasLiveryAndDesignator u remote := by
      by_cases hnone : inList.filter (hasDesignatorAsLivery u remote) = []
      · exact Or.inl hnone
      · -- Where both texts are the same the two criteria are.
        rcases List.exists_mem_of_ne_nil _ hnone with ⟨m, hm⟩
        have htexts := hsame ⟨m, List.mem_filter.mp hm⟩
        refine Or.inr (funext fun m => ?_)
        rw [Bool.eq_iff_iff, hasDesignatorAsLivery_iff, hasLiveryAndDesignator_iff, htexts]
    rcases hcriterion with hnone | hcriterion
    · rw [if_pos hnone]
      exact reducesTo_refl h _
    · rw [hcriterion]
      exact reducesTo_filter h _

/-! ## The flags -/

/-- A step that keeps what meets a criterion without a report does what it is to if there
    is nothing to report. -/
theorem reducesTo_unreported_iff (h : inList ≠ [])
    (criterion : CAircraftModel → Bool) :
    ReducesTo u criterion inList (if inList.filter criterion = [] then ⟨inList, false⟩
        else ⟨inList.filter criterion, false⟩) ↔
      (∀ m ∈ inList, criterion m = true) ∨ ∀ m ∈ inList, criterion m = false := by
  constructor
  · intro hstep
    split_ifs at hstep with hnone
    · exact Or.inr fun m hm => Bool.not_eq_true _ ▸ List.filter_eq_nil_iff.mp hnone m hm
    · exact Or.inl (List.filter_eq_self.mp (hstep.unchanged rfl))
  · rintro (hall | hnone)
    · rw [List.filter_eq_self.mpr hall, ite_self]
      exact reducesTo_refl h _
    · rw [if_pos (List.filter_eq_nil_iff.mpr fun m hm => by
        rw [hnone m hm]; exact Bool.false_ne_true)]
      exact reducesTo_refl h _

theorem reducesTo_military_iff (h : inList ≠ []) :
    ReducesTo u (fun m => m.isMilitary == remote.isMilitary) inList
        (ifPossibleReduceByMilitaryFlag remote inList) ↔
      (∀ m ∈ inList, m.isMilitary = remote.isMilitary) ∨
        ∀ m ∈ inList, m.isMilitary ≠ remote.isMilitary := by
  refine (reducesTo_unreported_iff h _).trans ?_
  simp

theorem reducesTo_vtol_iff (h : inList ≠ []) :
    ReducesTo u CAircraftModel.isVtol inList (ifPossibleReduceByVTOLFlag inList) ↔
      (∀ m ∈ inList, m.isVtol = true) ∨ ∀ m ∈ inList, m.isVtol = false := by
  have hstep : ifPossibleReduceByVTOLFlag inList =
      if inList.filter CAircraftModel.isVtol = [] then ⟨inList, false⟩
      else ⟨inList.filter CAircraftModel.isVtol, false⟩ := by
    unfold ifPossibleReduceByVTOLFlag containsVtol findByVtolFlag
    have hfilter : inList.filter (fun m => m.isVtol == true) =
        inList.filter CAircraftModel.isVtol :=
      List.filter_congr fun m _ => beq_true _
    have hany : (!inList.any CAircraftModel.isVtol) = true ↔
        inList.filter CAircraftModel.isVtol = [] := by
      rw [Bool.not_eq_true', List.any_eq_false, List.filter_eq_nil_iff]
    rw [hfilter]
    exact if_congr hany rfl rfl
  rw [hstep]
  exact reducesTo_unreported_iff h _

/-! ## The codes -/

/-- Models that a step may return, whatever it reports. -/
structure Kept (inList models : CAircraftModelList) : Prop where
  nonempty : models ≠ []
  sublist : models.Subperm inList

theorem Kept.trans {inList first second : CAircraftModelList} (h : Kept inList first)
    (h' : Kept first second) : Kept inList second :=
  ⟨h'.nonempty, h'.sublist.trans h.sublist⟩

theorem Reduces.kept {reduction : Reduction}
    (h : Reduces inList reduction) : Kept inList reduction.models :=
  ⟨h.nonempty, h.sublist⟩

theorem kept_refl (h : inList ≠ []) : Kept inList inList :=
  ⟨h, List.Subperm.refl _⟩

theorem kept_filter {criterion : CAircraftModel → Bool}
    (h : inList.filter criterion ≠ []) : Kept inList (inList.filter criterion) :=
  ⟨h, List.filter_sublist.subperm⟩

variable (u mode remote) in
/-- The family is asked again where the airline has nothing for the aircraft. -/
def triesFamily (inList : CAircraftModelList) : Bool :=
  remote.getAirlineIcaoCode.hasValidDesignator u &&
    !(ifPossibleReduceByAirline u mode remote
      (ifPossibleReduceByAircraftOrFamily u mode remote true inList).models).reduced &&
    mode.testFlag byFamily &&
    (ifPossibleReduceByAirline u mode remote
      (ifPossibleReduceByFamily u remote true inList).1.models).reduced

/-- The family is returned without a report. -/
theorem icaoData_of_triesFamily (h : inList ≠ []) (reduced : Bool)
    (hfirst : mode.testFlag byIcaoOrderAirlineFirst = false)
    (hdata : mode.testFlag byIcaoData = true) (htries : triesFamily u mode remote inList = true) :
    ifPossibleReduceByIcaoData u mode remote inList reduced =
      ⟨(ifPossibleReduceByAirline u mode remote
        (ifPossibleReduceByFamily u remote true inList).1.models).models, false⟩ := by
  unfold triesFamily at htries
  unfold ifPossibleReduceByIcaoData
  rw [if_neg h, hfirst, if_neg Bool.false_ne_true, hdata, if_pos rfl, if_pos htries]

section Distinct

variable {inList : CAircraftModelList} (hfamily : FamilyDistinct u remote inList)
  (hairline : AirlineDistinct u mode remote inList) (h : inList ≠ [])

include hfamily hairline h

theorem reduces_family_airline : Reduces inList ⟨(ifPossibleReduceByAirline u mode remote
        (ifPossibleReduceByFamily u remote true inList).1.models).models,
      (ifPossibleReduceByFamily u remote true inList).1.reduced ||
        (ifPossibleReduceByAirline u mode remote
          (ifPossibleReduceByFamily u remote true inList).1.models).reduced⟩ := by
  have hfirst := (hfamily.reducesTo h true).toReduces
  exact hfirst.trans ((hairline.mono hfirst.sublist).reducesTo hfirst.nonempty).toReduces

theorem reduces_aircraft_airline : Reduces inList ⟨(ifPossibleReduceByAirline u mode remote
        (ifPossibleReduceByAircraftOrFamily u mode remote true inList).models).models,
      (ifPossibleReduceByAircraftOrFamily u mode remote true inList).reduced ||
        (ifPossibleReduceByAirline u mode remote
          (ifPossibleReduceByAircraftOrFamily u mode remote true inList).models).reduced⟩ := by
  have hfirst := hfamily.reduces_aircraftOrFamily mode h true
  exact hfirst.trans ((hairline.mono hfirst.sublist).reducesTo hfirst.nonempty).toReduces

theorem reduces_airline_aircraft : Reduces inList
    ⟨(ifPossibleReduceByAircraftOrFamily u mode remote true
        (ifPossibleReduceByAirline u mode remote inList).models).models,
      (ifPossibleReduceByAirline u mode remote inList).reduced ||
        (ifPossibleReduceByAircraftOrFamily u mode remote true
          (ifPossibleReduceByAirline u mode remote inList).models).reduced⟩ := by
  have hfirst := (hairline.reducesTo h).toReduces
  exact hfirst.trans ((hfamily.mono hfirst.sublist).reduces_aircraftOrFamily mode
    hfirst.nonempty true)

/-- All else is reported. -/
theorem icaoData_cases (reduced : Bool) :
    Reduces inList (ifPossibleReduceByIcaoData u mode remote inList reduced) ∨
      mode.testFlag byIcaoOrderAirlineFirst = false ∧ mode.testFlag byIcaoData = true ∧
        triesFamily u mode remote inList = true := by
  by_cases htries : mode.testFlag byIcaoOrderAirlineFirst = false ∧
      mode.testFlag byIcaoData = true ∧ triesFamily u mode remote inList = true
  · exact Or.inr htries
  · left
    unfold ifPossibleReduceByIcaoData
    rw [if_neg h]
    dsimp only
    split_ifs with hfirst _ hdata htried
    · exact reduces_of_subperm (reduces_airline_aircraft hfamily hairline h).nonempty
        (reduces_airline_aircraft hfamily hairline h).sublist
    · exact reduces_refl h false
    · exact absurd ⟨Bool.not_eq_true _ ▸ hfirst, hdata, htried⟩ htries
    · exact reduces_of_subperm (reduces_aircraft_airline hfamily hairline h).nonempty
        (reduces_aircraft_airline hfamily hairline h).sublist
    · exact reduces_refl h false
    · exact reduces_refl h false

variable (mode) in
theorem kept_icaoData (reduced : Bool) :
    Kept inList (ifPossibleReduceByIcaoData u mode remote inList reduced).models := by
  rcases icaoData_cases hfamily hairline h reduced with hstep | ⟨hfirst, hdata, htries⟩
  · exact hstep.kept
  · rw [icaoData_of_triesFamily h reduced hfirst hdata htries]
    exact (reduces_family_airline hfamily hairline h).kept

omit hairline in
/-- The family is asked if the models of the aircraft are of other airlines and those of the
    family are not. -/
theorem triesFamily_iff :
    triesFamily u mode remote inList = true ↔
      mode.testFlag byFamily = true ∧ remote.getAirlineIcaoCode.hasValidDesignator u = true ∧
        (¬ ∃ m ∈ aircraftModels u mode remote inList, isOfAirline remote m = true ∨
          remote.getAirlineIcaoCode.hasGroupMembership = true ∧ isOfGroup remote m = true) ∧
        ∃ m ∈ familyModels u remote inList, isOfAirline remote m = true ∨
          remote.getAirlineIcaoCode.hasGroupMembership = true ∧ isOfGroup remote m = true := by
  have haircraft := (hfamily.reduces_aircraftOrFamily mode h true).nonempty
  have hmodels := (hfamily.reducesTo h true).nonempty
  unfold triesFamily
  rw [Bool.and_eq_true, Bool.and_eq_true, Bool.and_eq_true, Bool.not_eq_true', ← Bool.not_eq_true,
    ifPossibleReduceByAirline_reduced_iff haircraft,
    ifPossibleReduceByAirline_reduced_iff hmodels, aircraftModels_eq h, familyModels_eq]
  constructor
  · rintro ⟨⟨⟨hvalid, hsecond⟩, hflag⟩, -, hfound⟩
    exact ⟨hflag, hvalid, fun hany => hsecond ⟨hvalid, hany⟩, hfound⟩
  · rintro ⟨hflag, hvalid, hsecond, hfound⟩
    exact ⟨⟨⟨hvalid, fun hany => hsecond hany.2⟩, hflag⟩, hvalid, hfound⟩

/-- What is found in the family is never the whole list: some model is of another airline. -/
theorem triesFamily_ne (htries : triesFamily u mode remote inList = true) :
    (ifPossibleReduceByAirline u mode remote
      (ifPossibleReduceByFamily u remote true inList).1.models).models ≠ inList := by
  intro hwhole
  have hmodels := (hfamily.reducesTo h true).toReduces
  have hreduced : (ifPossibleReduceByAirline u mode remote
      (ifPossibleReduceByFamily u remote true inList).1.models).reduced = true := by
    exact (Bool.and_eq_true_iff.mp htries).2
  have hsound := ((hairline.mono hmodels.sublist).reducesTo hmodels.nonempty).sound hreduced
  have haircraft := hfamily.reduces_aircraftOrFamily mode h true
  rcases List.exists_mem_of_ne_nil _ haircraft.nonempty with ⟨m, hm⟩
  refine ((triesFamily_iff hfamily h).mp htries).2.2.1 ⟨m, ?_, isOfAirlineOrGroup_or (hsound m ?_)⟩
  · rw [aircraftModels_eq h]
    exact hm
  · rw [hwhole]
    exact haircraft.sublist.subset hm

theorem reduces_icaoData_iff :
    (∀ reduced, Reduces inList (ifPossibleReduceByIcaoData u mode remote inList reduced)) ↔
      (mode.testFlag byIcaoOrderAirlineFirst = false → mode.testFlag byIcaoData = true →
        mode.testFlag byFamily = true → remote.getAirlineIcaoCode.hasValidDesignator u = true →
        (∃ m ∈ aircraftModels u mode remote inList, isOfAirline remote m = true ∨
            remote.getAirlineIcaoCode.hasGroupMembership = true ∧ isOfGroup remote m = true) ∨
          ∀ m ∈ familyModels u remote inList, isOfAirline remote m = false ∧
            (remote.getAirlineIcaoCode.hasGroupMembership = true →
              isOfGroup remote m = false)) := by
  -- What the condition says of a model, as a negation.
  have hnone (m : CAircraftModel) : (isOfAirline remote m = false ∧
      (remote.getAirlineIcaoCode.hasGroupMembership = true → isOfGroup remote m = false)) ↔
      ¬ (isOfAirline remote m = true ∨
        remote.getAirlineIcaoCode.hasGroupMembership = true ∧ isOfGroup remote m = true) := by
    rw [not_or, not_and, Bool.not_eq_true, Bool.not_eq_true]
  simp only [hnone]
  constructor
  · intro hstep hfirst hdata hflag hvalid
    by_contra hneither
    rw [not_or] at hneither
    simp only [not_forall, not_not, exists_prop] at hneither
    -- If only the family has the airline, its models are returned without a report.
    have htries : triesFamily u mode remote inList = true :=
      (triesFamily_iff hfamily h).mpr ⟨hflag, hvalid, hneither.1, hneither.2⟩
    have hunchanged := (hstep false).unchanged
    rw [icaoData_of_triesFamily h false hfirst hdata htries] at hunchanged
    exact triesFamily_ne hfamily hairline h htries (hunchanged rfl)
  · intro hcondition reduced
    rcases icaoData_cases hfamily hairline h reduced with hstep | ⟨hfirst, hdata, htries⟩
    · exact hstep
    · rcases (triesFamily_iff hfamily h).mp htries with ⟨hflag, hvalid, haircraft, m, hm, hany⟩
      rcases hcondition hfirst hdata hflag hvalid with hfound | hnothing
      · exact absurd hfound haircraft
      · exact absurd hany (hnothing m hm)

/-! ## The combined type -/

omit hfamily hairline h in
theorem findByCombinedType_eq (hvalid : remote.aircraftIcao.hasValidCombinedType u = true) :
    findByCombinedType u inList remote.aircraftIcao.combinedType =
      inList.filter (fun m => m.aircraftIcao.matchesCombinedType u
        (u.toUpper remote.aircraftIcao.combinedType.trimmed)) := by
  have hlength : remote.aircraftIcao.combinedType.length = 3 := by
    unfold CAircraftIcaoCode.hasValidCombinedType at hvalid
    split at hvalid
    · next heq => rw [heq]; rfl
    · cases hvalid
  rw [findByCombinedType, if_neg (not_not.mpr hlength)]

omit hfamily h in
/-- Several models are reported, the only one is not. -/
theorem combinedType_cases :
    let step := ifPossibleReduceByCombinedType u mode remote inList
    let found := findByCombinedType u inList remote.aircraftIcao.combinedType
    ((remote.aircraftIcao.hasValidCombinedType u = true → found = []) ∧ step = ⟨inList, false⟩) ∨
      (remote.aircraftIcao.hasValidCombinedType u = true ∧ 1 < found.length ∧
        step.reduced = true ∧ Kept inList step.models ∧ step.models.Subperm found) ∨
      (remote.aircraftIcao.hasValidCombinedType u = true ∧ found.length = 1 ∧
        step = ⟨found, false⟩ ∧ Kept inList found) := by
  intro step found
  change (_ ∧ ifPossibleReduceByCombinedType u mode remote inList = _) ∨
    (_ ∧ _ ∧ (ifPossibleReduceByCombinedType u mode remote inList).reduced = _ ∧
      Kept inList (ifPossibleReduceByCombinedType u mode remote inList).models ∧
      (ifPossibleReduceByCombinedType u mode remote inList).models.Subperm found) ∨
    (_ ∧ _ ∧ ifPossibleReduceByCombinedType u mode remote inList = _ ∧ _)
  unfold ifPossibleReduceByCombinedType
  cases hvalid : remote.aircraftIcao.hasValidCombinedType u with
  | false => exact Or.inl ⟨fun hvalid => absurd hvalid Bool.false_ne_true, rfl⟩
  | true =>
    rw [Bool.not_true, if_neg Bool.false_ne_true]
    -- Nothing is found, several models are reduced further, and one model is returned as it is.
    by_cases hnone : found = []
    · exact Or.inl ⟨fun _ => hnone, if_pos hnone⟩
    have hkept : Kept inList found := by
      change Kept inList (findByCombinedType u inList remote.aircraftIcao.combinedType)
      rw [findByCombinedType_eq hvalid]
      exact kept_filter (by rw [← findByCombinedType_eq hvalid]; exact hnone)
    by_cases hmany : 1 < found.length
    · have hairlines := ((hairline.mono hkept.sublist).reducesTo hnone).kept
      have hmodels := hairlines.trans
        (reducesTo_manufacturer u remote hairlines.nonempty).kept
      refine Or.inr (Or.inl ⟨rfl, hmany, ?_⟩)
      rw [if_neg hnone, if_pos hmany]
      exact ⟨rfl, hkept.trans hmodels, hmodels.sublist⟩
    · refine Or.inr (Or.inr ⟨rfl, ?_, ?_, hkept⟩)
      · have hpos := List.length_pos_iff.mpr hnone
        omega
      · rw [if_neg hnone, if_neg hmany]

omit hfamily in
theorem reduces_combinedType_iff :
    (Reduces inList (ifPossibleReduceByCombinedType u mode remote inList) ∧
      ((ifPossibleReduceByCombinedType u mode remote inList).reduced = true →
        ∀ m ∈ (ifPossibleReduceByCombinedType u mode remote inList).models,
          m.aircraftIcao.matchesCombinedType u (u.toUpper remote.aircraftIcao.combinedType.trimmed)
            = true)) ↔ (remote.aircraftIcao.hasValidCombinedType u = true →
        (findByCombinedType u inList remote.aircraftIcao.combinedType).length = 1 →
          inList.length = 1) := by
  rcases combinedType_cases hairline with
    ⟨hnone, hstep⟩ | ⟨hvalid, hmany, hreduced, hkept, hsub⟩ | ⟨hvalid, hone, hstep, hkept⟩
  · rw [hstep]
    refine iff_of_true ⟨reduces_refl h false, fun hreduced => absurd hreduced Bool.false_ne_true⟩
      fun hvalid hone => ?_
    rw [hnone hvalid] at hone
    cases hone
  · refine iff_of_true ⟨⟨hkept.nonempty, hkept.sublist, fun hunreported => ?_⟩, fun _ m hm => ?_⟩
      fun _ hone => absurd hone (by omega)
    · exact absurd (hreduced.symm.trans hunreported) (by decide)
    · have hmem := hsub.subset hm
      rw [findByCombinedType_eq hvalid] at hmem
      exact (List.mem_filter.mp hmem).2
  · -- The only model is returned without a report, which is right if it was the only one before.
    rw [hstep]
    constructor
    · intro hreduces _ _
      rw [← hreduces.1.unchanged rfl]
      exact hone
    · intro hlength
      have hwhole : findByCombinedType u inList remote.aircraftIcao.combinedType = inList := by
        rw [findByCombinedType_eq hvalid] at hone ⊢
        exact List.filter_sublist.eq_of_length
          (hone.trans (hlength hvalid (by rw [findByCombinedType_eq hvalid]; exact hone)).symm)
      rw [hwhole]
      exact ⟨reduces_refl h false, fun hreduced => absurd hreduced Bool.false_ne_true⟩

omit hfamily in
theorem kept_combinedType :
    Kept inList (ifPossibleReduceByCombinedType u mode remote inList).models := by
  rcases combinedType_cases hairline with
    ⟨-, hstep⟩ | ⟨-, -, -, hkept, -⟩ | ⟨-, -, hstep, hkept⟩
  · rw [hstep]
    exact kept_refl h
  · exact hkept
  · rw [hstep]
    exact hkept

/-! ## All steps -/

omit hfamily hairline in
theorem kept_livery :
    Kept inList (ifPossibleReduceByLiveryAndAircraftIcaoCode u remote inList).models := by
  rw [ifPossibleReduceByLivery_eq]
  split_ifs with hnone
  · exact kept_refl h
  · exact kept_filter hnone

omit hfamily hairline in
variable (remote) in
theorem kept_military : Kept inList (ifPossibleReduceByMilitaryFlag remote inList).models := by
  unfold ifPossibleReduceByMilitaryFlag
  dsimp only
  split_ifs with hnone
  · exact kept_refl h
  · exact kept_filter hnone

omit hfamily hairline h in
theorem kept_vtol (hvtol : containsVtol inList = true) :
    Kept inList (findByVtolFlag inList true) := by
  rcases List.any_eq_true.mp hvtol with ⟨m, hm, hisVtol⟩
  refine kept_filter (List.ne_nil_of_mem (a := m) (List.mem_filter.mpr ⟨hm, ?_⟩))
  rw [hisVtol]
  rfl

variable (mode) in
/-- What the codes leave is kept, also where the flags go on with it. -/
theorem kept_codes (reduceLog : Bool) :
    Kept inList (reduceByCodes u mode remote reduceLog inList).1 ∧
      ∀ reduction, (reduceByCodes u mode remote reduceLog inList).2 = some reduction →
        Kept inList reduction.models := by
  unfold reduceByCodes
  dsimp only
  have hlivery : Kept inList (if mode.testFlag byLivery then
      ifPossibleReduceByLiveryAndAircraftIcaoCode u remote inList else ⟨inList, false⟩).models := by
    -- One of the branches goes on with what the livery left, and the flags with any of them.
    split_ifs
    · exact kept_livery h
    · exact kept_refl h
  generalize (if mode.testFlag byLivery then
    ifPossibleReduceByLiveryAndAircraftIcaoCode u remote inList else ⟨inList, false⟩) = livery
    at hlivery ⊢
  have hicao := hlivery.trans (kept_icaoData mode (hfamily.mono hlivery.sublist)
    (hairline.mono hlivery.sublist) hlivery.nonempty livery.reduced)
  have hfam := hlivery.trans
    ((hfamily.mono hlivery.sublist).reducesTo hlivery.nonempty true).kept
  split_ifs
  · exact ⟨hlivery, fun _ hnone => hnone.elim⟩
  · exact ⟨hicao, fun _ heq => Option.some_inj.mp heq ▸ hicao⟩
  · exact ⟨hfam, fun _ hnone => hnone.elim⟩
  · exact ⟨hfam, fun _ heq => Option.some_inj.mp heq ▸ hfam⟩
  · exact ⟨hlivery, fun _ heq => Option.some_inj.mp heq ▸ hlivery⟩

omit hfamily h in
/-- The flags leave something of what they are given. -/
theorem kept_flags {reduction : Reduction} (hkept : Kept inList reduction.models) :
    Kept inList (reduceByFlags u mode remote reduction) := by
  unfold reduceByFlags
  dsimp only
  have hvtol : Kept inList (if !reduction.reduced && remote.isVtol &&
      reduction.models.containsVtol && mode.testFlag byVtol then
        reduction.models.findByVtolFlag true else reduction.models) := by
    split_ifs with hflag
    · simp only [Bool.and_eq_true] at hflag
      exact hkept.trans (kept_vtol hflag.1.2)
    · exact hkept
  generalize (if !reduction.reduced && remote.isVtol && reduction.models.containsVtol &&
    mode.testFlag byVtol then reduction.models.findByVtolFlag true else reduction.models) = vtol
    at hvtol ⊢
  have hmilitary := hvtol.trans (kept_military remote hvtol.nonempty)
  split_ifs
  · exact hmilitary.trans (kept_combinedType (hairline.mono hmilitary.sublist) hmilitary.nonempty)
  · exact hvtol.trans (kept_combinedType (hairline.mono hvtol.sublist) hvtol.nonempty)
  · exact hmilitary
  · exact hvtol

variable (mode) in
theorem kept_stepwise (reduceLog : Bool) :
    Kept inList (getClosestMatchStepwiseReduceImplementation u mode remote reduceLog inList) := by
  unfold getClosestMatchStepwiseReduceImplementation
  dsimp only
  rcases kept_codes mode hfamily hairline h reduceLog with ⟨hcodes, hreduction⟩
  have hmatched : Kept inList (match (reduceByCodes u mode remote reduceLog inList).2 with
      | none => (reduceByCodes u mode remote reduceLog inList).1
      | some reduction => reduceByFlags u mode remote reduction) := by
    cases hcode : (reduceByCodes u mode remote reduceLog inList).2 with
    | none => exact hcodes
    | some reduction => exact kept_flags hairline (hreduction reduction hcode)
  split_ifs
  · exact hmatched.trans (reducesTo_manufacturer u remote hmatched.nonempty).kept
  · exact hmatched

end Distinct

/-- When the steps of the matcher reduce a model set as they report. -/
theorem reduces_soundly_iff (h : inList ≠ []) :
    ReducesSoundly u mode remote inList ↔ Reducible u mode remote inList := by
  constructor
  · -- The steps that are always sound have no condition to be derived.
    intro hsound
    have hfamily := familyDistinct_of_subperm (hsound.family true).sublist
    have hairline := airlineDistinct_of_subperm h hsound.airline.sublist
    constructor
    case livery => exact (reducesTo_livery_iff h).mp hsound.livery
    case family => exact hfamily
    case airline => exact hairline
    case icaoData => exact (reduces_icaoData_iff hfamily hairline h).mp hsound.icaoData
    case combinedType => exact (reduces_combinedType_iff hairline h).mp hsound.combinedType
    case military => exact (reducesTo_military_iff h).mp hsound.military
    case vtol => exact (reducesTo_vtol_iff h).mp hsound.vtol
  · intro hreducible
    have hfamily := hreducible.family
    have hairline := hreducible.airline
    constructor
    case livery => exact (reducesTo_livery_iff h).mpr hreducible.livery
    case manufacturer => exact reducesTo_manufacturer u remote h
    case family => exact hfamily.reducesTo h
    case aircraft => exact reducesTo_aircraft h
    case aircraftOrFamily => exact hfamily.reduces_aircraftOrFamily mode h
    case airline => exact hairline.reducesTo h
    case icaoData => exact (reduces_icaoData_iff hfamily hairline h).mpr hreducible.icaoData
    case combinedType =>
      exact (reduces_combinedType_iff hairline h).mpr hreducible.combinedType
    case military => exact (reducesTo_military_iff h).mpr hreducible.military
    case vtol => exact (reducesTo_vtol_iff h).mpr hreducible.vtol
    case stepwise =>
      intro reduceLog
      have hkept := kept_stepwise mode hfamily hairline h reduceLog
      exact ⟨hkept.nonempty, hkept.sublist⟩

/-- A model of an aircraft and an airline, for the runs below. -/
def airbus (aircraft airline : QString) (military : Bool) : CAircraftModel where
  modelString := aircraft ++ airline
  aircraftIcao := { designator := aircraft, family := "A320", military }
  livery := { airline := { designator := airline } }

/-- Two models, one of which is of the aircraft. -/
theorem reduces_soundly_airbus :
    ReducesSoundly UnicodeData.ascii byIcaoData (airbus "A320" "DLH" false)
      [airbus "A320" "DLH" false, airbus "A321" "BAW" false] := by
  refine (reduces_soundly_iff (List.cons_ne_nil _ _)).mpr ?_
  constructor
  case livery => decide
  case family => unfold FamilyDistinct; decide
  case airline => unfold AirlineDistinct; decide
  case icaoData => decide
  case combinedType => decide
  case military => decide
  case vtol => decide

/-- The one military model is returned, and so is the one of the family and the airline, but
    neither is reported. -/
theorem reduces_unreported :
    ifPossibleReduceByMilitaryFlag (airbus "A320" "GAF" true)
        [airbus "A320" "GAF" true, airbus "A320" "DLH" false] =
      ⟨[airbus "A320" "GAF" true], false⟩ ∧
    ifPossibleReduceByIcaoData UnicodeData.ascii (byIcaoData ||| byFamily)
        (airbus "A320" "DLH" false) [airbus "A320" "BAW" false, airbus "A321" "DLH" false] false =
      ⟨[airbus "A321" "DLH" false], false⟩ ∧
    ¬ ReducesSoundly UnicodeData.ascii byIcaoData (airbus "A320" "GAF" true)
      [airbus "A320" "GAF" true, airbus "A320" "DLH" false] ∧
    ¬ ReducesSoundly UnicodeData.ascii (byIcaoData ||| byFamily) (airbus "A320" "DLH" false)
      [airbus "A320" "BAW" false, airbus "A321" "DLH" false] := by
  refine ⟨by decide, by decide, fun hsound => ?_, fun hsound => ?_⟩
  · exact absurd (hsound.military.unchanged (by decide)) (by decide)
  · exact absurd ((hsound.icaoData false).unchanged (by decide)) (by decide)

end StepwiseReduce

end NeoSwift.Core
