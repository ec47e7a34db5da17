import NeoSwift.Aviation.Callsign
import Mathlib.Data.List.Perm.Subperm

/-!
# Aircraft Models

`CAircraftModel` with the codes of its aircraft, airline and livery, and the searches of
`CAircraftModelList`. Model strings are compared caseless. The class and the value of
digits and the case folding are those of the Unicode database, taken as parameters.

## Main definitions

* `CAircraftIcaoCode`, `CAirlineIcaoCode`, `CLivery`, `CAircraftModel`: A model.
* `findByIcaoDesignators`, `findByFamily`, `findByCombinedType`: The searches.
* `removeModelsWithString`, `replaceOrAddModelsWithString`: The updates.

## Theorems

* `mem_removeModelsWithString`, `mem_replaceOrAddModelsWithString`: What is in a list
  afterwards.
-/

namespace NeoSwift

namespace Aviation

/-- Digits and `Qt::CaseInsensitive`. -/
structure UnicodeData extends Unicode where
  isUpper : Char → Bool
  isDigit : Char → Bool
  digitValue : Char → ℤ
  foldCase : Char → Char

namespace UnicodeData

/-- The ASCII part of the database. -/
def ascii : UnicodeData where
  toUnicode := Unicode.ascii
  isUpper := Char.isUpper
  isDigit := Char.isDigit
  digitValue c := if c.isDigit then c.toNat - '0'.toNat else -1
  foldCase := Char.toLower

variable (u : UnicodeData)

/-- `caseInsensitiveStringCompare`. -/
def sameText (c1 c2 : QString) : Bool := c1.map u.foldCase == c2.map u.foldCase

/-- `QString::toUpper` after `QString::trimmed`. -/
def unified (s : QString) : QString := u.toUpper s.trimmed

end UnicodeData

/-- `CAircraftIcaoCode`. -/
structure CAircraftIcaoCode where
  designator : QString := []
  family : QString := []
  combinedType : QString := []
  manufacturer : QString := []
  military : Bool := false
  deriving DecidableEq

/-- `CAirlineIcaoCode`. -/
structure CAirlineIcaoCode where
  designator : QString := []
  groupId : ℤ := -1
  groupDesignator : QString := []
  deriving DecidableEq

/-- `CLivery`. -/
structure CLivery where
  combinedCode : QString := []
  airline : CAirlineIcaoCode := {}
  military : Bool := false
  deriving DecidableEq

namespace CAircraftIcaoCode

variable (u : UnicodeData) (icao : CAircraftIcaoCode)

/-- An ICAO designator is known. -/
def hasDesignator : Bool := !icao.designator.isEmpty

/-- A family is known. -/
def hasFamily : Bool := !icao.family.isEmpty

/-- The stored one is in capitals already. -/
def matchesDesignator (designator : QString) : Bool :=
  !designator.isEmpty && icao.designator == u.unified designator

/-- Without case. -/
def matchesManufacturer (manufacturer : QString) : Bool :=
  !manufacturer.isEmpty && u.sameText manufacturer icao.manufacturer

/-- The second character as a number of one digit. -/
def getEnginesCount : ℤ :=
  match icao.combinedType with
  | _ :: c :: _ => if c.isDigit then c.toNat - '0'.toNat else -1
  | _ => -1

/-- The first character, unless it is a dash. -/
def getAircraftType : Option Char :=
  match icao.combinedType with
  | c :: _ => if c = '-' then none else some c
  | [] => none

/-- The last of three characters. -/
def getEngineType : Option Char :=
  match icao.combinedType with
  | [_, _, c] => some c
  | _ => none

/-- Blanks and hyphens of the wanted type stand for anything. -/
def matchesCombinedType (combinedType : QString) : Bool :=
  let cc := (u.toUpper combinedType).trimmed.map (fun c => if c = ' ' ∨ c = '-' then '*' else c)
  if combinedType.length ≠ 3 then false
  else if cc = icao.combinedType then true
  else
    match cc with
    | at_ :: c :: et :: _ =>
      cc.contains '*' && (at_ == '*' || icao.getAircraftType == some at_) &&
        (c == '*' || icao.getEnginesCount == u.digitValue c) &&
        (et == '*' || icao.getEngineType == some et)
    | _ => false

def matchesCombinedTypeAndManufacturer (combinedType manufacturer : QString) : Bool :=
  icao.matchesCombinedType u combinedType && icao.matchesManufacturer u manufacturer

/-- A description, a count and an engine. -/
def hasValidCombinedType : Bool :=
  match icao.combinedType with
  | [description, engines, engine] =>
    "AGHSLT".toList.contains description && u.isDigit engines && "EJPT-".toList.contains engine
  | _ => false

/-- What takes off vertically. -/
def isVtol : Bool :=
  ["BALL".toList, "SHIP".toList, "GYRO".toList, "UHEL".toList].contains icao.designator ||
    icao.combinedType.head? == some 'H' || icao.combinedType.head? == some 'T'

end CAircraftIcaoCode

namespace CAirlineIcaoCode

variable (u : UnicodeData) (icao : CAirlineIcaoCode)

/-- `isValidAirlineDesignator`. -/
def hasValidDesignator : Bool :=
  decide (2 ≤ icao.designator.length) && decide (icao.designator.length ≤ 5) &&
    icao.designator.all (fun c => u.isUpper c || u.isDigit c)

/-- The airline belongs to a group. -/
def hasGroupMembership : Bool := decide (0 ≤ icao.groupId) && !icao.groupDesignator.isEmpty

end CAirlineIcaoCode

namespace CLivery

variable (u : UnicodeData) (livery : CLivery)

def hasCombinedCode : Bool := !livery.combinedCode.isEmpty

/-- The stored one is in capitals already. -/
def matchesCombinedCode (candidate : QString) : Bool :=
  !candidate.isEmpty && livery.hasCombinedCode && u.unified candidate == livery.combinedCode

/-- What the codes of color liveries begin with. -/
def colorLiveryMarker : QString := "_CC"

/-- A livery by its colors. -/
def isColorLivery : Bool := livery.combinedCode.startsWith colorLiveryMarker

end CLivery

end Aviation

namespace Misc

namespace Simulation

namespace Matching

open Aviation

/-- `CAircraftModel::ModelMode`. -/
inductive ModelMode where
  | undefined | include | exclude
  deriving DecidableEq

/-- `CAircraftModel`, as far as it is matched. -/
structure CAircraftModel where
  modelString : QString := []
  modelMode : ModelMode := .include
  aircraftIcao : CAircraftIcaoCode := {}
  livery : CLivery := {}
  deriving DecidableEq

namespace CAircraftModel

variable (model : CAircraftModel)

def hasModelString : Bool := !model.modelString.isEmpty

def getAirlineIcaoCode : CAirlineIcaoCode := model.livery.airline

/-- By its type or its livery. -/
def isMilitary : Bool := model.aircraftIcao.military || model.livery.military

def isVtol : Bool := model.aircraftIcao.isVtol

end CAircraftModel

/-- `CAircraftModelList`. -/
abbrev CAircraftModelList := List CAircraftModel

namespace CAircraftModelList

variable (u : UnicodeData) (models : CAircraftModelList)

/-- The strings of the models that have one. -/
def getModelStringList : QStringList :=
  (models.filter CAircraftModel.hasModelString).map CAircraftModel.modelString

/-- `QStringList::contains`, caseless. -/
def listed (modelStrings : QStringList) (model : CAircraftModel) : Bool :=
  modelStrings.any (u.sameText model.modelString)

/-- The other models. -/
def findByNotInModelStrings (modelStrings : QStringList) : CAircraftModelList :=
  models.filter (fun model => !listed u modelStrings model)

/-- The models with none of the strings. -/
def removeModelsWithString (modelStrings : QStringList) : CAircraftModelList :=
  if modelStrings = [] then models else models.findByNotInModelStrings u modelStrings

/-- The given models replace those of the same string. -/
def replaceOrAddModelsWithString (addOrReplaceList : CAircraftModelList) : CAircraftModelList :=
  if addOrReplaceList = [] then models
  else if models = [] then addOrReplaceList
  else models.removeModelsWithString u addOrReplaceList.getModelStringList ++ addOrReplaceList

def removeAllWithoutModelString : CAircraftModelList := models.filter CAircraftModel.hasModelString

/-- The models that are not excluded. -/
def removeIfExcluded : CAircraftModelList := models.filter (fun m => m.modelMode ≠ .exclude)

/-- An empty designator is not looked for. -/
def findByIcaoDesignators (aircraft airline : QString) : CAircraftModelList :=
  if airline.isEmpty then models.filter (fun m => m.aircraftIcao.designator == aircraft)
  else if aircraft.isEmpty then models.filter (fun m => m.getAirlineIcaoCode.designator == airline)
  else models.filter (fun m =>
    m.getAirlineIcaoCode.designator == airline && m.aircraftIcao.designator == aircraft)

/-- The models with both, none without a designator. -/
def findByAircraftDesignatorAndLiveryCombinedCode (aircraftDesignator combinedCode : QString) :
    CAircraftModelList :=
  if aircraftDesignator.isEmpty then []
  else models.filter (fun m => m.aircraftIcao.matchesDesignator u aircraftDesignator &&
    m.livery.matchesCombinedCode u combinedCode)

/-- All airlines of a group. -/
def findByAirlineGroup (airline : CAirlineIcaoCode) : CAircraftModelList :=
  if airline.groupId < 0 then []
  else models.filter (fun m => m.getAirlineIcaoCode.groupId == airline.groupId)

def findByManufacturer (manufacturer : QString) : CAircraftModelList :=
  if manufacturer.isEmpty then []
  else models.filter (fun m =>
    m.aircraftIcao.manufacturer == (u.toUpper manufacturer).trimmed)

def findByFamily (family : QString) : CAircraftModelList :=
  if family.isEmpty then []
  else models.filter (fun m =>
    m.aircraftIcao.hasFamily && m.aircraftIcao.family == (u.toUpper family).trimmed)

/-- By three characters. -/
def findByCombinedType (combinedType : QString) : CAircraftModelList :=
  if combinedType.length ≠ 3 then []
  else models.filter (fun m =>
    m.aircraftIcao.matchesCombinedType u (u.toUpper combinedType.trimmed))

def findColorLiveries : CAircraftModelList := models.filter (fun m => m.livery.isColorLivery)

def findByCombinedTypeWithColorLivery (combinedType : QString) : CAircraftModelList :=
  (models.findByCombinedType u combinedType).findColorLiveries

/-- The models with the combined type and the manufacturer, as far as they are given. -/
def findByCombinedAndManufacturer (icao : CAircraftIcaoCode) : CAircraftModelList :=
  if icao.manufacturer.isEmpty then models.findByCombinedType u icao.combinedType
  else if icao.combinedType.isEmpty then models.findByManufacturer u icao.manufacturer
  else models.filter (fun m =>
    m.aircraftIcao.matchesCombinedTypeAndManufacturer u icao.combinedType icao.manufacturer)

def findByMilitaryFlag (military : Bool) : CAircraftModelList :=
  models.filter (fun m => m.isMilitary == military)

def containsVtol : Bool := models.any CAircraftModel.isVtol

def findByVtolFlag (vtol : Bool) : CAircraftModelList := models.filter (fun m => m.isVtol == vtol)

/-! ## What is in a list afterwards -/

variable {u models}

theorem sameText_symm {s t : QString} (h : u.sameText s t = true) : u.sameText t s = true := by
  unfold UnicodeData.sameText at h ⊢
  rw [beq_iff_eq] at h ⊢
  exact h.symm

theorem sameText_trans {r s t : QString} (h : u.sameText r s = true)
    (h' : u.sameText s t = true) : u.sameText r t = true := by
  unfold UnicodeData.sameText at h h' ⊢
  rw [beq_iff_eq] at h h' ⊢
  exact h.trans h'

/-- An empty text is the same only as itself. -/
theorem isEmpty_of_sameText {s t : QString} (h : u.sameText s t = true) (ht : t = []) : s = [] := by
  unfold UnicodeData.sameText at h
  rw [beq_iff_eq, ht] at h
  exact List.map_eq_nil_iff.mp h

theorem hasModelString_iff {model : CAircraftModel} :
    model.hasModelString = true ↔ model.modelString ≠ [] := by
  rw [CAircraftModel.hasModelString, Bool.not_eq_true', ← Bool.not_eq_true, List.isEmpty_iff]

theorem listed_iff {model : CAircraftModel} :
    listed u (getModelStringList models) model = true ↔ ∃ m ∈ models, m.hasModelString = true ∧
        u.sameText model.modelString m.modelString = true := by
  unfold listed getModelStringList
  rw [List.any_map, List.any_eq_true]
  constructor
  · rintro ⟨m, hm, hsame⟩
    exact ⟨m, List.mem_of_mem_filter hm, (List.mem_filter.mp hm).2, hsame⟩
  · rintro ⟨m, hm, hstring, hsame⟩
    exact ⟨m, List.mem_filter.mpr ⟨hm, hstring⟩, hsame⟩

theorem mem_removeModelsWithString {modelStrings : QStringList} {model : CAircraftModel} :
    model ∈ removeModelsWithString u models modelStrings ↔
      model ∈ models ∧ listed u modelStrings model = false := by
  unfold removeModelsWithString
  split_ifs with hempty
  · rw [hempty]
    exact (and_iff_left rfl).symm
  · rw [findByNotInModelStrings, List.mem_filter, Bool.not_eq_true']

theorem mem_replaceOrAddModelsWithString {added : CAircraftModelList} {model : CAircraftModel} :
    model ∈ replaceOrAddModelsWithString u models added ↔
      model ∈ added ∨ model ∈ models ∧ listed u (getModelStringList added) model = false := by
  unfold replaceOrAddModelsWithString
  split_ifs with hadded hmodels
  · rw [hadded]
    simp [listed, getModelStringList]
  · rw [hmodels]
    simp
  · rw [List.mem_append, mem_removeModelsWithString, or_comm]

end CAircraftModelList

end Matching

end Simulation

end Misc

end NeoSwift
