import NeoSwift.Aviation.AircraftParts
import NeoSwift.Fsd.Client.State
import NeoSwift.Pq.Length

/-!
# The Provider of Remote Aircraft

`CRemoteAircraftProvider`: the aircraft in range, and for each callsign its
situations, parts and changes with the times they were modified, the test offset,
the center of gravity of the database and the history of parts messages. All of it
is kept in maps by callsign, which the operations here are all that write.

What situations and changes are and how the ground is guessed is a parameter, as is
the data an update of properties carries, which is the function it is applied as.
Aircraft are kept under their own callsigns, so finding one by callsign is a lookup.
Signals and locks are left out.

## Main definitions

* `SituationLibrary`: Situations and changes.
* `CSimulatedAircraft`, `Stores`, `RemoteAircraftProvider`: The state.
* `storeAircraftSituation`, `storeAircraftParts`, `removeAircraft`: The operations.
* `ProviderAction`, `remoteAircraftProvider`: The provider as a machine.
* `CallsignEntries`, `Stores.entries`: What is kept under one callsign.
* `RemovesCleanly`: What a removal is to leave behind.

## Theorems

* `entries_removeAircraft`: What is left of a callsign.
* `toStores_run`: Runs depend on the stores only.
* `removes_cleanly_iff`: When a removal is clean.
* `removed_aircraft_leaves_change`: One that is not.
-/

namespace NeoSwift.Misc

namespace Simulation

open Aviation Pq

open Fsd (CallsignMap)

/-- `CAircraftSituation::GndElevationInfo`. -/
inductive GndElevationInfo where
  | noElevationInfo | test | situationChange | extrapolated | average | interpolated | fromCache
  | fromProvider
  deriving DecidableEq

/-- `CAircraftModel`, as far as the provider reads it. -/
structure CAircraftModel where
  modelString : QString := []
  cg : CLength := CLength.null
  isVtol : Bool := false

/-- Situations of the type `S`, changes of the type `C` and elevations of the type `E`. -/
structure SituationLibrary (S C E : Type) [TimestampWithOffsetBased S]
    [TimestampWithOffsetBased C] where
  situationSorter : Sorter S
  partsSorter : Sorter CAircraftParts
  sortAdjustedLatestFirst : List C → List C
  getCallsign : S → Callsign
  getCG : S → CLength
  hasVelocity : S → Bool
  hasInboundGroundDetails : S → Bool
  isOnGround : S → Bool
  addMsecs : ℤ → S → S
  withAltitudeOffset : CLength → S → S
  setOnGroundDetailsOf : S → S → S
  transferElevationForward : List S → List S
  adjustGroundFlag : CAircraftParts → List S → List S × ℕ
  elevationIsNull : E → Bool
  setGroundElevationChecked : E → GndElevationInfo → S → S × Bool
  setSituationOfAircraft : Callsign → S → S → S
  /-- From a list, the center of gravity, whether the aircraft is VTOL, whether the
      list is sorted, and whether deviations are calculated. -/
  change : List S → CLength → Bool → Bool → Bool → C
  nullChange : C
  changeIsNull : C → Bool
  changeCallsign : C → Callsign
  guessOnGround : C → CAircraftModel → S → S
  /-- `QChar::isUpper` and `QChar::isDigit`. -/
  isUpper : Char → Bool
  isDigit : Char → Bool
  /-- `Qt::CaseInsensitive`. -/
  foldCase : CaseFolding

/-- `CSimulatedAircraft`, as far as the provider uses it. -/
structure CSimulatedAircraft (S : Type) where
  callsign : Callsign
  situation : S
  currentModel : CAircraftModel := {}
  networkModel : CAircraftModel := {}
  parts : CAircraftParts := {}
  isPartsSynchronized : Bool := false
  isEnabled : Bool := true
  isRendered : Bool := false
  fastPositionUpdates : Bool := false
  relativeBearing : Option ℚ := none
  relativeDistance : CLength := CLength.null

namespace CSimulatedAircraft

variable {S : Type}

/-- The model of the network is set, too. -/
def setCG (cg : CLength) (aircraft : CSimulatedAircraft S) : CSimulatedAircraft S :=
  if cg.isNull then aircraft
  else { aircraft with
    currentModel := { aircraft.currentModel with cg := cg }
    networkModel := { aircraft.networkModel with cg := cg } }

def setModelString (modelString : QString) (aircraft : CSimulatedAircraft S) :
    CSimulatedAircraft S :=
  { aircraft with currentModel := { aircraft.currentModel with modelString := modelString } }

end CSimulatedAircraft

/-- The members that are kept by callsign, and what the operations on them read. -/
@[ext] structure Stores (S C : Type) where
  situationsByCallsign : CallsignMap (List S) := .empty
  latestSituationByCallsign : CallsignMap S := .empty
  latestOnGroundProviderElevation : CallsignMap S := .empty
  partsByCallsign : CallsignMap (List CAircraftParts) := .empty
  changesByCallsign : CallsignMap (List C) := .empty
  aircraftWithParts : CallsignMap Unit := .empty
  aircraftInRange : CallsignMap (CSimulatedAircraft S) := .empty
  aircraftPartsMessages : CallsignMap (List QJsonObject) := .empty
  situationsLastModified : CallsignMap ℤ := .empty
  partsLastModified : CallsignMap ℤ := .empty
  testOffset : CallsignMap CLength := .empty
  dbCGPerCallsign : CallsignMap CLength := .empty
  dbCGPerModelString : QString → Option CLength := fun _ => none
  enableAircraftPartsHistory : Bool := true

/-- The counters are of all aircraft. The messages of reverse lookups are removed by
    `removeReverseLookupMessages`. -/
structure RemoteAircraftProvider (S C : Type) extends Stores S C where
  situationsAdded : ℕ := 0
  partsAdded : ℕ := 0
  enableReverseLookupMsgs : Bool := false
  reverseLookupMessages : CallsignMap (List QString) := .empty

/-- `MaxSituationsPerCallsign`. -/
def maxSituationsPerCallsign : ℤ := 50

/-- `MaxPartsPerCallsign`. -/
def maxPartsPerCallsign : ℤ := 50

/-- `MaxPartsAgePerCallsignSecs`. -/
def maxPartsAgePerCallsignSecs : ℤ := 60

/-- A wildcard for the test offsets. -/
def testAltitudeOffsetCallsign : QString := "ZZZZ"

/-! ## Lists -/

section Lists

variable {S C E : Type} [TimestampWithOffsetBased S] [TimestampWithOffsetBased C]
  (lib : SituationLibrary S C E)

/-- `prefillLatestAdjustedFirst`, where the step is the offset of the value. -/
def prefillLatestAdjustedFirst (value : S) (elements : ℕ) : List S :=
  value :: (List.range (elements - 1)).map
    (fun i => lib.addMsecs (-|getTimeOffsetMs value| * (i + 1)) value)

/-- `push_frontKeepLatestAdjustedFirst`. -/
def pushFrontKeepLatestAdjustedFirst (call : Push C) (c : List C) : List C :=
  if call.replaces c then truncate call.maxElements (call.value :: c.tail)
  else
    let c := if 0 < call.maxElements then c.take (call.maxElements - 1).toNat else c
    if c.head?.any (fun front =>
        getAdjustedMSecsSinceEpoch call.value < getAdjustedMSecsSinceEpoch front) then
      lib.sortAdjustedLatestFirst (call.value :: c)
    else call.value :: c

/-- `removeOutdatedParts`. -/
def removeOutdatedParts (partsList : List CAircraftParts) : List CAircraftParts :=
  match (partsList.map getMSecsSinceEpoch).max? with
  | none => []
  | some latest =>
    partsList.filter (fun parts =>
      ¬getMSecsSinceEpoch parts < latest - maxPartsAgePerCallsignSecs * 1000)

/-- The loop of `setGroundElevationCheckedAndGuessGround`: the situations, how many
    were changed, and whether one on the ground was. The change is that of the latest. -/
def setElevations (elevation : E) (info : GndElevationInfo) (model : CAircraftModel) :
    C → List S → List S × ℕ × Bool
  | _, [] => ([], 0, false)
  | change, s :: situations =>
    let set := lib.setGroundElevationChecked elevation info s
    let s' := if set.2 then lib.guessOnGround change model set.1 else set.1
    let rest := setElevations elevation info model lib.nullChange situations
    (s' :: rest.1, (if set.2 then 1 else 0) + rest.2.1,
      (set.2 && lib.hasInboundGroundDetails s' && lib.isOnGround s') || rest.2.2)

/-- The situations, the change, and how many situations were changed. -/
def setGroundElevationCheckedAndGuessGround (situations : List S) (elevationPlane : E)
    (info : GndElevationInfo) (model : CAircraftModel) : List S × C × ℕ :=
  if lib.elevationIsNull elevationPlane ∨ situations = [] then (situations, lib.nullChange, 0)
  else
    let simpleChange := lib.change situations model.cg model.isVtol true false
    let set := setElevations lib elevationPlane info model simpleChange situations
    (set.1, lib.change set.1 model.cg model.isVtol true true, set.2.1)

/-- `CCallsign::isValidAircraftCallsign`. -/
def isValidAircraftCallsign (callsign : QString) : Bool :=
  2 ≤ callsign.size && callsign.size ≤ 10
    && callsign.all (fun c => lib.isUpper c || lib.isDigit c)

end Lists

/-! ## The operations -/

namespace RemoteAircraftProvider

variable {S C E : Type}

/-- The key of a callsign. -/
def key (callsign : Callsign) : QString := callsign.callsign

/-- An empty callsign is never in range. -/
def isAircraftInRange (p : RemoteAircraftProvider S C) (callsign : Callsign) : Bool :=
  !callsign.isEmpty && p.aircraftInRange.contains (key callsign)

/-- A model without a string if there is none. -/
def getAircraftInRangeModelForCallsign (p : RemoteAircraftProvider S C) (callsign : Callsign) :
    CAircraftModel :=
  ((p.aircraftInRange (key callsign)).map CSimulatedAircraft.currentModel).getD {}

/-- The latest parts first. -/
def remoteAircraftParts (p : RemoteAircraftProvider S C) (callsign : Callsign) :
    List CAircraftParts :=
  (p.partsByCallsign (key callsign)).getD []

/-- The centers of gravity of models stay. -/
def removeAllAircraft (p : RemoteAircraftProvider S C) : RemoteAircraftProvider S C :=
  { p with
    partsByCallsign := .empty
    aircraftWithParts := .empty
    partsAdded := 0
    partsLastModified := .empty
    situationsByCallsign := .empty
    latestSituationByCallsign := .empty
    latestOnGroundProviderElevation := .empty
    situationsAdded := 0
    situationsLastModified := .empty
    testOffset := .empty
    changesByCallsign := .empty
    aircraftPartsMessages := .empty
    reverseLookupMessages := .empty
    aircraftInRange := .empty
    dbCGPerCallsign := .empty }

/-- Whether the aircraft was in range is returned. -/
def removeAircraft (p : RemoteAircraftProvider S C) (callsign : Callsign) :
    RemoteAircraftProvider S C × Bool :=
  let k := key callsign
  ({ p with
      partsByCallsign := p.partsByCallsign.remove k
      aircraftWithParts := p.aircraftWithParts.remove k
      partsLastModified := p.partsLastModified.remove k
      situationsByCallsign := p.situationsByCallsign.remove k
      latestSituationByCallsign := p.latestSituationByCallsign.remove k
      latestOnGroundProviderElevation := p.latestOnGroundProviderElevation.remove k
      situationsLastModified := p.situationsLastModified.remove k
      aircraftPartsMessages := p.aircraftPartsMessages.remove k
      dbCGPerCallsign := p.dbCGPerCallsign.remove k
      aircraftInRange := p.aircraftInRange.remove k },
    p.aircraftInRange.contains k)

/-- Whoever is in range already is not added. -/
def addNewAircraftInRange (p : RemoteAircraftProvider S C) (aircraft : CSimulatedAircraft S) :
    RemoteAircraftProvider S C × Bool :=
  if p.isAircraftInRange aircraft.callsign then (p, false)
  else
    ({ p with aircraftInRange := p.aircraftInRange.insert (key aircraft.callsign) aircraft }, true)

/-- An operation on one aircraft in range. -/
def updateInRange (p : RemoteAircraftProvider S C) (callsign : Callsign)
    (f : CSimulatedAircraft S → CSimulatedAircraft S) : RemoteAircraftProvider S C × Bool :=
  match p.aircraftInRange (key callsign) with
  | none => (p, false)
  | some aircraft =>
    ({ p with aircraftInRange := p.aircraftInRange.insert (key callsign) (f aircraft) }, true)

/-- How many properties changed is returned. -/
def updateAircraftInRange (p : RemoteAircraftProvider S C) (callsign : Callsign)
    (vm : CSimulatedAircraft S → CSimulatedAircraft S × ℕ) : RemoteAircraftProvider S C × ℕ :=
  ((p.updateInRange callsign (fun aircraft => (vm aircraft).1)).1,
    ((p.aircraftInRange (key callsign)).map (fun aircraft => (vm aircraft).2)).getD 0)

/-- Sets situation, distance and bearing of an aircraft in range. -/
def updateAircraftInRangeDistanceBearing [TimestampWithOffsetBased S] [TimestampWithOffsetBased C]
    (lib : SituationLibrary S C E) (p : RemoteAircraftProvider S C) (callsign : Callsign)
    (situation : S) (distance : CLength) (bearing : Option ℚ) : RemoteAircraftProvider S C × Bool :=
  p.updateInRange callsign (fun aircraft =>
    { aircraft with
      situation := lib.setSituationOfAircraft aircraft.callsign aircraft.situation situation
      relativeBearing := bearing.or aircraft.relativeBearing
      relativeDistance := if distance.isNull then aircraft.relativeDistance else distance })

/-- A flag is set, and whether it was another before is returned. -/
def setFlag (p : RemoteAircraftProvider S C) (callsign : Callsign)
    (get : CSimulatedAircraft S → Bool) (set : Bool → CSimulatedAircraft S → CSimulatedAircraft S)
    (flag : Bool) : RemoteAircraftProvider S C × Bool :=
  ((p.updateInRange callsign (set flag)).1,
    (p.aircraftInRange (key callsign)).any (fun aircraft => get aircraft != flag))

def setAircraftEnabledFlag (p : RemoteAircraftProvider S C) (callsign : Callsign)
    (enabledForRendering : Bool) : RemoteAircraftProvider S C × Bool :=
  p.setFlag callsign CSimulatedAircraft.isEnabled (fun b a => { a with isEnabled := b })
    enabledForRendering

def updateFastPositionEnabled (p : RemoteAircraftProvider S C) (callsign : Callsign)
    (enableFastPositonUpdates : Bool) : RemoteAircraftProvider S C × Bool :=
  p.setFlag callsign CSimulatedAircraft.fastPositionUpdates
    (fun b a => { a with fastPositionUpdates := b }) enableFastPositonUpdates

def updateAircraftRendered (p : RemoteAircraftProvider S C) (callsign : Callsign)
    (rendered : Bool) : RemoteAircraftProvider S C × Bool :=
  p.setFlag callsign CSimulatedAircraft.isRendered (fun b a => { a with isRendered := b }) rendered

/-- One flag after the other, and how many were set. -/
def setFlags (set : RemoteAircraftProvider S C → Callsign → RemoteAircraftProvider S C × Bool) :
    List Callsign → RemoteAircraftProvider S C → RemoteAircraftProvider S C × ℕ
  | [], p => (p, 0)
  | cs :: callsigns, p =>
    let first := set p cs
    let rest := setFlags set callsigns first.1
    (rest.1, (if first.2 then 1 else 0) + rest.2)

def updateMultipleAircraftEnabled (p : RemoteAircraftProvider S C) (callsigns : List Callsign)
    (enabledForRendering : Bool) : RemoteAircraftProvider S C × ℕ :=
  setFlags (fun p cs => p.setAircraftEnabledFlag cs enabledForRendering) callsigns p

def updateMultipleAircraftRendered (p : RemoteAircraftProvider S C) (callsigns : List Callsign)
    (rendered : Bool) : RemoteAircraftProvider S C × ℕ :=
  setFlags (fun p cs => p.updateAircraftRendered cs rendered) callsigns p

/-- Nobody is rendered. -/
def updateMarkAllAsNotRendered (p : RemoteAircraftProvider S C) : RemoteAircraftProvider S C :=
  { p with aircraftInRange := fun k =>
      (p.aircraftInRange k).map (fun aircraft => { aircraft with isRendered := false }) }

/-- `updateAircraftModel` and `updateAircraftNetworkModel`, for a model set by somebody
    else. The number of changes is the one the property map finds. -/
def updateAircraftModel (p : RemoteAircraftProvider S C) (callsign : Callsign)
    (vm : CSimulatedAircraft S → CSimulatedAircraft S × ℕ) (isMyIdentifier : Bool) :
    RemoteAircraftProvider S C × Bool :=
  if isMyIdentifier then (p, false)
  else ((p.updateAircraftInRange callsign vm).1, 0 < (p.updateAircraftInRange callsign vm).2)

/-- Of an aircraft in range. -/
def updateCG (p : RemoteAircraftProvider S C) (callsign : Callsign) (cg : CLength) :
    RemoteAircraftProvider S C × Bool :=
  p.updateInRange callsign (CSimulatedAircraft.setCG cg)

/-- Sets the model string and the centre of gravity of an aircraft in range. -/
def updateCGAndModelString (p : RemoteAircraftProvider S C) (callsign : Callsign) (cg : CLength)
    (modelString : QString) : RemoteAircraftProvider S C × Bool :=
  p.updateInRange callsign (fun aircraft =>
    let aircraft := if cg.isNull then aircraft else aircraft.setCG cg
    if modelString = [] then aircraft else aircraft.setModelString modelString)

/-- Model strings are compared without case. -/
def updateCGForModel (foldCase : CaseFolding) (p : RemoteAircraftProvider S C)
    (modelString : QString) (cg : CLength) : RemoteAircraftProvider S C :=
  if modelString = [] then p
  else { p with aircraftInRange := fun k =>
      (p.aircraftInRange k).map (fun aircraft =>
        if aircraft.currentModel.modelString.map foldCase.fold = modelString.map foldCase.fold then
          aircraft.setCG cg
        else aircraft) }

/-- The centre of gravity of a callsign, from the database. -/
def rememberCGFromDB (p : RemoteAircraftProvider S C) (cgFromDB : CLength) (callsign : Callsign) :
    RemoteAircraftProvider S C :=
  { p with dbCGPerCallsign := p.dbCGPerCallsign.insert (key callsign) cgFromDB }

/-- The centre of gravity of a model, from the database. -/
def rememberCGFromDBForModel (p : RemoteAircraftProvider S C) (cgFromDB : CLength)
    (modelString : QString) : RemoteAircraftProvider S C :=
  { p with dbCGPerModelString := Function.update p.dbCGPerModelString modelString (some cgFromDB) }

/-- An offset of zero removes the one there is. -/
def testAddAltitudeOffset (p : RemoteAircraftProvider S C) (callsign : Callsign)
    (offset : CLength) : RemoteAircraftProvider S C × Bool :=
  if offset.isNull ∨ offset.isZeroEpsilonConsidered then
    ({ p with testOffset := p.testOffset.remove (key callsign) }, false)
  else ({ p with testOffset := p.testOffset.insert (key callsign) offset }, true)

def enablePartsHistory (p : RemoteAircraftProvider S C) (enabled : Bool) :
    RemoteAircraftProvider S C :=
  { p with enableAircraftPartsHistory := enabled }

def enableReverseLookupMessages (p : RemoteAircraftProvider S C) (enable : Bool) :
    RemoteAircraftProvider S C :=
  { p with enableReverseLookupMsgs := enable }

/-- Nothing is kept while they are disabled. -/
def addReverseLookupMessages (p : RemoteAircraftProvider S C) (callsign : Callsign)
    (messages : List QString) : RemoteAircraftProvider S C :=
  if callsign.isEmpty ∨ messages = [] ∨ ¬p.enableReverseLookupMsgs then p
  else
    { p with
      reverseLookupMessages := p.reverseLookupMessages.insert (key callsign)
        ((p.reverseLookupMessages (key callsign)).getD [] ++ messages) }

/-- Forgets the messages of a callsign. -/
def removeReverseLookupMessages (p : RemoteAircraftProvider S C) (callsign : Callsign) :
    RemoteAircraftProvider S C :=
  { p with reverseLookupMessages := p.reverseLookupMessages.remove (key callsign) }

section Situations

variable [TimestampWithOffsetBased S] [TimestampWithOffsetBased C] (lib : SituationLibrary S C E)
variable (p : RemoteAircraftProvider S C)

/-- The offset of the callsign, or the one of all callsigns. -/
def addTestAltitudeOffsetToSituation (situation : S) : S :=
  let cs := lib.getCallsign situation
  let own := if cs.isEmpty then none else p.testOffset (key cs)
  if own = none ∧ p.testOffset testAltitudeOffsetCallsign = none then situation
  else
    let os := ((p.testOffset (key cs)).or (p.testOffset testAltitudeOffsetCallsign)).getD
      CLength.null
    if os.isNull ∨ os.isZeroEpsilonConsidered then situation
    else lib.withAltitudeOffset os situation

/-- Under the callsign of the change, the latest first. -/
def storeChange (change : C) : RemoteAircraftProvider S C :=
  let k := key (lib.changeCallsign change)
  { p with
    changesByCallsign := p.changesByCallsign.insert k
      (pushFrontKeepLatestAdjustedFirst lib
        { value := change, maxElements := maxSituationsPerCallsign }
        ((p.changesByCallsign k).getD [])) }

/-- The list with a situation of the callsign in it. -/
def updatedSituations (situation situationCorrected : S) (situations : List S) : List S :=
  if situations = [] then
    prefillLatestAdjustedFirst lib situationCorrected maxSituationsPerCallsign.toNat
  else
    let pushed := lib.transferElevationForward
      (pushFrontKeepLatestFirstAdjustOffset lib.situationSorter
        { value := situationCorrected, maxElements := maxSituationsPerCallsign } situations)
    if lib.hasInboundGroundDetails situation then
      pushed.map (lib.setOnGroundDetailsOf situation)
    else pushed

/-- The ground is guessed for the front situation, with a change that is calculated
    from no situations. -/
def guessFront (situation situationCorrected : S) (model : CAircraftModel) (situations : List S) :
    List S :=
  if lib.hasInboundGroundDetails situation then situations
  else
    let simpleChange := lib.change [] (lib.getCG situationCorrected) model.isVtol true false
    match situations with
    | [] => []
    | front :: rest => lib.guessOnGround simpleChange model front :: rest

/-- The center of gravity a situation comes with goes to the aircraft. -/
def updateCGFromSituation (situation : S) : RemoteAircraftProvider S C :=
  let cs := lib.getCallsign situation
  let cg := lib.getCG situation
  if ¬cg.isNull ∧ ¬(p.getAircraftInRangeModelForCallsign cs).cg.equals cg then (p.updateCG cs cg).1
  else p

/-- The list of situations and the change. A situation without velocity is dropped
    behind one that has a velocity. -/
def insertSituation (situation situationCorrected : S) (aircraftModel : CAircraftModel)
    (now : ℤ) : RemoteAircraftProvider S C :=
  let k := key (lib.getCallsign situation)
  let p := { p with
    situationsAdded := p.situationsAdded + 1
    situationsLastModified := p.situationsLastModified.insert k now }
  let situations := (p.situationsByCallsign k).getD []
  if ¬lib.hasVelocity situationCorrected ∧ situations.head?.any lib.hasVelocity then p
  else
    let updated := guessFront lib situation situationCorrected aircraftModel
      (updatedSituations lib situation situationCorrected situations)
    let p := { p with
      situationsByCallsign := p.situationsByCallsign.insert k updated
      latestSituationByCallsign := p.latestSituationByCallsign.insert k situationCorrected }
    p.storeChange lib
      (lib.change updated (lib.getCG situationCorrected) aircraftModel.isVtol true true)

/-- The situation with its offset is returned. -/
def storeAircraftSituation (situation : S) (allowTestAltitudeOffset : Bool) (now : ℤ) :
    RemoteAircraftProvider S C × S :=
  let cs := lib.getCallsign situation
  if cs.isEmpty then (p, situation)
  else
    let situationCorrected :=
      if allowTestAltitudeOffset then p.addTestAltitudeOffsetToSituation lib situation
        else situation
    let aircraftModel := p.getAircraftInRangeModelForCallsign cs
    ((p.updateCGFromSituation lib situation).insertSituation lib situation situationCorrected
      aircraftModel now, situationCorrected)

/-- The list of parts. -/
def insertParts (callsign : Callsign) (parts : CAircraftParts) (removeOutdated : Bool)
    (ts : ℤ) : RemoteAircraftProvider S C :=
  let pushed := pushFrontKeepLatestFirstAdjustOffset lib.partsSorter
    { value := parts, maxElements := maxPartsPerCallsign } (p.remoteAircraftParts callsign)
  { p with
    partsAdded := p.partsAdded + 1
    partsLastModified := p.partsLastModified.insert (key callsign) ts
    partsByCallsign := p.partsByCallsign.insert (key callsign)
      (if removeOutdated then removeOutdatedParts pushed else pushed) }

/-- The ground flag of the situations is that of the parts. The list of situations is
    created where there is none. -/
def adjustGroundFlagOfSituations (callsign : Callsign) (parts : CAircraftParts) (ts : ℤ) :
    RemoteAircraftProvider S C :=
  let k := key callsign
  let adjusted := lib.adjustGroundFlag parts ((p.situationsByCallsign k).getD [])
  if p.remoteAircraftParts callsign = [] then p
  else
    { p with
      situationsByCallsign := p.situationsByCallsign.insert k adjusted.1
      situationsLastModified :=
        if 0 < adjusted.2 then p.situationsLastModified.insert k ts else p.situationsLastModified }

/-- An empty callsign is ignored. -/
def storeAircraftParts (callsign : Callsign) (parts : CAircraftParts)
    (removeOutdated : Bool) (ts : ℤ) : RemoteAircraftProvider S C :=
  if callsign.isEmpty then p
  else
    let p := p.insertParts lib callsign parts removeOutdated ts
    let p := p.adjustGroundFlagOfSituations lib callsign parts ts
    let p := (p.updateInRange callsign (fun aircraft =>
      { aircraft with parts := parts, isPartsSynchronized := true })).1
    { p with aircraftWithParts := p.aircraftWithParts.insert (key callsign) () }

/-- The history of parts messages. -/
def rememberPartsMessage (callsign : Callsign) (jsonObject : QJsonObject) :
    RemoteAircraftProvider S C :=
  if p.enableAircraftPartsHistory then
    { p with
      aircraftPartsMessages := p.aircraftPartsMessages.insert (key callsign)
        ((p.aircraftPartsMessages (key callsign)).getD [] ++ [jsonObject]) }
  else p

/-- Full or incremental parts of an aircraft in range. An incremental object is
    dropped until a full one came. -/
def storeAircraftPartsJson (callsign : Callsign) (jsonObject : QJsonObject)
    (currentOffsetMs now : ℤ) : RemoteAircraftProvider S C :=
  match p.aircraftInRange (key callsign) with
  | none => p
  | some remoteAircraft =>
    let isFull := ((jsonObject.value CAircraftParts.attributeNameIsFullJson).map
      QJsonValue.toBool).getD false
    if ¬isValidAircraftCallsign lib remoteAircraft.callsign.callsign then p
    else if ¬remoteAircraft.isPartsSynchronized ∧ ¬isFull then p
    else
      let read :=
        if isFull then ({} : CAircraftParts).convertFromJson jsonObject
        else ((p.remoteAircraftParts callsign).head?.getD {}).applyIncrement jsonObject
      let parts := { read with
        timestampMSecsSinceEpoch := now
        timeOffsetMs := currentOffsetMs
        partsDetails := .fsdAircraftParts }
      (p.storeAircraftParts lib callsign parts false now).rememberPartsMessage callsign jsonObject

/-- The situations after their elevations were set. -/
def setSituationElevations (callsign : Callsign) (info : GndElevationInfo)
    (situations : List S) (now : ℤ) : RemoteAircraftProvider S C :=
  let k := key callsign
  { p with
    situationsLastModified := p.situationsLastModified.insert k now
    latestOnGroundProviderElevation :=
      match situations with
      | latestSituation :: _ =>
        if info = GndElevationInfo.fromProvider ∧ lib.isOnGround latestSituation then
          p.latestOnGroundProviderElevation.insert k latestSituation
        else p.latestOnGroundProviderElevation
      | [] => p.latestOnGroundProviderElevation }

/-- How many situations were updated is returned. -/
def updateAircraftGroundElevation (callsign : Callsign) (elevation : E)
    (info : GndElevationInfo) (now : ℤ) : RemoteAircraftProvider S C × ℕ :=
  if ¬p.isAircraftInRange callsign then (p, 0)
  else
    let k := key callsign
    let set := setGroundElevationCheckedAndGuessGround lib
      ((p.situationsByCallsign k).getD []) elevation info
      (p.getAircraftInRangeModelForCallsign callsign)
    -- The list of situations is created where there is none.
    let p := { p with situationsByCallsign := p.situationsByCallsign.insert k set.1 }
    if set.2.2 < 1 then (p, 0)
    else
      let p := p.setSituationElevations lib callsign info set.1 now
      let p := if lib.changeIsNull set.2.1 then p else p.storeChange lib set.2.1
      ((p.updateInRange callsign (fun aircraft =>
        { aircraft with
          situation := (lib.setGroundElevationChecked elevation info aircraft.situation).1 })).1,
        set.2.2)

end Situations

end RemoteAircraftProvider

/-- What happens to the provider. Multiple flags are set callsign by callsign. -/
inductive ProviderAction (S C E : Type) where
  | removeAllAircraft
  | removeAircraft (callsign : Callsign)
  | addNewAircraftInRange (aircraft : CSimulatedAircraft S)
  | updateAircraftInRange (callsign : Callsign)
      (vm : CSimulatedAircraft S → CSimulatedAircraft S × ℕ)
  | updateAircraftModel (callsign : Callsign)
      (vm : CSimulatedAircraft S → CSimulatedAircraft S × ℕ) (isMyIdentifier : Bool)
  | updateAircraftInRangeDistanceBearing (callsign : Callsign) (situation : S)
      (distance : CLength) (bearing : Option ℚ)
  | storeAircraftSituation (situation : S) (allowTestAltitudeOffset : Bool) (now : ℤ)
  | storeAircraftParts (callsign : Callsign) (parts : CAircraftParts) (removeOutdated : Bool)
      (ts : ℤ)
  | storeAircraftPartsJson (callsign : Callsign) (jsonObject : QJsonObject)
      (currentOffsetMs now : ℤ)
  | updateMultipleAircraftEnabled (callsigns : List Callsign) (enabledForRendering : Bool)
  | updateMultipleAircraftRendered (callsigns : List Callsign) (rendered : Bool)
  | updateFastPositionEnabled (callsign : Callsign) (enableFastPositonUpdates : Bool)
  | updateMarkAllAsNotRendered
  | updateAircraftGroundElevation (callsign : Callsign) (elevation : E) (info : GndElevationInfo)
      (now : ℤ)
  | updateCG (callsign : Callsign) (cg : CLength)
  | updateCGAndModelString (callsign : Callsign) (cg : CLength) (modelString : QString)
  | updateCGForModel (modelString : QString) (cg : CLength)
  | rememberCGFromDB (cgFromDB : CLength) (callsign : Callsign)
  | rememberCGFromDBForModel (cgFromDB : CLength) (modelString : QString)
  | testAddAltitudeOffset (callsign : Callsign) (offset : CLength)
  | enablePartsHistory (enabled : Bool)
  | enableReverseLookupMessages (enable : Bool)
  | addReverseLookupMessages (callsign : Callsign) (messages : List QString)
  | removeReverseLookupMessages (callsign : Callsign)

section Machine

variable {S C E : Type} [TimestampWithOffsetBased S] [TimestampWithOffsetBased C]
  (lib : SituationLibrary S C E)

/-- One operation. -/
def RemoteAircraftProvider.step (p : RemoteAircraftProvider S C) :
    ProviderAction S C E → RemoteAircraftProvider S C
  | .removeAllAircraft => p.removeAllAircraft
  | .removeAircraft callsign => (p.removeAircraft callsign).1
  | .addNewAircraftInRange aircraft => (p.addNewAircraftInRange aircraft).1
  | .updateAircraftInRange callsign vm => (p.updateAircraftInRange callsign vm).1
  | .updateAircraftModel callsign vm isMyIdentifier =>
    (p.updateAircraftModel callsign vm isMyIdentifier).1
  | .updateAircraftInRangeDistanceBearing callsign situation distance bearing =>
    (p.updateAircraftInRangeDistanceBearing lib callsign situation distance bearing).1
  | .storeAircraftSituation situation allowTestAltitudeOffset now =>
    (p.storeAircraftSituation lib situation allowTestAltitudeOffset now).1
  | .storeAircraftParts callsign parts removeOutdated ts =>
    p.storeAircraftParts lib callsign parts removeOutdated ts
  | .storeAircraftPartsJson callsign jsonObject currentOffsetMs now =>
    p.storeAircraftPartsJson lib callsign jsonObject currentOffsetMs now
  | .updateMultipleAircraftEnabled callsigns enabledForRendering =>
    (p.updateMultipleAircraftEnabled callsigns enabledForRendering).1
  | .updateMultipleAircraftRendered callsigns rendered =>
    (p.updateMultipleAircraftRendered callsigns rendered).1
  | .updateFastPositionEnabled callsign enableFastPositonUpdates =>
    (p.updateFastPositionEnabled callsign enableFastPositonUpdates).1
  | .updateMarkAllAsNotRendered => p.updateMarkAllAsNotRendered
  | .updateAircraftGroundElevation callsign elevation info now =>
    (p.updateAircraftGroundElevation lib callsign elevation info now).1
  | .updateCG callsign cg => (p.updateCG callsign cg).1
  | .updateCGAndModelString callsign cg modelString =>
    (p.updateCGAndModelString callsign cg modelString).1
  | .updateCGForModel modelString cg => p.updateCGForModel lib.foldCase modelString cg
  | .rememberCGFromDB cgFromDB callsign => p.rememberCGFromDB cgFromDB callsign
  | .rememberCGFromDBForModel cgFromDB modelString =>
    p.rememberCGFromDBForModel cgFromDB modelString
  | .testAddAltitudeOffset callsign offset => (p.testAddAltitudeOffset callsign offset).1
  | .enablePartsHistory enabled => p.enablePartsHistory enabled
  | .enableReverseLookupMessages enable => p.enableReverseLookupMessages enable
  | .addReverseLookupMessages callsign messages => p.addReverseLookupMessages callsign messages
  | .removeReverseLookupMessages callsign => p.removeReverseLookupMessages callsign

/-- It emits nothing here. -/
def remoteAircraftProvider :
    Machine (RemoteAircraftProvider S C) (ProviderAction S C E) Empty where
  step p action := (p.step lib action, [])

end Machine

/-! ## Runs depend on the stores only -/

namespace RemoteAircraftProvider

variable {S C E : Type} {p q : RemoteAircraftProvider S C}

theorem getAircraftInRangeModelForCallsign_congr (h : p.toStores = q.toStores)
    (callsign : Callsign) :
    p.getAircraftInRangeModelForCallsign callsign =
      q.getAircraftInRangeModelForCallsign callsign := by
  unfold getAircraftInRangeModelForCallsign
  rw [h]

theorem remoteAircraftParts_congr (h : p.toStores = q.toStores) (callsign : Callsign) :
    p.remoteAircraftParts callsign = q.remoteAircraftParts callsign := by
  unfold remoteAircraftParts
  rw [h]

theorem toStores_updateInRange (h : p.toStores = q.toStores) (callsign : Callsign)
    (f : CSimulatedAircraft S → CSimulatedAircraft S) :
    (p.updateInRange callsign f).1.toStores = (q.updateInRange callsign f).1.toStores := by
  rcases p with ⟨stores, _, _, _, _⟩
  rcases q with ⟨stores', _, _, _, _⟩
  obtain rfl : stores = stores' := h
  unfold updateInRange
  cases stores.aircraftInRange (key callsign) <;> rfl

theorem toStores_setFlags
    (set : RemoteAircraftProvider S C → Callsign → RemoteAircraftProvider S C × Bool)
    (hset : ∀ {p q : RemoteAircraftProvider S C} (cs : Callsign), p.toStores = q.toStores →
      (set p cs).1.toStores = (set q cs).1.toStores) (callsigns : List Callsign)
    (h : p.toStores = q.toStores) :
    (setFlags set callsigns p).1.toStores = (setFlags set callsigns q).1.toStores := by
  induction callsigns generalizing p q with
  | nil => exact h
  | cons cs callsigns ih => exact ih (hset cs h)

section Situations

variable [TimestampWithOffsetBased S] [TimestampWithOffsetBased C] (lib : SituationLibrary S C E)

theorem toStores_storeChange (h : p.toStores = q.toStores) (change : C) :
    (p.storeChange lib change).toStores = (q.storeChange lib change).toStores := by
  rcases p with ⟨stores, _, _, _, _⟩
  rcases q with ⟨stores', _, _, _, _⟩
  obtain rfl : stores = stores' := h
  rfl

theorem toStores_updateCGFromSituation (h : p.toStores = q.toStores) (situation : S) :
    (p.updateCGFromSituation lib situation).toStores
      = (q.updateCGFromSituation lib situation).toStores := by
  have hmodel : p.getAircraftInRangeModelForCallsign (lib.getCallsign situation)
      = q.getAircraftInRangeModelForCallsign (lib.getCallsign situation) :=
    getAircraftInRangeModelForCallsign_congr h _
  unfold updateCGFromSituation
  dsimp only
  rw [hmodel]
  split
  · exact toStores_updateInRange h _ _
  · exact h

theorem toStores_insertSituation (h : p.toStores = q.toStores) (situation corrected : S)
    (model : CAircraftModel) (now : ℤ) :
    (p.insertSituation lib situation corrected model now).toStores
      = (q.insertSituation lib situation corrected model now).toStores := by
  rcases p with ⟨stores, _, _, _, _⟩
  rcases q with ⟨stores', _, _, _, _⟩
  obtain rfl : stores = stores' := h
  unfold insertSituation
  dsimp only
  split
  · rfl
  · exact toStores_storeChange lib rfl _

theorem toStores_storeAircraftSituation (h : p.toStores = q.toStores) (situation : S)
    (allowTestAltitudeOffset : Bool) (now : ℤ) :
    (p.storeAircraftSituation lib situation allowTestAltitudeOffset now).1.toStores
      = (q.storeAircraftSituation lib situation allowTestAltitudeOffset now).1.toStores := by
  have hoffset : p.addTestAltitudeOffsetToSituation lib situation
      = q.addTestAltitudeOffsetToSituation lib situation := by
    unfold addTestAltitudeOffsetToSituation
    rw [h]
  have hmodel : p.getAircraftInRangeModelForCallsign (lib.getCallsign situation)
      = q.getAircraftInRangeModelForCallsign (lib.getCallsign situation) :=
    getAircraftInRangeModelForCallsign_congr h _
  unfold storeAircraftSituation
  dsimp only
  rw [hoffset, hmodel]
  split
  · exact h
  · exact toStores_insertSituation lib (toStores_updateCGFromSituation lib h situation) _ _ _ _

theorem toStores_adjustGroundFlagOfSituations (h : p.toStores = q.toStores) (callsign : Callsign)
    (parts : CAircraftParts) (ts : ℤ) :
    (p.adjustGroundFlagOfSituations lib callsign parts ts).toStores
      = (q.adjustGroundFlagOfSituations lib callsign parts ts).toStores := by
  have hparts := remoteAircraftParts_congr h callsign
  unfold adjustGroundFlagOfSituations
  rw [hparts]
  split
  · exact h
  · rw [h]

theorem toStores_storeAircraftParts (h : p.toStores = q.toStores) (callsign : Callsign)
    (parts : CAircraftParts) (removeOutdated : Bool) (ts : ℤ) :
    (p.storeAircraftParts lib callsign parts removeOutdated ts).toStores
      = (q.storeAircraftParts lib callsign parts removeOutdated ts).toStores := by
  have hinsert : (p.insertParts lib callsign parts removeOutdated ts).toStores
      = (q.insertParts lib callsign parts removeOutdated ts).toStores := by
    unfold insertParts
    rw [remoteAircraftParts_congr h callsign, h]
  unfold storeAircraftParts
  split
  · exact h
  · have hrange := toStores_updateInRange
      (toStores_adjustGroundFlagOfSituations lib hinsert callsign parts ts) callsign
      (fun aircraft => { aircraft with parts := parts, isPartsSynchronized := true })
    dsimp only
    rw [hrange]

theorem toStores_storeAircraftPartsJson (h : p.toStores = q.toStores) (callsign : Callsign)
    (jsonObject : QJsonObject) (currentOffsetMs now : ℤ) :
    (p.storeAircraftPartsJson lib callsign jsonObject currentOffsetMs now).toStores
      = (q.storeAircraftPartsJson lib callsign jsonObject currentOffsetMs now).toStores := by
  have hmessage : ∀ {p q : RemoteAircraftProvider S C}, p.toStores = q.toStores →
      (p.rememberPartsMessage callsign jsonObject).toStores
        = (q.rememberPartsMessage callsign jsonObject).toStores := by
    intro p q hpq
    unfold rememberPartsMessage
    rw [hpq]
    split
    · rfl
    · exact hpq
  unfold storeAircraftPartsJson
  dsimp only
  -- Whether the message is stored is asked of the stores alone.
  rw [remoteAircraftParts_congr h callsign, h]
  split
  · exact h
  · split
    · exact h
    · split
      · exact h
      · exact hmessage (toStores_storeAircraftParts lib h _ _ _ _)

theorem toStores_updateAircraftGroundElevation (h : p.toStores = q.toStores)
    (callsign : Callsign) (elevation : E) (info : GndElevationInfo) (now : ℤ) :
    (p.updateAircraftGroundElevation lib callsign elevation info now).1.toStores
      = (q.updateAircraftGroundElevation lib callsign elevation info now).1.toStores := by
  have hrange : p.isAircraftInRange callsign = q.isAircraftInRange callsign := by
    unfold isAircraftInRange
    rw [h]
  unfold updateAircraftGroundElevation
  dsimp only
  rw [hrange, getAircraftInRangeModelForCallsign_congr h callsign, h]
  split
  · exact h
  · split
    · rfl
    · refine toStores_updateInRange ?_ _ _
      split
      · rfl
      · exact toStores_storeChange lib rfl _

/-- What an action does to the stores does not depend on anything else. -/
theorem toStores_step (h : p.toStores = q.toStores) (action : ProviderAction S C E) :
    (p.step lib action).toStores = (q.step lib action).toStores := by
  -- Every store that is changed is changed by what the stores have.
  cases action with
  | updateAircraftInRange callsign vm => exact toStores_updateInRange h _ _
  | updateAircraftModel callsign vm isMyIdentifier =>
      cases isMyIdentifier with
      | true => exact h
      | false => exact toStores_updateInRange h _ _
  | updateAircraftInRangeDistanceBearing callsign situation distance bearing =>
      exact toStores_updateInRange h _ _
  | storeAircraftSituation situation allow now =>
      exact toStores_storeAircraftSituation lib h situation allow now
  | storeAircraftParts callsign parts removeOutdated ts =>
      exact toStores_storeAircraftParts lib h callsign parts removeOutdated ts
  | storeAircraftPartsJson callsign jsonObject offset now =>
      exact toStores_storeAircraftPartsJson lib h callsign jsonObject offset now
  | updateMultipleAircraftEnabled callsigns enabled =>
      exact toStores_setFlags (fun p cs => p.setAircraftEnabledFlag cs enabled)
        (fun cs hpq => toStores_updateInRange hpq cs _) callsigns h
  | updateMultipleAircraftRendered callsigns rendered =>
      exact toStores_setFlags (fun p cs => p.updateAircraftRendered cs rendered)
        (fun cs hpq => toStores_updateInRange hpq cs _) callsigns h
  | updateFastPositionEnabled callsign enabled => exact toStores_updateInRange h _ _
  | updateAircraftGroundElevation callsign elevation info now =>
      exact toStores_updateAircraftGroundElevation lib h callsign elevation info now
  | updateCG callsign cg => exact toStores_updateInRange h _ _
  | updateCGAndModelString callsign cg modelString => exact toStores_updateInRange h _ _
  | addNewAircraftInRange aircraft =>
      change (p.addNewAircraftInRange aircraft).1.toStores
        = (q.addNewAircraftInRange aircraft).1.toStores
      unfold addNewAircraftInRange isAircraftInRange
      rw [h]
      split
      · exact h
      · rfl
  | updateCGForModel modelString cg =>
      change (p.updateCGForModel lib.foldCase modelString cg).toStores
        = (q.updateCGForModel lib.foldCase modelString cg).toStores
      unfold updateCGForModel
      split
      · exact h
      · rw [h]
  | testAddAltitudeOffset callsign offset =>
      change (p.testAddAltitudeOffset callsign offset).1.toStores
        = (q.testAddAltitudeOffset callsign offset).1.toStores
      unfold testAddAltitudeOffset
      split
      · rw [h]
      · rw [h]
  | addReverseLookupMessages callsign messages =>
      change (p.addReverseLookupMessages callsign messages).toStores
        = (q.addReverseLookupMessages callsign messages).toStores
      have hkept : ∀ p : RemoteAircraftProvider S C,
          (p.addReverseLookupMessages callsign messages).toStores = p.toStores := by
        intro p
        unfold addReverseLookupMessages
        split <;> rfl
      rw [hkept, hkept, h]
  | _ =>
      rcases p with ⟨stores, _, _, _, _⟩
      rcases q with ⟨stores', _, _, _, _⟩
      obtain rfl : stores = stores' := h
      rfl

/-- Neither do runs. -/
theorem toStores_run (h : p.toStores = q.toStores) (actions : List (ProviderAction S C E)) :
    ((remoteAircraftProvider lib).run p actions).1.toStores
      = ((remoteAircraftProvider lib).run q actions).1.toStores := by
  have hrun := (remoteAircraftProvider lib).run_simulates (remoteAircraftProvider lib)
    (fun p q => p.toStores = q.toStores) id
    (fun p q action hpq => ⟨toStores_step lib hpq action, rfl⟩) actions p q h
  rw [List.map_id] at hrun
  exact hrun.1

end Situations

end RemoteAircraftProvider

/-! ## Removal -/

/-- What the provider keeps under one callsign. -/
structure CallsignEntries (S C : Type) where
  situations : Option (List S) := none
  latestSituation : Option S := none
  latestOnGroundProviderElevation : Option S := none
  parts : Option (List CAircraftParts) := none
  changes : Option (List C) := none
  withParts : Option Unit := none
  aircraft : Option (CSimulatedAircraft S) := none
  partsMessages : Option (List QJsonObject) := none
  situationsLastModified : Option ℤ := none
  partsLastModified : Option ℤ := none
  testOffset : Option CLength := none
  dbCG : Option CLength := none

namespace Stores

variable {S C : Type}

/-- All that is stored for a callsign. -/
def entries (stores : Stores S C) (k : QString) : CallsignEntries S C where
  situations := stores.situationsByCallsign k
  latestSituation := stores.latestSituationByCallsign k
  latestOnGroundProviderElevation := stores.latestOnGroundProviderElevation k
  parts := stores.partsByCallsign k
  changes := stores.changesByCallsign k
  withParts := stores.aircraftWithParts k
  aircraft := stores.aircraftInRange k
  partsMessages := stores.aircraftPartsMessages k
  situationsLastModified := stores.situationsLastModified k
  partsLastModified := stores.partsLastModified k
  testOffset := stores.testOffset k
  dbCG := stores.dbCGPerCallsign k

/-- Nothing is kept under the callsign. -/
def Forgot (stores : Stores S C) (callsign : Callsign) : Prop :=
  stores.entries callsign.callsign = {}

/-- Everything besides the entries of the callsign is the same. -/
structure SameForOthers (callsign : Callsign) (stores stores' : Stores S C) : Prop where
  entries : ∀ k, k ≠ callsign.callsign → stores'.entries k = stores.entries k
  dbCGPerModelString : stores'.dbCGPerModelString = stores.dbCGPerModelString
  enableAircraftPartsHistory : stores'.enableAircraftPartsHistory =
    stores.enableAircraftPartsHistory

/-- Stores are their entries. -/
theorem ext_entries {stores stores' : Stores S C}
    (hentries : ∀ k, stores.entries k = stores'.entries k)
    (hmodel : stores.dbCGPerModelString = stores'.dbCGPerModelString)
    (hhistory : stores.enableAircraftPartsHistory = stores'.enableAircraftPartsHistory) :
    stores = stores' := by
  apply Stores.ext
  · exact funext fun k => congrArg CallsignEntries.situations (hentries k)
  · exact funext fun k => congrArg CallsignEntries.latestSituation (hentries k)
  · exact funext fun k => congrArg CallsignEntries.latestOnGroundProviderElevation (hentries k)
  · exact funext fun k => congrArg CallsignEntries.parts (hentries k)
  · exact funext fun k => congrArg CallsignEntries.changes (hentries k)
  · exact funext fun k => congrArg CallsignEntries.withParts (hentries k)
  · exact funext fun k => congrArg CallsignEntries.aircraft (hentries k)
  · exact funext fun k => congrArg CallsignEntries.partsMessages (hentries k)
  · exact funext fun k => congrArg CallsignEntries.situationsLastModified (hentries k)
  · exact funext fun k => congrArg CallsignEntries.partsLastModified (hentries k)
  · exact funext fun k => congrArg CallsignEntries.testOffset (hentries k)
  · exact funext fun k => congrArg CallsignEntries.dbCG (hentries k)
  · exact hmodel
  · exact hhistory

end Stores

namespace RemoteAircraftProvider

variable {S C E : Type}

/-- What a removal is to leave behind: nothing under the callsign, everything else as it
    was, and from then on the stores of a provider that never knew the callsign. -/
def RemovesCleanly [TimestampWithOffsetBased S] [TimestampWithOffsetBased C]
    (lib : SituationLibrary S C E) (p : RemoteAircraftProvider S C) (callsign : Callsign) : Prop :=
  (p.removeAircraft callsign).1.Forgot callsign ∧
    Stores.SameForOthers callsign p.toStores (p.removeAircraft callsign).1.toStores ∧
    ∀ fresh : RemoteAircraftProvider S C, fresh.Forgot callsign →
      Stores.SameForOthers callsign p.toStores fresh.toStores →
        ∀ later, ((remoteAircraftProvider lib).run (p.removeAircraft callsign).1 later).1.toStores
          = ((remoteAircraftProvider lib).run fresh later).1.toStores

/-- The changes and the test offset stay. -/
theorem entries_removeAircraft (p : RemoteAircraftProvider S C) (callsign : Callsign) :
    (p.removeAircraft callsign).1.entries callsign.callsign
      = { changes := p.changesByCallsign callsign.callsign
          testOffset := p.testOffset callsign.callsign } := by
  unfold removeAircraft Stores.entries key
  simp

theorem sameForOthers_removeAircraft (p : RemoteAircraftProvider S C) (callsign : Callsign) :
    Stores.SameForOthers callsign p.toStores (p.removeAircraft callsign).1.toStores := by
  refine ⟨fun k hk => ?_, rfl, rfl⟩
  unfold removeAircraft Stores.entries key
  simp [CallsignMap.remove_of_ne _ _ hk]

/-- Two states without the callsign that are the same for others have the same stores. -/
theorem toStores_eq_of_forgot {p q r : RemoteAircraftProvider S C} {callsign : Callsign}
    (hq : q.Forgot callsign) (hr : r.Forgot callsign)
    (hpq : Stores.SameForOthers callsign p.toStores q.toStores)
    (hpr : Stores.SameForOthers callsign p.toStores r.toStores) : q.toStores = r.toStores := by
  refine Stores.ext_entries (fun k => ?_)
    (hpq.dbCGPerModelString.trans hpr.dbCGPerModelString.symm)
    (hpq.enableAircraftPartsHistory.trans hpr.enableAircraftPartsHistory.symm)
  by_cases hk : k = callsign.callsign
  · rw [hk]
    exact hq.trans hr.symm
  · exact (hpq.entries k hk).trans (hpr.entries k hk).symm

theorem forgot_removeAircraft_iff (p : RemoteAircraftProvider S C) (callsign : Callsign) :
    (p.removeAircraft callsign).1.Forgot callsign ↔
      p.changesByCallsign callsign.callsign = none ∧ p.testOffset callsign.callsign = none := by
  unfold Stores.Forgot
  rw [entries_removeAircraft]
  constructor
  · intro h
    exact ⟨congrArg CallsignEntries.changes h, congrArg CallsignEntries.testOffset h⟩
  · rintro ⟨hchanges, hoffset⟩
    rw [hchanges, hoffset]

end RemoteAircraftProvider

section Removal

variable {S C E : Type} [TimestampWithOffsetBased S] [TimestampWithOffsetBased C]
  (lib : SituationLibrary S C E)

/-- In every state that is reached, an aircraft is removed cleanly exactly where no
    changes are kept for its callsign and no test offset is. -/
theorem removes_cleanly_iff (history : List (ProviderAction S C E)) (callsign : Callsign) :
    ((remoteAircraftProvider lib).run {} history).1.RemovesCleanly lib callsign ↔
      ((remoteAircraftProvider lib).run {} history).1.changesByCallsign callsign.callsign = none ∧
        ((remoteAircraftProvider lib).run {} history).1.testOffset callsign.callsign = none := by
  generalize ((remoteAircraftProvider lib).run {} history).1 = p
  constructor
  · intro hclean
    exact (p.forgot_removeAircraft_iff callsign).mp hclean.1
  · intro hnone
    have hforgot := (p.forgot_removeAircraft_iff callsign).mpr hnone
    have hothers := p.sameForOthers_removeAircraft callsign
    refine ⟨hforgot, hothers, fun fresh hfresh hsame later => ?_⟩
    exact RemoteAircraftProvider.toStores_run lib
      (RemoteAircraftProvider.toStores_eq_of_forgot hforgot hfresh hothers hsame) later

end Removal

/-- A situation or a change that is its callsign and its times. -/
structure SampleSituation where
  callsign : Callsign := {}
  msecs : ℤ := -1
  offset : ℤ := 0

instance : TimestampWithOffsetBased SampleSituation where
  getMSecsSinceEpoch := SampleSituation.msecs
  getTimeOffsetMs := SampleSituation.offset
  setTimeOffsetMs s os := { s with offset := os }
  getMSecsSinceEpoch_set _ _ := rfl
  getTimeOffsetMs_set _ _ := rfl
  set_set _ _ _ := rfl

/-- Situations that come with their ground details, so that nothing is guessed. -/
def sampleLibrary : SituationLibrary SampleSituation SampleSituation Unit where
  situationSorter := Sorter.insertion _
  partsSorter := Sorter.insertion _
  sortAdjustedLatestFirst := id
  getCallsign := SampleSituation.callsign
  getCG _ := CLength.null
  hasVelocity _ := true
  hasInboundGroundDetails _ := true
  isOnGround _ := false
  addMsecs ms s := { s with msecs := s.msecs + ms }
  withAltitudeOffset _ s := s
  setOnGroundDetailsOf _ s := s
  transferElevationForward l := l
  adjustGroundFlag _ l := (l, 0)
  elevationIsNull _ := true
  setGroundElevationChecked _ _ s := (s, false)
  setSituationOfAircraft callsign _ s := { s with callsign }
  change l _ _ _ _ := l.headD {}
  nullChange := {}
  changeIsNull _ := false
  changeCallsign := SampleSituation.callsign
  guessOnGround _ _ s := s
  isUpper := Char.isUpper
  isDigit := Char.isDigit
  foldCase := CaseFolding.ascii

def sampleCallsign : Callsign := ⟨"DLH123", "DLH123", .aircraft⟩

/-- One situation of an aircraft in range leaves a change behind when the aircraft is
    removed. -/
theorem removed_aircraft_leaves_change :
    ¬((remoteAircraftProvider sampleLibrary).run {}
        [.addNewAircraftInRange { callsign := sampleCallsign, situation :=
          { callsign := sampleCallsign } },
          .storeAircraftSituation ⟨sampleCallsign, 10000, 5000⟩ true 10000]).1.RemovesCleanly
      sampleLibrary sampleCallsign := by
  intro hclean
  have hnone := ((RemoteAircraftProvider.forgot_removeAircraft_iff _ _).mp hclean.1).1
  have hsome : (((remoteAircraftProvider sampleLibrary).run {}
      [.addNewAircraftInRange { callsign := sampleCallsign, situation :=
        { callsign := sampleCallsign } },
        .storeAircraftSituation ⟨sampleCallsign, 10000, 5000⟩ true 10000]).1.changesByCallsign
      sampleCallsign.callsign).isSome = true := by decide +kernel
  rw [hnone] at hsome
  cases hsome

end Simulation

end NeoSwift.Misc
