import NeoSwift.Misc.Simulation.RemoteAircraftProvider

/-!
# The Airspace Monitor

`CAirspaceMonitor`: the aircraft that are in range, the stations that are online, and which
aircraft are ready to be matched with a model. It is a `CRemoteAircraftProvider`. What
comes from the network, the timers it starts and the commands of the user are its inputs,
and its signals are what it emits.

What an input depends on besides is its environment: the clock, the connection, the own
aircraft, and what the database and the reverse lookup know. The clock may show anything.
Log messages, flight plans, the names and the text information of stations, and the
queries of other clients are left out.

## Main definitions

* `MonitorEnv`: What an input depends on.
* `Readiness`: What is known of an aircraft that is to be matched, and since when.
* `CAirspaceMonitor`: The state of the monitor.
* `sendReadyForModelMatching`, `verifyReceivedIcaoData`: The way to a match.
* `handleMaxRange`, `onAircraftUpdateReceived`: The way into range and out of it.
* `airspaceMonitor`: The monitor as a machine.
-/

namespace NeoSwift.Core

open Aviation Pq Misc Misc.Simulation

open Fsd (CallsignMap AtcStation)

open RemoteAircraftProvider (key)

/-- The library of situations with what the monitor asks of them. -/
structure AirspaceLibrary (S C E : Type) [TimestampWithOffsetBased S]
    [TimestampWithOffsetBased C] extends SituationLibrary S C E where
  unicode : Unicode
  isNull : S → Bool

/-- What the reaction to an input depends on. The distance is the one to the own aircraft
    in whole nautical miles. The reverse lookup gets the model there is, which stays if it
    is one of the database, and `correctedSituation` adds offsets and elevations. -/
structure MonitorEnv (S : Type) where
  now : ℕ
  isConnectedAndNotShuttingDown : Bool
  isCopilotAircraft : Callsign → Bool
  distanceNM : S → ℤ
  relativeDistance : S → CLength
  relativeBearing : S → Option ℚ
  correctedSituation : S → S
  reverseLookup : Callsign → QString → QString → QString → QString → CAircraftModel → CAircraftModel
  usesModelString : QString → Bool
  cgOfModelString : QString → CLength
  differsFromNetworkModel : CAircraftModel → QString → Bool

/-- `MatchingReadinessFlag`. -/
inductive MatchingReadinessFlag where
  | receivedIcaoCodes | receivedFsInnPacket | readyForMatchingSent | recursiveCall | receivedAll
  | verified
  deriving DecidableEq

/-- `Readiness`: a time stamp and the flags. -/
structure Readiness where
  ts : ℤ := -1
  receivedIcaoCodes : Bool := false
  receivedFsInnPacket : Bool := false
  wasMatchingSent : Bool := false
  wasVerified : Bool := false
  deriving DecidableEq

namespace Readiness

variable (readiness : Readiness)

/-- The time stamp is set with the first flag. A recursive call is no flag. -/
def addFlag (flag : MatchingReadinessFlag) (now : ℕ) : Readiness :=
  let stamped := { readiness with ts := if readiness.ts < 0 then now else readiness.ts }
  match flag with
  | .recursiveCall => readiness
  | .receivedIcaoCodes => { stamped with receivedIcaoCodes := true }
  | .receivedFsInnPacket => { stamped with receivedFsInnPacket := true }
  | .receivedAll => { stamped with receivedIcaoCodes := true, receivedFsInnPacket := true }
  | .readyForMatchingSent => { stamped with wasMatchingSent := true }
  | .verified => { stamped with wasVerified := true }

/-- The other flags are reset, the time stamp is not. -/
def setFlag (flag : MatchingReadinessFlag) (now : ℕ) : Readiness :=
  match flag with
  | .recursiveCall => readiness
  | flag => addFlag { ts := readiness.ts } flag now

/-- Both answers are there. -/
def receivedAll : Bool :=
  readiness.receivedIcaoCodes && readiness.receivedFsInnPacket

/-- Since the first flag. -/
def getAgeMs (now : ℕ) : ℤ :=
  if readiness.ts < 0 then -1 else now - readiness.ts

end Readiness

/-- `FsInnPacket`. -/
structure FsInnPacket where
  aircraftIcaoDesignator : QString
  airlineIcaoDesignator : QString
  combinedCode : QString
  modelString : QString

/-- The constructor. -/
def FsInnPacket.create (u : Unicode) (aircraftIcaoDesignator airlineIcaoDesignator combinedCode
    modelString : QString) : FsInnPacket where
  aircraftIcaoDesignator := u.toUpper aircraftIcaoDesignator.trimmed
  airlineIcaoDesignator := u.toUpper airlineIcaoDesignator.trimmed
  combinedCode := u.toUpper combinedCode.trimmed
  modelString := modelString.trimmed

/-- What happens once when a timer is due. -/
inductive SingleShot (S : Type) where
  | checkAgain (callsign : Callsign) (rf : MatchingReadinessFlag)
  | verifyReceivedIcaoData (callsign : Callsign) (addition : ℕ)
  | reInitialize (aircraft : CSimulatedAircraft S)

/-- A single shot that is pending, and when it is due. -/
structure PendingTimer (S : Type) where
  due : ℕ
  shot : SingleShot S

/-- The monitor. The clients are those whose model string is known. Additions of aircraft
    are counted, and a timer that verifies an aircraft knows which one it belongs to. -/
structure CAirspaceMonitor (S C : Type) where
  provider : RemoteAircraftProvider S C := {}
  atcStationsOnline : List AtcStation := []
  clients : CallsignMap QString := .empty
  tempFsInnPackets : CallsignMap FsInnPacket := .empty
  readiness : CallsignMap Readiness := .empty
  maxDistanceNM : ℤ := 125
  maxDistanceNMHysteresis : ℤ := qRound (11 / 10 * 125)
  timers : List (PendingTimer S) := []
  additions : ℕ := 0
  addition : CallsignMap ℕ := .empty

/-- The signals. Of a removal of all aircraft there is one for each callsign that was in
    range, in no particular order. -/
inductive MonitorSignal (S : Type) where
  | addedAircraft (aircraft : CSimulatedAircraft S)
  | removedAircraft (callsign : Callsign)
  | removedEachAircraft (inRange : QString → Bool)
  | changedAtcStationsOnline
  | atcStationDisconnected (station : AtcStation)
  | pilotQueries (callsign : Callsign) (withIcaoQuery withFsInn : Bool)
  | requestedNewAircraft (callsign : Callsign) (aircraftIcao airlineIcao livery : QString)
  | readyForModelMatching (aircraft : CSimulatedAircraft S)

/-- `MMCheckAgainMs`, from which the others are derived. -/
def mmCheckAgainMs : ℕ := 2000

def mmMaxAgeMs : ℕ := mmCheckAgainMs * 3

def mmMaxAgeThresholdMs : ℕ := mmCheckAgainMs * 10

def mmVerifyMs : ℕ := mmCheckAgainMs * 12

namespace CAirspaceMonitor

variable {S C E : Type} [TimestampWithOffsetBased S] [TimestampWithOffsetBased C]

section Handlers

variable (lib : AirspaceLibrary S C E) (env : MonitorEnv S) (m : CAirspaceMonitor S C)

/-- `QTimer::singleShot`. -/
def singleShot (ms : ℕ) (shot : SingleShot S) : CAirspaceMonitor S C :=
  { m with timers := m.timers ++ [⟨env.now + ms, shot⟩] }

/-- `CCallsign::isValid`. -/
def isValidCallsign (callsign : Callsign) : Bool :=
  match callsign.typeHint with
  | .atc => 2 ≤ callsign.callsign.size && callsign.callsign.size ≤ 10 &&
    callsign.callsign.all (fun c => c == '-' || c == '_' || lib.isUpper c || lib.isDigit c)
  | .aircraft => isValidAircraftCallsign lib.toSituationLibrary callsign.callsign
  | .noHint => !callsign.isEmpty

/-- `hasValidCallsign` of the aircraft. -/
def validAircraftInRange (callsign : Callsign) : Option (CSimulatedAircraft S) :=
  (m.provider.aircraftInRange (key callsign)).filter
    (fun aircraft => isValidAircraftCallsign lib.toSituationLibrary aircraft.callsign.callsign)

/-- `remoteAircraftSituationsCount`. -/
def remoteAircraftSituationsCount (callsign : Callsign) : ℤ :=
  ((m.provider.situationsByCallsign (key callsign)).map (fun l => (l.length : ℤ))).getD (-1)

/-- The readiness with a flag more. -/
def addMatchingReadinessFlag (callsign : Callsign) (mrf : MatchingReadinessFlag) : Readiness :=
  ((m.readiness (key callsign)).getD {}).addFlag mrf env.now

/-- The flags of one aircraft. -/
def setReadiness (callsign : Callsign) (readiness : Readiness) : CAirspaceMonitor S C :=
  { m with readiness := m.readiness.insert (key callsign) readiness }

/-- An aircraft that is not complete yet is checked again until it is too old for that. -/
def sendReadyForModelMatching (callsign : Callsign) (rf : MatchingReadinessFlag) :
    CAirspaceMonitor S C × List (MonitorSignal S) :=
  if !env.isConnectedAndNotShuttingDown then (m, [])
  else
    let readiness := addMatchingReadinessFlag env m callsign rf
    let m := m.setReadiness callsign readiness
    if readiness.wasMatchingSent && decide (readiness.getAgeMs env.now < mmMaxAgeThresholdMs) then
      (m, [])
    else
      match m.validAircraftInRange lib callsign with
      | none => ({ m with readiness := m.readiness.remove (key callsign) }, [])
      | some remoteAircraft =>
        let complete := decide (1 < m.remoteAircraftSituationsCount callsign) &&
          (readiness.receivedAll || !remoteAircraft.currentModel.modelString.isEmpty)
        if rf != .verified && decide (readiness.getAgeMs env.now ≤ mmMaxAgeMs) && !complete then
          (singleShot env m mmCheckAgainMs (.checkAgain callsign rf), [])
        else
          (m.setReadiness callsign (readiness.setFlag .readyForMatchingSent env.now),
            [.readyForModelMatching remoteAircraft])

/-- What the reverse lookup makes of the model of an aircraft. -/
def addOrUpdateAircraftInRange (callsign : Callsign)
    (aircraftIcao airlineIcao livery modelString : QString) : CAirspaceMonitor S C :=
  match m.validAircraftInRange lib callsign with
  | none => m
  | some aircraft =>
    let model := env.reverseLookup callsign aircraftIcao airlineIcao livery modelString
      aircraft.currentModel
    { m with provider := (m.provider.updateInRange callsign (fun aircraft =>
        { aircraft with currentModel := model, networkModel := model })).1 }

/-- A packet of somebody who is not known yet is kept. -/
def onCustomFSInnPacketReceived (callsign : Callsign)
    (airlineIcaoDesignator aircraftIcaoDesignator combinedAircraftType modelString : QString) :
    CAirspaceMonitor S C × List (MonitorSignal S) :=
  if !isValidCallsign lib callsign || !env.isConnectedAndNotShuttingDown then (m, [])
  else
    let isAircraft := m.provider.isAircraftInRange callsign
    let isAtc := m.atcStationsOnline.any (fun station => station.callsign.equals callsign)
    if !isAircraft && !isAtc then
      let fsInn := FsInnPacket.create lib.unicode aircraftIcaoDesignator airlineIcaoDesignator
        combinedAircraftType modelString
      ({ m with tempFsInnPackets := m.tempFsInnPackets.insert (key callsign) fsInn }, [])
    else
      let m := { m with clients := m.clients.insert (key callsign) modelString }
      if isAircraft then
        let m := m.setReadiness callsign
          (addMatchingReadinessFlag env m callsign .receivedFsInnPacket)
        let m := if !modelString.isEmpty && env.usesModelString modelString then
          m.addOrUpdateAircraftInRange lib env callsign aircraftIcaoDesignator
            airlineIcaoDesignator [] modelString else m
        m.sendReadyForModelMatching lib env callsign .receivedFsInnPacket
      else (m, [])

/-- `none` if there is no packet. -/
def recallFsInnPacket (callsign : Callsign) :
    Option (CAirspaceMonitor S C × List (MonitorSignal S)) :=
  (m.tempFsInnPackets (key callsign)).map (fun packet =>
    onCustomFSInnPacketReceived lib env
      { m with tempFsInnPackets := m.tempFsInnPackets.remove (key callsign) } callsign
      packet.airlineIcaoDesignator packet.aircraftIcaoDesignator packet.combinedCode
      packet.modelString)

/-- What the timer of `sendReadyForModelMatching` does. -/
def checkAgain (callsign : Callsign) (rf : MatchingReadinessFlag) :
    CAirspaceMonitor S C × List (MonitorSignal S) :=
  if !m.provider.isAircraftInRange callsign then (m, [])
  else
    match if rf = .receivedFsInnPacket then none else m.recallFsInnPacket lib env callsign with
    | some recalled => recalled
    | none => m.sendReadyForModelMatching lib env callsign .recursiveCall

def sendInitialPilotQueries (callsign : Callsign) (withIcaoQuery withFsInn : Bool) :
    List (MonitorSignal S) :=
  if env.isConnectedAndNotShuttingDown then [.pilotQueries callsign withIcaoQuery withFsInn]
  else []

/-- The codes are asked for once more, and the second time the aircraft is taken as it
    is. -/
def verifyReceivedIcaoData (callsign : Callsign) (addition : ℕ) :
    CAirspaceMonitor S C × List (MonitorSignal S) :=
  if callsign.isEmpty || !m.provider.isAircraftInRange callsign then (m, [])
  else
    let readiness := (m.readiness (key callsign)).getD {}
    if readiness.wasMatchingSent then (m.setReadiness callsign readiness, [])
    else if readiness.wasVerified then
      (m.setReadiness callsign readiness).sendReadyForModelMatching lib env callsign .verified
    else
      let m := m.setReadiness callsign (readiness.addFlag .verified env.now)
      if !readiness.receivedIcaoCodes then
        (singleShot env m mmVerifyMs (.verifyReceivedIcaoData callsign addition),
          sendInitialPilotQueries env callsign true true)
      else m.sendReadyForModelMatching lib env callsign .verified

/-- The answer to a query for the plane. -/
def onIcaoCodesReceived (callsign : Callsign)
    (aircraftIcaoDesignator airlineIcaoDesignator livery : QString) :
    CAirspaceMonitor S C × List (MonitorSignal S) :=
  if !env.isConnectedAndNotShuttingDown || !isValidCallsign lib callsign ||
      !m.provider.isAircraftInRange callsign then (m, [])
  else
    let updated := m.addOrUpdateAircraftInRange lib env callsign aircraftIcaoDesignator
      airlineIcaoDesignator livery ((m.clients (key callsign)).getD [])
    let sent := updated.sendReadyForModelMatching lib env callsign .receivedIcaoCodes
    (sent.1, sent.2 ++ [.requestedNewAircraft callsign aircraftIcaoDesignator
      airlineIcaoDesignator livery])

/-! ## Into range and out of it -/

/-- `CRemoteAircraftProvider::removeAllAircraft`, with its signals. -/
def removeAllAircraftInRange : CAirspaceMonitor S C × List (MonitorSignal S) :=
  ({ m with provider := m.provider.removeAllAircraft },
    [.removedEachAircraft m.provider.aircraftInRange.contains])

/-- Nobody is left, and everybody is told. -/
def clear : CAirspaceMonitor S C × List (MonitorSignal S) :=
  let removed := m.removeAllAircraftInRange
  ({ removed.1 with
      tempFsInnPackets := .empty
      readiness := .empty
      atcStationsOnline := []
      clients := .empty }, removed.2)

/-- The aircraft that were in range, in the order of the hash, are added again one by one. -/
def reInitializeAllAircraft (order : List QString) :
    CAirspaceMonitor S C × List (MonitorSignal S) :=
  let aircraft := order.filterMap m.provider.aircraftInRange
  let removed := m.removeAllAircraftInRange
  ({ removed.1 with timers := removed.1.timers ++
      aircraft.mapIdx (fun i ac => ⟨env.now + (i + 1) * 25, .reInitialize ac⟩) }, removed.2)

/-- No limit if the range is null or not positive. -/
def setMaxRange (range : CLength) : CAirspaceMonitor S C :=
  if range.isNull || range.isNegativeWithEpsilonConsidered || range.isZeroEpsilonConsidered then
    { m with maxDistanceNM := -1, maxDistanceNMHysteresis := -1 }
  else
    let rIntNM := range.valueInteger .nm
    { m with maxDistanceNM := rIntNM, maxDistanceNMHysteresis := qRound (11 / 10 * rIntNM) }

/-- An aircraft that was added is verified later. -/
def addNewAircraftInRange (aircraft : CSimulatedAircraft S) :
    CAirspaceMonitor S C × List (MonitorSignal S) :=
  let callsign := aircraft.callsign
  let newAircraft := { aircraft with
    isRendered := false
    relativeDistance := env.relativeDistance aircraft.situation
    relativeBearing := env.relativeBearing aircraft.situation }
  let added := m.provider.addNewAircraftInRange newAircraft
  if !added.2 then (m, [])
  else
    let m := singleShot env { m with
        provider := added.1
        additions := m.additions + 1
        addition := m.addition.insert (key callsign) m.additions }
      mmVerifyMs (.verifyReceivedIcaoData callsign m.additions)
    let modelString := aircraft.currentModel.modelString
    let provider := if modelString.isEmpty then m.provider
      else (m.provider.rememberCGFromDBForModel (env.cgOfModelString modelString)
        modelString).rememberCGFromDB (env.cgOfModelString modelString) callsign
    ({ m with provider }, [.addedAircraft newAircraft])

/-- What a timer of `asyncReInitializeAllAircraft` does. -/
def reInitialize (aircraft : CSimulatedAircraft S) :
    CAirspaceMonitor S C × List (MonitorSignal S) :=
  let added := m.addNewAircraftInRange env aircraft
  let sent := { added.1 with readiness := added.1.readiness.remove (key aircraft.callsign) }
    |>.sendReadyForModelMatching lib env aircraft.callsign .receivedAll
  (sent.1, added.2 ++ sent.2)

/-- Beyond the hysteresis range the aircraft is removed. -/
def handleMaxRange (situation : S) : CAirspaceMonitor S C × Bool :=
  if lib.isNull situation then (m, false)
  else if m.maxDistanceNM < 0 then (m, true)
  else if m.maxDistanceNMHysteresis < env.distanceNM situation then
    ({ m with provider := (m.provider.removeAircraft (lib.getCallsign situation)).1 }, false)
  else (m, decide (env.distanceNM situation ≤ m.maxDistanceNM))

def storeAircraftSituation (situation : S) : CAirspaceMonitor S C :=
  { m with provider := (m.provider.storeAircraftSituation lib.toSituationLibrary
      (env.correctedSituation situation) false env.now).1 }

/-- An aircraft is added, or updated if it is in range. -/
def onAircraftUpdateReceived (situation : S) :
    CAirspaceMonitor S C × List (MonitorSignal S) :=
  let callsign := lib.getCallsign situation
  if !env.isConnectedAndNotShuttingDown || env.isCopilotAircraft callsign then (m, [])
  else
    let range := m.handleMaxRange lib env situation
    let existsInRange := range.1.provider.isAircraftInRange callsign
    if !range.2 && !existsInRange then (range.1, [])
    else
      let m := range.1.storeAircraftSituation lib env situation
      if !existsInRange then
        let hasFsInnPacket := m.tempFsInnPackets.contains (key callsign)
        let added := m.addNewAircraftInRange env { callsign, situation }
        (added.1, added.2 ++ sendInitialPilotQueries env callsign true !hasFsInnPacket)
      else
        ({ m with provider := (m.provider.updateInRange callsign (fun aircraft =>
          { aircraft with
            situation
            relativeDistance := env.relativeDistance situation
            relativeBearing := env.relativeBearing situation })).1 }, [])

/-- `onAircraftInterimUpdateReceived`, which needs a full situation before. -/
def onAircraftInterimUpdateReceived (situation : S) (samePosition : S → Bool) :
    CAirspaceMonitor S C :=
  let callsign := lib.getCallsign situation
  if !env.isConnectedAndNotShuttingDown || env.isCopilotAircraft callsign ||
      !m.provider.isAircraftInRange callsign then m
  else
    match (m.provider.situationsByCallsign (key callsign)).getD [] with
    | [] => m
    | lastSituation :: _ =>
      let m := m.storeAircraftSituation lib env situation
      if samePosition lastSituation then m
      else { m with provider := (m.provider.updateAircraftInRangeDistanceBearing
        lib.toSituationLibrary callsign situation (env.relativeDistance situation)
        (env.relativeBearing situation)).1 }

/-- Parts are stored by the provider. -/
def onAircraftConfigReceived (callsign : Callsign) (jsonObject : QJsonObject)
    (currentOffsetMs : ℤ) : CAirspaceMonitor S C :=
  if callsign.isEmpty then m
  else
    { m with provider := (m.provider.storeAircraftPartsJson lib.toSituationLibrary callsign
        jsonObject currentOffsetMs env.now) }

/-- A position, codes if they are new, and parts. -/
def onAircraftSimDataUpdateReceived (situation : S) (parts : QJsonObject)
    (currentOffsetMs : ℤ) (aircraftIcao airlineIcao : QString) :
    CAirspaceMonitor S C × List (MonitorSignal S) :=
  let callsign := lib.getCallsign situation
  let updated := m.onAircraftUpdateReceived lib env situation
  let model := ((updated.1.provider.aircraftInRange (key callsign)).map
    CSimulatedAircraft.networkModel).getD {}
  let codes := if env.differsFromNetworkModel model aircraftIcao then
    updated.1.onIcaoCodesReceived lib env callsign aircraftIcao airlineIcao airlineIcao
    else (updated.1, [])
  (codes.1.onAircraftConfigReceived lib env callsign parts currentOffsetMs, updated.2 ++ codes.2)

/-- In case of inconsistencies everything is removed, connected or not. -/
def onPilotDisconnected (callsign : Callsign) :
    CAirspaceMonitor S C × List (MonitorSignal S) :=
  let m := if callsign.isEmpty then m
    else { m with
      readiness := m.readiness.remove (key callsign)
      provider := m.provider.removeReverseLookupMessages callsign }
  let removed := m.provider.removeAircraft callsign
  ({ m with provider := removed.1, clients := m.clients.remove (key callsign) },
    if removed.2 then [.removedAircraft callsign] else [])

/-! ## Stations -/

/-- A station is added or updated. -/
def onAtcPositionUpdate (station : AtcStation) :
    CAirspaceMonitor S C × List (MonitorSignal S) :=
  if !env.isConnectedAndNotShuttingDown then (m, [])
  else if m.atcStationsOnline.any (fun other => other.callsign.equals station.callsign) then
    let updated := m.atcStationsOnline.map (fun other =>
      if other.callsign.equals station.callsign then
        { station with callsign := other.callsign } else other)
    ({ m with atcStationsOnline := updated },
      if updated = m.atcStationsOnline then [] else [.changedAtcStationsOnline])
  else ({ m with atcStationsOnline := m.atcStationsOnline ++ [station] },
    [.changedAtcStationsOnline])

def onAtcControllerDisconnected (callsign : Callsign) :
    CAirspaceMonitor S C × List (MonitorSignal S) :=
  if !env.isConnectedAndNotShuttingDown then (m, [])
  else
    let m := { m with clients := m.clients.remove (key callsign) }
    match m.atcStationsOnline.find? (fun station => station.callsign.equals callsign) with
    | none => (m, [])
    | some removedStation =>
      ({ m with atcStationsOnline :=
          m.atcStationsOnline.filter (fun station => !station.callsign.equals callsign) },
        [.changedAtcStationsOnline, .atcStationDisconnected removedStation])

/-- The maximum range is the one of the network when connecting. -/
def onConnectionStatusChanged (newStatus : Fsd.ConnectionStatus) (maxRange : CLength) :
    CAirspaceMonitor S C × List (MonitorSignal S) :=
  let m := if newStatus = .connecting then m.setMaxRange maxRange else m
  if newStatus = .disconnected then m.clear else (m, [])

end Handlers

end CAirspaceMonitor

/-- What happens to the monitor. A timeout names a pending timer, and the watchdog reports
    aircraft and stations as disconnected. -/
inductive MonitorAction (S : Type) where
  | onAircraftUpdateReceived (situation : S)
  | onAircraftInterimUpdateReceived (situation : S) (samePosition : S → Bool)
  | onAircraftSimDataUpdateReceived (situation : S) (parts : QJsonObject) (currentOffsetMs : ℤ)
      (aircraftIcao airlineIcao : QString)
  | onIcaoCodesReceived (callsign : Callsign) (aircraftIcao airlineIcao livery : QString)
  | onCustomFSInnPacketReceived (callsign : Callsign) (airlineIcao aircraftIcao combinedType
      modelString : QString)
  | onAircraftConfigReceived (callsign : Callsign) (jsonObject : QJsonObject)
      (currentOffsetMs : ℤ)
  | onPilotDisconnected (callsign : Callsign)
  | onAtcPositionUpdate (station : AtcStation)
  | onAtcControllerDisconnected (callsign : Callsign)
  | onConnectionStatusChanged (newStatus : Fsd.ConnectionStatus) (maxRange : CLength)
  | setMaxRange (range : CLength)
  | clear
  | reInitializeAllAircraft (order : List QString)
  | timeout (timer : ℕ)

namespace CAirspaceMonitor

variable {S C E : Type} [TimestampWithOffsetBased S] [TimestampWithOffsetBased C]
  (lib : AirspaceLibrary S C E)

/-- The single shot of a timer. -/
def fire (env : MonitorEnv S) (m : CAirspaceMonitor S C) :
    SingleShot S → CAirspaceMonitor S C × List (MonitorSignal S)
  | .checkAgain callsign rf => m.checkAgain lib env callsign rf
  | .verifyReceivedIcaoData callsign addition =>
    m.verifyReceivedIcaoData lib env callsign addition
  | .reInitialize aircraft => m.reInitialize lib env aircraft

/-- A timer fires when it is due, and not again. -/
def onTimeout (env : MonitorEnv S) (m : CAirspaceMonitor S C) (timer : ℕ) :
    CAirspaceMonitor S C × List (MonitorSignal S) :=
  match m.timers[timer]? with
  | none => (m, [])
  | some pending =>
    if env.now < pending.due then (m, [])
    else fire lib env { m with timers := m.timers.eraseIdx timer } pending.shot

/-- One action. -/
def step (env : MonitorEnv S) (m : CAirspaceMonitor S C) :
    MonitorAction S → CAirspaceMonitor S C × List (MonitorSignal S)
  | .onAircraftUpdateReceived situation => m.onAircraftUpdateReceived lib env situation
  | .onAircraftInterimUpdateReceived situation samePosition =>
    (m.onAircraftInterimUpdateReceived lib env situation samePosition, [])
  | .onAircraftSimDataUpdateReceived situation parts currentOffsetMs aircraftIcao airlineIcao =>
    m.onAircraftSimDataUpdateReceived lib env situation parts currentOffsetMs aircraftIcao
      airlineIcao
  | .onIcaoCodesReceived callsign aircraftIcao airlineIcao livery =>
    m.onIcaoCodesReceived lib env callsign aircraftIcao airlineIcao livery
  | .onCustomFSInnPacketReceived callsign airlineIcao aircraftIcao combinedType modelString =>
    m.onCustomFSInnPacketReceived lib env callsign airlineIcao aircraftIcao combinedType
      modelString
  | .onAircraftConfigReceived callsign jsonObject currentOffsetMs =>
    (m.onAircraftConfigReceived lib env callsign jsonObject currentOffsetMs, [])
  | .onPilotDisconnected callsign => m.onPilotDisconnected callsign
  | .onAtcPositionUpdate station => m.onAtcPositionUpdate env station
  | .onAtcControllerDisconnected callsign => m.onAtcControllerDisconnected env callsign
  | .onConnectionStatusChanged newStatus maxRange => m.onConnectionStatusChanged newStatus maxRange
  | .setMaxRange range => (m.setMaxRange range, [])
  | .clear => m.clear
  | .reInitializeAllAircraft order => m.reInitializeAllAircraft env order
  | .timeout timer => m.onTimeout lib env timer

end CAirspaceMonitor

/-- The monitor takes every input in an environment of its own. -/
def airspaceMonitor {S C E : Type} [TimestampWithOffsetBased S] [TimestampWithOffsetBased C]
    (lib : AirspaceLibrary S C E) :
    Machine (CAirspaceMonitor S C) (MonitorEnv S × MonitorAction S) (MonitorSignal S) where
  step m input := m.step lib input.1 input.2

end NeoSwift.Core
