import NeoSwift.Aviation.Callsign
import NeoSwift.Fsd.Wire

/-!
# The State of the Client

What the FSD client remembers between two events, what it is configured with,
what it asks of its surroundings while it handles an event, and what it does.

The client is split in two. The state here is what the handlers read and write;
the queue of messages to send, the log filter and the password belong to the
outbox. A handler does not touch the outbox: it returns the actions it takes, in
order, and the outbox performs them. That handlers cannot read the password is
then a matter of their types.

Signals, transport operations and messages to send are all actions. Log
messages and call statistics are left out.

## Main definitions

* `Config`: What is set before a connection and stays.
* `Env`: Own aircraft, clock and library answers during one event.
* `Signal`, `Action`: What the client emits and does.
* `ClientState`: What it remembers.
* `clearState`, `clearStateOf`: Forgetting all, or one callsign.
-/

namespace NeoSwift.Fsd

open Aviation (Callsign Unicode)

/-- `CLoginMode`. -/
inductive LoginMode where
  | pilot | observer
  deriving DecidableEq

/-- `CConnectionStatus`. -/
inductive ConnectionStatus where
  | connected | connecting | disconnecting | disconnected
  deriving DecidableEq

/-- A call of the authentication library that changes its state. The library is
    not part of the program; the history of these calls is what its answers
    depend on. -/
inductive AuthCall where
  | setInitialChallenge (challenge : QString)
  | generateResponse (challenge : QString)
  | generateChallenge
  deriving DecidableEq

/-- The answers of the authentication library, each to the last call of a
    history. -/
structure AuthLibrary where
  response : List AuthCall → QString
  challenge : List AuthCall → QString

/-- Own client, user, server and network, as they are set before a connection.
    The password is not among them. -/
structure Config where
  unicode : Unicode
  auth : AuthLibrary
  vatsimSupport : Bool
  unitTestMode : Bool
  rawFsdMessagesEnabled : Bool
  loginMode : LoginMode
  protocolRevision : Int32
  simType : SimType
  pilotRating : PilotRating
  atcRating : AtcRating
  ownCallsign : Callsign
  clientId : UInt16
  clientName : QString
  hostApplication : QString
  versionMajor : Int32
  versionMinor : Int32
  capabilities : List Capability
  additionalOffsetTime : ℤ
  cid : QString
  realName : QString
  realNameAndHomeBase : QString
  address : QString
  usesWebSocket : Bool
  receiveEuroscopeSimData : Bool
  force3LetterAirlineCodes : Bool
  receiveInterimPositions : Bool
  sendVisualPositions : Bool
  receiveAircraftParts : Bool
  usesVatsimAtisMessages : Bool
  useChallenge : Bool
  useJwt : Bool
  vatsimServer : Bool

/-- A pilot on a server of the classic protocol. -/
def classicPilot : Config where
  unicode := .ascii
  auth := { response := fun _ => [], challenge := fun _ => [] }
  vatsimSupport := false
  unitTestMode := false
  rawFsdMessagesEnabled := true
  loginMode := .pilot
  protocolRevision := 9
  simType := .msfs
  pilotRating := .student
  atcRating := .observer
  ownCallsign := Callsign.create .ascii "DLH1" .aircraft
  clientId := 0
  clientName := "swift"
  hostApplication := "MSFS"
  versionMajor := 0
  versionMinor := 15
  capabilities := [.aircraftInfo]
  additionalOffsetTime := 0
  cid := "1234567"
  realName := "Pilot"
  realNameAndHomeBase := "Pilot EDDF"
  address := "fsd.example"
  usesWebSocket := false
  receiveEuroscopeSimData := false
  force3LetterAirlineCodes := true
  receiveInterimPositions := true
  sendVisualPositions := false
  receiveAircraftParts := true
  usesVatsimAtisMessages := false
  useChallenge := false
  useJwt := false
  vatsimServer := false

/-- An aircraft configuration packet as the JSON library reads it: malformed, a
    request for the own configuration, or a configuration, which may be empty. -/
inductive ConfigPacket where
  | malformed
  | request
  | config (text : Option QString)
  deriving DecidableEq

/-- The clock, the transport, the own aircraft and the JSON library during one
    event. -/
structure Env where
  now : ℤ
  transportOpen : Bool
  transportConnected : Bool
  resolvesAtOnce : Bool
  isAircraftInRange : Callsign → Bool
  parseAircraftConfig : QString → ConfigPacket
  ownPartsJson : QString
  matchOwnFrequency : Int32 → Option ℚ
  com1Frequency : ℚ
  airlineIcao : QString
  airlineVIcao : QString
  aircraftIcao : QString
  aircraftIcaoCombinedType : QString
  livery : QString
  modelString : QString
  visual : VisualState
  localAddress : QString
  sysUid : QString
  latitude : QString
  longitude : QString
  altitude : QString

/-- A connected client whose aircraft is alone. -/
def quietEnv : Env where
  now := 0
  transportOpen := true
  transportConnected := true
  resolvesAtOnce := true
  isAircraftInRange _ := false
  parseAircraftConfig _ := .malformed
  ownPartsJson := []
  matchOwnFrequency _ := none
  com1Frequency := 122800 / 1000
  airlineIcao := "DLH"
  airlineVIcao := "DLH"
  aircraftIcao := "A320"
  aircraftIcaoCombinedType := "L2J"
  livery := []
  modelString := "A320 DLH"
  visual := {}
  localAddress := "127.0.0.1"
  sysUid := []
  latitude := "50"
  longitude := "8"
  altitude := "364"

/-- `CTextMessage`: a private message, or one on a frequency. -/
structure ReceivedText where
  message : QString
  sender : Callsign
  recipient : Callsign := {}
  frequency : Option ℚ := none
  deriving DecidableEq

/-- `CAircraftSituation`, as far as the client sets it. -/
structure AircraftSituation where
  callsign : Callsign
  latitude : ℚ
  longitude : ℚ
  altitude : ℚ
  heading : ℚ
  pitch : ℚ
  bank : ℚ
  groundSpeed : Int32
  pressureAltitude : Option Int32 := none
  onGround : Bool
  timestamp : ℤ
  timeOffsetMs : ℤ
  deriving DecidableEq

/-- `CFlightPlan::FlightRules`, as far as the client sets them. -/
inductive FlightRules where
  | vfr | ifr | dvfr | svfr
  deriving DecidableEq

/-- `CFlightPlan`, as far as the client sets it. Altitude and times are the
    texts that are parsed for it. -/
structure ReceivedFlightPlan where
  callsign : Callsign
  aircraftInfo : QString
  depAirport : QString
  destAirport : QString
  altAirport : QString
  depTimePlanned : QString
  depTimeActual : QString
  enrouteMinutes : Int32
  fuelMinutes : Int32
  cruiseAlt : QString
  trueCruisingSpeed : Int32
  rules : FlightRules
  route : QString
  remarks : QString
  deriving DecidableEq

/-- `CAtcStation`, as far as the client sets it. Frequencies are in kHz, ranges
    in nautical miles. -/
structure AtcStation where
  callsign : Callsign
  frequencykHz : Int32
  latitude : ℚ
  longitude : ℚ
  range : ℤ
  deriving DecidableEq

/-- `CClient::Capability`, as far as the client sets it. -/
inductive ClientCapability where
  | fsdAtisCanBeReceived | fsdWithInterimPositions | fsdWithVisualPositions | fsdWithIcaoCodes
  | fsdWithAircraftConfig
  deriving DecidableEq

/-- The signals of the client but for the raw messages, which come from the
    outbox. -/
inductive Signal where
  | atcDataUpdateReceived (station : AtcStation)
  | deleteAtcReceived (cid : QString)
  | deletePilotReceived (cid : QString)
  | pilotDataUpdateReceived (situation : AircraftSituation) (transponderCode : Int32)
      (transponderMode : TransponderMode)
  | pongReceived (sender : QString) (elapsedTimeMs : ℤ)
  | flightPlanReceived (plan : ReceivedFlightPlan)
  | textMessagesReceived (messages : List ReceivedText)
  | aircraftConfigReceived (sender config : QString) (currentOffsetTimeMs : ℤ)
  | validAtcResponseReceived (callsign : QString) (isValidAtc : Bool)
  | capabilityResponseReceived (sender : Callsign) (capabilities : List ClientCapability)
  | com1FrequencyResponseReceived (sender : QString) (frequency : ℚ)
  | realNameResponseReceived (sender realName : QString)
  | serverResponseReceived (sender hostName : QString)
  | planeInformationReceived (sender aircraft airline livery : QString)
  | customPilotPacketReceived (sender : QString) (data : QStringList)
  | interimPilotDataUpdatedReceived (situation : AircraftSituation)
  | euroscopeSimDataUpdatedReceived (situation : AircraftSituation) (lights : AircraftLights)
      (gearDown onGround : Bool) (currentOffsetTimeMs : ℤ) (model livery : QString)
  | planeInformationFsinnReceived (callsign : Callsign) (airlineIcao aircraftIcao combinedType
      model : QString)
  | muteRequestReceived (mute : Bool)
  | atisReplyReceived (callsign : Callsign) (atis : QString)
  | atisLogoffTimeReplyReceived (callsign : Callsign) (zuluTime : QString)
  | connectionStatusChanged (oldStatus newStatus : ConnectionStatus)
  | severeNetworkError
  | killRequestReceived (reason : QString)
  deriving DecidableEq

/-- What a handler does: emit a signal, operate the transport, or ask the
    outbox to send, to forget or to filter. -/
inductive Action where
  | emit (signal : Signal)
  | closeTransport
  | connectToHost (host : QString)
  | requestToken
  | rawReceived (line : QString)
  | queue (message : QString)
  | direct (message : QString)
  | login (withToken : Bool)
  | sendQueued
  | clearQueue
  | filterPassword
  deriving DecidableEq

/-- `sendQueuedMessage` for a message. -/
def queued {M : Type} [Message M] (m : M) : Action := .queue (messageToFSDString m)

/-- `sendDirectMessage`. -/
def direct {M : Type} [Message M] (m : M) : Action := .direct (messageToFSDString m)

/-- A map from callsign texts. -/
abbrev CallsignMap (V : Type) := QString → Option V

namespace CallsignMap

def empty {V : Type} : CallsignMap V := fun _ => none

def insert {V : Type} (m : CallsignMap V) (key : QString) (v : V) : CallsignMap V :=
  Function.update m key (some v)

def remove {V : Type} (m : CallsignMap V) (key : QString) : CallsignMap V :=
  Function.update m key none

def contains {V : Type} (m : CallsignMap V) (key : QString) : Bool := (m key).isSome

variable {V : Type} (m : CallsignMap V) (key : QString) (v : V)

@[simp] theorem insert_self : m.insert key v key = some v := Function.update_self ..

@[simp] theorem remove_self : m.remove key key = none := Function.update_self ..

theorem insert_of_ne {other : QString} (h : other ≠ key) : m.insert key v other = m other :=
  Function.update_of_ne h ..

theorem remove_of_ne {other : QString} (h : other ≠ key) : m.remove key other = m other :=
  Function.update_of_ne h ..

end CallsignMap

/-- `AtisMessage`. -/
structure AtisMessage where
  voiceRoom : QString := []
  textLines : QStringList := []
  zuluLogoff : QString := []
  lineCount : ℕ := 0
  deriving DecidableEq

/-- `PendingAtisQuery`. -/
structure PendingAtisQuery where
  queryTime : ℤ
  atisMessage : QStringList := []
  deriving DecidableEq

/-- What the client remembers. -/
structure ClientState where
  connectionStatus : ConnectionStatus := .disconnected
  rehosting : Bool := false
  stoppedSendingVisualPositions : Bool := false
  serverWantsVisualPositions : Bool := false
  visualPositionUpdateSentCount : ℕ := 0
  textMessagesToConsolidate : List ReceivedText := []
  digestInputs : ℕ := 0
  pendingAtisQueries : CallsignMap PendingAtisQuery := .empty
  mapAtisMessages : CallsignMap AtisMessage := .empty
  lastPositionUpdate : CallsignMap ℤ := .empty
  lastOffsetTimes : CallsignMap (List ℤ) := .empty
  interimPositionReceivers : CallsignMap Unit := .empty
  atcStations : List AtcStation := []
  loginSince : ℤ := -1
  positionTimers : Bool := false
  clientAuth : List AuthCall := []
  serverAuth : List AuthCall := []
  lastServerAuthChallenge : QString := []

/-- `clearState()`. The queue is cleared with it, which is the outbox's part.
    The ATIS messages under assembly and the interim receivers stay. -/
def clearState (s : ClientState) : ClientState :=
  { s with
    rehosting := false
    stoppedSendingVisualPositions := false
    serverWantsVisualPositions := false
    visualPositionUpdateSentCount := 0
    textMessagesToConsolidate := []
    pendingAtisQueries := .empty
    lastPositionUpdate := .empty
    lastOffsetTimes := .empty
    atcStations := []
    loginSince := -1 }

/-- `clearState(callsign)`. -/
def clearStateOf (s : ClientState) (callsign : Callsign) : ClientState :=
  if callsign.isEmpty then s
  else { s with
    pendingAtisQueries := s.pendingAtisQueries.remove callsign.callsign
    lastPositionUpdate := s.lastPositionUpdate.remove callsign.callsign
    interimPositionReceivers := s.interimPositionReceivers.remove callsign.callsign
    lastOffsetTimes := s.lastOffsetTimes.remove callsign.callsign }

/-- What a handler makes of the state: a fault, or the next state and its
    actions. -/
abbrev Handled := Except Fault (ClientState × List Action)

end NeoSwift.Fsd
