import NeoSwift.Fsd.Client.Connection

/-!
# The Handlers

What the client does with a received message of each type. A handler reads the
message from the tokens of its line, with whatever length check the message
type makes, and acts on what it gets: on a line that is too short this is a
message of default values.

## Main definitions

* One handler for each message type, under its name in the program.
* `updateAtisMap`: The assembly of ATIS lines.
* `dispatch`: The handler of a message type.
* `parseMessage`: What the client does with a line.
-/

namespace NeoSwift.Fsd

open Aviation (Callsign TypeHint Unicode)

variable (cfg : Config) (env : Env)

/-- The larger of a range and the one of its kind of station. Ranges are in
    nautical miles. -/
def fixAtcRange (networkRange : ℤ) (cs : Callsign) : ℤ :=
  let suffix := cs.getSuffix cfg.unicode
  if suffix.contains "ATIS" then max networkRange 150
  else if suffix.contains "GND" then max networkRange 10
  else if suffix.contains "TWR" then max networkRange 25
  else if suffix.contains "DEP" then max networkRange 150
  else if suffix.contains "APP" then max networkRange 150
  else if suffix.contains "CTR" then max networkRange 300
  else if suffix.contains "FSS" then max networkRange 1500
  else networkRange

/-- `replaceOrAddObjectByCallsign`. -/
def replaceOrAddStation (station : AtcStation) (stations : List AtcStation) : List AtcStation :=
  if station.callsign.isEmpty then stations
  else stations.filter (fun other => !other.callsign.equals station.callsign) ++ [station]

/-- The station is kept and emitted. -/
def handleAtcDataUpdate (tokens : QStringList) (s : ClientState) : Handled := do
  let atcDataUpdate ← AtcDataUpdate.fromTokens tokens
  let cs := Callsign.create cfg.unicode atcDataUpdate.sender .atc
  -- Stations that are no controllers are filtered out.
  if atcDataUpdate.facility = .unknown ∧ ¬cs.isObserverCallsign then return (s, [])
  if atcDataUpdate.facility = .obs ∧ ¬cs.hasSuffix then return (s, [])
  let station : AtcStation := {
    callsign := cs
    frequencykHz := atcDataUpdate.frequencykHz
    latitude := atcDataUpdate.latitude
    longitude := atcDataUpdate.longitude
    range := fixAtcRange cfg atcDataUpdate.visibleRange.toInt cs }
  return ({ s with atcStations := replaceOrAddStation station s.atcStations },
    [.emit (.atcDataUpdateReceived station)])

/-- The answer, and a challenge of its own. -/
def handleAuthChallenge (tokens : QStringList) (s : ClientState) : Handled := do
  let authChallenge ← AuthChallenge.fromTokens tokens
  let clientAuth := s.clientAuth ++ [.generateResponse authChallenge.challengeKey]
  let serverAuth := s.serverAuth ++ [.generateChallenge]
  let challenge := cfg.auth.challenge serverAuth
  return ({ s with clientAuth, serverAuth, lastServerAuthChallenge := challenge },
    [direct (AuthResponse.create cfg.ownCallsign.callsign "SERVER"
        (cfg.auth.response clientAuth)),
      direct (AuthChallenge.create cfg.ownCallsign.callsign "SERVER" challenge)])

/-- The server has to know the secret. -/
def handleAuthResponse (tokens : QStringList) (s : ClientState) : Handled := do
  let authResponse ← AuthResponse.fromTokens tokens
  let serverAuth := s.serverAuth ++ [.generateResponse s.lastServerAuthChallenge]
  let s' := { s with serverAuth }
  if authResponse.response = cfg.auth.response serverAuth then return (s', [])
  else return disconnectFromServer cfg env s'

/-- A controller has gone. -/
def handleDeleteATC (tokens : QStringList) (s : ClientState) : Handled := do
  let deleteAtc ← DeleteAtc.fromTokens tokens
  let cs := Callsign.create cfg.unicode deleteAtc.cid .noHint
  return ({ s with atcStations := s.atcStations.filter (fun other => !other.callsign.equals cs) },
    [.emit (.deleteAtcReceived deleteAtc.cid)])

/-- A pilot has gone. -/
def handleDeletePilot (tokens : QStringList) (s : ClientState) : Handled := do
  let deletePilot ← DeletePilot.fromTokens tokens
  let cs := Callsign.create cfg.unicode deletePilot.sender .aircraft
  return (clearStateOf s cs, [.emit (.deletePilotReceived deletePilot.cid)])

/-- Up to four digits and a `z`. -/
def isLogoffTime (message : QString) : Bool :=
  message.getLast? == some 'z' && message.dropLast.length ≤ 4
    && message.dropLast.all Char.isDigit

/-- `maybeHandleAtisReply`. An answer that takes more than five seconds becomes
    a text message; a logoff time ends an ATIS. -/
def maybeHandleAtisReply (sender receiver : Callsign) (message : QString)
    (pendingQuery : PendingAtisQuery) (s : ClientState) : ClientState × List Action :=
  let key := sender.callsign
  let atisLines := pendingQuery.atisMessage ++ [message]
  let s' := { s with pendingAtisQueries :=
    s.pendingAtisQueries.insert key { pendingQuery with atisMessage := atisLines } }
  if 5 < Int.tdiv (env.now - pendingQuery.queryTime) 1000 then
    let tm := privateText (QString.join atisLines "\n") sender receiver
    let sent := consolidateTextMessage tm s'
    ({ sent.1 with pendingAtisQueries := sent.1.pendingAtisQueries.remove key }, sent.2)
  else if isLogoffTime message then
    ({ s' with pendingAtisQueries := s'.pendingAtisQueries.remove key },
      [.emit (.atisLogoffTimeReplyReceived sender message),
        .emit (.atisReplyReceived (Callsign.create cfg.unicode sender.callsign .atc)
          (appendLines atisLines))])
  else (s', [])

/-- By its receiver, a radio or a private message. -/
def handleTextMessage (tokens : QStringList) (s : ClientState) : Handled := do
  let textMessage ← TextMessage.fromTokens tokens
  let sender := Callsign.create cfg.unicode textMessage.sender .noHint
  let receiver := Callsign.create cfg.unicode textMessage.receiver .noHint
  match textMessage.type with
  | .privateMessage =>
    match s.pendingAtisQueries sender.callsign with
    | some pendingQuery =>
      if ¬cfg.usesVatsimAtisMessages ∧ cfg.ownCallsign.callsign = textMessage.receiver then
        return maybeHandleAtisReply cfg env sender receiver textMessage.message pendingQuery s
      else return consolidateTextMessage (privateText textMessage.message sender receiver) s
    | none => return consolidateTextMessage (privateText textMessage.message sender receiver) s
  | .radioMessage =>
    let frequencies := textMessage.frequencies.filterMap env.matchOwnFrequency
    if frequencies = [] then return (s, [])
    else return (s, [.emit (.textMessagesReceived (frequencies.map (fun frequency =>
      { message := textMessage.message.simplified, sender, frequency := some frequency })))])

/-- `CTransponder::isValidTransponderCode`: up to four octal digits. -/
def isValidTransponderCode (transponderCode : Int32) : Bool :=
  0 ≤ transponderCode.toInt && transponderCode.toInt ≤ 7777
    && (QString.number transponderCode.toInt).all (fun c => '0' ≤ c && c ≤ '7')

/-- A position with the time offset. -/
def handlePilotDataUpdate (tokens : QStringList) (s : ClientState) : Handled := do
  let dataUpdate ← PilotDataUpdate.fromTokens tokens
  let callsign := Callsign.create cfg.unicode dataUpdate.sender .aircraft
  let (s', offsetTimeMs) ← receivedPositionFixTsAndGetOffsetTime cfg callsign env.now s
  let situation : AircraftSituation := {
    callsign
    latitude := dataUpdate.latitude
    longitude := dataUpdate.longitude
    altitude := dataUpdate.altitudeTrue.toInt
    heading := dataUpdate.attitude.heading
    pitch := dataUpdate.attitude.pitch
    bank := dataUpdate.attitude.bank
    groundSpeed := dataUpdate.groundSpeed
    pressureAltitude := some dataUpdate.altitudePressure
    onGround := dataUpdate.attitude.onGround
    timestamp := env.now
    timeOffsetMs := offsetTimeMs }
  -- A code that is none is replaced by one for IFR, on standby.
  if isValidTransponderCode dataUpdate.transponderCode then
    return (s', [.emit (.pilotDataUpdateReceived situation dataUpdate.transponderCode
      dataUpdate.transponderMode)])
  else return (s', [.emit (.pilotDataUpdateReceived situation 2000 .stateStandby)])

/-- A position and its parts. -/
def handleEuroscopeSimData (tokens : QStringList) (s : ClientState) : Handled := do
  let data ← EuroscopeSimData.fromTokens tokens
  let callsign := Callsign.create cfg.unicode data.sender .aircraft
  let (s', offsetTimeMs) ← receivedPositionFixTsAndGetOffsetTime cfg callsign env.now s
  let situation : AircraftSituation := {
    callsign
    latitude := data.latitude
    longitude := data.longitude
    altitude := data.altitude
    heading := data.heading
    pitch := -data.pitch.toInt
    bank := -data.bank.toInt
    groundSpeed := data.groundSpeed
    onGround := data.onGround
    timestamp := env.now
    timeOffsetMs := offsetTimeMs }
  let currentOffset ← currentOffsetTime (Callsign.create cfg.unicode data.sender .noHint) s'
  return (s', [.emit (.euroscopeSimDataUpdatedReceived situation data.lights
    (data.gearPercent != 0) data.onGround currentOffset data.model data.livery)])

/-- Whether the server wants visual positions. -/
def handleVisualPilotDataToggle (tokens : QStringList) (s : ClientState) : Handled := do
  let toggle ← VisualPilotDataToggle.fromTokens tokens
  return ({ s with serverWantsVisualPositions := toggle.active }, [])

/-- It is answered with its own time. -/
def handlePing (tokens : QStringList) (s : ClientState) : Handled := do
  let ping ← Ping.fromTokens tokens
  return (s, [queued (Pong.create cfg.ownCallsign.callsign ping.sender ping.timestamp)])

/-- The time that has passed since. -/
def handlePong (tokens : QStringList) (s : ClientState) : Handled := do
  let pong ← Pong.fromTokens tokens
  let elapsedTime := env.now - pong.timestamp.toLongLong.toInt
  return (s, [.emit (.pongReceived pong.sender elapsedTime)])

/-- It disconnects, and the reason is emitted. -/
def handleKillRequest (tokens : QStringList) (s : ClientState) : Handled := do
  let killRequest ← KillRequest.fromTokens tokens
  let (s', actions) := disconnectFromServer cfg env s
  return (s', .emit (.killRequestReceived killRequest.reason) :: actions)

/-- The cruise altitude as it is parsed: digits alone become a flight level or
    feet, depending on the rules. -/
def cruiseAltString (cruiseAlt : QString) (rules : FlightRules) : QString :=
  let text := cruiseAlt.trimmed
  if text ≠ [] ∧ text.all Char.isDigit then
    let ca := text.toInt
    let level := "FL" ++ QString.number (Int.tdiv ca.toInt 100)
    if rules = .ifr then if 1000 ≤ ca.toInt then level else "FL" ++ text
    else if 5000 ≤ ca.toInt then level else text ++ "ft"
  else text

/-- The rules of a type of flight. -/
def flightRules : FlightType → FlightRules
  | .vfr => .vfr
  | .ifr => .ifr
  | .dvfr => .dvfr
  | .svfr => .svfr

/-- The last four digits of a time. -/
def timeText (time : Int32) : QString :=
  QString.right ("0000" ++ QString.number time.toInt) 4

/-- The text fields become a plan. -/
def handleFlightPlan (tokens : QStringList) (s : ClientState) : Handled := do
  let fp ← FlightPlan.fromTokens tokens
  let plan : ReceivedFlightPlan := {
    callsign := Callsign.create cfg.unicode fp.sender .aircraft
    aircraftInfo := fp.aircraftIcaoType
    depAirport := fp.depAirport
    destAirport := fp.destAirport
    altAirport := fp.altAirport
    depTimePlanned := timeText fp.estimatedDepTime
    depTimeActual := timeText fp.actualDepTime
    enrouteMinutes := fp.hoursEnroute * 60 + fp.minutesEnroute
    fuelMinutes := fp.fuelAvailHours * 60 + fp.fuelAvailMinutes
    cruiseAlt := cruiseAltString fp.cruiseAlt (flightRules fp.flightType)
    trueCruisingSpeed := fp.trueCruisingSpeed
    rules := flightRules fp.flightType
    route := fp.route
    remarks := fp.remarks }
  return (s, [.emit (.flightPlanReceived plan)])

/-- `sendAircraftConfiguration`. -/
def sendAircraftConfiguration (receiver aircraftConfigJson : QString) : List Action :=
  if aircraftConfigJson = [] then []
  else [queued (ClientQuery.create cfg.ownCallsign.callsign receiver .aircraftConfig
    [aircraftConfigJson])]

/-- The aircraft configuration in a query: a request for the own one, or the one
    of another aircraft, which matters when the aircraft is in range. -/
def handleAircraftConfig (sender : QString) (data : QStringList) (s : ClientState) : Handled :=
  let callsign := Callsign.create cfg.unicode sender .aircraft
  match env.parseAircraftConfig (QString.join data ":") with
  | .malformed => .ok (s, [])
  | .request => .ok (s, sendAircraftConfiguration cfg sender env.ownPartsJson)
  | .config config =>
    if env.isAircraftInRange callsign && cfg.receiveAircraftParts then
      match config with
      | none => .ok (s, [])
      | some text => do
        let offsetTimeMs ← currentOffsetTime callsign s
        return (s, [.emit (.aircraftConfigReceived sender text offsetTimeMs)])
    else .ok (s, [])

/-- The queries that are answered. -/
def handleClientQuery (tokens : QStringList) (s : ClientState) : Handled := do
  let clientQuery ← ClientQuery.fromTokens tokens
  match clientQuery.queryType with
  | .capabilities | .com1Freq | .realName | .server | .inf =>
    return (s, sendClientResponse cfg env clientQuery.queryType clientQuery.sender)
  | .aircraftConfig => handleAircraftConfig cfg env clientQuery.sender (tokens.drop 3) s
  | _ => return (s, [])

/-- The capabilities another client has said it has. -/
def readCapabilities (responseData : QStringList) : List Capability :=
  responseData.filterMap (fun keyValuePair =>
    match keyValuePair.split '=' with
    | [key, value] => if value = "1" then Capability.fromQString key else none
    | _ => none)

/-- What the text of capabilities stands for. -/
def clientCapabilities (capabilities : List Capability) : List ClientCapability :=
  (if Capability.atcInfo ∈ capabilities then [.fsdAtisCanBeReceived] else [])
    ++ (if Capability.fastPos ∈ capabilities then [.fsdWithInterimPositions] else [])
    ++ (if Capability.visPos ∈ capabilities then [.fsdWithVisualPositions] else [])
    ++ (if Capability.aircraftInfo ∈ capabilities then [.fsdWithIcaoCodes] else [])
    ++ (if Capability.aircraftConfig ∈ capabilities then [.fsdWithAircraftConfig] else [])

/-- A line that only holds the place of another one: `z`, `z1` and the like, and
    any single character. -/
def isAtisPlaceholder (u : Unicode) (line : QString) : Bool :=
  let test : QString := (u.toLower line).filter (fun c => c != '\n' && c != '\t' && c != '\r')
  (QString.startsWith test "z" && QString.size test == 2) || QString.size test == 1

/-- The loop over the text lines of an ATIS, `none` where a placeholder ends
    it. Blank lines are left out. -/
def atisText (u : Unicode) (message : QString) : QStringList → Option QString
  | [] => some message
  | tm :: textLines =>
    let fixed := tm.trimmed
    if fixed = [] then atisText u message textLines
    else if isAtisPlaceholder u fixed then none
    else atisText u (if message = [] then fixed else message ++ "\n" ++ fixed) textLines

/-- `updateAtisMap`. A line of no known type ends an ATIS like the line count
    does. -/
def updateAtisMap (callsign : QString) (type : AtisLineType) (line : QString)
    (s : ClientState) : ClientState × List Action :=
  let atis := (s.mapAtisMessages callsign).getD {}
  let counted := { atis with lineCount := atis.lineCount + 1 }
  let update := fun atis : AtisMessage =>
    { s with mapAtisMessages := s.mapAtisMessages.insert callsign atis }
  match type with
  | .voiceRoom => (update { counted with voiceRoom := line }, [])
  | .textMessage => (update { counted with textLines := atis.textLines ++ [line] }, [])
  | .zuluLogoff => (update { counted with zuluLogoff := line }, [])
  | _ =>
    if s.mapAtisMessages.contains callsign then
      let cs := Callsign.create cfg.unicode callsign .atc
      let logoff : Action := .emit (.atisLogoffTimeReplyReceived cs atis.zuluLogoff)
      match atisText cfg.unicode [] atis.textLines with
      | none => (update counted, [logoff])
      | some message =>
        ({ s with mapAtisMessages := s.mapAtisMessages.remove callsign },
          [logoff, .emit (.atisReplyReceived cs message)])
    else (s, [])

def handleClientResponse (tokens : QStringList) (s : ClientState) : Handled := do
  let clientResponse ← ClientResponse.fromTokens tokens
  let sender := clientResponse.sender
  let responseData1 := clientResponse.responseData.getD 0 []
  let responseData2 := clientResponse.responseData.getD 1 []
  match clientResponse.queryType with
  | .isValidATC =>
    return (s, [.emit (.validAtcResponseReceived responseData2 (responseData1 = "Y"))])
  | .capabilities =>
    return (s, [.emit (.capabilityResponseReceived (Callsign.create cfg.unicode sender .noHint)
      (clientCapabilities (readCapabilities clientResponse.responseData)))])
  | .com1Freq =>
    match responseData1.toDouble? with
    | none => return (s, [])
    | some freqMHz => return (s, [.emit (.com1FrequencyResponseReceived sender freqMHz)])
  | .realName => return (s, [.emit (.realNameResponseReceived sender responseData1)])
  | .server => return (s, [.emit (.serverResponseReceived sender responseData1)])
  | .atis =>
    return updateAtisMap cfg sender (AtisLineType.fromQString responseData1) responseData2 s
  | _ => return (s, [])

def handleServerError (tokens : QStringList) (s : ClientState) : Handled := do
  let serverError ← ServerError.fromTokens tokens
  if serverError.isFatalError then return disconnectFromServer cfg env s
  else return (s, [])

/-- A client that is already moving logs that and moves again. -/
def handleRehost (tokens : QStringList) (s : ClientState) : Handled := do
  let rehost ← Rehost.fromTokens tokens
  if cfg.usesWebSocket then return (s, [])
  else return ({ s with rehosting := true }, [.connectToHost rehost.hostname])

def handleMute (tokens : QStringList) (s : ClientState) : Handled := do
  let mute ← Mute.fromTokens tokens
  if mute.receiver = cfg.ownCallsign.callsign then
    return (s, [.emit (.muteRequestReceived mute.mute)])
  else return (s, [])

/-- `sendPlaneInformationFsinn`. -/
def sendPlaneInformationFsinn (callsign : Callsign) (s : ClientState) : List Action :=
  if s.connectionStatus = .disconnected ∧ ¬cfg.unitTestMode then []
  else [queued (PlaneInformationFsinn.create cfg.ownCallsign.callsign callsign.callsign
    env.airlineIcao env.aircraftIcao env.aircraftIcaoCombinedType env.modelString)]

def handlePlaneInfoRequest (tokens : QStringList) (s : ClientState) : Handled := do
  let planeInfoRequest ← PlaneInfoRequest.fromTokens tokens
  let airlineIcao := if cfg.force3LetterAirlineCodes then env.airlineIcao else env.airlineVIcao
  return (s, [queued (PlaneInformation.create cfg.ownCallsign.callsign planeInfoRequest.sender
    env.aircraftIcao airlineIcao env.livery)])

def handlePlaneInformation (tokens : QStringList) (s : ClientState) : Handled := do
  let planeInformation ← PlaneInformation.fromTokens tokens
  return (s, [.emit (.planeInformationReceived planeInformation.sender planeInformation.aircraft
    planeInformation.airline planeInformation.livery)])

/-- Only if interim positions are received. -/
def handleInterimPilotDataUpdate (tokens : QStringList) (s : ClientState) : Handled :=
  if ¬cfg.receiveInterimPositions then .ok (s, [])
  else do
    let interim ← InterimPilotDataUpdate.fromTokens tokens
    let callsign := Callsign.create cfg.unicode interim.sender .aircraft
    let (s', offsetTimeMs) ← receivedPositionFixTsAndGetOffsetTime cfg callsign env.now s
    let situation : AircraftSituation := {
      callsign
      latitude := interim.latitude
      longitude := interim.longitude
      altitude := interim.altitudeTrue.toInt
      heading := interim.attitude.heading
      pitch := interim.attitude.pitch
      bank := interim.attitude.bank
      groundSpeed := interim.groundSpeed
      onGround := interim.attitude.onGround
      timestamp := env.now
      timeOffsetMs := offsetTimeMs }
    return (s', [.emit (.interimPilotDataUpdatedReceived situation)])

def handlePlaneInformationFsinn (tokens : QStringList) (s : ClientState) : Handled := do
  let information ← PlaneInformationFsinn.fromTokens tokens
  return (s, [.emit (.planeInformationFsinnReceived
    (Callsign.create cfg.unicode information.sender .noHint) information.airlineIcao
    information.aircraftIcao information.aircraftIcaoCombinedType information.sendMModelString)])

/-- It is emitted, and answered. -/
def handlePlaneInfoRequestFsinn (tokens : QStringList) (s : ClientState) : Handled := do
  let request ← PlaneInfoRequestFsinn.fromTokens tokens
  let callsign := Callsign.create cfg.unicode request.sender .noHint
  return (s, sendPlaneInformationFsinn cfg env callsign s ++
    [.emit (.planeInformationFsinnReceived callsign request.airlineIcao request.aircraftIcao
      request.aircraftIcaoCombinedType request.sendMModelString)])

/-- By the type of the packet. -/
def handleCustomPilotPacket (tokens : QStringList) (s : ClientState) : Handled := do
  match ← customPacket tokens with
  | .planeInfoRequest => handlePlaneInfoRequest cfg env tokens s
  | .planeInformation => handlePlaneInformation tokens s
  | .interimPilotDataUpdate => handleInterimPilotDataUpdate cfg env tokens s
  | .planeInformationFsinn => handlePlaneInformationFsinn cfg tokens s
  | .planeInfoRequestFsinn => handlePlaneInfoRequestFsinn cfg env tokens s
  | .ignored => return (s, [])
  | .unknownOpcode =>
    return (s, [.emit (.customPilotPacketReceived (← tokenAt tokens 0) (tokens.drop 3))])

/-- The first revision with VATSIM authentication. -/
def protocolRevisionVatsimAuth : Int32 := 100

/-- Without authentication. -/
def protocolRevisionClassic : Int32 := 9

/-- `sendClientIdentification`. The token of a JWT login comes later, with an
    event of its own. -/
def sendClientIdentification (fsdChallenge : QString) (s : ClientState) :
    ClientState × List Action :=
  let identification :=
    if cfg.vatsimSupport ∧ cfg.useChallenge then
      [queued (ClientIdentification.create cfg.ownCallsign.callsign cfg.clientId cfg.clientName
        cfg.versionMajor cfg.versionMinor cfg.cid env.sysUid fsdChallenge)]
    else []
  if cfg.useJwt then (s, identification ++ [.requestToken])
  else
    let connected := updateConnectionStatus .connected s
    (connected.1, identification ++ [.login false] ++ connected.2)

/-- The login follows the identification. -/
def handleFsdIdentification (tokens : QStringList) (s : ClientState) : Handled :=
  if protocolRevisionVatsimAuth ≤ cfg.protocolRevision then do
    let fsdIdentification ← FSDIdentification.fromTokens tokens
    let clientAuth := s.clientAuth ++ [.setInitialChallenge fsdIdentification.initialChallenge]
    let fsdChallenge := cfg.auth.challenge (s.serverAuth ++ [.generateChallenge])
    let serverAuth := s.serverAuth ++ [.generateChallenge, .setInitialChallenge fsdChallenge]
    return sendClientIdentification cfg env fsdChallenge { s with clientAuth, serverAuth }
  else .ok (disconnectFromServer cfg env s)

/-- The handler of a message type. Types that are ignored, not supported by the
    build, or not handled leave the client as it is. -/
def dispatch (messageType : MessageType) (tokens : QStringList) (s : ClientState) : Handled :=
  match messageType with
  | .atcDataUpdate => handleAtcDataUpdate cfg tokens s
  | .authChallenge =>
    if cfg.vatsimSupport ∧ cfg.useChallenge then handleAuthChallenge cfg tokens s
    else .ok (s, [])
  | .authResponse =>
    if cfg.vatsimSupport ∧ cfg.useChallenge then handleAuthResponse cfg env tokens s
    else .ok (s, [])
  | .clientQuery => handleClientQuery cfg env tokens s
  | .clientResponse => handleClientResponse cfg tokens s
  | .deleteATC => handleDeleteATC cfg tokens s
  | .deletePilot => handleDeletePilot cfg tokens s
  | .flightPlan => handleFlightPlan cfg tokens s
  | .fsdIdentification =>
    if cfg.vatsimSupport ∧ cfg.useChallenge then handleFsdIdentification cfg env tokens s
    else .ok (s, [])
  | .killRequest => handleKillRequest cfg env tokens s
  | .pilotDataUpdate => handlePilotDataUpdate cfg env tokens s
  | .ping => handlePing cfg tokens s
  | .pong => handlePong env tokens s
  | .serverError => handleServerError cfg env tokens s
  | .textMessage => handleTextMessage cfg env tokens s
  | .pilotClientCom => handleCustomPilotPacket cfg env tokens s
  | .visualPilotDataToggle => handleVisualPilotDataToggle tokens s
  | .euroscopeSimData => handleEuroscopeSimData cfg env tokens s
  | .rehost => handleRehost cfg tokens s
  | .mute => handleMute cfg tokens s
  -- The visual positions have a handler with an empty body.
  | .visualPilotDataUpdate | .visualPilotDataPeriodic | .visualPilotDataStopped => .ok (s, [])
  | .addAtc | .addPilot | .serverHeartbeat | .proController | .clientIdentification
  | .unknown => .ok (s, [])

/-- `parseMessage` behind the log of raw messages. -/
def parseMessage (table : List (QString × MessageType)) (lineRaw : QString) (s : ClientState) :
    Handled :=
  match parseLine table lineRaw with
  | .unknown _ | .noPayload _ => .ok (s, [])
  | .message messageType tokens => dispatch cfg env messageType tokens s

end NeoSwift.Fsd
