import NeoSwift.Fsd.Client.Outbox

/-!
# Sessions

Everything that happens to a client from the outside: lines, the progress of a
connection, timers, and what the user asks for. `handle` says what an event
does to the state and which actions it takes; the core is that as a machine, and
the client is the core with an outbox behind it.

An event comes when it may, not only when a well-behaved network would let it
come: a line can arrive before the connection is there, and a token after it is
gone.

## Main definitions

* `Request`: A message the client is asked to send.
* `Event`: What happens to a client.
* `handle`: What the client does about it.
* `core`, `client`: The machines.

## Theorems

* `client_run`: A run of the client is a run of the core, and the outbox on its
  actions.
-/

namespace NeoSwift.Fsd

open Aviation (Callsign)

/-- A message the client is asked to send. Logins are none of these: the client
    makes them itself. -/
structure Request where
  kind : MessageKind
  message : kind.Carrier
  not_login : kind ≠ .addPilot ∧ kind ≠ .addAtc

/-- What happens to a client. -/
inductive Event where
  | lineReceived (env : Env) (lineRaw : QString)
  | connectToServer (env : Env)
  | hostResolved (host : QString)
  | socketConnected
  | tokenIssued
  | tokenRefused (env : Env)
  | sendTimer
  | digestTimer
  | visualPilotDataUpdate (env : Env) (slowUpdate : Bool)
  | send (request : Request)
  | queryAtis (env : Env) (callsign : Callsign)
  | setInterimPositionReceivers (receivers : CallsignMap Unit)
  | remoteHostClosed (env : Env)
  | webSocketDisconnected (env : Env)
  | pendingTimeout (env : Env)
  | disconnectFromServer (env : Env)
  | rehosted
  | rehostFailed (env : Env)

/-- A line goes to the log before anything else. -/
def Event.logged : Event → List Action
  | .lineReceived _ lineRaw => [.rawReceived lineRaw.trimmed]
  | _ => []

/-- `startPositionTimers`. -/
def startPositionTimers (s : ClientState) : ClientState × List Action :=
  ({ s with positionTimers := true }, [.clearQueue])

/-- `connectToServer`. Where the host has to be resolved first, the rest of the
    connection is an event of its own. -/
def connectToServer (cfg : Config) (env : Env) (s : ClientState) : Handled :=
  if env.transportOpen then .ok (s, [])
  else if cfg.clientName = [] ∨ cfg.versionMajor + cfg.versionMinor ≤ 0 ∨ cfg.capabilities = [] then
    .error .assertion
  else
    let connecting := updateConnectionStatus .connecting { clearState s with loginSince := env.now }
    let actions := [.clearQueue, .filterPassword] ++ connecting.2
    if cfg.usesWebSocket || env.resolvesAtOnce then
      let started := startPositionTimers connecting.1
      .ok (started.1, actions ++ .connectToHost cfg.address :: started.2)
    else .ok (connecting.1, actions)

/-- `handleSocketConnected`. -/
def handleSocketConnected (cfg : Config) (s : ClientState) : ClientState × List Action :=
  if cfg.protocolRevision = protocolRevisionClassic then
    let connected := updateConnectionStatus .connected s
    (connected.1, .login false :: connected.2)
  else (s, [])

/-- The token of a JWT login has arrived. -/
def handleToken (s : ClientState) : ClientState × List Action :=
  let connected := updateConnectionStatus .connected s
  (connected.1, .login true :: connected.2)

/-- The speed below which an aircraft stands, in metres and radians per second. -/
def minVelocity : ℚ := 5 / 100000

def VisualState.stands (v : VisualState) : Bool :=
  [v.xVelocity, v.yVelocity, v.zVelocity, v.pitchRadPerSec, v.bankRadPerSec,
    v.headingRadPerSec].all (fun velocity => decide (|velocity| < minVelocity))

/-- The last part of `sendVisualPilotDataUpdate`. Every twenty-fifth position is
    a periodic one. -/
def sendVisualPosition (cfg : Config) (env : Env) (s : ClientState) : ClientState × List Action :=
  let v := env.visual
  let sender := cfg.ownCallsign.callsign
  if s.stoppedSendingVisualPositions then
    (s, [queued (VisualPilotDataStopped.create sender v.latitude v.longitude v.altitudeTrue
      v.heightAgl v.pitch v.bank v.heading v.noseGearAngle)])
  else
    let s' := { s with visualPositionUpdateSentCount := s.visualPositionUpdateSentCount + 1 }
    if s.visualPositionUpdateSentCount % 25 = 0 then
      (s', [queued (VisualPilotDataPeriodic.create sender v)])
    else (s', [queued (VisualPilotDataUpdate.create sender v)])

/-- `sendVisualPilotDataUpdate`. -/
def sendVisualPilotDataUpdate (cfg : Config) (env : Env) (slowUpdate : Bool) (s : ClientState) :
    ClientState × List Action :=
  if s.connectionStatus = .disconnected ∧ ¬cfg.unitTestMode then (s, [])
  else if cfg.loginMode = .observer ∨ ¬cfg.sendVisualPositions then (s, [])
  else if slowUpdate then sendVisualPosition cfg env s
  else if env.visual.stands ∧ s.stoppedSendingVisualPositions then (s, [])
  else
    let s' :=
      if env.visual.stands then
        { s with stoppedSendingVisualPositions := true, visualPositionUpdateSentCount := 0 }
      else { s with stoppedSendingVisualPositions := false }
    if s.serverWantsVisualPositions then sendVisualPosition cfg env s' else (s', [])

/-- `sendClientQueryAtis`. -/
def sendClientQueryAtis (cfg : Config) (env : Env) (callsign : Callsign) (s : ClientState) :
    ClientState × List Action :=
  let query := queued (ClientQuery.create cfg.ownCallsign.callsign callsign.getFsdCallsignString
    .atis [])
  if cfg.vatsimServer then (s, [query])
  else
    let pending : PendingAtisQuery := { queryTime := env.now }
    ({ s with pendingAtisQueries := s.pendingAtisQueries.insert callsign.callsign pending },
      [query])

/-- The transport has failed: the client says so and disconnects. -/
def disconnectSeverely (cfg : Config) (env : Env) (s : ClientState) : ClientState × List Action :=
  let disconnected := disconnectFromServer cfg env s
  (disconnected.1, .emit .severeNetworkError :: disconnected.2)

/-- `handleSocketError` when the server has closed the connection. -/
def handleRemoteHostClosed (cfg : Config) (env : Env) (s : ClientState) :
    ClientState × List Action :=
  if s.rehosting then (s, []) else disconnectSeverely cfg env s

/-- `handleWebSocketDisconnected`. -/
def handleWebSocketDisconnected (cfg : Config) (env : Env) (s : ClientState) :
    ClientState × List Action :=
  if s.rehosting || s.connectionStatus = .disconnected || s.connectionStatus = .disconnecting then
    (s, [])
  else disconnectSeverely cfg env s

def pendingConnectionTimeoutMs : ℤ := 7500

/-- `pendingTimeoutCheck`. -/
def pendingTimeoutCheck (cfg : Config) (env : Env) (s : ClientState) : ClientState × List Action :=
  if s.connectionStatus ≠ .connecting ∧ s.connectionStatus ≠ .disconnecting then (s, [])
  else if env.now - s.loginSince < pendingConnectionTimeoutMs then (s, [])
  else disconnectFromServer cfg env s

/-- A move to another server has failed. -/
def handleRehostFailed (env : Env) (s : ClientState) : ClientState × List Action :=
  let s' := { s with rehosting := false }
  if env.transportConnected then (s', []) else updateConnectionStatus .disconnected s'

/-- What the client does about an event. -/
def handle (cfg : Config) (table : List (QString × MessageType)) (s : ClientState) :
    Event → Handled
  | .lineReceived env lineRaw => parseMessage cfg env table lineRaw s
  | .connectToServer env => connectToServer cfg env s
  | .hostResolved host =>
    let started := startPositionTimers s
    .ok (started.1, .connectToHost host :: started.2)
  | .socketConnected => .ok (handleSocketConnected cfg s)
  | .tokenIssued => .ok (handleToken s)
  | .tokenRefused env => .ok (disconnectFromServer cfg env s)
  | .sendTimer => .ok (s, if s.positionTimers then [.sendQueued] else [])
  | .digestTimer =>
    if s.digestInputs = 0 then .ok (s, []) else .ok (emitConsolidatedTextMessages s)
  | .visualPilotDataUpdate env slowUpdate => .ok (sendVisualPilotDataUpdate cfg env slowUpdate s)
  | .send request => .ok (s, [queued request.message])
  | .queryAtis env callsign => .ok (sendClientQueryAtis cfg env callsign s)
  | .setInterimPositionReceivers receivers =>
    .ok ({ s with interimPositionReceivers := receivers }, [])
  | .remoteHostClosed env => .ok (handleRemoteHostClosed cfg env s)
  | .webSocketDisconnected env => .ok (handleWebSocketDisconnected cfg env s)
  | .pendingTimeout env => .ok (pendingTimeoutCheck cfg env s)
  | .disconnectFromServer env => .ok (disconnectFromServer cfg env s)
  | .rehosted => .ok ({ s with rehosting := false }, [])
  | .rehostFailed env => .ok (handleRehostFailed env s)

/-- The core as a machine. A fault ends the program. -/
def core (cfg : Config) (table : List (QString × MessageType)) :
    Machine (Except Fault ClientState) Event Action where
  step
    | .error fault, _ => (.error fault, [])
    | .ok s, event =>
      match handle cfg table s event with
      | .error fault => (.error fault, event.logged)
      | .ok (s', actions) => (.ok s', event.logged ++ actions)

/-- The client: the core and its outbox. -/
def client (cfg : Config) (secret : Secret) (table : List (QString × MessageType)) :
    Machine (Except Fault ClientState × Outbox) Event Output :=
  (core cfg table).cascade (outbox cfg secret)

/-- A run of the client is a run of the core, and the outbox on its actions. -/
theorem client_run (cfg : Config) (secret : Secret) (table : List (QString × MessageType))
    (s : Except Fault ClientState) (o : Outbox) (events : List Event) :
    (client cfg secret table).run (s, o) events
      = ((((core cfg table).run s events).1,
          ((outbox cfg secret).run o ((core cfg table).run s events).2).1),
        ((outbox cfg secret).run o ((core cfg table).run s events).2).2) :=
  Machine.cascade_run _ _ s o events

end NeoSwift.Fsd
