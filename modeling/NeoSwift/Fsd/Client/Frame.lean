import NeoSwift.Fsd.Client.Session
import NeoSwift.Lib.Fallible

/-!
# Frames

What most handlers leave alone. The ATIS messages under assembly belong to one
handler, the login to a few events, and the signals about traffic that comes and
goes to five message types; everything else is ordinary.

## Main definitions

* `Signal.isTraffic`: Aircraft and controllers that come, move or go.
* `Action.IsOrdinary`: Neither about traffic nor about logging in.
* `Frame`: Only ordinary actions, and no change of an ATIS.

## Theorems

* `dispatch_frame`: The handlers that keep the frame.
* `handle_frame`: The events that keep it.
-/

namespace NeoSwift.Fsd

open Aviation (Callsign)
open Fallible

/-- Aircraft and controllers that come, move or go. -/
def Signal.isTraffic : Signal → Bool
  | .atcDataUpdateReceived _ | .deleteAtcReceived _ | .deletePilotReceived _
  | .pilotDataUpdateReceived _ _ _ | .euroscopeSimDataUpdatedReceived _ _ _ _ _ _ _ => true
  | _ => false

/-- An action that is neither about traffic nor about logging in: no message
    looks like the login of a pilot, and the log filter is not armed. -/
def Action.IsOrdinary : Action → Prop
  | .emit signal => signal.isTraffic = false
  | .queue message | .direct message => ¬message.trimmed.startsWith "#AP"
  | .login _ | .rawReceived _ | .sendQueued | .filterPassword => False
  | .closeTransport | .connectToHost _ | .requestToken | .clearQueue => True

/-- What handling something may do at most. -/
structure Frame (s : ClientState) (r : ClientState × List Action) : Prop where
  atis : r.1.mapAtisMessages = s.mapAtisMessages
  actions : ∀ a ∈ r.2, a.IsOrdinary

/-- A prefix that is neither blank in front nor compatible with that of a login. -/
def isOrdinaryPdu (pdu : QString) : Bool :=
  pdu ≠ [] && pdu.head?.all (fun c => !QString.isSpace c) && !pdu.startsWith "#AP"
    && !QString.startsWith "#AP" pdu

/-- A message does not look like the login of a pilot unless its prefix does. -/
theorem not_startsWith_login {M : Type} [Message M] (m : M) (hpdu : isOrdinaryPdu (pdu M) = true) :
    ¬(messageToFSDString m).trimmed.startsWith "#AP" := by
  unfold isOrdinaryPdu at hpdu
  simp only [Bool.and_eq_true, decide_eq_true_eq, Bool.not_eq_true'] at hpdu
  rcases hpdu with ⟨⟨⟨hpdu, hhead⟩, hlogin⟩, hlogin'⟩
  intro h
  -- Trimming takes nothing from the front, as the prefix of the message starts there.
  have hfront : (messageToFSDString m).trimmed <+: messageToFSDString m := by
    have hdrop : (messageToFSDString m).dropWhile QString.isSpace = messageToFSDString m := by
      unfold messageToFSDString
      cases hp : pdu M with
      | nil => exact absurd hp hpdu
      | cons c cs =>
          have hc := QString.notSpace_of_all hhead c (by rw [hp]; rfl)
          simp [hc]
    rw [QString.trimmed, hdrop]
    exact List.rdropWhile_prefix _ _
  have hline : (messageToFSDString m).startsWith "#AP" := by
    simp only [QString.startsWith, List.isPrefixOf_iff_prefix] at h ⊢
    exact h.trans hfront
  -- The line starts with both prefixes, so one of them starts with the other.
  have hown : (messageToFSDString m).startsWith (pdu M) := by
    simp [QString.startsWith, messageToFSDString]
  rcases startsWith_or_startsWith hown hline with hpre | hpre
  · rw [hlogin'] at hpre
    cases hpre
  · rw [hlogin] at hpre
    cases hpre

/-- A request is no login. -/
theorem queued_request_isOrdinary (request : Request) : (queued request.message).IsOrdinary := by
  rcases request with ⟨kind, message, hpilot, hatc⟩
  refine not_startsWith_login message ?_
  cases kind <;> first
    | exact absurd rfl hpilot
    | decide

section

variable (cfg : Config) (env : Env) (s : ClientState)

theorem frame_refl : Frame s (s, []) := ⟨rfl, fun _ h => nomatch h⟩

theorem frame_single {s' : ClientState} {a : Action}
    (hatis : s'.mapAtisMessages = s.mapAtisMessages) (h : a.IsOrdinary) :
    Frame s (s', [a]) := by
  refine ⟨hatis, fun b hb => ?_⟩
  rw [List.mem_singleton.mp hb]
  exact h

/-- A frame of a state with the same ATIS messages. -/
theorem frame_of_atis {s₁ : ClientState} {r : ClientState × List Action} (h : Frame s₁ r)
    (hatis : s₁.mapAtisMessages = s.mapAtisMessages) : Frame s r :=
  ⟨h.atis.trans hatis, h.actions⟩

theorem updateConnectionStatus_frame (newStatus : ConnectionStatus) :
    Frame s (updateConnectionStatus newStatus s) := by
  unfold updateConnectionStatus
  split
  · exact frame_refl s
  · split
    · exact ⟨rfl, List.forall_mem_cons.mpr ⟨trivial, List.forall_mem_singleton.mpr rfl⟩⟩
    · exact frame_single s rfl rfl

theorem sendDelete_isOrdinary : (sendDelete cfg).IsOrdinary := by
  unfold sendDelete
  split
  · exact not_startsWith_login _ (by decide)
  · exact not_startsWith_login _ (by decide)

theorem disconnectFromServer_frame : Frame s (disconnectFromServer cfg env s) := by
  have hdisconnecting := updateConnectionStatus_frame { s with positionTimers := false }
    .disconnecting
  have hdisconnected := updateConnectionStatus_frame
    (updateConnectionStatus .disconnecting { s with positionTimers := false }).1 .disconnected
  refine ⟨hdisconnected.atis.trans hdisconnecting.atis, ?_⟩
  simp only [disconnectFromServer, List.forall_mem_append, List.forall_mem_singleton]
  refine ⟨⟨⟨⟨hdisconnecting.actions, ?_⟩, trivial⟩, hdisconnected.actions⟩, trivial⟩
  split
  · exact List.forall_mem_singleton.mpr (sendDelete_isOrdinary cfg)
  · exact fun a h => absurd h List.not_mem_nil

theorem disconnectSeverely_frame : Frame s (disconnectSeverely cfg env s) := by
  have hframe := disconnectFromServer_frame cfg env s
  exact ⟨hframe.atis, List.forall_mem_cons.mpr ⟨rfl, hframe.actions⟩⟩

theorem emitConsolidatedTextMessages_frame : Frame s (emitConsolidatedTextMessages s) :=
  frame_single s rfl rfl

theorem consolidateTextMessage_frame (message : ReceivedText) :
    Frame s (consolidateTextMessage message s) := by
  unfold consolidateTextMessage
  split
  · exact frame_single s rfl rfl
  · dsimp only
    split
    · exact frame_of_atis s (emitConsolidatedTextMessages_frame _) rfl
    · exact ⟨rfl, fun _ h => nomatch h⟩

theorem maybeHandleAtisReply_frame (sender receiver : Callsign) (message : QString)
    (pendingQuery : PendingAtisQuery) :
    Frame s (maybeHandleAtisReply cfg env sender receiver message pendingQuery s) := by
  unfold maybeHandleAtisReply
  split
  · exact frame_of_atis s ⟨(consolidateTextMessage_frame _ _).atis,
      (consolidateTextMessage_frame _ _).actions⟩ rfl
  · split
    · exact ⟨rfl, List.forall_mem_cons.mpr ⟨rfl, List.forall_mem_singleton.mpr rfl⟩⟩
    · exact ⟨rfl, fun _ h => nomatch h⟩

theorem sendClientResponse_frame (queryType : ClientQueryType) (receiver : QString) :
    Frame s (s, sendClientResponse cfg env queryType receiver) := by
  unfold sendClientResponse
  split
  -- Only a query of an unknown type is not answered.
  case h_6 => exact frame_refl s
  all_goals exact frame_single s rfl (not_startsWith_login _ (by decide))

theorem sendVisualPosition_frame : Frame s (sendVisualPosition cfg env s) := by
  unfold sendVisualPosition
  split
  · exact frame_single s rfl (not_startsWith_login _ (by decide))
  · split
    · exact frame_single s rfl (not_startsWith_login _ (by decide))
    · exact frame_single s rfl (not_startsWith_login _ (by decide))

theorem sendVisualPilotDataUpdate_frame (slowUpdate : Bool) :
    Frame s (sendVisualPilotDataUpdate cfg env slowUpdate s) := by
  unfold sendVisualPilotDataUpdate
  split
  · exact frame_refl s
  split
  · exact frame_refl s
  split
  · exact sendVisualPosition_frame cfg env s
  split
  · exact frame_refl s
  -- Whether the aircraft stands or moves, the ATIS messages stay.
  dsimp only
  split
  · refine frame_of_atis s (sendVisualPosition_frame cfg env _) ?_
    split <;> rfl
  · refine ⟨?_, fun _ h => nomatch h⟩
    split <;> rfl

/-! ### Handlers -/

variable (tokens : QStringList)

theorem handleAuthChallenge_frame : Ensures (Frame s) (handleAuthChallenge cfg tokens s) := by
  refine ensures_bind fun m _ => (ensures_ok _ _).mpr ⟨rfl, ?_⟩
  refine List.forall_mem_cons.mpr ⟨?_, List.forall_mem_singleton.mpr ?_⟩
  · exact not_startsWith_login _ (by decide)
  · exact not_startsWith_login _ (by decide)

theorem handleAuthResponse_frame : Ensures (Frame s) (handleAuthResponse cfg env tokens s) := by
  refine ensures_bind fun m _ => ensures_ite (fun _ => ?_) fun _ => ?_
  · exact (ensures_ok _ _).mpr ⟨rfl, fun _ h => nomatch h⟩
  · exact (ensures_ok _ _).mpr (frame_of_atis s (disconnectFromServer_frame cfg env _) rfl)

theorem handleTextMessage_frame : Ensures (Frame s) (handleTextMessage cfg env tokens s) := by
  refine ensures_bind fun m _ => ?_
  dsimp only
  split
  · split
    · refine ensures_ite (fun _ => ?_) fun _ => ?_
      · exact (ensures_ok _ _).mpr (maybeHandleAtisReply_frame cfg env s _ _ _ _)
      · exact (ensures_ok _ _).mpr (consolidateTextMessage_frame s _)
    · exact (ensures_ok _ _).mpr (consolidateTextMessage_frame s _)
  · refine ensures_ite (fun _ => ?_) fun _ => ?_
    · exact (ensures_ok _ _).mpr (frame_refl s)
    · exact (ensures_ok _ _).mpr (frame_single s rfl rfl)

theorem handleAircraftConfig_frame (sender : QString) (data : QStringList) :
    Ensures (Frame s) (handleAircraftConfig cfg env sender data s) := by
  unfold handleAircraftConfig
  split
  · exact (ensures_ok _ _).mpr (frame_refl s)
  · refine (ensures_ok _ _).mpr ?_
    unfold sendAircraftConfiguration
    split
    · exact frame_refl s
    · exact frame_single s rfl (not_startsWith_login _ (by decide))
  · refine ensures_ite (fun _ => ?_) fun _ => (ensures_ok _ _).mpr (frame_refl s)
    split
    · exact (ensures_ok _ _).mpr (frame_refl s)
    · exact ensures_bind fun _ _ => (ensures_ok _ _).mpr (frame_single s rfl rfl)

theorem handleClientQuery_frame : Ensures (Frame s) (handleClientQuery cfg env tokens s) := by
  refine ensures_bind fun m _ => ?_
  split
  case h_6 => exact handleAircraftConfig_frame cfg env s _ _
  case h_7 => exact (ensures_ok _ _).mpr (frame_refl s)
  all_goals exact (ensures_ok _ _).mpr (sendClientResponse_frame cfg env s _ _)

/-- The bookkeeping of position times leaves the ATIS messages alone. -/
theorem receivedPositionFix_atis (callsign : Callsign) (markerTs : ℤ) :
    Ensures (fun r : ClientState × ℤ => r.1.mapAtisMessages = s.mapAtisMessages)
      (receivedPositionFixTsAndGetOffsetTime cfg callsign markerTs s) := by
  refine ensures_ite (fun _ => ensures_error _ _) fun _ => ?_
  dsimp only
  split
  · exact (ensures_ok _ _).mpr rfl
  · exact (ensures_ok _ _).mpr rfl

theorem handleInterimPilotDataUpdate_frame :
    Ensures (Frame s) (handleInterimPilotDataUpdate cfg env tokens s) := by
  refine ensures_ite (fun _ => (ensures_ok _ _).mpr (frame_refl s)) fun _ => ?_
  refine ensures_bind fun m _ => ensures_bind fun fix hfix => ?_
  refine (ensures_ok _ _).mpr (frame_single s ?_ rfl)
  exact receivedPositionFix_atis cfg s _ _ fix hfix

theorem handlePlaneInfoRequestFsinn_frame :
    Ensures (Frame s) (handlePlaneInfoRequestFsinn cfg env tokens s) := by
  refine ensures_bind fun m _ => (ensures_ok _ _).mpr ⟨rfl, ?_⟩
  refine List.forall_mem_append.mpr ⟨?_, List.forall_mem_singleton.mpr rfl⟩
  unfold sendPlaneInformationFsinn
  split
  · exact fun _ h => nomatch h
  · exact List.forall_mem_singleton.mpr
      (not_startsWith_login _ (by decide))

theorem handleCustomPilotPacket_frame :
    Ensures (Frame s) (handleCustomPilotPacket cfg env tokens s) := by
  refine ensures_bind fun packet _ => ?_
  cases packet with
  | planeInfoRequest =>
      refine ensures_bind fun m _ => (ensures_ok _ _).mpr (frame_single s rfl ?_)
      exact not_startsWith_login _ (by decide)
  | planeInformation | planeInformationFsinn =>
      exact ensures_bind fun m _ => (ensures_ok _ _).mpr (frame_single s rfl rfl)
  | interimPilotDataUpdate => exact handleInterimPilotDataUpdate_frame cfg env s tokens
  | planeInfoRequestFsinn => exact handlePlaneInfoRequestFsinn_frame cfg env s tokens
  | ignored => exact (ensures_ok _ _).mpr (frame_refl s)
  | unknownOpcode =>
      exact ensures_bind fun _ _ => (ensures_ok _ _).mpr (frame_single s rfl rfl)

/-- The message types that are about traffic. -/
def MessageType.isTraffic : MessageType → Bool
  | .atcDataUpdate | .deleteATC | .deletePilot | .pilotDataUpdate | .euroscopeSimData => true
  | _ => false

/-- The handlers that keep the frame: all but those about traffic, the one that
    logs in, and the one that assembles ATIS messages. -/
theorem dispatch_frame {messageType : MessageType} (htraffic : messageType.isTraffic = false)
    (hlogin : messageType ≠ .fsdIdentification) (hatis : messageType ≠ .clientResponse) :
    Ensures (Frame s) (dispatch cfg env messageType tokens s) := by
  cases messageType with
  -- These are the ones that are excluded.
  | atcDataUpdate | deleteATC | deletePilot | pilotDataUpdate | euroscopeSimData =>
      cases htraffic
  | fsdIdentification => exact absurd rfl hlogin
  | clientResponse => exact absurd rfl hatis
  | authChallenge =>
      refine ensures_ite (fun _ => ?_) fun _ => (ensures_ok _ _).mpr (frame_refl s)
      exact handleAuthChallenge_frame cfg s tokens
  | authResponse =>
      refine ensures_ite (fun _ => ?_) fun _ => (ensures_ok _ _).mpr (frame_refl s)
      exact handleAuthResponse_frame cfg env s tokens
  -- The others read a message and then emit signals or answer with ordinary messages.
  | clientQuery => exact handleClientQuery_frame cfg env s tokens
  | flightPlan | pong =>
      exact ensures_bind fun m _ => (ensures_ok _ _).mpr (frame_single s rfl rfl)
  | killRequest =>
      refine ensures_bind fun m _ => (ensures_ok _ _).mpr ?_
      have hframe := disconnectFromServer_frame cfg env s
      exact ⟨hframe.atis, List.forall_mem_cons.mpr ⟨rfl, hframe.actions⟩⟩
  | ping =>
      refine ensures_bind fun m _ => (ensures_ok _ _).mpr (frame_single s rfl ?_)
      exact not_startsWith_login _ (by decide)
  | serverError =>
      refine ensures_bind fun m _ => ensures_ite (fun _ => ?_) fun _ => ?_
      · exact (ensures_ok _ _).mpr (disconnectFromServer_frame cfg env s)
      · exact (ensures_ok _ _).mpr (frame_refl s)
  | textMessage => exact handleTextMessage_frame cfg env s tokens
  | pilotClientCom => exact handleCustomPilotPacket_frame cfg env s tokens
  | visualPilotDataToggle =>
      exact ensures_bind fun m _ => (ensures_ok _ _).mpr ⟨rfl, fun _ h => nomatch h⟩
  | rehost =>
      refine ensures_bind fun m _ => ensures_ite (fun _ => ?_) fun _ => ?_
      · exact (ensures_ok _ _).mpr (frame_refl s)
      · exact (ensures_ok _ _).mpr (frame_single s rfl trivial)
  | mute =>
      refine ensures_bind fun m _ => ensures_ite (fun _ => ?_) fun _ => ?_
      · exact (ensures_ok _ _).mpr (frame_single s rfl rfl)
      · exact (ensures_ok _ _).mpr (frame_refl s)
  | _ => exact (ensures_ok _ _).mpr (frame_refl s)

/-- What the handlers about traffic do besides: they emit signals, and leave the
    ATIS messages alone. -/
theorem dispatch_traffic {messageType : MessageType} (htraffic : messageType.isTraffic = true) :
    Ensures (fun r => r.1.mapAtisMessages = s.mapAtisMessages ∧
      ∃ signals : List Signal, r.2 = signals.map .emit)
        (dispatch cfg env messageType tokens s) := by
  cases messageType with
  | atcDataUpdate =>
      refine ensures_bind fun m _ => ensures_ite (fun _ => ?_) fun _ => ?_
      · exact (ensures_ok _ _).mpr ⟨rfl, [], rfl⟩
      · refine ensures_ite (fun _ => ?_) fun _ => ?_
        · exact (ensures_ok _ _).mpr ⟨rfl, [], rfl⟩
        · exact (ensures_ok _ _).mpr ⟨rfl, [_], rfl⟩
  | deleteATC => exact ensures_bind fun m _ => (ensures_ok _ _).mpr ⟨rfl, [_], rfl⟩
  | deletePilot =>
      refine ensures_bind fun m _ => (ensures_ok _ _).mpr ⟨?_, [_], rfl⟩
      unfold clearStateOf
      split <;> rfl
  | pilotDataUpdate =>
      refine ensures_bind fun m _ => ensures_bind fun fix hfix => ?_
      have hatis := receivedPositionFix_atis cfg s _ _ fix hfix
      exact ensures_ite (fun _ => (ensures_ok _ _).mpr ⟨hatis, [_], rfl⟩) fun _ =>
        (ensures_ok _ _).mpr ⟨hatis, [_], rfl⟩
  | euroscopeSimData =>
      refine ensures_bind fun m _ => ensures_bind fun fix hfix => ensures_bind fun offset _ => ?_
      exact (ensures_ok _ _).mpr ⟨receivedPositionFix_atis cfg s _ _ fix hfix, [_], rfl⟩
  | _ => cases htraffic

/-- The events a frame is kept by without a look at the state: all but a line, a
    step of the login, and the timer that sends. -/
def Event.keepsFrame : Event → Bool
  | .lineReceived _ _ | .connectToServer _ | .socketConnected | .tokenIssued | .sendTimer => false
  | _ => true

theorem handle_frame (table : List (QString × MessageType)) {event : Event}
    (h : event.keepsFrame = true) : Ensures (Frame s) (handle cfg table s event) := by
  cases event with
  | lineReceived | connectToServer | socketConnected | tokenIssued | sendTimer => cases h
  -- Of the events that are left most disconnect, or queue ordinary messages.
  | hostResolved =>
      refine (ensures_ok _ _).mpr ⟨rfl, ?_⟩
      exact List.forall_mem_cons.mpr ⟨trivial, List.forall_mem_singleton.mpr trivial⟩
  | tokenRefused | disconnectFromServer =>
      exact (ensures_ok _ _).mpr (disconnectFromServer_frame cfg _ s)
  | digestTimer =>
      refine ensures_ite (fun _ => (ensures_ok _ _).mpr (frame_refl s)) fun _ => ?_
      exact (ensures_ok _ _).mpr (emitConsolidatedTextMessages_frame s)
  | visualPilotDataUpdate =>
      exact (ensures_ok _ _).mpr (sendVisualPilotDataUpdate_frame cfg _ s _)
  | send request =>
      exact (ensures_ok _ _).mpr (frame_single s rfl (queued_request_isOrdinary request))
  | queryAtis =>
      refine (ensures_ok _ _).mpr ?_
      have hquery : ∀ receiver : QString, (queued (ClientQuery.create cfg.ownCallsign.callsign
          receiver .atis [])).IsOrdinary := fun receiver =>
        not_startsWith_login _ (by decide)
      unfold sendClientQueryAtis
      split
      · exact frame_single s rfl (hquery _)
      · exact frame_single s rfl (hquery _)
  | setInterimPositionReceivers | rehosted =>
      exact (ensures_ok _ _).mpr ⟨rfl, fun _ h => nomatch h⟩
  | remoteHostClosed env =>
      refine (ensures_ok _ _).mpr ?_
      unfold handleRemoteHostClosed
      split
      · exact frame_refl s
      · exact disconnectSeverely_frame cfg env s
  | webSocketDisconnected env =>
      refine (ensures_ok _ _).mpr ?_
      unfold handleWebSocketDisconnected
      split
      · exact frame_refl s
      · exact disconnectSeverely_frame cfg env s
  | pendingTimeout env =>
      refine (ensures_ok _ _).mpr ?_
      unfold pendingTimeoutCheck
      split
      · exact frame_refl s
      · split
        · exact frame_refl s
        · exact disconnectFromServer_frame cfg env s
  | rehostFailed env =>
      refine (ensures_ok _ _).mpr ?_
      unfold handleRehostFailed
      split
      · exact ⟨rfl, fun _ h => nomatch h⟩
      · exact frame_of_atis s (updateConnectionStatus_frame _ _) rfl

end

end NeoSwift.Fsd
