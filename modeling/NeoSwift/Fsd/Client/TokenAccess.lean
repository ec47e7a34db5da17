import NeoSwift.Fsd.Client.Handlers
import NeoSwift.Lib.Fallible

/-!
# Token Access

Which lines make the client read a token that is not there. Almost every reader
checks the number of tokens against the last one it reads. Three do not: the
position of a controller passes with seven tokens and reads an eighth, the
login of a pilot passes with six and reads eight, and a custom pilot packet is
told from the others by its third token before anything is checked. The login
of a pilot is never read by a client.

## Main definitions

* `TokensSuffice`: The lines all of whose tokens are there.

## Theorems

* `fromTokens_ok`: The readers that read only what they have checked.
* `dispatch_avoids_outOfRange`: So do their handlers.
* `parseMessage_avoids_iff`: A line is processed without reading past its
  tokens exactly when they suffice.
-/

namespace NeoSwift.Fsd

open Aviation (Callsign)
open Fallible

/-- A reader behind a length check has a result when it has one on lists that
    pass. -/
theorem guarded_ok {M : Type} {n : ℕ} {dflt : M} {tokens : QStringList} {read : Except Fault M}
    (h : n ≤ tokens.length → ∃ m, read = .ok m) : ∃ m, guarded n dflt tokens read = .ok m := by
  by_cases hlen : tokens.length < n
  · exact ⟨dflt, guarded_of_short hlen⟩
  · rw [guarded_of_le (by omega)]
    exact h (by omega)

/-- All readers but two read only tokens that are there. -/
theorem fromTokens_ok (k : MessageKind) (hatc : k ≠ .atcDataUpdate) (hpilot : k ≠ .addPilot)
    (tokens : QStringList) : ∃ m : k.Carrier, fromTokens tokens = .ok m := by
  cases k with
  | atcDataUpdate => exact absurd rfl hatc
  | addPilot => exact absurd rfl hpilot
  | authChallenge | authResponse | ping | pong | mute | visualPilotDataToggle =>
      exact readTriple_ok _ _ _
  | clientQuery | clientResponse => exact readTyped_ok _ _ _
  | clientIdentification | deleteAtc | deletePilot | killRequest =>
      refine guarded_ok fun h => ?_
      -- The last token is optional.
      split
      · simp (disch := omega) only [tokenAt_of_lt]
        exact ⟨_, rfl⟩
      · simp (disch := omega) only [tokenAt_of_lt]
        exact ⟨_, rfl⟩
  | planeInfoRequestFsinn =>
      by_cases h : tokens.length = 12
      · refine Exists.imp (fun m hm => (if_neg (not_not.mpr h)).trans hm) ?_
        simp (disch := omega) only [tokenAt_of_lt]
        exact ⟨_, rfl⟩
      · exact ⟨_, if_pos h⟩
  | visualPilotDataUpdate | visualPilotDataPeriodic | visualPilotDataStopped =>
      refine guarded_ok fun h => ?_
      simp (disch := omega) only [VisualState.read, VisualState.readPosition, tokenAt_of_lt]
      exact ⟨_, rfl⟩
  | addAtc | euroscopeSimData | flightPlan | fsdIdentification | pilotDataUpdate | serverError
  | textMessage | rehost | planeInfoRequest | planeInformation | planeInformationFsinn
  | interimPilotDataUpdate =>
      refine guarded_ok fun h => ?_
      simp (disch := omega) only [tokenAt_of_lt]
      exact ⟨_, rfl⟩

/-- A reader that has a result does not read past the tokens. -/
theorem fromTokens_avoids (k : MessageKind) (hatc : k ≠ .atcDataUpdate) (hpilot : k ≠ .addPilot)
    (tokens : QStringList) : Avoids .outOfRange (fromTokens tokens : Except Fault k.Carrier) := by
  rcases fromTokens_ok k hatc hpilot tokens with ⟨m, hm⟩
  rw [hm]
  exact avoids_ok _ _

/-- With any number of tokens but seven the position of a controller is read. -/
theorem atcDataUpdate_avoids {tokens : QStringList} (h : tokens.length ≠ 7) :
    Avoids .outOfRange (AtcDataUpdate.fromTokens tokens) := by
  have hok : ∃ m, AtcDataUpdate.fromTokens tokens = .ok m := by
    refine guarded_ok fun hlen => ?_
    simp (disch := omega) only [tokenAt_of_lt]
    exact ⟨_, rfl⟩
  rcases hok with ⟨m, hm⟩
  rw [hm]
  exact avoids_ok _ _

/-- With seven tokens an eighth is read. -/
theorem atcDataUpdate_of_seven {tokens : QStringList} (h : tokens.length = 7) :
    AtcDataUpdate.fromTokens tokens = .error .outOfRange := by
  rw [AtcDataUpdate.fromTokens, guarded_of_le (by omega)]
  simp (disch := omega) only [tokenAt_of_lt, tokenAt_of_le]
  rfl

variable (cfg : Config) (env : Env) (tokens : QStringList) (s : ClientState)

theorem handleAtcDataUpdate_avoids_iff :
    Avoids .outOfRange (handleAtcDataUpdate cfg tokens s) ↔ tokens.length ≠ 7 := by
  constructor
  · intro h hlen
    exact h (bind_error _ (atcDataUpdate_of_seven hlen))
  · intro h
    refine avoids_bind (atcDataUpdate_avoids h) fun m _ => ?_
    refine avoids_ite (fun _ => avoids_ok _ _) fun _ => ?_
    exact avoids_ite (fun _ => avoids_ok _ _) fun _ => avoids_ok _ _

theorem receivedPositionFix_avoids (callsign : Callsign) (markerTs : ℤ) :
    Avoids .outOfRange (receivedPositionFixTsAndGetOffsetTime cfg callsign markerTs s) := by
  refine avoids_ite (fun _ => avoids_error (by decide)) fun _ => ?_
  dsimp only
  split <;> exact avoids_ok _ _

theorem currentOffsetTime_avoids (callsign : Callsign) :
    Avoids .outOfRange (currentOffsetTime callsign s) := by
  refine avoids_ite (fun _ => avoids_error (by decide)) fun _ => ?_
  split <;> exact avoids_ok _ _

theorem handleAircraftConfig_avoids (sender : QString) (data : QStringList) :
    Avoids .outOfRange (handleAircraftConfig cfg env sender data s) := by
  unfold handleAircraftConfig
  split
  · exact avoids_ok _ _
  · exact avoids_ok _ _
  · refine avoids_ite (fun _ => ?_) fun _ => avoids_ok _ _
    split
    · exact avoids_ok _ _
    · exact avoids_bind (currentOffsetTime_avoids s _) fun _ _ => avoids_ok _ _

theorem handleTextMessage_avoids : Avoids .outOfRange (handleTextMessage cfg env tokens s) := by
  refine avoids_bind (fromTokens_avoids .textMessage nofun nofun tokens) fun m _ => ?_
  dsimp only
  split
  · split
    · exact avoids_ite (fun _ => avoids_ok _ _) fun _ => avoids_ok _ _
    · exact avoids_ok _ _
  · exact avoids_ite (fun _ => avoids_ok _ _) fun _ => avoids_ok _ _

theorem handlePilotDataUpdate_avoids :
    Avoids .outOfRange (handlePilotDataUpdate cfg env tokens s) := by
  refine avoids_bind (fromTokens_avoids .pilotDataUpdate nofun nofun tokens) fun m _ => ?_
  refine avoids_bind (receivedPositionFix_avoids cfg s _ _) fun fix _ => ?_
  exact avoids_ite (fun _ => avoids_ok _ _) fun _ => avoids_ok _ _

theorem handleEuroscopeSimData_avoids :
    Avoids .outOfRange (handleEuroscopeSimData cfg env tokens s) := by
  refine avoids_bind (fromTokens_avoids .euroscopeSimData nofun nofun tokens) fun m _ => ?_
  refine avoids_bind (receivedPositionFix_avoids cfg s _ _) fun fix _ => ?_
  exact avoids_bind (currentOffsetTime_avoids fix.1 _) fun _ _ => avoids_ok _ _

theorem handleClientQuery_avoids : Avoids .outOfRange (handleClientQuery cfg env tokens s) := by
  refine avoids_bind (fromTokens_avoids .clientQuery nofun nofun tokens) fun m _ => ?_
  split
  · exact avoids_ok _ _
  · exact avoids_ok _ _
  · exact avoids_ok _ _
  · exact avoids_ok _ _
  · exact avoids_ok _ _
  · exact handleAircraftConfig_avoids cfg env s _ _
  · exact avoids_ok _ _

theorem handleClientResponse_avoids : Avoids .outOfRange (handleClientResponse cfg tokens s) := by
  refine avoids_bind (fromTokens_avoids .clientResponse nofun nofun tokens) fun m _ => ?_
  dsimp only
  split <;> first
    | exact avoids_ok _ _
    | split <;> exact avoids_ok _ _

theorem handleInterimPilotDataUpdate_avoids :
    Avoids .outOfRange (handleInterimPilotDataUpdate cfg env tokens s) := by
  refine avoids_ite (fun _ => avoids_ok _ _) fun _ => ?_
  refine avoids_bind (fromTokens_avoids .interimPilotDataUpdate nofun nofun tokens) fun m _ => ?_
  exact avoids_bind (receivedPositionFix_avoids cfg s _ _) fun _ _ => avoids_ok _ _

/-- The third token is read unchecked; everything behind it is not. -/
theorem handleCustomPilotPacket_avoids_iff :
    Avoids .outOfRange (handleCustomPilotPacket cfg env tokens s) ↔ 3 ≤ tokens.length := by
  constructor
  · intro h
    -- Without the third token the subtype cannot be read.
    by_contra hlen
    refine h (bind_error _ (bind_error _ ?_))
    exact tokenAt_of_le (by omega)
  · intro hlen
    refine avoids_bind ?_ fun packet _ => ?_
    · refine avoids_bind ?_ fun subType _ => ?_
      · rw [tokenAt_of_lt hlen]
        exact avoids_ok _ _
      · repeat' refine avoids_ite (fun _ => ?_) fun _ => ?_
        all_goals exact avoids_ok _ _
    · -- Every subtype reads its own message, of which the reader checks the number of tokens.
      cases packet with
      | planeInfoRequest =>
          exact avoids_bind (fromTokens_avoids .planeInfoRequest nofun nofun tokens)
            fun _ _ => avoids_ok _ _
      | planeInformation =>
          exact avoids_bind (fromTokens_avoids .planeInformation nofun nofun tokens)
            fun _ _ => avoids_ok _ _
      | interimPilotDataUpdate => exact handleInterimPilotDataUpdate_avoids cfg env tokens s
      | planeInformationFsinn =>
          exact avoids_bind (fromTokens_avoids .planeInformationFsinn nofun nofun tokens)
            fun _ _ => avoids_ok _ _
      | planeInfoRequestFsinn =>
          exact avoids_bind (fromTokens_avoids .planeInfoRequestFsinn nofun nofun tokens)
            fun _ _ => avoids_ok _ _
      | ignored => exact avoids_ok _ _
      | unknownOpcode =>
          refine avoids_bind ?_ fun _ _ => avoids_ok _ _
          rw [tokenAt_of_lt (by omega)]
          exact avoids_ok _ _

/-- All other handlers read only tokens that are there. -/
theorem dispatch_avoids_outOfRange {messageType : MessageType}
    (hatc : messageType ≠ .atcDataUpdate) (hcustom : messageType ≠ .pilotClientCom) :
    Avoids .outOfRange (dispatch cfg env messageType tokens s) := by
  cases messageType with
  -- The two that are excluded read more than they check.
  | atcDataUpdate => exact absurd rfl hatc
  | pilotClientCom => exact absurd rfl hcustom
  | authChallenge =>
      refine avoids_ite (fun _ => ?_) fun _ => avoids_ok _ _
      exact avoids_bind (fromTokens_avoids .authChallenge nofun nofun tokens)
        fun _ _ => avoids_ok _ _
  | authResponse =>
      refine avoids_ite (fun _ => ?_) fun _ => avoids_ok _ _
      refine avoids_bind (fromTokens_avoids .authResponse nofun nofun tokens) fun _ _ => ?_
      exact avoids_ite (fun _ => avoids_ok _ _) fun _ => avoids_ok _ _
  | clientQuery => exact handleClientQuery_avoids cfg env tokens s
  | clientResponse => exact handleClientResponse_avoids cfg tokens s
  | deleteATC =>
      exact avoids_bind (fromTokens_avoids .deleteAtc nofun nofun tokens) fun _ _ => avoids_ok _ _
  | deletePilot =>
      exact avoids_bind (fromTokens_avoids .deletePilot nofun nofun tokens)
        fun _ _ => avoids_ok _ _
  | flightPlan =>
      exact avoids_bind (fromTokens_avoids .flightPlan nofun nofun tokens) fun _ _ => avoids_ok _ _
  | fsdIdentification =>
      refine avoids_ite (fun _ => ?_) fun _ => avoids_ok _ _
      refine avoids_ite (fun _ => ?_) fun _ => avoids_ok _ _
      exact avoids_bind (fromTokens_avoids .fsdIdentification nofun nofun tokens)
        fun _ _ => avoids_ok _ _
  | killRequest =>
      exact avoids_bind (fromTokens_avoids .killRequest nofun nofun tokens)
        fun _ _ => avoids_ok _ _
  | pilotDataUpdate => exact handlePilotDataUpdate_avoids cfg env tokens s
  | ping => exact avoids_bind (fromTokens_avoids .ping nofun nofun tokens) fun _ _ => avoids_ok _ _
  | pong => exact avoids_bind (fromTokens_avoids .pong nofun nofun tokens) fun _ _ => avoids_ok _ _
  | serverError =>
      refine avoids_bind (fromTokens_avoids .serverError nofun nofun tokens) fun _ _ => ?_
      exact avoids_ite (fun _ => avoids_ok _ _) fun _ => avoids_ok _ _
  | textMessage => exact handleTextMessage_avoids cfg env tokens s
  | visualPilotDataToggle =>
      exact avoids_bind (fromTokens_avoids .visualPilotDataToggle nofun nofun tokens)
        fun _ _ => avoids_ok _ _
  | euroscopeSimData => exact handleEuroscopeSimData_avoids cfg env tokens s
  | rehost =>
      refine avoids_bind (fromTokens_avoids .rehost nofun nofun tokens) fun _ _ => ?_
      exact avoids_ite (fun _ => avoids_ok _ _) fun _ => avoids_ok _ _
  | mute =>
      refine avoids_bind (fromTokens_avoids .mute nofun nofun tokens) fun _ _ => ?_
      exact avoids_ite (fun _ => avoids_ok _ _) fun _ => avoids_ok _ _
  | _ => exact avoids_ok _ _

/-- The lines all of whose tokens are there when they are read: no position of a
    controller with exactly seven tokens, and no custom pilot packet with fewer
    than three. -/
def TokensSuffice : Parsed → Prop
  | .message .atcDataUpdate tokens => tokens.length ≠ 7
  | .message .pilotClientCom tokens => 3 ≤ tokens.length
  | _ => True

/-- In every state and on every line, the client reads only tokens that are
    there exactly when they suffice. -/
theorem parseMessage_avoids_iff (table : List (QString × MessageType)) (lineRaw : QString) :
    parseMessage cfg env table lineRaw s ≠ .error .outOfRange
      ↔ TokensSuffice (parseLine table lineRaw) := by
  unfold parseMessage
  cases parseLine table lineRaw with
  | unknown line => exact iff_of_true (avoids_ok _ _) trivial
  | noPayload messageType => exact iff_of_true (avoids_ok _ _) trivial
  | message messageType tokens =>
      by_cases hatc : messageType = .atcDataUpdate
      · subst hatc
        exact handleAtcDataUpdate_avoids_iff cfg tokens s
      by_cases hcustom : messageType = .pilotClientCom
      · subst hcustom
        exact handleCustomPilotPacket_avoids_iff cfg env tokens s
      · refine iff_of_true (dispatch_avoids_outOfRange cfg env tokens s hatc hcustom) ?_
        cases messageType <;> trivial

/-- A controller without elevation, and a custom pilot packet without a kind. -/
theorem short_lines_overrun :
    parseMessage classicPilot quietEnv messageTypeMapping
        "%EDDF_TWR:18000:4:50:2:50.03333:8.57056" {} = .error .outOfRange ∧
      parseMessage classicPilot quietEnv messageTypeMapping "#SBDLH1:DLH2" {}
        = .error .outOfRange := by
  have hatc : parseLine messageTypeMapping "%EDDF_TWR:18000:4:50:2:50.03333:8.57056"
      = .message .atcDataUpdate ["EDDF_TWR", "18000", "4", "50",
        "2", "50.03333", "8.57056"] := by decide
  have hcustom : parseLine messageTypeMapping "#SBDLH1:DLH2"
      = .message .pilotClientCom ["DLH1", "DLH2"] := by decide
  unfold parseMessage
  exact ⟨rfl, rfl⟩

end NeoSwift.Fsd
