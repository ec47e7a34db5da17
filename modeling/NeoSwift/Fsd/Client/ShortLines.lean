import NeoSwift.Fsd.Client.Session
import NeoSwift.Lib.Fallible

/-!
# Short Lines

What the client does with a line that has fewer tokens than its message type
needs. The reader returns a message of default values then, and the handler
acts on it unless it happens to look. Some do nothing with such a message, some
only in some states, and some always: a position without a sender runs into an
assertion, and a kill request without a reason disconnects all the same.

## Main definitions

* `kindOf`: The message type whose reader sees the tokens of a line.
* `minimumTokens`: The tokens a reader needs.
* `IsShort`: The lines that do not have them.
* `Harmless`: Where a short line has no effect.

## Theorems

* `fromTokens_of_short`: A short line is read as one without tokens.
* `dispatch_nil_iff`: What the handlers make of no tokens at all.
* `short_line_noEffect_iff`: A short line has no effect exactly where it is
  harmless.
-/

namespace NeoSwift.Fsd

open Aviation (Callsign)

/-- The custom pilot packet whose reader sees the tokens of a line. A line that
    does not get to its third token is too short for any of them. -/
def customKindOf (tokens : QStringList) : Option MessageKind :=
  match tokens[2]? with
  | none => some .planeInfoRequest
  | some subType =>
    if subType = "PIR".toList then some .planeInfoRequest
    else if subType = "PI".toList then some .planeInformation
    else if subType = "VI".toList then some .interimPilotDataUpdate
    else if subType = "FSIPI".toList then some .planeInformationFsinn
    else if subType = "FSIPIR".toList then some .planeInfoRequestFsinn
    else none

/-- The message type whose reader sees the tokens of a line. -/
def kindOf : MessageType → QStringList → Option MessageKind
  | .addAtc, _ => some .addAtc
  | .addPilot, _ => some .addPilot
  | .atcDataUpdate, _ => some .atcDataUpdate
  | .authChallenge, _ => some .authChallenge
  | .authResponse, _ => some .authResponse
  | .clientIdentification, _ => some .clientIdentification
  | .clientQuery, _ => some .clientQuery
  | .clientResponse, _ => some .clientResponse
  | .deleteATC, _ => some .deleteAtc
  | .deletePilot, _ => some .deletePilot
  | .euroscopeSimData, _ => some .euroscopeSimData
  | .flightPlan, _ => some .flightPlan
  | .fsdIdentification, _ => some .fsdIdentification
  | .killRequest, _ => some .killRequest
  | .pilotDataUpdate, _ => some .pilotDataUpdate
  | .visualPilotDataUpdate, _ => some .visualPilotDataUpdate
  | .visualPilotDataPeriodic, _ => some .visualPilotDataPeriodic
  | .visualPilotDataStopped, _ => some .visualPilotDataStopped
  | .visualPilotDataToggle, _ => some .visualPilotDataToggle
  | .ping, _ => some .ping
  | .pong, _ => some .pong
  | .serverError, _ => some .serverError
  | .textMessage, _ => some .textMessage
  | .rehost, _ => some .rehost
  | .mute, _ => some .mute
  | .pilotClientCom, tokens => customKindOf tokens
  | .proController, _ | .serverHeartbeat, _ | .unknown, _ => none

/-- The tokens the reader of a message type needs. -/
def MessageKind.minimumTokens : MessageKind → ℕ
  | deleteAtc | deletePilot => 1
  | killRequest | rehost => 2
  | authChallenge | authResponse | clientQuery | clientResponse | mute | ping | pong
  | planeInfoRequest | textMessage | visualPilotDataToggle => 3
  | fsdIdentification => 4
  | planeInformation | serverError => 5
  | addPilot | visualPilotDataStopped => 6
  | addAtc | atcDataUpdate => 7
  | clientIdentification | interimPilotDataUpdate => 8
  | pilotDataUpdate => 10
  | planeInfoRequestFsinn | planeInformationFsinn | visualPilotDataPeriodic
  | visualPilotDataUpdate => 12
  | flightPlan => 17
  | euroscopeSimData => 18

/-- A reader takes too few tokens for none at all. -/
theorem fromTokens_of_short (k : MessageKind) {tokens : QStringList}
    (h : tokens.length < k.minimumTokens) :
    (fromTokens tokens : Except Fault k.Carrier) = fromTokens [] := by
  cases k with
  | planeInfoRequestFsinn => exact if_pos (Nat.ne_of_lt h)
  | _ => exact guarded_of_short h

/-- A line with fewer tokens than its reader needs. -/
def IsShort : Parsed → Prop
  | .message messageType tokens =>
    ∃ k, kindOf messageType tokens = some k ∧ tokens.length < k.minimumTokens
  | _ => False

/-- Where a short line has no effect on the client: the handler looks at what it
    has read, or does not do anything here. The delete messages need a single
    token, which every line has. -/
def Harmless (cfg : Config) (s : ClientState) : Parsed → Prop
  | .message .flightPlan _ | .message .killRequest _ | .message .pilotDataUpdate _
  | .message .ping _ | .message .pong _ | .message .textMessage _
  | .message .euroscopeSimData _ | .message .deleteATC _ | .message .deletePilot _ => False
  | .message .authChallenge _ | .message .authResponse _ | .message .fsdIdentification _ =>
    ¬(cfg.vatsimSupport ∧ cfg.useChallenge)
  | .message .visualPilotDataToggle _ => s.serverWantsVisualPositions = false
  | .message .rehost _ => cfg.usesWebSocket
  | .message .mute _ => cfg.ownCallsign.callsign ≠ []
  | .message .pilotClientCom tokens =>
    tokens[2]? = some "PI".toList
      ∨ tokens[2]? = some "VI".toList ∧ cfg.receiveInterimPositions = false
  | _ => True

variable (cfg : Config) (env : Env) (s : ClientState)

/-- A handler that reads its tokens with a reader makes of too few tokens what
    it makes of none. -/
theorem dispatch_of_short {messageType : MessageType} (hcustom : messageType ≠ .pilotClientCom)
    {k : MessageKind} {tokens : QStringList} (hkind : kindOf messageType tokens = some k)
    (h : tokens.length < k.minimumTokens) :
    dispatch cfg env messageType tokens s = dispatch cfg env messageType [] s := by
  have hread := fromTokens_of_short k h
  cases messageType with
  | pilotClientCom => exact absurd rfl hcustom
  | atcDataUpdate | clientResponse | deleteATC | deletePilot | flightPlan | killRequest
  | pilotDataUpdate | ping | pong | serverError | textMessage | visualPilotDataToggle
  | euroscopeSimData | rehost | mute =>
      cases hkind
      exact congrArg (fun read => read >>= _) hread
  | authChallenge | authResponse =>
      cases hkind
      exact congrArg (fun read => ite _ (read >>= _) _) hread
  | fsdIdentification =>
      cases hkind
      exact congrArg (fun read => ite _ (ite _ (read >>= _) _) _) hread
  | clientQuery =>
      cases hkind
      -- The tokens behind the third are not looked at.
      exact (congrArg (fun read => read >>= _) hread).trans rfl
  | addAtc | addPilot | serverHeartbeat | proController | clientIdentification | unknown
  | visualPilotDataUpdate | visualPilotDataPeriodic | visualPilotDataStopped => rfl

/-- A handler that takes an action has an effect. -/
theorem ok_ne_of_actions {r : ClientState × List Action} (h : r.2 ≠ []) :
    (.ok r : Handled) ≠ .ok (s, []) := by
  intro heq
  injection heq with hr
  exact h (congrArg Prod.snd hr)

theorem disconnectFromServer_actions_ne_nil : (disconnectFromServer cfg env s).2 ≠ [] := by
  simp [disconnectFromServer]

/-- A text message without a text still triggers the digest of messages. -/
theorem consolidateTextMessage_nil_ne :
    consolidateTextMessage (privateText [] {} {}) s ≠ (s, []) := by
  have hnot : (privateText [] {} {}).isSupervisor = false := rfl
  unfold consolidateTextMessage
  rw [if_neg (by rw [hnot]; decide)]
  dsimp only
  split
  · exact fun h => absurd (congrArg Prod.snd h) (List.cons_ne_nil _ _)
  · intro h
    have hinputs : s.digestInputs + 1 = s.digestInputs :=
      congrArg (fun r : ClientState × List Action => r.1.digestInputs) h
    omega

/-- An answer to an ATIS query is taken down or ends the query. -/
theorem maybeHandleAtisReply_pending {sender : Callsign} (receiver : Callsign) (message : QString)
    (pendingQuery : PendingAtisQuery) :
    (maybeHandleAtisReply cfg env sender receiver message pendingQuery s).1.pendingAtisQueries
      sender.callsign ≠ some pendingQuery := by
  unfold maybeHandleAtisReply
  split
  · simp
  · split
    · simp
    · simp only [CallsignMap.insert_self]
      intro h
      have hlines := congrArg (fun q => q.map PendingAtisQuery.atisMessage) h
      simp only [Option.map_some, Option.some.injEq] at hlines
      have hlen := congrArg List.length hlines
      simp only [List.length_append, List.length_singleton] at hlen
      omega

/-- A text message without tokens is an empty private message of nobody. -/
theorem handleTextMessage_nil : handleTextMessage cfg env [] s
    = match s.pendingAtisQueries [] with
      | some pendingQuery =>
          if ¬cfg.usesVatsimAtisMessages ∧ cfg.ownCallsign.callsign = [] then
            .ok (maybeHandleAtisReply cfg env {} {} [] pendingQuery s)
          else .ok (consolidateTextMessage (privateText [] {} {}) s)
      | none => .ok (consolidateTextMessage (privateText [] {} {}) s) := rfl

theorem handleTextMessage_nil_ne : handleTextMessage cfg env [] s ≠ .ok (s, []) := by
  have hconsolidate : (.ok (consolidateTextMessage (privateText [] {} {}) s) : Handled)
      ≠ .ok (s, []) := by
    intro h
    injection h with h
    exact consolidateTextMessage_nil_ne s h
  rw [handleTextMessage_nil]
  cases hquery : s.pendingAtisQueries [] with
  | none => exact hconsolidate
  | some pendingQuery =>
      dsimp only
      split
      · intro h
        injection h with h
        have hpending := congrArg
          (fun r : ClientState × List Action => r.1.pendingAtisQueries []) h
        exact maybeHandleAtisReply_pending cfg env s {} [] pendingQuery (hpending.trans hquery)
      · exact hconsolidate

/-- An answer to the challenge changes the state of the authentication, or ends
    the connection. -/
theorem handleAuthResponse_nil_ne : handleAuthResponse cfg env [] s ≠ .ok (s, []) := by
  have hread : handleAuthResponse cfg env [] s
      = if [] = cfg.auth.response (s.serverAuth ++ [.generateResponse s.lastServerAuthChallenge])
        then .ok ({ s with serverAuth :=
          s.serverAuth ++ [.generateResponse s.lastServerAuthChallenge] }, [])
        else .ok (disconnectFromServer cfg env { s with serverAuth :=
          s.serverAuth ++ [.generateResponse s.lastServerAuthChallenge] }) := rfl
  rw [hread]
  split
  · intro h
    injection h with h
    have hauth := congrArg (fun r : ClientState × List Action => r.1.serverAuth.length) h
    simp only [List.length_append, List.length_singleton] at hauth
    omega
  · exact ok_ne_of_actions s (disconnectFromServer_actions_ne_nil cfg env _)

theorem sendClientIdentification_actions_ne_nil (fsdChallenge : QString) :
    (sendClientIdentification cfg env fsdChallenge s).2 ≠ [] := by
  by_cases hjwt : cfg.useJwt
  · rw [sendClientIdentification, if_pos hjwt]
    exact List.append_ne_nil_of_right_ne_nil _ (List.cons_ne_nil _ _)
  · rw [sendClientIdentification, if_neg hjwt]
    exact List.append_ne_nil_of_left_ne_nil
      (List.append_ne_nil_of_right_ne_nil _ (List.cons_ne_nil _ _)) _

/-- An identification of the server is answered, with a login or by leaving. -/
theorem handleFsdIdentification_nil_ne : handleFsdIdentification cfg env [] s ≠ .ok (s, []) := by
  unfold handleFsdIdentification
  split
  · exact ok_ne_of_actions s (sendClientIdentification_actions_ne_nil cfg env _ _)
  · exact ok_ne_of_actions s (disconnectFromServer_actions_ne_nil cfg env s)

/-- What the handlers make of no tokens at all. -/
theorem dispatch_nil_iff {messageType : MessageType} (hcustom : messageType ≠ .pilotClientCom) :
    dispatch cfg env messageType [] s = .ok (s, [])
      ↔ Harmless cfg s (.message messageType []) := by
  cases messageType with
  | pilotClientCom => exact absurd rfl hcustom
  | flightPlan | killRequest | ping | pong | deleteATC | deletePilot =>
      refine iff_of_false ?_ id
      exact ok_ne_of_actions s (List.cons_ne_nil _ _)
  | pilotDataUpdate | euroscopeSimData =>
      -- Without a sender the position runs into an assertion.
      refine iff_of_false ?_ id
      intro h
      cases h
  | textMessage => exact iff_of_false (handleTextMessage_nil_ne cfg env s) id
  | authChallenge =>
      by_cases hauth : cfg.vatsimSupport ∧ cfg.useChallenge
      · refine iff_of_false ?_ fun h => h hauth
        rw [dispatch, if_pos hauth]
        exact ok_ne_of_actions s (List.cons_ne_nil _ _)
      · refine iff_of_true ?_ hauth
        rw [dispatch, if_neg hauth]
  | authResponse =>
      by_cases hauth : cfg.vatsimSupport ∧ cfg.useChallenge
      · refine iff_of_false ?_ fun h => h hauth
        rw [dispatch, if_pos hauth]
        exact handleAuthResponse_nil_ne cfg env s
      · refine iff_of_true ?_ hauth
        rw [dispatch, if_neg hauth]
  | fsdIdentification =>
      by_cases hauth : cfg.vatsimSupport ∧ cfg.useChallenge
      · refine iff_of_false ?_ fun h => h hauth
        rw [dispatch, if_pos hauth]
        exact handleFsdIdentification_nil_ne cfg env s
      · refine iff_of_true ?_ hauth
        rw [dispatch, if_neg hauth]
  | visualPilotDataToggle =>
      constructor
      · intro h
        injection h with h
        exact (congrArg (fun r : ClientState × List Action => r.1.serverWantsVisualPositions)
          h).symm
      · intro h
        have hsame : { s with serverWantsVisualPositions := false } = s := by rw [← h]
        exact congrArg (fun s => (.ok (s, []) : Handled)) hsame
  | rehost =>
      by_cases hweb : cfg.usesWebSocket
      · exact iff_of_true (if_pos hweb) hweb
      · refine iff_of_false ?_ hweb
        refine fun h => ok_ne_of_actions s (List.cons_ne_nil _ _) ((if_neg hweb).symm.trans h)
  | mute =>
      by_cases hown : cfg.ownCallsign.callsign = []
      · refine iff_of_false ?_ fun h => h hown
        exact fun h => ok_ne_of_actions s (List.cons_ne_nil _ _) ((if_pos hown.symm).symm.trans h)
      · exact iff_of_true (if_neg fun h => hown h.symm) hown
  | _ => exact iff_of_true rfl trivial

/-- An interim position without a sender runs into an assertion, where interim
    positions are received at all. -/
theorem handleInterimPilotDataUpdate_short_iff {tokens : QStringList}
    (h : tokens.length < MessageKind.interimPilotDataUpdate.minimumTokens) :
    handleInterimPilotDataUpdate cfg env tokens s = .ok (s, [])
      ↔ cfg.receiveInterimPositions = false := by
  by_cases hreceive : cfg.receiveInterimPositions = false
  · refine iff_of_true ?_ hreceive
    rw [handleInterimPilotDataUpdate, if_pos (by rw [hreceive]; decide)]
  · refine iff_of_false ?_ hreceive
    have hread : InterimPilotDataUpdate.fromTokens tokens = .ok {} := guarded_of_short h
    rw [handleInterimPilotDataUpdate, if_neg (by simpa using hreceive), hread]
    intro heq
    cases heq

/-- What becomes of a custom pilot packet that is too short for its kind. -/
theorem handleCustomPilotPacket_short_iff {k : MessageKind} {tokens : QStringList}
    (hkind : customKindOf tokens = some k) (h : tokens.length < k.minimumTokens) :
    handleCustomPilotPacket cfg env tokens s = .ok (s, [])
      ↔ Harmless cfg s (.message .pilotClientCom tokens) := by
  unfold customKindOf at hkind
  have hharmless : Harmless cfg s (.message .pilotClientCom tokens)
      ↔ tokens[2]? = some "PI".toList
        ∨ tokens[2]? = some "VI".toList ∧ cfg.receiveInterimPositions = false := Iff.rfl
  rw [hharmless]
  cases hsub : tokens[2]? with
  | none =>
      -- The kind itself is not there.
      have hat : tokenAt tokens 2 = .error .outOfRange := by rw [tokenAt, hsub]
      have hfault : handleCustomPilotPacket cfg env tokens s = .error .outOfRange :=
        Fallible.bind_error _ (Fallible.bind_error _ hat)
      refine iff_of_false ?_ (by simp)
      rw [hfault]
      intro heq
      cases heq
  | some subType =>
      have hat : tokenAt tokens 2 = .ok subType := by rw [tokenAt, hsub]
      have hlen : 2 < tokens.length := (List.getElem?_eq_some_iff.mp hsub).1
      simp only [hsub] at hkind
      rw [Option.some.injEq, Option.some.injEq]
      split at hkind
      · -- A request needs no more than the three tokens that are there.
        cases hkind
        exact absurd h (Nat.not_lt.mpr hlen)
      split at hkind
      · subst subType
        cases hkind
        have hshort : ¬(4 < tokens.length ∧ tokens[3]? = some "GEN".toList) := fun hc =>
          absurd h (Nat.not_lt.mpr hc.1)
        have hlong : ¬(6 < tokens.length ∧ tokens[3]? = some "X".toList) := fun hc =>
          absurd h (Nat.not_lt.mpr (Nat.le_of_lt (Nat.lt_of_succ_lt hc.1)))
        have hpacket : customPacket tokens = .ok .ignored := by
          refine (Fallible.bind_ok _ hat).trans ?_
          rw [if_neg hlong, if_neg hshort]
          rfl
        exact iff_of_true ((Fallible.bind_ok _ hpacket).trans rfl) (Or.inl rfl)
      split at hkind
      · subst subType
        cases hkind
        have hpacket : customPacket tokens = .ok .interimPilotDataUpdate :=
          (Fallible.bind_ok _ hat).trans rfl
        have hhandle : handleCustomPilotPacket cfg env tokens s
            = handleInterimPilotDataUpdate cfg env tokens s :=
          (Fallible.bind_ok _ hpacket).trans rfl
        rw [hhandle, handleInterimPilotDataUpdate_short_iff cfg env s h]
        constructor
        · exact fun hoff => Or.inr ⟨rfl, hoff⟩
        · rintro (hpi | ⟨-, hoff⟩)
          · exact absurd hpi (by omega)
          · exact hoff
      -- Both packets of the other format are passed on with their default values.
      have hother : ∀ {text : QString}, text ≠ "PI".toList → text ≠ "VI".toList →
          ¬(text = "PI".toList ∨ text = "VI".toList ∧ cfg.receiveInterimPositions = false) :=
        fun hpi hvi hc => hc.elim hpi (fun hc => hvi hc.1)
      split at hkind
      · subst subType
        cases hkind
        have hpacket : customPacket tokens = .ok .planeInformationFsinn :=
          (Fallible.bind_ok _ hat).trans rfl
        have hread : PlaneInformationFsinn.fromTokens tokens = .ok {} := guarded_of_short h
        have hhandle : handlePlaneInformationFsinn cfg tokens s ≠ .ok (s, []) := by
          rw [handlePlaneInformationFsinn, hread]
          exact ok_ne_of_actions s (List.cons_ne_nil _ _)
        refine iff_of_false ?_ (hother (by omega) (by omega))
        exact fun heq => hhandle (((Fallible.bind_ok _ hpacket).trans rfl).symm.trans heq)
      split at hkind
      · subst subType
        cases hkind
        have hpacket : customPacket tokens = .ok .planeInfoRequestFsinn :=
          (Fallible.bind_ok _ hat).trans rfl
        have hread : PlaneInfoRequestFsinn.fromTokens tokens = .ok {} := if_pos (Nat.ne_of_lt h)
        have hhandle : handlePlaneInfoRequestFsinn cfg env tokens s ≠ .ok (s, []) := by
          rw [handlePlaneInfoRequestFsinn, hread]
          exact ok_ne_of_actions s (List.append_ne_nil_of_right_ne_nil _ (List.cons_ne_nil _ _))
        refine iff_of_false ?_ (hother (by omega) (by omega))
        exact fun heq => hhandle (((Fallible.bind_ok _ hpacket).trans rfl).symm.trans heq)
      · cases hkind

/-- A line has no effect: the client stays as it is, does nothing, and its log
    filter stays as it is. The log of raw messages has the line all the same. -/
def NoEffect (table : List (QString × MessageType)) (lineRaw : QString) (o : Outbox) : Prop :=
  parseMessage cfg env table lineRaw s = .ok (s, [])
    ∧ (emitRawFsdMessage cfg lineRaw.trimmed false o).1 = o

/-- A line that is too short for its message type has no effect exactly where it
    is harmless and leaves the log filter alone. -/
theorem short_line_noEffect_iff (table : List (QString × MessageType)) (lineRaw : QString)
    (o : Outbox) (hshort : IsShort (parseLine table lineRaw)) :
    NoEffect cfg env s table lineRaw o
      ↔ Harmless cfg s (parseLine table lineRaw)
        ∧ ¬(cfg.logsRaw ∧ o.filterPasswordFromLogin ∧ lineRaw.trimmed.startsWith "#AP") := by
  refine and_congr ?_ (emitRawFsdMessage_eq_iff cfg _ _ o)
  unfold parseMessage
  cases hparse : parseLine table lineRaw with
  | unknown line | noPayload messageType =>
      rw [hparse] at hshort
      exact hshort.elim
  | message messageType tokens =>
      rw [hparse] at hshort
      rcases hshort with ⟨k, hkind, hlen⟩
      dsimp only
      by_cases hcustom : messageType = .pilotClientCom
      · subst hcustom
        exact handleCustomPilotPacket_short_iff cfg env s hkind hlen
      · rw [dispatch_of_short cfg env s hcustom hkind hlen, dispatch_nil_iff cfg env s hcustom]
        cases messageType <;> first
          | exact Iff.rfl
          | exact absurd rfl hcustom

/-- A toggle of visual positions without its flag, when they are off already. -/
theorem short_toggle_noEffect :
    NoEffect classicPilot quietEnv {} messageTypeMapping "$SFSERVER:DLH1" {} := by
  have hparse : parseLine messageTypeMapping "$SFSERVER:DLH1"
      = .message .visualPilotDataToggle ["SERVER", "DLH1"] := by decide
  have hshort : IsShort (parseLine messageTypeMapping "$SFSERVER:DLH1") := by
    rw [hparse]
    exact ⟨.visualPilotDataToggle, rfl, by decide⟩
  refine (short_line_noEffect_iff classicPilot quietEnv {} messageTypeMapping _ {} hshort).mpr ?_
  exact ⟨rfl, by decide⟩

/-- A client that connects to a server of the classic protocol. -/
def connecting : List Event :=
  [.connectToServer { quietEnv with transportOpen := false }, .socketConnected]

/-- A kill request without its second token disconnects a connected client. -/
theorem short_kill_request_disconnects : ∃ s o,
    ((client classicPilot (.ofPassword "swordfish") messageTypeMapping).run
        (.ok {}, {}) connecting).1 = (.ok s, o) ∧ s.connectionStatus = .connected ∧
      IsShort (parseLine messageTypeMapping "$!!DLH1") ∧
      ¬NoEffect classicPilot quietEnv s messageTypeMapping "$!!DLH1" o ∧ ∃ s' actions,
        parseMessage classicPilot quietEnv messageTypeMapping "$!!DLH1" s
          = .ok (s', .emit (.killRequestReceived []) :: actions) ∧
        s'.connectionStatus = .disconnected := by
  have hparse : parseLine messageTypeMapping "$!!DLH1"
      = .message .killRequest ["DLH1"] := by decide
  have hkill : ∀ s : ClientState,
      parseMessage classicPilot quietEnv messageTypeMapping "$!!DLH1" s
        = .ok ((disconnectFromServer classicPilot quietEnv s).1,
          .emit (.killRequestReceived []) :: (disconnectFromServer classicPilot quietEnv s).2) := by
    intro s
    unfold parseMessage
    rfl
  refine ⟨_, _, rfl, rfl, ?_, ?_, _, _, hkill _, disconnectFromServer_status _ _ _⟩
  · rw [hparse]
    exact ⟨.killRequest, rfl, by decide⟩
  · intro h
    exact ok_ne_of_actions _ (List.cons_ne_nil _ _) ((hkill _).symm.trans h.1)

end NeoSwift.Fsd
