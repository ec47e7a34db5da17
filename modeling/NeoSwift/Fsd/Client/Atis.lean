import NeoSwift.Fsd.Client.Frame
import NeoSwift.Fsd.Client.ShortLines

/-!
# ATIS Assembly

A controller's ATIS comes in lines, one client response each: a voice room, text
lines, a logoff time, and an end line that publishes what has come. Lines of
several controllers interleave.

What should be published is a matter of the lines alone: the text lines that
came from the controller since the last end line, and since the session started.
The client assembles them in a map, which agrees with the lines as long as
three things do not happen. A session starts while text lines of an earlier one
are still in the map, which nothing clears. An end line meets a text line that
only holds the place of another one, which stops the publishing before the entry
is removed. Or a line of no known type comes, which ends the ATIS like an end
line does.

## Main definitions

* `atisLine`: A received line as a line of an ATIS.
* `atisTexts`: The text lines since the last end line and the session start.
* `pendingTexts`: The text lines in the map.
* `AssemblesAtis`: Where nothing of the three happens.

## Theorems

* `updateAtisMap_pendingTexts`: What a line does to the map.
* `pendingTexts_eq_atisTexts`: The map agrees with the lines, in every run.
* `atis_published`: An end line publishes them and removes the entry.
-/

namespace NeoSwift.Fsd

open Aviation (Callsign Unicode)
open Fallible

/-- A line of an ATIS: who sent it, what it is, and its text. -/
structure AtisLine where
  sender : QString
  type : AtisLineType
  text : QString
  deriving DecidableEq

/-- The line of an ATIS that a received line is. -/
def atisLine (table : List (QString × MessageType)) (lineRaw : QString) : Option AtisLine :=
  match parseLine table lineRaw with
  | .message .clientResponse tokens =>
    match ClientResponse.fromTokens tokens with
    | .ok response =>
      if response.queryType = .atis then
        some {
          sender := response.sender
          type := AtisLineType.fromQString (response.responseData.getD 0 [])
          text := response.responseData.getD 1 [] }
      else none
    | .error _ => none
  | _ => none

def Event.atisLine (table : List (QString × MessageType)) : Event → Option AtisLine
  | .lineReceived _ lineRaw => Fsd.atisLine table lineRaw
  | _ => none

/-- A session starts where the client connects and is not connected already. -/
def Event.startsSession : Event → Bool
  | .connectToServer env => !env.transportOpen
  | _ => false

/-- What a line does to the text lines of all controllers. -/
def AtisLine.note (line : AtisLine) (texts : QString → QStringList) : QString → QStringList :=
  match line.type with
  | .textMessage => Function.update texts line.sender (texts line.sender ++ [line.text])
  | .lineCount => Function.update texts line.sender []
  | _ => texts

/-- What an event does to them. -/
def noteAtis (table : List (QString × MessageType)) (texts : QString → QStringList)
    (event : Event) : QString → QStringList :=
  if event.startsSession then fun _ => []
  else (event.atisLine table).elim texts fun line => line.note texts

/-- The text lines of each controller since its last end line and since the
    session started. -/
def atisTexts (table : List (QString × MessageType)) (events : List Event) :
    QString → QStringList :=
  events.foldl (noteAtis table) fun _ => []

/-- The text lines in the map. -/
def pendingTexts (s : ClientState) (sender : QString) : QStringList :=
  ((s.mapAtisMessages sender).getD {}).textLines

/-- Text lines as they are published: without the blanks around them, and
    without blank lines. -/
def atisLines (texts : QStringList) : QStringList :=
  (texts.map QString.trimmed).filter (fun text => text != [])

/-- Where a line keeps the map in agreement: none of the text lines is a
    placeholder when the end line comes, and a line of no known type comes only
    when no text line is pending. -/
structure AtisLine.Assembles (line : AtisLine) (u : Unicode) (s : ClientState) : Prop where
  ended : line.type = .lineCount →
    ∀ text ∈ pendingTexts s line.sender, isAtisPlaceholder u text.trimmed = false
  known : line.type = .unknown → pendingTexts s line.sender = []

/-- Where an event does: its line does, and no text line is left when a session
    starts. -/
def AssemblesAtis (cfg : Config) (table : List (QString × MessageType)) :
    Except Fault ClientState → Event → Prop
  | .error _, _ => True
  | .ok s, event =>
    (event.startsSession = true → ∀ sender, pendingTexts s sender = []) ∧
      ∀ line, event.atisLine table = some line → line.Assembles cfg.unicode s

/-! ### Published text -/

theorem atisLines_of_unpadded {texts : QStringList}
    (h : ∀ text ∈ texts, text.trimmed = text ∧ text ≠ []) : atisLines texts = texts := by
  have hmap : texts.map QString.trimmed = texts := by
    conv_rhs => rw [← List.map_id texts]
    exact List.map_congr_left fun text ht => (h text ht).1
  rw [atisLines, hmap, List.filter_eq_self]
  intro text ht
  simpa only [bne_iff_ne] using (h text ht).2

theorem join_cons_cons (a b : QString) (texts : QStringList) (sep : QString) :
    QString.join (a :: b :: texts) sep = QString.join ((a ++ sep ++ b) :: texts) sep := by
  cases texts with
  | nil => simp [QString.join]
  | cons c texts => simp [QString.join]

/-- Without a placeholder, the text of an ATIS is the text lines as they are
    published, one to a line. -/
theorem atisText_eq (u : Unicode) {texts : QStringList} (message : QString)
    (h : ∀ text ∈ texts, isAtisPlaceholder u text.trimmed = false) :
    atisText u message texts
      = some (QString.join (if message = [] then atisLines texts else message :: atisLines texts)
        "\n") := by
  induction texts generalizing message with
  | nil =>
      by_cases hm : message = []
      · subst hm
        rfl
      · rw [if_neg hm, atisText]
        simp [atisLines, QString.join]
  | cons tm texts ih =>
      have hrest : ∀ text ∈ texts, isAtisPlaceholder u text.trimmed = false :=
        fun text ht => h text (List.mem_cons_of_mem _ ht)
      rw [atisText]
      -- A blank line is dropped by the source, and is no line of the text.
      by_cases hblank : tm.trimmed = []
      · have hlines : atisLines (tm :: texts) = atisLines texts := by
          simp only [atisLines, List.map_cons, hblank]
          rfl
        rw [if_pos hblank, ih message hrest, hlines]
      · have hlines : atisLines (tm :: texts) = tm.trimmed :: atisLines texts := by
          rw [atisLines, List.map_cons, List.filter_cons_of_pos (by simpa using hblank)]
          rfl
        rw [if_neg hblank, if_neg (by rw [h tm List.mem_cons_self]; decide), hlines]
        -- The first line has no line break in front of it.
        by_cases hm : message = []
        · rw [if_pos hm, if_pos hm, ih tm.trimmed hrest, if_neg hblank]
        · have hne : message ++ "\n".toList ++ tm.trimmed ≠ [] := by simp [hm]
          rw [if_neg hm, if_neg hm, ih _ hrest, if_neg hne, join_cons_cons]

/-! ### One line -/

section

variable (cfg : Config) (table : List (QString × MessageType)) (s : ClientState)

/-- What a client response says about an ATIS. -/
theorem handleClientResponse_atis (tokens : QStringList) :
    match ClientResponse.fromTokens tokens with
    | .error fault => handleClientResponse cfg tokens s = .error fault
    | .ok response =>
      if response.queryType = .atis then
        handleClientResponse cfg tokens s = .ok (updateAtisMap cfg response.sender
          (AtisLineType.fromQString (response.responseData.getD 0 []))
          (response.responseData.getD 1 []) s)
      else Ensures (Frame s) (handleClientResponse cfg tokens s) := by
  cases hread : ClientResponse.fromTokens tokens with
  | error fault => exact bind_error _ hread
  | ok response =>
      dsimp only
      by_cases hquery : response.queryType = .atis
      · rw [if_pos hquery]
        refine (bind_ok _ hread).trans ?_
        rw [hquery]
        rfl
      · rw [if_neg hquery]
        have hhandle : handleClientResponse cfg tokens s = _ := bind_ok _ hread
        rw [hhandle]
        dsimp only
        -- Of all other responses only some emit a signal, and none of them touches the map.
        cases hq : response.queryType with
        | atis => exact absurd hq hquery
        | com1Freq =>
            dsimp only
            split
            · exact (ensures_ok _ _).mpr (frame_refl s)
            · exact (ensures_ok _ _).mpr (frame_single s rfl rfl)
        | isValidATC | capabilities | realName | server =>
            exact (ensures_ok _ _).mpr (frame_single s rfl rfl)
        | _ => exact (ensures_ok _ _).mpr (frame_refl s)

/-- A line of an ATIS goes to the map. -/
theorem handle_of_atisLine {event : Event} {line : AtisLine}
    (h : event.atisLine table = some line) :
    handle cfg table s event = .ok (updateAtisMap cfg line.sender line.type line.text s) := by
  cases event with
  | lineReceived env lineRaw =>
      change Fsd.atisLine table lineRaw = some line at h
      change parseMessage cfg env table lineRaw s = _
      unfold Fsd.atisLine at h
      unfold parseMessage
      -- Only a client response with a line of an ATIS counts as one.
      split at h
      · next tokens hparse =>
          rw [hparse]
          have hresponse := handleClientResponse_atis cfg s tokens
          split at h
          · next response hread =>
              rw [hread] at hresponse
              dsimp only at hresponse
              by_cases hquery : response.queryType = .atis
              · rw [if_pos hquery] at h hresponse
                cases h
                exact hresponse
              · rw [if_neg hquery] at h
                cases h
          · cases h
      · cases h
  | _ => cases h

theorem handleFsdIdentification_atis (env : Env) (tokens : QStringList) :
    Ensures (fun r => r.1.mapAtisMessages = s.mapAtisMessages)
      (handleFsdIdentification cfg env tokens s) := by
  refine ensures_ite (fun _ => ensures_bind fun m _ => (ensures_ok _ _).mpr ?_) fun _ => ?_
  · unfold sendClientIdentification
    dsimp only
    split
    · rfl
    · exact (updateConnectionStatus_frame _ _).atis
  · exact (ensures_ok _ _).mpr (disconnectFromServer_frame cfg env s).atis

theorem connectToServer_atis (env : Env) :
    Ensures (fun r => r.1.mapAtisMessages = s.mapAtisMessages) (connectToServer cfg env s) := by
  unfold connectToServer
  refine ensures_ite (fun _ => (ensures_ok _ _).mpr rfl) fun _ => ?_
  refine ensures_ite (fun _ => ensures_error _ _) fun _ => ?_
  -- The state is cleared, but not of the ATIS messages.
  have hatis := (updateConnectionStatus_frame { clearState s with loginSince := env.now }
    .connecting).atis
  exact ensures_ite (fun _ => (ensures_ok _ _).mpr hatis) fun _ => (ensures_ok _ _).mpr hatis

/-- A line that is no line of an ATIS leaves the ATIS messages alone. -/
theorem parseMessage_atis_of_none (env : Env) {lineRaw : QString}
    (h : Fsd.atisLine table lineRaw = none) :
    Ensures (fun r => r.1.mapAtisMessages = s.mapAtisMessages)
      (parseMessage cfg env table lineRaw s) := by
  unfold Fsd.atisLine at h
  unfold parseMessage
  cases hparse : parseLine table lineRaw with
  | unknown | noPayload => exact (ensures_ok _ _).mpr rfl
  | message messageType tokens =>
      rw [hparse] at h
      -- The message types that could touch the map: responses, traffic and the identification.
      by_cases hatis : messageType = .clientResponse
      · subst hatis
        have hresponse := handleClientResponse_atis cfg s tokens
        dsimp only at h
        split at h
        · next response hread =>
            rw [hread] at hresponse
            dsimp only at hresponse
            by_cases hquery : response.queryType = .atis
            · rw [if_pos hquery] at h
              cases h
            · rw [if_neg hquery] at hresponse
              exact ensures_mono hresponse fun _ hframe => hframe.atis
        · next fault hread =>
            rw [hread] at hresponse
            exact fun r hr => nomatch hresponse.symm.trans hr
      by_cases htraffic : messageType.isTraffic = true
      · exact ensures_mono (dispatch_traffic cfg env s tokens htraffic) fun _ hr => hr.1
      by_cases hlogin : messageType = .fsdIdentification
      · subst hlogin
        exact ensures_ite (fun _ => handleFsdIdentification_atis cfg s env tokens)
          fun _ => (ensures_ok _ _).mpr rfl
      · exact ensures_mono
          (dispatch_frame cfg env s tokens (Bool.eq_false_iff.mpr htraffic) hlogin hatis)
          fun _ hframe => hframe.atis

/-- Whatever else happens leaves the ATIS messages alone, disconnecting and
    connecting included. -/
theorem handle_atis_of_none {event : Event} (h : event.atisLine table = none) :
    Ensures (fun r => r.1.mapAtisMessages = s.mapAtisMessages) (handle cfg table s event) := by
  by_cases hframe : event.keepsFrame = true
  · exact ensures_mono (handle_frame cfg s table hframe) fun _ hr => hr.atis
  · cases event with
    | lineReceived env lineRaw => exact parseMessage_atis_of_none cfg table s env h
    | connectToServer env => exact connectToServer_atis cfg s env
    | socketConnected =>
        refine (ensures_ok _ _).mpr ?_
        unfold handleSocketConnected
        split
        · exact (updateConnectionStatus_frame s _).atis
        · rfl
    | tokenIssued => exact (ensures_ok _ _).mpr (updateConnectionStatus_frame s _).atis
    | sendTimer => exact (ensures_ok _ _).mpr rfl
    | _ => exact absurd rfl hframe

/-- The text lines of an entry that has been changed. -/
theorem pendingTexts_insert {s' : ClientState} {sender : QString} {atis : AtisMessage}
    {texts : QStringList} (h : s'.mapAtisMessages = s.mapAtisMessages.insert sender atis)
    (htexts : atis.textLines = texts) :
    pendingTexts s' = Function.update (pendingTexts s) sender texts := by
  funext other
  rw [pendingTexts, h, ← htexts]
  by_cases hother : other = sender
  · subst hother
    rw [Function.update_self, CallsignMap.insert_self]
    rfl
  · rw [Function.update_of_ne hother, CallsignMap.insert_of_ne _ _ _ hother]
    rfl

theorem pendingTexts_remove {s' : ClientState} {sender : QString}
    (h : s'.mapAtisMessages = s.mapAtisMessages.remove sender) :
    pendingTexts s' = Function.update (pendingTexts s) sender [] := by
  funext other
  rw [pendingTexts, h]
  by_cases hother : other = sender
  · subst hother
    rw [Function.update_self, CallsignMap.remove_self]
    rfl
  · rw [Function.update_of_ne hother, CallsignMap.remove_of_ne _ _ hother]
    rfl

/-- What is published when an ATIS ends: the text lines of the entry. -/
def atisReply (u : Unicode) (sender : QString) (texts : QStringList) : Signal :=
  .atisReplyReceived (Callsign.create u sender .atc) (QString.join (atisLines texts) "\n")

/-- An end line where something is pending and nothing is a placeholder. -/
theorem updateAtisMap_end (callsign : QString) {type : AtisLineType} (text : QString)
    (htype : type = .lineCount ∨ type = .unknown)
    (hplain : ∀ text ∈ pendingTexts s callsign, isAtisPlaceholder cfg.unicode
      text.trimmed = false) :
    updateAtisMap cfg callsign type text s
      = if s.mapAtisMessages.contains callsign then
          ({ s with mapAtisMessages := s.mapAtisMessages.remove callsign },
            [.emit (.atisLogoffTimeReplyReceived (Callsign.create cfg.unicode callsign .atc)
                ((s.mapAtisMessages callsign).getD {}).zuluLogoff),
              .emit (atisReply cfg.unicode callsign (pendingTexts s callsign))])
        else (s, []) := by
  have htext := atisText_eq cfg.unicode [] hplain
  rw [if_pos rfl] at htext
  unfold pendingTexts at htext
  rcases htype with rfl | rfl
  · simp [updateAtisMap, htext, atisReply, pendingTexts]
  · simp [updateAtisMap, htext, atisReply, pendingTexts]

/-- A line does to the text lines in the map what it does to the text lines that
    have come. -/
theorem updateAtisMap_pendingTexts (line : AtisLine) (h : line.Assembles cfg.unicode s) :
    pendingTexts (updateAtisMap cfg line.sender line.type line.text s).1
      = line.note (pendingTexts s) := by
  have hnone : s.mapAtisMessages.contains line.sender = false →
      pendingTexts s line.sender = [] := by
    intro hcontains
    rw [CallsignMap.contains, Option.isSome_eq_false_iff, Option.isNone_iff_eq_none] at hcontains
    rw [pendingTexts, hcontains]
    rfl
  unfold AtisLine.note
  cases htype : line.type with
  | voiceRoom | zuluLogoff =>
      -- The entry may be a new one, but it has no text line that it did not have.
      refine Eq.trans ?_ (Function.update_eq_self line.sender (pendingTexts s))
      apply pendingTexts_insert s
      · exact rfl
      · rfl
  | textMessage => exact pendingTexts_insert s rfl rfl
  | lineCount =>
      rw [updateAtisMap_end cfg s line.sender line.text (Or.inl rfl) (h.ended htype)]
      dsimp only
      by_cases hcontains : s.mapAtisMessages.contains line.sender = true
      · rw [if_pos hcontains]
        exact pendingTexts_remove s rfl
      · rw [if_neg hcontains, ← hnone (Bool.eq_false_iff.mpr hcontains)]
        exact (Function.update_eq_self line.sender (pendingTexts s)).symm
  | unknown =>
      have hempty := h.known htype
      rw [updateAtisMap_end cfg s line.sender line.text (Or.inr rfl) (by simp [hempty])]
      dsimp only
      split
      · refine (pendingTexts_remove s rfl).trans ?_
        rw [← hempty]
        exact Function.update_eq_self line.sender (pendingTexts s)
      · rfl

/-- Only a session start, an end line and a line of no known type can go
    wrong. -/
theorem assemblesAtis_of_line (r : Except Fault ClientState) {event : Event}
    (hstarts : event.startsSession = false) (h : ∀ line, event.atisLine table = some line →
      line.type ≠ .lineCount ∧ line.type ≠ .unknown) : AssemblesAtis cfg table r event := by
  cases r with
  | error fault => trivial
  | ok s =>
      refine ⟨fun hstart => ?_, fun line hline => ⟨fun htype => ?_, fun htype => ?_⟩⟩
      · rw [hstarts] at hstart
        cases hstart
      · exact absurd htype (h line hline).1
      · exact absurd htype (h line hline).2

/-! ### Runs -/

/-- One event keeps the agreement. -/
theorem handle_pendingTexts {event : Event} (h : AssemblesAtis cfg table (.ok s) event) :
    Ensures (fun r => pendingTexts r.1 = noteAtis table (pendingTexts s) event)
      (handle cfg table s event) := by
  cases hline : event.atisLine table with
  | some line =>
      have hstarts : event.startsSession = false := by
        cases event <;> first
          | rfl
          | cases hline
      rw [handle_of_atisLine cfg table s hline, ensures_ok]
      simp only [noteAtis, hstarts, hline]
      exact updateAtisMap_pendingTexts cfg s line (h.2 line hline)
  | none =>
      -- An event that is no line of an ATIS leaves the map, unless it starts a session.
      refine ensures_mono (handle_atis_of_none cfg table s hline) fun r hr => ?_
      have hsame : pendingTexts r.1 = pendingTexts s := by
        funext sender
        rw [pendingTexts, hr, pendingTexts]
      rw [hsame]
      by_cases hstarts : event.startsSession = true
      · rw [noteAtis, if_pos hstarts]
        exact funext (h.1 hstarts)
      · rw [noteAtis, if_neg hstarts, hline]
        rfl

/-- The map agrees with the lines in every run whose events assemble. -/
theorem pendingTexts_eq_atisTexts (events : List Event)
    (h : (core cfg table).AllSteps (AssemblesAtis cfg table) (.ok {}) events) :
    ∀ s, ((core cfg table).run (.ok {}) events).1 = .ok s →
      pendingTexts s = atisTexts table events := by
  refine Machine.run_history_of (core cfg table) (AssemblesAtis cfg table)
    (fun events s _ => ∀ t, s = .ok t → pendingTexts t = atisTexts table events)
    (.ok {}) ?_ ?_ events h
  · rintro s ⟨⟩
    rfl
  · intro events r actions event hassembles ih t ht
    -- After a fault there is no map to compare.
    cases r with
    | error fault => cases ht
    | ok s =>
        have hstep := handle_pendingTexts cfg table s hassembles
        simp only [core] at ht
        cases hhandle : handle cfg table s event with
        | error fault => rw [hhandle] at ht; cases ht
        | ok r =>
            rw [hhandle] at ht
            cases ht
            rw [hhandle, ensures_ok] at hstep
            rw [hstep, ih s rfl, atisTexts, atisTexts, List.foldl_append]
            rfl

/-- When the end line of a controller comes, in a run whose events assemble, what
    is published are the text lines that came since its last end line and since
    the session started, and the entry is removed. -/
theorem atis_published (before : List Event) (event : Event) (line : AtisLine) (s : ClientState)
    (hrun : (core cfg table).AllSteps (AssemblesAtis cfg table) (.ok {}) (before ++ [event]))
    (hs : ((core cfg table).run (.ok {}) before).1 = .ok s)
    (hline : event.atisLine table = some line) (hend : line.type = .lineCount) :
    ∃ s' actions, handle cfg table s event = .ok (s', actions) ∧
      s'.mapAtisMessages line.sender = none ∧ (atisTexts table before line.sender ≠ [] →
        .emit (atisReply cfg.unicode line.sender (atisTexts table before line.sender))
          ∈ actions) ∧ ∀ callsign atis, .emit (.atisReplyReceived callsign atis) ∈ actions →
        callsign = Callsign.create cfg.unicode line.sender .atc ∧
        atis = QString.join (atisLines (atisTexts table before line.sender)) "\n" ∧
        ((∀ text ∈ atisTexts table before line.sender, text.trimmed = text ∧ text ≠ []) →
          atis = QString.join (atisTexts table before line.sender) "\n") := by
  rcases (Machine.allSteps_append _ _ _ _ _).mp hrun with ⟨hbefore, hevent, -⟩
  rw [hs] at hevent
  -- The text lines in the map are those that have come.
  have htexts : pendingTexts s line.sender = atisTexts table before line.sender :=
    congrFun (pendingTexts_eq_atisTexts cfg table before hbefore s hs) line.sender
  have hstep := handle_of_atisLine cfg table s hline
  rw [updateAtisMap_end cfg s line.sender line.text (Or.inl hend)
    ((hevent.2 line hline).ended hend), htexts] at hstep
  by_cases hcontains : s.mapAtisMessages.contains line.sender = true
  · rw [if_pos hcontains] at hstep
    refine ⟨_, _, hstep, CallsignMap.remove_self _ _, fun _ => by simp, ?_⟩
    intro callsign atis hemit
    simp only [List.mem_cons, List.not_mem_nil, or_false, Action.emit.injEq, reduceCtorEq,
      false_or, atisReply, Signal.atisReplyReceived.injEq] at hemit
    refine ⟨hemit.1, hemit.2, fun hplain => ?_⟩
    rw [hemit.2, atisLines_of_unpadded hplain]
  · rw [if_neg hcontains] at hstep
    have hnone : s.mapAtisMessages line.sender = none := by
      simpa only [CallsignMap.contains, Option.not_isSome_iff_eq_none] using hcontains
    refine ⟨_, _, hstep, hnone, fun hne => absurd ?_ hne, fun _ _ hemit =>
      absurd hemit List.not_mem_nil⟩
    rw [← htexts, pendingTexts, hnone]
    rfl

end

/-- A controller sends a text line of its ATIS. -/
def atisTextLineOf (sender text : QString) : Event :=
  .lineReceived quietEnv ("$CR" ++ sender ++ ":DLH1:ATIS:T:" ++ text)

/-- The tower sends one. -/
def atisTextLine (text : QString) : Event := atisTextLineOf "EDDF_TWR" text

/-- The tower at the end of its ATIS. -/
def atisEndLine : Event := .lineReceived quietEnv "$CREDDF_TWR:DLH1:ATIS:E:2"

/-- Two lines of the tower and one of the ground controller between them. -/
def interleavedAtis : List Event :=
  connecting ++ [atisTextLine "RUNWAY 25C",
    atisTextLineOf "EDDF_GND" "TAXI VIA N", atisTextLine "QNH 1013"]

theorem assembles_interleavedAtis : (core classicPilot messageTypeMapping).AllSteps
    (AssemblesAtis classicPilot messageTypeMapping) (.ok {}) interleavedAtis := by
  have htext : ∀ (r : Except Fault ClientState) {event : Event} (line : AtisLine),
      event.startsSession = false → event.atisLine messageTypeMapping = some line →
        line.type = .textMessage → AssemblesAtis classicPilot messageTypeMapping r event := by
    intro r event line hstarts hline htype
    refine assemblesAtis_of_line _ _ _ hstarts fun line' h => ?_
    cases hline.symm.trans h
    rw [htype]
    decide
  refine ⟨⟨fun _ _ => rfl, nofun⟩, ?_, ?_, ?_, ?_, trivial⟩
  · exact assemblesAtis_of_line _ _ _ rfl nofun
  · exact htext _ ⟨"EDDF_TWR", .textMessage, "RUNWAY 25C"⟩ rfl
      (by decide +kernel) rfl
  · exact htext _ ⟨"EDDF_GND", .textMessage, "TAXI VIA N"⟩ rfl
      (by decide +kernel) rfl
  · exact htext _ ⟨"EDDF_TWR", .textMessage, "QNH 1013"⟩ rfl
      (by decide +kernel) rfl

/-- The lines of the tower are published as they came. -/
theorem atis_published_interleaved :
    ∃ s s' actions, handle classicPilot messageTypeMapping s atisEndLine = .ok (s', actions) ∧
      s'.mapAtisMessages "EDDF_TWR" = none ∧
      .emit (.atisReplyReceived (Callsign.create .ascii "EDDF_TWR" .atc)
        "RUNWAY 25C\nQNH 1013") ∈ actions := by
  have hend : atisEndLine.atisLine messageTypeMapping
      = some ⟨"EDDF_TWR", .lineCount, "2"⟩ := by decide +kernel
  have hok : ((core classicPilot messageTypeMapping).run (.ok {}) interleavedAtis).1.isOk =
    true := by
    decide +kernel
  rcases hs : ((core classicPilot messageTypeMapping).run (.ok {}) interleavedAtis).1 with fault | s
  · rw [hs] at hok
    cases hok
  have htexts : atisTexts messageTypeMapping interleavedAtis "EDDF_TWR"
      = ["RUNWAY 25C", "QNH 1013"] := by decide +kernel
  -- The line of the ground controller is kept apart.
  have hpending : pendingTexts s "EDDF_TWR" = ["RUNWAY 25C", "QNH 1013"] :=
    (congrFun (pendingTexts_eq_atisTexts _ _ _ assembles_interleavedAtis s hs) _).trans htexts
  have hrun : (core classicPilot messageTypeMapping).AllSteps
      (AssemblesAtis classicPilot messageTypeMapping) (.ok {})
      (interleavedAtis ++ [atisEndLine]) := by
    refine (Machine.allSteps_append _ _ _ _ _).mpr ⟨assembles_interleavedAtis, ?_, trivial⟩
    rw [hs]
    refine ⟨(nomatch ·), fun line h => ?_⟩
    cases hend.symm.trans h
    refine ⟨fun _ => ?_, (nomatch ·)⟩
    rw [hpending]
    decide
  rcases atis_published classicPilot messageTypeMapping interleavedAtis atisEndLine _ s hrun hs hend
    rfl with ⟨s', actions, hstep, hremoved, hemitted, -⟩
  refine ⟨s, s', actions, hstep, hremoved, ?_⟩
  have hreply := hemitted (by rw [htexts]; decide)
  rw [htexts] at hreply
  exact hreply

/-- A text line that is left from an earlier session is published in a later
    one. -/
theorem stale_atis_published :
    let before := connecting ++ [atisTextLine "RUNWAY 07C".toList, .disconnectFromServer quietEnv]
      ++ connecting ++ [atisTextLine "RUNWAY 25C".toList]
    atisTexts messageTypeMapping before "EDDF_TWR".toList = ["RUNWAY 25C".toList] ∧
      ((core classicPilot messageTypeMapping).step
        ((core classicPilot messageTypeMapping).run (.ok {}) before).1 atisEndLine).2
        = [.rawReceived "$CREDDF_TWR:DLH1:ATIS:E:2".toList,
          .emit (.atisLogoffTimeReplyReceived
            (Callsign.create .ascii "EDDF_TWR".toList .atc) []),
          .emit (.atisReplyReceived (Callsign.create .ascii "EDDF_TWR".toList .atc)
            "RUNWAY 07C\nRUNWAY 25C".toList)] := by
  decide +kernel

end NeoSwift.Fsd
