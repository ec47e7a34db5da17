import NeoSwift.Fsd.Message.Exchange
import NeoSwift.Fsd.Message.Plane
import NeoSwift.Fsd.Message.Position

/-!
# The Wire

How a received line finds its message type, and that sent messages come back.

The client keeps its PDU prefixes in a hash and takes the first one, in the
order of the hash, that the line starts with. The order is not known, so it is
a parameter here: any arrangement of the table. It does not matter, because no
prefix of the table is a prefix of another one.

`MessageKind` lists the message types that are both written and read, and
`MessageKind.Carrier` their values, so that the round trip is one theorem about
all of them.

## Main definitions

* `messageTypeMapping`: The prefix table.
* `parseLine`: A line taken apart into its type and tokens.
* `customPacket`: The kinds of custom pilot packets.
* `MessageKind`: The message types that are written and read.
* `RoundTrips`: A message that comes back.

## Theorems

* `lookup_eq`: The prefix of a line is found in every arrangement of the table.
* `parseLine_messageToFSDString`: A sent message comes back as its type and its
  fields.
* `roundTrips_of_inRange`: So it comes back as itself.
-/

namespace NeoSwift.Fsd

/-- `MessageType`. -/
inductive MessageType where
  | unknown | addAtc | addPilot | atcDataUpdate | authChallenge | authResponse
  | clientIdentification | clientQuery | clientResponse | deleteATC | deletePilot
  | euroscopeSimData | flightPlan | proController | fsdIdentification | killRequest
  | pilotDataUpdate | visualPilotDataUpdate | visualPilotDataPeriodic | visualPilotDataStopped
  | visualPilotDataToggle | ping | pong | serverError | serverHeartbeat | textMessage
  | pilotClientCom | rehost | mute
  deriving DecidableEq

/-- `initializeMessageTypes`. -/
def messageTypeMapping : List (QString × MessageType) :=
  [("#AA", .addAtc),
    ("#AP", .addPilot),
    ("%", .atcDataUpdate),
    ("$ZC", .authChallenge),
    ("$ZR", .authResponse),
    ("$ID", .clientIdentification),
    ("$CQ", .clientQuery),
    ("$CR", .clientResponse),
    ("#DA", .deleteATC),
    ("#DP", .deletePilot),
    ("$FP", .flightPlan),
    ("#PC", .proController),
    ("$DI", .fsdIdentification),
    ("$!!", .killRequest),
    ("@", .pilotDataUpdate),
    ("^", .visualPilotDataUpdate),
    ("#SL", .visualPilotDataPeriodic),
    ("#ST", .visualPilotDataStopped),
    ("$SF", .visualPilotDataToggle),
    ("$PI", .ping),
    ("$PO", .pong),
    ("$ER", .serverError),
    ("#DL", .serverHeartbeat),
    ("#TM", .textMessage),
    ("#SB", .pilotClientCom),
    ("$XX", .rehost),
    ("#MU", .mute),
    ("SIMDATA", .euroscopeSimData)]

/-- The first entry of a table whose prefix the line starts with. -/
def lookup (table : List (QString × MessageType)) (line : QString) :
    Option (QString × MessageType) :=
  table.find? (fun entry => line.startsWith entry.1)

/-- What `parseMessage` makes of a line before a handler sees it: no prefix, a
    prefix alone, or the tokens of a message. -/
inductive Parsed where
  | unknown (line : QString)
  | noPayload (messageType : MessageType)
  | message (messageType : MessageType) (tokens : QStringList)
  deriving DecidableEq

/-- `parseMessage` up to the call of a handler. -/
def parseLine (table : List (QString × MessageType)) (lineRaw : QString) : Parsed :=
  let line := lineRaw.trimmed
  match lookup table line with
  | none => .unknown line
  | some (cmd, messageType) =>
    let payload := QString.trimmed (line.drop cmd.length)
    if payload = [] then .noPayload messageType
    else .message messageType (payload.split ':')

/-- No prefix of the table is the prefix of another one. -/
theorem mapping_prefix_free : ∀ p ∈ messageTypeMapping, ∀ q ∈ messageTypeMapping,
    QString.startsWith q.1 p.1 → p = q := by decide

/-- A prefix of the table is not empty and starts without a blank. -/
theorem mapping_head : ∀ p ∈ messageTypeMapping, p.1 ≠ [] ∧
    ∀ c ∈ p.1.head?, QString.isSpace c = false := by
  have htest : ∀ p ∈ messageTypeMapping,
      p.1 ≠ [] ∧ p.1.head?.all (fun c => !QString.isSpace c) = true := by decide
  intro p hp
  exact ⟨(htest p hp).1, QString.notSpace_of_all (htest p hp).2⟩

/-- Of two beginnings of a line, the shorter one begins the longer one. -/
theorem startsWith_or_startsWith {line p q : QString} (hp : line.startsWith p)
    (hq : line.startsWith q) : q.startsWith p ∨ p.startsWith q := by
  simp only [QString.startsWith, List.isPrefixOf_iff_prefix] at *
  exact List.prefix_or_prefix_of_prefix hp hq

/-- The order of the table does not matter: the one prefix of a line is found. -/
theorem lookup_eq {table : List (QString × MessageType)} (hperm : table.Perm messageTypeMapping)
    {entry : QString × MessageType} (hmem : entry ∈ messageTypeMapping) {line : QString}
    (h : line.startsWith entry.1) : lookup table line = some entry := by
  unfold lookup
  cases hfind : table.find? (fun entry => line.startsWith entry.1) with
  | none =>
      have hnone := List.find?_eq_none.mp hfind entry (hperm.mem_iff.mpr hmem)
      exact absurd h hnone
  | some found =>
      have hfound : line.startsWith found.1 := by
        simpa only using List.find?_some hfind
      have hmem' := hperm.mem_iff.mp (List.mem_of_find?_eq_some hfind)
      rcases startsWith_or_startsWith hfound h with hpre | hpre
      · rw [mapping_prefix_free found hmem' entry hmem hpre]
      · rw [mapping_prefix_free entry hmem found hmem' hpre]

/-- The branches of `handleCustomPilotPacket`. -/
inductive CustomPacket where
  | planeInfoRequest | planeInformation | interimPilotDataUpdate | planeInformationFsinn
  | planeInfoRequestFsinn | ignored | unknownOpcode
  deriving DecidableEq

/-- The branch the third token selects. It is read without a length check. -/
def customPacket (tokens : QStringList) : Except Fault CustomPacket := do
  let subType ← tokenAt tokens 2
  if subType = "PIR" then return .planeInfoRequest
  else if subType = "PI" then
    if 6 < tokens.length ∧ tokens[3]? = some "X".toList then return .ignored
    else if 4 < tokens.length ∧ tokens[3]? = some "GEN".toList then return .planeInformation
    else return .ignored
  else if subType = "I" then return .ignored
  else if subType = "VI" then return .interimPilotDataUpdate
  else if subType = "FSIPI" then return .planeInformationFsinn
  else if subType = "FSIPIR" then return .planeInfoRequestFsinn
  else return .unknownOpcode

/-- The message types that are both written and read. -/
inductive MessageKind where
  | addAtc | addPilot | atcDataUpdate | authChallenge | authResponse | clientIdentification
  | clientQuery | clientResponse | deleteAtc | deletePilot | euroscopeSimData | flightPlan
  | fsdIdentification | killRequest | pilotDataUpdate | visualPilotDataUpdate
  | visualPilotDataPeriodic | visualPilotDataStopped | visualPilotDataToggle | ping | pong
  | serverError | textMessage | rehost | mute | planeInfoRequest | planeInfoRequestFsinn
  | planeInformation | planeInformationFsinn | interimPilotDataUpdate
  deriving DecidableEq

namespace MessageKind

/-- The messages of a kind. -/
def Carrier : MessageKind → Type
  | addAtc => AddAtc
  | addPilot => AddPilot
  | atcDataUpdate => AtcDataUpdate
  | authChallenge => AuthChallenge
  | authResponse => AuthResponse
  | clientIdentification => ClientIdentification
  | clientQuery => ClientQuery
  | clientResponse => ClientResponse
  | deleteAtc => DeleteAtc
  | deletePilot => DeletePilot
  | euroscopeSimData => EuroscopeSimData
  | flightPlan => FlightPlan
  | fsdIdentification => FSDIdentification
  | killRequest => KillRequest
  | pilotDataUpdate => PilotDataUpdate
  | visualPilotDataUpdate => VisualPilotDataUpdate
  | visualPilotDataPeriodic => VisualPilotDataPeriodic
  | visualPilotDataStopped => VisualPilotDataStopped
  | visualPilotDataToggle => VisualPilotDataToggle
  | ping => Ping
  | pong => Pong
  | serverError => ServerError
  | textMessage => TextMessage
  | rehost => Rehost
  | mute => Mute
  | planeInfoRequest => PlaneInfoRequest
  | planeInfoRequestFsinn => PlaneInfoRequestFsinn
  | planeInformation => PlaneInformation
  | planeInformationFsinn => PlaneInformationFsinn
  | interimPilotDataUpdate => InterimPilotDataUpdate

instance : (k : MessageKind) → Message k.Carrier
  | addAtc => inferInstanceAs (Message AddAtc)
  | addPilot => inferInstanceAs (Message AddPilot)
  | atcDataUpdate => inferInstanceAs (Message AtcDataUpdate)
  | authChallenge => inferInstanceAs (Message AuthChallenge)
  | authResponse => inferInstanceAs (Message AuthResponse)
  | clientIdentification => inferInstanceAs (Message ClientIdentification)
  | clientQuery => inferInstanceAs (Message ClientQuery)
  | clientResponse => inferInstanceAs (Message ClientResponse)
  | deleteAtc => inferInstanceAs (Message DeleteAtc)
  | deletePilot => inferInstanceAs (Message DeletePilot)
  | euroscopeSimData => inferInstanceAs (Message EuroscopeSimData)
  | flightPlan => inferInstanceAs (Message FlightPlan)
  | fsdIdentification => inferInstanceAs (Message FSDIdentification)
  | killRequest => inferInstanceAs (Message KillRequest)
  | pilotDataUpdate => inferInstanceAs (Message PilotDataUpdate)
  | visualPilotDataUpdate => inferInstanceAs (Message VisualPilotDataUpdate)
  | visualPilotDataPeriodic => inferInstanceAs (Message VisualPilotDataPeriodic)
  | visualPilotDataStopped => inferInstanceAs (Message VisualPilotDataStopped)
  | visualPilotDataToggle => inferInstanceAs (Message VisualPilotDataToggle)
  | ping => inferInstanceAs (Message Ping)
  | pong => inferInstanceAs (Message Pong)
  | serverError => inferInstanceAs (Message ServerError)
  | textMessage => inferInstanceAs (Message TextMessage)
  | rehost => inferInstanceAs (Message Rehost)
  | mute => inferInstanceAs (Message Mute)
  | planeInfoRequest => inferInstanceAs (Message PlaneInfoRequest)
  | planeInfoRequestFsinn => inferInstanceAs (Message PlaneInfoRequestFsinn)
  | planeInformation => inferInstanceAs (Message PlaneInformation)
  | planeInformationFsinn => inferInstanceAs (Message PlaneInformationFsinn)
  | interimPilotDataUpdate => inferInstanceAs (Message InterimPilotDataUpdate)

/-- The message type a kind is registered with. -/
def messageType : MessageKind → MessageType
  | addAtc => .addAtc
  | addPilot => .addPilot
  | atcDataUpdate => .atcDataUpdate
  | authChallenge => .authChallenge
  | authResponse => .authResponse
  | clientIdentification => .clientIdentification
  | clientQuery => .clientQuery
  | clientResponse => .clientResponse
  | deleteAtc => .deleteATC
  | deletePilot => .deletePilot
  | euroscopeSimData => .euroscopeSimData
  | flightPlan => .flightPlan
  | fsdIdentification => .fsdIdentification
  | killRequest => .killRequest
  | pilotDataUpdate => .pilotDataUpdate
  | visualPilotDataUpdate => .visualPilotDataUpdate
  | visualPilotDataPeriodic => .visualPilotDataPeriodic
  | visualPilotDataStopped => .visualPilotDataStopped
  | visualPilotDataToggle => .visualPilotDataToggle
  | ping => .ping
  | pong => .pong
  | serverError => .serverError
  | textMessage => .textMessage
  | rehost => .rehost
  | mute => .mute
  | planeInfoRequest | planeInfoRequestFsinn | planeInformation | planeInformationFsinn
  | interimPilotDataUpdate => .pilotClientCom

/-- A kind is registered with its PDU prefix. -/
theorem mem_mapping (k : MessageKind) : (pdu k.Carrier, k.messageType) ∈ messageTypeMapping := by
  cases k <;> decide

/-- The custom pilot packet a kind is. -/
def packet : MessageKind → Option CustomPacket
  | planeInfoRequest => some .planeInfoRequest
  | planeInfoRequestFsinn => some .planeInfoRequestFsinn
  | planeInformation => some .planeInformation
  | planeInformationFsinn => some .planeInformationFsinn
  | interimPilotDataUpdate => some .interimPilotDataUpdate
  | _ => none

/-- A custom pilot packet is told from the others by its own fields. -/
theorem customPacket_fields (k : MessageKind) (m : k.Carrier) {c : CustomPacket}
    (h : k.packet = some c) : customPacket (Message.fields m) = .ok c := by
  cases k <;> simp only [packet, reduceCtorEq, Option.some.injEq] at h <;> subst h
  case planeInformation =>
      have hlen : 4 < (PlaneInformation.fields m).length :=
        PlaneInformation.five_le_length_fields m
      have hpacket : customPacket (PlaneInformation.fields m)
          = if 6 < (PlaneInformation.fields m).length ∧ some "GEN".toList = some "X".toList
            then .ok .ignored
            else if 4 < (PlaneInformation.fields m).length ∧ some "GEN".toList = some "GEN".toList
            then .ok .planeInformation
            else .ok .ignored := rfl
      refine hpacket.trans ?_
      rw [if_neg (fun h => absurd h.2 (by decide)), if_pos ⟨hlen, rfl⟩]
  all_goals rfl

end MessageKind

/-- The payload of a message: its line without the prefix and the line end. -/
def payload {M : Type} [Message M] (m : M) : QString := QString.join (toTokens m) ":"

/-- Every message has at least two fields. -/
theorem two_le_length_fields (k : MessageKind) (m : k.Carrier) : 2 ≤ (Message.fields m).length := by
  cases k
  all_goals exact Nat.le_of_ble_eq_true rfl

/-- A separator lies between two fields. -/
theorem join_ne_nil {fields : QStringList} (h : 2 ≤ fields.length) :
    QString.join fields ":" ≠ [] := by
  intro hnil
  rcases fields with _ | ⟨a, _ | ⟨b, rest⟩⟩
  · cases h
  · simp only [List.length_cons, List.length_nil] at h
    omega
  · simp [QString.join] at hnil

/-- A message fits on a line: no text contains the separator, and the payload
    neither starts nor ends with a blank, so that trimming keeps all of it. -/
structure FitsLine {M : Type} [Message M] (m : M) : Prop where
  colon_notMem : ∀ s ∈ Message.texts m, ':' ∉ s
  head : ∀ c ∈ (payload m).head?, QString.isSpace c = false
  last : ∀ c ∈ (payload m).getLast?, QString.isSpace c = false

/-- A sent message is received as its type and its fields, whatever the order of
    the table. -/
theorem parseLine_messageToFSDString {table : List (QString × MessageType)}
    (hperm : table.Perm messageTypeMapping) (k : MessageKind) (m : k.Carrier) (h : FitsLine m) :
    parseLine table (messageToFSDString m) = .message k.messageType (Message.fields m) := by
  rcases h with ⟨htexts, hhead, hlast⟩
  have hfields : payload m = QString.join (Message.fields m) ":" :=
    (Message.join_fields m).symm
  have hne : payload m ≠ [] := by
    rw [hfields]
    exact join_ne_nil (two_le_length_fields k m)
  rcases mapping_head _ k.mem_mapping with ⟨hpdu, hpduHead⟩
  -- The line end is the only blank that trimming finds.
  have hline : QString.trimmed (messageToFSDString m) = pdu k.Carrier ++ payload m := by
    rw [messageToFSDString, ← payload]
    refine QString.trimmed_append_spaces ?_ ?_ ?_ (List.all_eq_true.mp rfl)
    · exact fun h => hne (List.append_eq_nil_iff.mp h).2
    · intro c hc
      refine hpduHead c ?_
      rwa [List.head?_append_of_ne_nil _ hpdu] at hc
    · intro c hc
      refine hlast c ?_
      rwa [List.getLast?_append_of_ne_nil _ hne] at hc
  have hstarts : QString.startsWith (pdu k.Carrier ++ payload m) (pdu k.Carrier) := by
    rw [QString.startsWith, List.isPrefixOf_iff_prefix]
    exact List.prefix_append _ _
  have hlookup := lookup_eq hperm k.mem_mapping hstarts
  have hsplit : QString.split (payload m) ':' = Message.fields m := by
    rw [hfields]
    refine QString.split_join ?_ (Message.colon_notMem m htexts)
    intro hnil
    have hlen := two_le_length_fields k m
    rw [hnil] at hlen
    cases hlen
  simp [parseLine, hline, hlookup, QString.trimmed_of_edges hhead hlast, if_neg hne, hsplit]

/-- A message comes back: in every order of the table its line is received as
    its type, as its custom pilot packet where it is one, and its own reader
    makes the message of the tokens. -/
def RoundTrips (k : MessageKind) (m : k.Carrier) : Prop :=
  ∀ table : List (QString × MessageType), table.Perm messageTypeMapping → ∃ tokens,
    parseLine table (messageToFSDString m) = .message k.messageType tokens ∧
      (∀ c, k.packet = some c → customPacket tokens = .ok c) ∧ fromTokens tokens = .ok m

/-- Another message in the usual order of the table is enough for a message not
    to come back. -/
theorem not_roundTrips {k : MessageKind} {m : k.Carrier} {tokens : QStringList}
    (hparse : parseLine messageTypeMapping (messageToFSDString m)
      = .message k.messageType tokens)
    (hread : (fromTokens (M := k.Carrier) tokens).toOption ≠ some m) : ¬RoundTrips k m := by
  intro h
  rcases h messageTypeMapping (List.Perm.refl _) with ⟨tokens', hparse', _, hread'⟩
  rw [hparse, Parsed.message.injEq] at hparse'
  rw [← hparse'.2] at hread'
  exact hread (by rw [hread', Except.toOption])

/-- Every message in range that fits on a line comes back. -/
theorem roundTrips_of_inRange (k : MessageKind) (m : k.Carrier) (hrange : Message.InRange m)
    (hfits : FitsLine m) : RoundTrips k m := by
  intro table hperm
  refine ⟨Message.fields m, parseLine_messageToFSDString hperm k m hfits, ?_, ?_⟩
  · intro c hc
    exact k.customPacket_fields m hc
  · exact Message.fromTokens_fields m hrange hfits.colon_notMem

/-- A pilot position over Frankfurt comes back. -/
theorem pilotDataUpdate_roundTrips : RoundTrips .pilotDataUpdate
    (PilotDataUpdate.create .modeC "DLH1" 1200 .student (50.03333 : ℚ) (8.57056 : ℚ) 364 400
      0 { heading := 90, onGround := true }) := by
  refine roundTrips_of_inRange .pilotDataUpdate _ ?_ ⟨by decide,
    QString.notSpace_of_all (by decide +kernel), QString.notSpace_of_all (by decide +kernel)⟩
  refine ⟨rfl, Or.inr (Or.inl rfl), ⟨5003333, ?_⟩, ⟨857056, ?_⟩, ⟨0, ?_⟩, ⟨0, ?_⟩, ⟨256, ?_⟩⟩
  all_goals decide +kernel

/-- A query for simulator data. -/
def simDataQuery : ClientQuery :=
  ClientQuery.create "EDDF_TWR" "DLH1" .euroscopeSimData []

/-- A position with a transponder in mode S. -/
def modeSPosition : PilotDataUpdate :=
  PilotDataUpdate.create .modeS "DLH1" 1200 .student 0 0 0 0 0 {}

/-- A controller whose latitude has more decimals than are written. -/
def offGridController : AtcDataUpdate :=
  AtcDataUpdate.create "EDDF_TWR" 118000 .twr 50 .student (1 / 1048576) 0 0

/-- These fit on a line and do not come back. -/
theorem fitsLine_not_roundTrips :
    (FitsLine simDataQuery ∧ ¬RoundTrips .clientQuery simDataQuery) ∧
      (FitsLine modeSPosition ∧ ¬RoundTrips .pilotDataUpdate modeSPosition) ∧
      (FitsLine offGridController ∧ ¬RoundTrips .atcDataUpdate offGridController) := by
  refine ⟨⟨⟨by decide, QString.notSpace_of_all (by decide), QString.notSpace_of_all (by decide)⟩,
      ?_⟩,
    ⟨⟨by decide, QString.notSpace_of_all (by decide +kernel),
      QString.notSpace_of_all (by decide +kernel)⟩, ?_⟩,
    ⟨⟨by decide, QString.notSpace_of_all (by decide +kernel),
      QString.notSpace_of_all (by decide +kernel)⟩, ?_⟩⟩
  · -- The text behind the query type is lost.
    have hparse : parseLine messageTypeMapping (messageToFSDString simDataQuery)
        = .message .clientQuery ["EDDF_TWR", "DLH1", "SIMDATA"] := by
      decide
    have hread : (ClientQuery.fromTokens
        ["EDDF_TWR", "DLH1", "SIMDATA"]).toOption ≠ some simDataQuery := by
      decide
    exact not_roundTrips (k := .clientQuery) hparse hread
  · have hparse : parseLine messageTypeMapping (messageToFSDString modeSPosition)
        = .message .pilotDataUpdate ["N", "DLH1", "1200", "1",
          "0.00000", "0.00000", "0", "0", "0", "0"] := by
      decide +kernel
    have hread : (PilotDataUpdate.fromTokens ["N", "DLH1", "1200",
        "1", "0.00000", "0.00000", "0", "0", "0",
        "0"]).toOption ≠ some modeSPosition := by
      decide +kernel
    exact not_roundTrips (k := .pilotDataUpdate) hparse hread
  · have hparse : parseLine messageTypeMapping (messageToFSDString offGridController)
        = .message .atcDataUpdate ["EDDF_TWR", "18000", "4", "50",
          "2", "0.00000", "0.00000", "0"] := by
      decide +kernel
    have hread : (AtcDataUpdate.fromTokens ["EDDF_TWR", "18000", "4",
        "50", "2", "0.00000", "0.00000", "0"]).toOption
        ≠ some offGridController := by
      decide +kernel
    exact not_roundTrips (k := .atcDataUpdate) hparse hread

end NeoSwift.Fsd
