import NeoSwift.Fsd.Message.Session

/-!
# Exchange Messages

The messages clients exchange with each other and with the server during a
session: queries and their responses, pings, text messages, flight plans and
errors.

A client query or response carries any number of data tokens behind its type.
The type of the simulator data query has a text of its own that is written and
never read, so such a query comes back as an unknown one
(`ClientQuery.fromTokens_euroscopeSimData`).

## Main definitions

* `ClientQuery`, `ClientResponse`, `Ping`, `Pong`, `TextMessage`, `ServerError`,
  `FlightPlan`, `VisualPilotDataToggle`.

Each has its `Message` instance with the round trip through tokens.
-/

namespace NeoSwift.Fsd

/-- A query or response: sender, receiver, type and any number of data
    tokens. -/
def readTyped {M : Type} (dflt : M)
    (create : QString → QString → ClientQueryType → QStringList → M) (tokens : QStringList) :
    Except Fault M :=
  guarded 3 dflt tokens do
    let data := if 3 < tokens.length then tokens.drop 3 else []
    return create (← tokenAt tokens 0) (← tokenAt tokens 1) (fromQString (← tokenAt tokens 2)) data

theorem readTyped_tokens {M : Type} (dflt : M)
    (create : QString → QString → ClientQueryType → QStringList → M) (a b c : QString)
    (data : QStringList) :
    readTyped dflt create (a :: b :: c :: data) = .ok (create a b (fromQString c) data) := by
  have hlen : 3 ≤ (a :: b :: c :: data).length := by
    simp only [List.length_cons]
    omega
  have hdata : (if 3 < (a :: b :: c :: data).length then (a :: b :: c :: data).drop 3 else [])
      = data := by
    cases data with
    | nil => rfl
    | cons d data => rw [if_pos (by simp only [List.length_cons]; omega)]; rfl
  rw [readTyped, hdata]
  rfl

theorem readTyped_ok {M : Type} (dflt : M)
    (create : QString → QString → ClientQueryType → QStringList → M) (tokens : QStringList) :
    ∃ m, readTyped dflt create tokens = .ok m := by
  by_cases h : tokens.length < 3
  · exact ⟨dflt, guarded_of_short h⟩
  · rw [readTyped, guarded_of_le (by omega), tokenAt_of_lt (by omega), tokenAt_of_lt (by omega),
      tokenAt_of_lt (by omega)]
    exact ⟨_, rfl⟩

/-- `ClientQuery`. -/
structure ClientQuery extends MessageBase where
  queryType : ClientQueryType := .unknown
  queryData : QStringList := []
  deriving DecidableEq

namespace ClientQuery

def create (sender clientToBeQueried : QString) (queryType : ClientQueryType)
    (queryData : QStringList) : ClientQuery :=
  { sender, receiver := clientToBeQueried, queryType, queryData }

def toTokens (m : ClientQuery) : QStringList :=
  [m.sender, m.receiver, toQString m.queryType] ++ m.queryData

def fromTokens : QStringList → Except Fault ClientQuery := readTyped {} create

end ClientQuery

instance : Message ClientQuery where
  pdu := "$CQ"
  toTokens := ClientQuery.toTokens
  fromTokens := ClientQuery.fromTokens
  texts m := [m.sender, m.receiver] ++ m.queryData
  InRange m := m.queryType ≠ .euroscopeSimData
  colon_notMem m h t ht := by
    simp only [ClientQuery.toTokens, List.mem_append, List.mem_cons, List.not_mem_nil,
      or_false] at h ht
    rcases ht with (rfl | rfl | rfl) | ht
    · exact h _ (by simp)
    · exact h _ (by simp)
    · exact ClientQueryType.colon_notMem _
    · exact h _ (Or.inr ht)
  fromTokens_fields m hr _ := by
    have hread : ClientQuery.fromTokens m.toTokens = .ok (ClientQuery.create m.sender m.receiver
        (fromQString (toQString m.queryType)) m.queryData) := readTyped_tokens _ _ _ _ _ _
    rw [hread, (ClientQueryType.fromQString_toQString_iff _).mpr hr, ClientQuery.create]

/-- `ClientResponse`. -/
structure ClientResponse extends MessageBase where
  queryType : ClientQueryType := .unknown
  responseData : QStringList := []
  deriving DecidableEq

namespace ClientResponse

def create (sender receiver : QString) (queryType : ClientQueryType)
    (responseData : QStringList) : ClientResponse :=
  { sender, receiver, queryType, responseData }

def toTokens (m : ClientResponse) : QStringList :=
  [m.sender, m.receiver, toQString m.queryType] ++ m.responseData

def fromTokens : QStringList → Except Fault ClientResponse := readTyped {} create

end ClientResponse

instance : Message ClientResponse where
  pdu := "$CR"
  toTokens := ClientResponse.toTokens
  fromTokens := ClientResponse.fromTokens
  texts m := [m.sender, m.receiver] ++ m.responseData
  InRange m := m.queryType ≠ .euroscopeSimData
  colon_notMem m h t ht := by
    simp only [ClientResponse.toTokens, List.mem_append, List.mem_cons, List.not_mem_nil,
      or_false] at h ht
    rcases ht with (rfl | rfl | rfl) | ht
    · exact h _ (by simp)
    · exact h _ (by simp)
    · exact ClientQueryType.colon_notMem _
    · exact h _ (Or.inr ht)
  fromTokens_fields m hr _ := by
    have hread : ClientResponse.fromTokens m.toTokens = .ok (ClientResponse.create m.sender
        m.receiver (fromQString (toQString m.queryType)) m.responseData) :=
      readTyped_tokens _ _ _ _ _ _
    rw [hread, (ClientQueryType.fromQString_toQString_iff _).mpr hr, ClientResponse.create]

/-- `Ping`. -/
structure Ping extends MessageBase where
  timestamp : QString := []
  deriving DecidableEq

namespace Ping

def create (sender receiver timestamp : QString) : Ping := { sender, receiver, timestamp }

def toTokens (m : Ping) : QStringList := [m.sender, m.receiver, m.timestamp]

def fromTokens : QStringList → Except Fault Ping := readTriple {} create

end Ping

instance : Message Ping where
  pdu := "$PI"
  toTokens := Ping.toTokens
  fromTokens := Ping.fromTokens
  texts m := [m.sender, m.receiver, m.timestamp]
  InRange _ := True
  colon_notMem _ h := h
  fromTokens_fields _ _ _ := rfl

/-- `Pong`. -/
structure Pong extends MessageBase where
  timestamp : QString := []
  deriving DecidableEq

namespace Pong

def create (sender receiver timestamp : QString) : Pong := { sender, receiver, timestamp }

def toTokens (m : Pong) : QStringList := [m.sender, m.receiver, m.timestamp]

def fromTokens : QStringList → Except Fault Pong := readTriple {} create

end Pong

instance : Message Pong where
  pdu := "$PO"
  toTokens := Pong.toTokens
  fromTokens := Pong.fromTokens
  texts m := [m.sender, m.receiver, m.timestamp]
  InRange _ := True
  colon_notMem _ h := h
  fromTokens_fields _ _ _ := rfl

/-- Private messages go to a callsign, radio messages to frequencies. -/
inductive TextMessageType where
  | privateMessage
  | radioMessage
  deriving DecidableEq

/-- `TextMessage`. -/
structure TextMessage extends MessageBase where
  message : QString := []
  type : TextMessageType := .privateMessage
  frequencies : List Int32 := []
  deriving DecidableEq

namespace TextMessage

/-- The constructor: a receiver that starts with `@` is a list of frequencies,
    each with one character in front. -/
def create (sender receiver message : QString) : TextMessage :=
  if receiver.startsWith "@" then
    { sender, receiver, message, type := .radioMessage,
      frequencies := (receiver.split '&').map
        (fun frequencyString => QString.toInt (frequencyString.drop 1) + 100000) }
  else { sender, receiver, message }

def toTokens (m : TextMessage) : QStringList := [m.sender, m.receiver, m.message]

/-- The message is everything behind the receiver, separators included. -/
def fromTokens (tokens : QStringList) : Except Fault TextMessage :=
  guarded 3 {} tokens do
    let messageTokens := tokens.drop 2
    return create (← tokenAt tokens 0) (← tokenAt tokens 1)
      (QString.join messageTokens ":")

end TextMessage

instance : Message TextMessage where
  pdu := "#TM"
  toTokens := TextMessage.toTokens
  fromTokens := TextMessage.fromTokens
  texts m := [m.sender, m.receiver, m.message]
  InRange m := m = TextMessage.create m.sender m.receiver m.message
  colon_notMem _ h := h
  fromTokens_fields m hr _ := by
    have hread : TextMessage.fromTokens m.toTokens = .ok (TextMessage.create m.sender m.receiver
        (QString.join [m.message] ":")) := rfl
    have hjoin : QString.join [m.message] ":" = m.message :=
      List.intercalate_singleton
    refine hread.trans ?_
    rw [hjoin, ← hr]

/-- `ServerError`. -/
structure ServerError extends MessageBase where
  errorNumber : ServerErrorCode := .noError
  causingParameter : QString := []
  description : QString := []
  deriving DecidableEq

namespace ServerError

def create (sender receiver : QString) (errorCode : ServerErrorCode)
    (causingParameter description : QString) : ServerError :=
  { sender, receiver, errorNumber := errorCode, causingParameter, description }

/-- The errors after which the client disconnects. -/
def fatalErrors : List ServerErrorCode :=
  [.callsignInUse, .invalidCallsign, .alreadyRegistered, .invalidCidPassword, .invalidRevision,
    .requestedLevelTooHigh, .serverFull, .cidSuspended, .ratingTooLow, .invalidClient,
    .authTimeout]

def isFatalError (m : ServerError) : Bool := m.errorNumber ∈ fatalErrors

def toTokens (m : ServerError) : QStringList :=
  [m.sender, m.receiver, QString.number m.errorNumber.toInt.toInt, m.causingParameter,
    m.description]

def fromTokens (tokens : QStringList) : Except Fault ServerError :=
  guarded 5 {} tokens do
    return create (← tokenAt tokens 0) (← tokenAt tokens 1)
      (ServerErrorCode.ofInt (← tokenAt tokens 2).toInt) (← tokenAt tokens 3) (← tokenAt tokens 4)

end ServerError

instance : Message ServerError where
  pdu := "$ER"
  toTokens := ServerError.toTokens
  fromTokens := ServerError.fromTokens
  texts m := [m.sender, m.receiver, m.causingParameter, m.description]
  InRange m := m.errorNumber ∈ ServerErrorCode.enumerators
  colon_notMem m h := by
    simp [ServerError.toTokens, h]
  fromTokens_fields m hr _ := by
    have hread : ServerError.fromTokens m.toTokens = .ok (ServerError.create m.sender m.receiver
        (ServerErrorCode.ofInt (QString.number m.errorNumber.toInt.toInt).toInt)
        m.causingParameter m.description) := rfl
    rw [hread, QString.toInt_number, ServerErrorCode.ofInt_toInt hr, ServerError.create]

/-- `FlightPlan`. -/
structure FlightPlan extends MessageBase where
  flightType : FlightType := .ifr
  aircraftIcaoType : QString := []
  trueCruisingSpeed : Int32 := 0
  depAirport : QString := []
  estimatedDepTime : Int32 := 0
  actualDepTime : Int32 := 0
  cruiseAlt : QString := []
  destAirport : QString := []
  hoursEnroute : Int32 := 0
  minutesEnroute : Int32 := 0
  fuelAvailHours : Int32 := 0
  fuelAvailMinutes : Int32 := 0
  altAirport : QString := []
  remarks : QString := []
  route : QString := []
  deriving DecidableEq

namespace FlightPlan

def toTokens (m : FlightPlan) : QStringList :=
  [m.sender, m.receiver, toQString m.flightType, m.aircraftIcaoType,
    QString.number m.trueCruisingSpeed.toInt, m.depAirport,
    QString.number m.estimatedDepTime.toInt, QString.number m.actualDepTime.toInt, m.cruiseAlt,
    m.destAirport, QString.number m.hoursEnroute.toInt, QString.number m.minutesEnroute.toInt,
    QString.number m.fuelAvailHours.toInt, QString.number m.fuelAvailMinutes.toInt, m.altAirport,
    m.remarks, m.route]

def fromTokens (tokens : QStringList) : Except Fault FlightPlan :=
  guarded 17 {} tokens do
    return {
      sender := ← tokenAt tokens 0
      receiver := ← tokenAt tokens 1
      flightType := fromQString (← tokenAt tokens 2)
      aircraftIcaoType := ← tokenAt tokens 3
      trueCruisingSpeed := (← tokenAt tokens 4).toInt
      depAirport := ← tokenAt tokens 5
      estimatedDepTime := (← tokenAt tokens 6).toInt
      actualDepTime := (← tokenAt tokens 7).toInt
      cruiseAlt := ← tokenAt tokens 8
      destAirport := ← tokenAt tokens 9
      hoursEnroute := (← tokenAt tokens 10).toInt
      minutesEnroute := (← tokenAt tokens 11).toInt
      fuelAvailHours := (← tokenAt tokens 12).toInt
      fuelAvailMinutes := (← tokenAt tokens 13).toInt
      altAirport := ← tokenAt tokens 14
      remarks := ← tokenAt tokens 15
      route := ← tokenAt tokens 16 }

/-- The tokens of a flight plan give it back, whatever they contain. -/
theorem fromTokens_toTokens (m : FlightPlan) : fromTokens m.toTokens = .ok m := by
  have hread : FlightPlan.fromTokens m.toTokens = .ok { m with
      flightType := fromQString (toQString m.flightType)
      trueCruisingSpeed := (QString.number m.trueCruisingSpeed.toInt).toInt
      estimatedDepTime := (QString.number m.estimatedDepTime.toInt).toInt
      actualDepTime := (QString.number m.actualDepTime.toInt).toInt
      hoursEnroute := (QString.number m.hoursEnroute.toInt).toInt
      minutesEnroute := (QString.number m.minutesEnroute.toInt).toInt
      fuelAvailHours := (QString.number m.fuelAvailHours.toInt).toInt
      fuelAvailMinutes := (QString.number m.fuelAvailMinutes.toInt).toInt } := rfl
  simp [hread]

end FlightPlan

instance : Message FlightPlan where
  pdu := "$FP"
  toTokens := FlightPlan.toTokens
  fromTokens := FlightPlan.fromTokens
  texts m := [m.sender, m.receiver, m.aircraftIcaoType, m.depAirport, m.cruiseAlt, m.destAirport,
    m.altAirport, m.remarks, m.route]
  InRange _ := True
  colon_notMem m h := by
    simp [FlightPlan.toTokens, h]
  fromTokens_fields m _ _ := FlightPlan.fromTokens_toTokens m

/-- `VisualPilotDataToggle`: whether the server wants visual positions. -/
structure VisualPilotDataToggle extends MessageBase where
  client : QString := []
  active : Bool := false
  deriving DecidableEq

namespace VisualPilotDataToggle

def create (sender client : QString) (active : Bool) : VisualPilotDataToggle :=
  { sender, client, active }

def toTokens (m : VisualPilotDataToggle) : QStringList := [m.sender, m.client, flagText m.active]

def fromTokens : QStringList → Except Fault VisualPilotDataToggle :=
  readTriple {} (fun sender client flag => create sender client (flag = "1"))

end VisualPilotDataToggle

instance : Message VisualPilotDataToggle where
  pdu := "$SF"
  toTokens := VisualPilotDataToggle.toTokens
  fromTokens := VisualPilotDataToggle.fromTokens
  texts m := [m.sender, m.receiver, m.client]
  InRange m := m.receiver = []
  colon_notMem m h := by
    simp [VisualPilotDataToggle.toTokens, h]
  fromTokens_fields m hr _ := by
    have hread : VisualPilotDataToggle.fromTokens m.toTokens
        = .ok (VisualPilotDataToggle.create m.sender m.client
          (flagText m.active = "1")) := rfl
    rw [hread, flagText_eq_one, VisualPilotDataToggle.create, ← hr]

end NeoSwift.Fsd
