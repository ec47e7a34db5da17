import NeoSwift.Fsd.Message.Base

/-!
# Session Messages

The messages that open and close a session: identification and authentication
of server and client, the login of pilots and controllers, their departure, and
the requests by which a server ends or moves a session.

## Main definitions

* `AddAtc`, `AddPilot`, `DeleteAtc`, `DeletePilot`: Clients coming and going.
* `AuthChallenge`, `AuthResponse`, `FSDIdentification`, `ClientIdentification`:
  Who is who.
* `KillRequest`, `Rehost`, `Mute`: Requests to a client.

Each has its `Message` instance with the round trip through tokens.
-/

namespace NeoSwift.Fsd

/-- `AddAtc`: the login of a controller or observer. -/
structure AddAtc extends MessageBase where
  cid : QString := []
  password : QString := []
  rating : AtcRating := .unknown
  protocolRevision : Int32 := 0
  realName : QString := []
  deriving DecidableEq

namespace AddAtc

/-- The constructor: the receiver is always the server. -/
def create (callsign realName cid password : QString) (rating : AtcRating)
    (protocolRevision : Int32) : AddAtc :=
  { sender := callsign, receiver := "SERVER", cid, password, rating, protocolRevision,
    realName }

/-- Without the prefix. -/
def toTokens (m : AddAtc) : QStringList :=
  [m.sender, m.receiver, m.realName, m.cid, m.password, toQString m.rating,
    QString.number m.protocolRevision.toInt]

def fromTokens (tokens : QStringList) : Except Fault AddAtc :=
  guarded 7 {} tokens do
    let rating := fromQString (← tokenAt tokens 5)
    let protocolRevision := (← tokenAt tokens 6).toInt
    return create (← tokenAt tokens 0) (← tokenAt tokens 2) (← tokenAt tokens 3)
      (← tokenAt tokens 4) rating protocolRevision

end AddAtc

instance : Message AddAtc where
  pdu := "#AA"
  toTokens := AddAtc.toTokens
  fromTokens := AddAtc.fromTokens
  texts m := [m.sender, m.receiver, m.realName, m.cid, m.password]
  InRange m := m.receiver = "SERVER"
  colon_notMem m h := by
    simp [AddAtc.toTokens, h]
  fromTokens_fields m hr _ := by
    have hparse : AddAtc.fromTokens m.toTokens = .ok (AddAtc.create m.sender m.realName m.cid
        m.password (fromQString (toQString m.rating))
        (QString.number m.protocolRevision.toInt).toInt) := rfl
    rw [hparse, AtcRating.fromQString_toQString, QString.toInt_number, AddAtc.create, ← hr]

/-- `AddPilot`: the login of a pilot. -/
structure AddPilot extends MessageBase where
  cid : QString := []
  password : QString := []
  rating : PilotRating := .unknown
  protocolRevision : Int32 := 0
  simType : SimType := .unknown
  realName : QString := []
  deriving DecidableEq

namespace AddPilot

/-- The constructor: the receiver is always the server. -/
def create (callsign cid password : QString) (rating : PilotRating) (protocolRevision : Int32)
    (simType : SimType) (realName : QString) : AddPilot :=
  { sender := callsign, receiver := "SERVER", cid, password, rating, protocolRevision,
    simType, realName }

def toTokens (m : AddPilot) : QStringList :=
  [m.sender, m.receiver, m.cid, m.password, toQString m.rating,
    QString.number m.protocolRevision.toInt, toQString m.simType, m.realName]

def fromTokens (tokens : QStringList) : Except Fault AddPilot :=
  guarded 6 {} tokens do
    let rating := fromQString (← tokenAt tokens 4)
    let protocolRevision := (← tokenAt tokens 5).toInt
    let simType := fromQString (← tokenAt tokens 6)
    return create (← tokenAt tokens 0) (← tokenAt tokens 2) (← tokenAt tokens 3) rating
      protocolRevision simType (← tokenAt tokens 7)

end AddPilot

instance : Message AddPilot where
  pdu := "#AP"
  toTokens := AddPilot.toTokens
  fromTokens := AddPilot.fromTokens
  texts m := [m.sender, m.receiver, m.cid, m.password, m.realName]
  InRange m := m.receiver = "SERVER" ∧
    ¬(m.simType = .p3Dv1 ∨ m.simType = .p3Dv2 ∨ m.simType = .p3Dv3 ∨ m.simType = .xplane12
      ∨ m.simType = .p3Dv5)
  colon_notMem m h := by
    simp [AddPilot.toTokens, h]
  fromTokens_fields m hr _ := by
    have hparse : AddPilot.fromTokens m.toTokens = .ok (AddPilot.create m.sender m.cid m.password
        (fromQString (toQString m.rating)) (QString.number m.protocolRevision.toInt).toInt
        (fromQString (toQString m.simType)) m.realName) := rfl
    rw [hparse, PilotRating.fromQString_toQString, QString.toInt_number,
      (SimType.fromQString_toQString_iff _).mpr hr.2, AddPilot.create, ← hr.1]

/-- `DeleteAtc`: a controller leaves. -/
structure DeleteAtc extends MessageBase where
  cid : QString := []
  deriving DecidableEq

namespace DeleteAtc

/-- What is not given has its default. -/
def create (sender cid : QString) : DeleteAtc := { sender, cid }

def toTokens (m : DeleteAtc) : QStringList := [m.sender, m.cid]

def fromTokens (tokens : QStringList) : Except Fault DeleteAtc :=
  guarded 1 {} tokens do
    let cid ← if 2 ≤ tokens.length then tokenAt tokens 1 else pure []
    return create (← tokenAt tokens 0) cid

end DeleteAtc

instance : Message DeleteAtc where
  pdu := "#DA"
  toTokens := DeleteAtc.toTokens
  fromTokens := DeleteAtc.fromTokens
  texts m := [m.sender, m.receiver, m.cid]
  InRange m := m.receiver = []
  colon_notMem m h := by
    simp [DeleteAtc.toTokens, h]
  fromTokens_fields m hr _ := by
    have hparse : DeleteAtc.fromTokens m.toTokens = .ok (DeleteAtc.create m.sender m.cid) := rfl
    rw [hparse, DeleteAtc.create, ← hr]

/-- `DeletePilot`: a pilot leaves. -/
structure DeletePilot extends MessageBase where
  cid : QString := []
  deriving DecidableEq

namespace DeletePilot

def create (callsign id : QString) : DeletePilot := { sender := callsign, cid := id }

def toTokens (m : DeletePilot) : QStringList := [m.sender, m.cid]

def fromTokens (tokens : QStringList) : Except Fault DeletePilot :=
  guarded 1 {} tokens do
    let cid ← if 2 ≤ tokens.length then tokenAt tokens 1 else pure []
    return create (← tokenAt tokens 0) cid

end DeletePilot

instance : Message DeletePilot where
  pdu := "#DP"
  toTokens := DeletePilot.toTokens
  fromTokens := DeletePilot.fromTokens
  texts m := [m.sender, m.receiver, m.cid]
  InRange m := m.receiver = []
  colon_notMem m h := by
    simp [DeletePilot.toTokens, h]
  fromTokens_fields m hr _ := by
    have hparse : DeletePilot.fromTokens m.toTokens = .ok (DeletePilot.create m.sender m.cid) :=
      rfl
    rw [hparse, DeletePilot.create, ← hr]

/-- Three tokens that are kept as they are: sender, receiver and one more. -/
def readTriple {M : Type} (dflt : M) (create : QString → QString → QString → M)
    (tokens : QStringList) : Except Fault M :=
  guarded 3 dflt tokens do
    return create (← tokenAt tokens 0) (← tokenAt tokens 1) (← tokenAt tokens 2)

theorem readTriple_ok {M : Type} (dflt : M) (create : QString → QString → QString → M)
    (tokens : QStringList) : ∃ m, readTriple dflt create tokens = .ok m := by
  by_cases h : tokens.length < 3
  · exact ⟨dflt, guarded_of_short h⟩
  · rw [readTriple, guarded_of_le (by omega), tokenAt_of_lt (by omega), tokenAt_of_lt (by omega),
      tokenAt_of_lt (by omega)]
    exact ⟨_, rfl⟩

/-- `AuthChallenge`. -/
structure AuthChallenge extends MessageBase where
  challengeKey : QString := []
  deriving DecidableEq

namespace AuthChallenge

def create (sender target challengeKey : QString) : AuthChallenge :=
  { sender, receiver := target, challengeKey }

def toTokens (m : AuthChallenge) : QStringList := [m.sender, m.receiver, m.challengeKey]

def fromTokens : QStringList → Except Fault AuthChallenge := readTriple {} create

end AuthChallenge

instance : Message AuthChallenge where
  pdu := "$ZC"
  toTokens := AuthChallenge.toTokens
  fromTokens := AuthChallenge.fromTokens
  texts m := [m.sender, m.receiver, m.challengeKey]
  InRange _ := True
  colon_notMem _ h := h
  fromTokens_fields _ _ _ := rfl

/-- `AuthResponse`. -/
structure AuthResponse extends MessageBase where
  response : QString := []
  deriving DecidableEq

namespace AuthResponse

def create (sender receiver response : QString) : AuthResponse := { sender, receiver, response }

def toTokens (m : AuthResponse) : QStringList := [m.sender, m.receiver, m.response]

def fromTokens : QStringList → Except Fault AuthResponse := readTriple {} create

end AuthResponse

instance : Message AuthResponse where
  pdu := "$ZR"
  toTokens := AuthResponse.toTokens
  fromTokens := AuthResponse.fromTokens
  texts m := [m.sender, m.receiver, m.response]
  InRange _ := True
  colon_notMem _ h := h
  fromTokens_fields _ _ _ := rfl

/-- `FSDIdentification`: the server introduces itself. -/
structure FSDIdentification extends MessageBase where
  serverVersion : QString := []
  initialChallenge : QString := []
  deriving DecidableEq

namespace FSDIdentification

def create (callsign receiver serverVersion initialChallenge : QString) : FSDIdentification :=
  { sender := callsign, receiver, serverVersion, initialChallenge }

def toTokens (m : FSDIdentification) : QStringList :=
  [m.sender, m.receiver, m.serverVersion, m.initialChallenge]

def fromTokens (tokens : QStringList) : Except Fault FSDIdentification :=
  guarded 4 {} tokens do
    return create (← tokenAt tokens 0) (← tokenAt tokens 1) (← tokenAt tokens 2)
      (← tokenAt tokens 3)

end FSDIdentification

instance : Message FSDIdentification where
  pdu := "$DI"
  toTokens := FSDIdentification.toTokens
  fromTokens := FSDIdentification.fromTokens
  texts m := [m.sender, m.receiver, m.serverVersion, m.initialChallenge]
  InRange _ := True
  colon_notMem _ h := h
  fromTokens_fields _ _ _ := rfl

/-- `ClientIdentification`: the client introduces itself. The version defaults
    to the one of the build. -/
structure ClientIdentification extends MessageBase where
  clientId : UInt16 := 0
  clientName : QString := []
  clientVersionMajor : Int32 := 0
  clientVersionMinor : Int32 := 15
  userCid : QString := []
  sysUid : QString := []
  initialChallenge : QString := []
  deriving DecidableEq

namespace ClientIdentification

/-- The constructor: the receiver is always the server. -/
def create (sender : QString) (clientId : UInt16) (clientName : QString)
    (clientVersionMajor clientVersionMinor : Int32) (userCid sysUid initialChallenge : QString) :
    ClientIdentification :=
  { sender, receiver := "SERVER", clientId, clientName, clientVersionMajor,
    clientVersionMinor, userCid, sysUid, initialChallenge }

def toTokens (m : ClientIdentification) : QStringList :=
  [m.sender, m.receiver, QString.numberBase m.clientId.toNat 16, m.clientName,
    QString.number m.clientVersionMajor.toInt, QString.number m.clientVersionMinor.toInt,
    m.userCid, m.sysUid, m.initialChallenge]

def fromTokens (tokens : QStringList) : Except Fault ClientIdentification :=
  guarded 8 {} tokens do
    let initialChallenge ← if 8 < tokens.length then tokenAt tokens 8 else pure []
    return create (← tokenAt tokens 0) (← tokenAt tokens 2).toUShort16 (← tokenAt tokens 3)
      (← tokenAt tokens 4).toInt (← tokenAt tokens 5).toInt (← tokenAt tokens 6)
      (← tokenAt tokens 7) initialChallenge

end ClientIdentification

instance : Message ClientIdentification where
  pdu := "$ID"
  toTokens := ClientIdentification.toTokens
  fromTokens := ClientIdentification.fromTokens
  texts m := [m.sender, m.receiver, m.clientName, m.userCid, m.sysUid, m.initialChallenge]
  InRange m := m.receiver = "SERVER"
  colon_notMem m h := by
    simp [ClientIdentification.toTokens, h,
      QString.colon_notMem_numberBase (show 1 < 16 by decide) (le_refl 16)]
  fromTokens_fields m hr _ := by
    have hparse : ClientIdentification.fromTokens m.toTokens = .ok (ClientIdentification.create
        m.sender (QString.numberBase m.clientId.toNat 16).toUShort16 m.clientName
        (QString.number m.clientVersionMajor.toInt).toInt
        (QString.number m.clientVersionMinor.toInt).toInt m.userCid m.sysUid
        m.initialChallenge) := rfl
    rw [hparse, QString.toUShort16_numberBase, QString.toInt_number, QString.toInt_number,
      ClientIdentification.create, ← hr]

/-- `KillRequest`: the server ends the session. -/
structure KillRequest extends MessageBase where
  reason : QString := []
  deriving DecidableEq

namespace KillRequest

def create (callsign receiver reason : QString) : KillRequest :=
  { sender := callsign, receiver, reason }

def toTokens (m : KillRequest) : QStringList := [m.sender, m.receiver, m.reason]

def fromTokens (tokens : QStringList) : Except Fault KillRequest :=
  guarded 2 {} tokens do
    let reason ← if 2 < tokens.length then tokenAt tokens 2 else pure []
    return create (← tokenAt tokens 0) (← tokenAt tokens 1) reason

end KillRequest

instance : Message KillRequest where
  pdu := "$!!"
  toTokens := KillRequest.toTokens
  fromTokens := KillRequest.fromTokens
  texts m := [m.sender, m.receiver, m.reason]
  InRange _ := True
  colon_notMem _ h := h
  fromTokens_fields _ _ _ := rfl

/-- `Rehost`: the server asks the client to move to another host. -/
structure Rehost extends MessageBase where
  hostname : QString := []
  deriving DecidableEq

namespace Rehost

def create (sender hostname : QString) : Rehost := { sender, hostname }

def toTokens (m : Rehost) : QStringList := [m.sender, m.hostname]

def fromTokens (tokens : QStringList) : Except Fault Rehost :=
  guarded 2 {} tokens do
    return create (← tokenAt tokens 0) (← tokenAt tokens 1)

end Rehost

instance : Message Rehost where
  pdu := "$XX"
  toTokens := Rehost.toTokens
  fromTokens := Rehost.fromTokens
  texts m := [m.sender, m.receiver, m.hostname]
  InRange m := m.receiver = []
  colon_notMem m h := by
    simp [Rehost.toTokens, h]
  fromTokens_fields m hr _ := by
    have hparse : Rehost.fromTokens m.toTokens = .ok (Rehost.create m.sender m.hostname) := rfl
    rw [hparse, Rehost.create, ← hr]

/-- A flag as it is written: one or zero. -/
def flagText (b : Bool) : QString := QString.number (if b then 1 else 0)

@[simp] theorem flagText_eq_one (b : Bool) : decide (flagText b = "1") = b := by
  cases b <;> decide

@[simp] theorem colon_notMem_flagText (b : Bool) : ':' ∉ flagText b :=
  QString.colon_notMem_number _

/-- `Mute`: a request to be silent. -/
structure Mute extends MessageBase where
  mute : Bool := false
  deriving DecidableEq

namespace Mute

def create (sender receiver : QString) (mute : Bool) : Mute := { sender, receiver, mute }

def toTokens (m : Mute) : QStringList := [m.sender, m.receiver, flagText m.mute]

def fromTokens : QStringList → Except Fault Mute :=
  readTriple {} (fun sender receiver flag => create sender receiver (flag = "1"))

end Mute

instance : Message Mute where
  pdu := "#MU"
  toTokens := Mute.toTokens
  fromTokens := Mute.fromTokens
  texts m := [m.sender, m.receiver]
  InRange _ := True
  colon_notMem m h := by
    simp [Mute.toTokens, h]
  fromTokens_fields m _ _ := by
    have hparse : Mute.fromTokens m.toTokens
        = .ok (Mute.create m.sender m.receiver (flagText m.mute = "1")) := rfl
    rw [hparse, flagText_eq_one, Mute.create]

end NeoSwift.Fsd
