import NeoSwift.Fsd.Message.Session
import NeoSwift.Fsd.Pbh

/-!
# Position Messages

The messages that carry positions: of controllers, of pilots, the interim
position between two clients, the visual positions with velocities, and the
aircraft a Euroscope simulator feeds in.

Real numbers travel with a fixed number of decimals and the attitude in one
packed word, so a message comes back when its numbers have no more decimals
than are written and its angles are representable. The reader of a stopped
aircraft looks for the nose gear angle where the moving aircraft have theirs,
at index 12, while its writer puts it at index 6: only a zero comes back.

## Main definitions

* `AtcDataUpdate`, `PilotDataUpdate`, `InterimPilotDataUpdate`.
* `VisualState`: Position, attitude and velocities of an aircraft.
* `VisualPilotDataUpdate`, `VisualPilotDataPeriodic`, `VisualPilotDataStopped`.
* `EuroscopeSimData`.

Each has its `Message` instance with the round trip through tokens.

## Theorems

* `VisualPilotDataStopped.fromTokens_toTokens`: What comes back of a stopped
  aircraft, whatever its nose gear angle.
-/

namespace NeoSwift.Fsd

open Numeral (OnGrid)

/-- `AtcDataUpdate`. The frequency is in kHz and travels without its leading
    one. -/
structure AtcDataUpdate extends MessageBase where
  frequencykHz : Int32 := 0
  facility : FacilityType := .unknown
  visibleRange : Int32 := 0
  rating : AtcRating := .unknown
  latitude : ℚ := 0
  longitude : ℚ := 0
  elevation : Int32 := 0
  deriving DecidableEq

namespace AtcDataUpdate

/-- The constructor: there is no receiver. -/
def create (sender : QString) (frequencykHz : Int32) (facility : FacilityType)
    (visibleRange : Int32) (rating : AtcRating) (latitude longitude : ℚ) (elevation : Int32) :
    AtcDataUpdate :=
  { sender, frequencykHz, facility, visibleRange, rating, latitude, longitude, elevation }

def toTokens (m : AtcDataUpdate) : QStringList :=
  [m.sender, QString.number (m.frequencykHz - 100000).toInt, toQString m.facility,
    QString.number m.visibleRange.toInt, toQString m.rating, QString.numberFixed m.latitude 5,
    QString.numberFixed m.longitude 5, QString.number m.elevation.toInt]

/-- Seven tokens pass the length check, and the eighth is read. -/
def fromTokens (tokens : QStringList) : Except Fault AtcDataUpdate :=
  guarded 7 {} tokens do
    return create (← tokenAt tokens 0) ((← tokenAt tokens 1).toInt + 100000)
      (fromQString (← tokenAt tokens 2)) (← tokenAt tokens 3).toInt
      (fromQString (← tokenAt tokens 4)) (← tokenAt tokens 5).toDouble
      (← tokenAt tokens 6).toDouble (← tokenAt tokens 7).toInt

end AtcDataUpdate

instance : Message AtcDataUpdate where
  pdu := "%"
  toTokens := AtcDataUpdate.toTokens
  fromTokens := AtcDataUpdate.fromTokens
  texts m := [m.sender, m.receiver]
  InRange m := m.receiver = [] ∧ OnGrid 5 m.latitude ∧ OnGrid 5 m.longitude
  colon_notMem m h := by
    simp [AtcDataUpdate.toTokens, h]
  fromTokens_fields m hr _ := by
    rcases hr with ⟨hreceiver, hlat, hlon⟩
    have hread : AtcDataUpdate.fromTokens m.toTokens = .ok (AtcDataUpdate.create m.sender
        ((QString.number (m.frequencykHz - 100000).toInt).toInt + 100000)
        (fromQString (toQString m.facility)) (QString.number m.visibleRange.toInt).toInt
        (fromQString (toQString m.rating)) (QString.numberFixed m.latitude 5).toDouble
        (QString.numberFixed m.longitude 5).toDouble
        (QString.number m.elevation.toInt).toInt) := rfl
    rw [hread, QString.toInt_number, QString.toInt_number, QString.toInt_number,
      FacilityType.fromQString_toQString, AtcRating.fromQString_toQString,
      QString.toDouble_numberFixed (by decide) hlat, QString.toDouble_numberFixed (by decide) hlon,
      Int32.sub_add_cancel, AtcDataUpdate.create, ← hreceiver]

/-- `PilotDataUpdate`. -/
structure PilotDataUpdate extends MessageBase where
  transponderMode : TransponderMode := .stateStandby
  transponderCode : Int32 := 0
  rating : PilotRating := .unknown
  latitude : ℚ := 0
  longitude : ℚ := 0
  altitudeTrue : Int32 := 0
  altitudePressure : Int32 := 0
  groundSpeed : Int32 := 0
  attitude : Attitude := {}
  deriving DecidableEq

namespace PilotDataUpdate

/-- The constructor: there is no receiver. -/
def create (transponderMode : TransponderMode) (sender : QString) (transponderCode : Int32)
    (rating : PilotRating) (latitude longitude : ℚ)
    (altitudeTrue altitudePressure groundSpeed : Int32) (attitude : Attitude) : PilotDataUpdate :=
  { sender, transponderMode, transponderCode, rating, latitude, longitude, altitudeTrue,
    altitudePressure, groundSpeed, attitude }

/-- The pressure altitude travels as its distance to the true altitude. -/
def toTokens (m : PilotDataUpdate) : QStringList :=
  [toQString m.transponderMode, m.sender, QString.number m.transponderCode.toInt,
    toQString m.rating, QString.numberFixed m.latitude 5, QString.numberFixed m.longitude 5,
    QString.number m.altitudeTrue.toInt, QString.number m.groundSpeed.toInt,
    QString.number (packPBH m.attitude).toNat,
    QString.number (m.altitudePressure - m.altitudeTrue).toInt]

def fromTokens (tokens : QStringList) : Except Fault PilotDataUpdate :=
  guarded 10 {} tokens do
    let attitude := unpackPBH (← tokenAt tokens 8).toUInt
    return create (fromQString (← tokenAt tokens 0)) (← tokenAt tokens 1)
      (← tokenAt tokens 2).toInt (fromQString (← tokenAt tokens 3)) (← tokenAt tokens 4).toDouble
      (← tokenAt tokens 5).toDouble (← tokenAt tokens 6).toInt
      ((← tokenAt tokens 6).toInt + (← tokenAt tokens 9).toInt) (← tokenAt tokens 7).toInt attitude

end PilotDataUpdate

instance : Message PilotDataUpdate where
  pdu := "@"
  toTokens := PilotDataUpdate.toTokens
  fromTokens := PilotDataUpdate.fromTokens
  texts m := [m.sender, m.receiver]
  InRange m := m.receiver = [] ∧ (m.transponderMode = .stateStandby ∨ m.transponderMode = .modeC
    ∨ m.transponderMode = .stateIdent) ∧ OnGrid 5 m.latitude ∧ OnGrid 5 m.longitude
    ∧ m.attitude.Representable
  colon_notMem m h := by
    simp [PilotDataUpdate.toTokens, h]
  fromTokens_fields m hr _ := by
    rcases hr with ⟨hreceiver, hmode, hlat, hlon, hattitude⟩
    have hread : PilotDataUpdate.fromTokens m.toTokens = .ok (PilotDataUpdate.create
        (fromQString (toQString m.transponderMode)) m.sender
        (QString.number m.transponderCode.toInt).toInt (fromQString (toQString m.rating))
        (QString.numberFixed m.latitude 5).toDouble (QString.numberFixed m.longitude 5).toDouble
        (QString.number m.altitudeTrue.toInt).toInt
        ((QString.number m.altitudeTrue.toInt).toInt
          + (QString.number (m.altitudePressure - m.altitudeTrue).toInt).toInt)
        (QString.number m.groundSpeed.toInt).toInt
        (unpackPBH (QString.number (packPBH m.attitude).toNat).toUInt)) := rfl
    have hpressure : m.altitudeTrue + (m.altitudePressure - m.altitudeTrue)
        = m.altitudePressure := by
      rw [Int32.add_comm, Int32.sub_add_cancel]
    rw [hread, (TransponderMode.fromQString_toQString_iff _).mpr hmode,
      PilotRating.fromQString_toQString, QString.toUInt_number, unpackPBH_packPBH hattitude,
      QString.toDouble_numberFixed (by decide) hlat, QString.toDouble_numberFixed (by decide) hlon]
    simp only [QString.toInt_number, hpressure]
    rw [PilotDataUpdate.create, ← hreceiver]

/-- `InterimPilotDataUpdate`: a position between two of the others, sent to one
    client. -/
structure InterimPilotDataUpdate extends MessageBase where
  latitude : ℚ := 0
  longitude : ℚ := 0
  altitudeTrue : Int32 := 0
  groundSpeed : Int32 := 0
  attitude : Attitude := {}
  deriving DecidableEq

namespace InterimPilotDataUpdate

def create (sender receiver : QString) (latitude longitude : ℚ) (altitudeTrue groundSpeed : Int32)
    (attitude : Attitude) : InterimPilotDataUpdate :=
  { sender, receiver, latitude, longitude, altitudeTrue, groundSpeed, attitude }

def toTokens (m : InterimPilotDataUpdate) : QStringList :=
  [m.sender, m.receiver, "VI", QString.numberFixed m.latitude 5,
    QString.numberFixed m.longitude 5, QString.number m.altitudeTrue.toInt,
    QString.number m.groundSpeed.toInt, QString.number (packPBH m.attitude).toNat]

def fromTokens (tokens : QStringList) : Except Fault InterimPilotDataUpdate :=
  guarded 8 {} tokens do
    let attitude := unpackPBH (← tokenAt tokens 7).toUInt
    return create (← tokenAt tokens 0) (← tokenAt tokens 1) (← tokenAt tokens 3).toDouble
      (← tokenAt tokens 4).toDouble (← tokenAt tokens 5).toInt (← tokenAt tokens 6).toInt attitude

end InterimPilotDataUpdate

instance : Message InterimPilotDataUpdate where
  pdu := "#SB"
  toTokens := InterimPilotDataUpdate.toTokens
  fromTokens := InterimPilotDataUpdate.fromTokens
  texts m := [m.sender, m.receiver]
  InRange m := OnGrid 5 m.latitude ∧ OnGrid 5 m.longitude ∧ m.attitude.Representable
  colon_notMem m h := by
    simp [InterimPilotDataUpdate.toTokens, h]
  fromTokens_fields m hr _ := by
    rcases hr with ⟨hlat, hlon, hattitude⟩
    have hread : InterimPilotDataUpdate.fromTokens m.toTokens
        = .ok (InterimPilotDataUpdate.create m.sender m.receiver
          (QString.numberFixed m.latitude 5).toDouble (QString.numberFixed m.longitude 5).toDouble
          (QString.number m.altitudeTrue.toInt).toInt (QString.number m.groundSpeed.toInt).toInt
          (unpackPBH (QString.number (packPBH m.attitude).toNat).toUInt)) := rfl
    rw [hread, QString.toUInt_number, unpackPBH_packPBH hattitude, QString.toInt_number,
      QString.toInt_number, QString.toDouble_numberFixed (by decide) hlat,
      QString.toDouble_numberFixed (by decide) hlon, InterimPilotDataUpdate.create]

/-- What the visual position messages carry: position, attitude, velocities in
    m/s and rad/s, and the nose gear angle. -/
structure VisualState where
  latitude : ℚ := 0
  longitude : ℚ := 0
  altitudeTrue : ℚ := 0
  heightAgl : ℚ := 0
  pitch : ℚ := 0
  bank : ℚ := 0
  heading : ℚ := 0
  xVelocity : ℚ := 0
  yVelocity : ℚ := 0
  zVelocity : ℚ := 0
  pitchRadPerSec : ℚ := 0
  bankRadPerSec : ℚ := 0
  headingRadPerSec : ℚ := 0
  noseGearAngle : ℚ := 0
  deriving DecidableEq

namespace VisualState

/-- The attitude as it is packed: never on the ground. -/
def attitude (v : VisualState) : Attitude :=
  { pitch := v.pitch, bank := v.bank, heading := v.heading }

/-- The position part of the tokens, the same in all three messages. -/
def positionTokens (sender : QString) (v : VisualState) : QStringList :=
  [sender, QString.numberFixed v.latitude 7, QString.numberFixed v.longitude 7,
    QString.numberFixed v.altitudeTrue 2, QString.numberFixed v.heightAgl 2,
    QString.number (packPBH v.attitude).toNat]

/-- The velocities, the heading before the bank. -/
def velocityTokens (v : VisualState) : QStringList :=
  [QString.numberFixed v.xVelocity 4, QString.numberFixed v.yVelocity 4,
    QString.numberFixed v.zVelocity 4, QString.numberFixed v.pitchRadPerSec 4,
    QString.numberFixed v.headingRadPerSec 4, QString.numberFixed v.bankRadPerSec 4]

/-- The tokens of a moving aircraft. -/
def toTokens (sender : QString) (v : VisualState) : QStringList :=
  v.positionTokens sender ++ v.velocityTokens ++ [QString.numberFixed v.noseGearAngle 2]

/-- The position part read back. -/
def readPosition (tokens : QStringList) : Except Fault VisualState := do
  let attitude := unpackPBH (← tokenAt tokens 5).toUInt
  return {
    latitude := (← tokenAt tokens 1).toDouble
    longitude := (← tokenAt tokens 2).toDouble
    altitudeTrue := (← tokenAt tokens 3).toDouble
    heightAgl := (← tokenAt tokens 4).toDouble
    pitch := attitude.pitch
    bank := attitude.bank
    heading := attitude.heading
    noseGearAngle := (tokenOr tokens 12 "0").toDouble }

/-- A moving aircraft read back. -/
def read (tokens : QStringList) : Except Fault VisualState := do
  let v ← readPosition tokens
  return { v with
    xVelocity := (← tokenAt tokens 6).toDouble
    yVelocity := (← tokenAt tokens 7).toDouble
    zVelocity := (← tokenAt tokens 8).toDouble
    pitchRadPerSec := (← tokenAt tokens 9).toDouble
    bankRadPerSec := (← tokenAt tokens 11).toDouble
    headingRadPerSec := (← tokenAt tokens 10).toDouble }

/-- The positions that come back. -/
def PositionInRange (v : VisualState) : Prop :=
  OnGrid 7 v.latitude ∧ OnGrid 7 v.longitude ∧ OnGrid 2 v.altitudeTrue ∧ OnGrid 2 v.heightAgl
    ∧ v.attitude.Representable

/-- The moving aircraft that come back. -/
def InRange (v : VisualState) : Prop :=
  v.PositionInRange ∧ OnGrid 4 v.xVelocity ∧ OnGrid 4 v.yVelocity ∧ OnGrid 4 v.zVelocity
    ∧ OnGrid 4 v.pitchRadPerSec ∧ OnGrid 4 v.headingRadPerSec ∧ OnGrid 4 v.bankRadPerSec
    ∧ OnGrid 2 v.noseGearAngle

theorem colon_notMem_positionTokens {sender : QString} (v : VisualState) (h : ':' ∉ sender) :
    ∀ t ∈ v.positionTokens sender, ':' ∉ t := by
  simp [positionTokens, h]

theorem colon_notMem_toTokens {sender : QString} (v : VisualState) (h : ':' ∉ sender) :
    ∀ t ∈ v.toTokens sender, ':' ∉ t := by
  simp [toTokens, positionTokens, velocityTokens, h]

/-- The position comes back from any tokens that start with it. -/
theorem readPosition_tokens {sender : QString} {v : VisualState} (h : v.PositionInRange)
    (rest : QStringList) : readPosition (v.positionTokens sender ++ rest) = .ok {
      latitude := v.latitude, longitude := v.longitude, altitudeTrue := v.altitudeTrue,
      heightAgl := v.heightAgl, pitch := v.pitch, bank := v.bank, heading := v.heading,
      noseGearAngle := (tokenOr (v.positionTokens sender ++ rest) 12 "0").toDouble } := by
  rcases h with ⟨hlat, hlon, halt, hagl, hattitude⟩
  have hread : readPosition (v.positionTokens sender ++ rest) = .ok {
      latitude := (QString.numberFixed v.latitude 7).toDouble
      longitude := (QString.numberFixed v.longitude 7).toDouble
      altitudeTrue := (QString.numberFixed v.altitudeTrue 2).toDouble
      heightAgl := (QString.numberFixed v.heightAgl 2).toDouble
      pitch := (unpackPBH (QString.number (packPBH v.attitude).toNat).toUInt).pitch
      bank := (unpackPBH (QString.number (packPBH v.attitude).toNat).toUInt).bank
      heading := (unpackPBH (QString.number (packPBH v.attitude).toNat).toUInt).heading
      noseGearAngle :=
        (tokenOr (v.positionTokens sender ++ rest) 12 "0").toDouble } := rfl
  rw [hread, QString.toUInt_number, unpackPBH_packPBH hattitude,
    QString.toDouble_numberFixed (by omega) hlat, QString.toDouble_numberFixed (by omega) hlon,
    QString.toDouble_numberFixed (by omega) halt, QString.toDouble_numberFixed (by omega) hagl,
    attitude]

theorem read_toTokens {sender : QString} {v : VisualState} (h : v.InRange) :
    read (v.toTokens sender) = .ok v := by
  rcases h with ⟨hposition, hx, hy, hz, hpitch, hheading, hbank, hgear⟩
  -- The position tokens are read as for a position that is sent alone.
  have hpos := @readPosition_tokens sender _ hposition
    (v.velocityTokens ++ [QString.numberFixed v.noseGearAngle 2])
  have hrest : v.positionTokens sender ++ (v.velocityTokens
      ++ [QString.numberFixed v.noseGearAngle 2]) = v.toTokens sender := rfl
  have hgearToken : tokenOr (v.toTokens sender) 12 "0"
      = QString.numberFixed v.noseGearAngle 2 := rfl
  rw [hrest, hgearToken, QString.toDouble_numberFixed (by omega) hgear] at hpos
  have hread : read (v.toTokens sender) = (readPosition (v.toTokens sender)).map (fun w =>
      { w with
        xVelocity := (QString.numberFixed v.xVelocity 4).toDouble
        yVelocity := (QString.numberFixed v.yVelocity 4).toDouble
        zVelocity := (QString.numberFixed v.zVelocity 4).toDouble
        pitchRadPerSec := (QString.numberFixed v.pitchRadPerSec 4).toDouble
        bankRadPerSec := (QString.numberFixed v.bankRadPerSec 4).toDouble
        headingRadPerSec := (QString.numberFixed v.headingRadPerSec 4).toDouble }) := by
    rfl
  rw [hread, hpos, QString.toDouble_numberFixed (by omega) hx,
    QString.toDouble_numberFixed (by omega) hy, QString.toDouble_numberFixed (by omega) hz,
    QString.toDouble_numberFixed (by omega) hpitch,
    QString.toDouble_numberFixed (by omega) hheading,
    QString.toDouble_numberFixed (by omega) hbank]
  rfl

end VisualState

/-- `VisualPilotDataUpdate`. -/
structure VisualPilotDataUpdate extends MessageBase where
  state : VisualState := {}
  deriving DecidableEq

namespace VisualPilotDataUpdate

/-- The constructor: there is no receiver. -/
def create (sender : QString) (state : VisualState) : VisualPilotDataUpdate := { sender, state }

def toTokens (m : VisualPilotDataUpdate) : QStringList := m.state.toTokens m.sender

def fromTokens (tokens : QStringList) : Except Fault VisualPilotDataUpdate :=
  guarded 12 {} tokens do
    return create (← tokenAt tokens 0) (← VisualState.read tokens)

end VisualPilotDataUpdate

instance : Message VisualPilotDataUpdate where
  pdu := "^"
  toTokens := VisualPilotDataUpdate.toTokens
  fromTokens := VisualPilotDataUpdate.fromTokens
  texts m := [m.sender, m.receiver]
  InRange m := m.receiver = [] ∧ m.state.InRange
  colon_notMem m h := m.state.colon_notMem_toTokens (h _ (List.mem_cons_self ..))
  fromTokens_fields m hr _ := by
    have hread : VisualPilotDataUpdate.fromTokens m.toTokens
        = (VisualState.read m.toTokens).map (VisualPilotDataUpdate.create m.sender) := rfl
    have hstate : VisualState.read m.toTokens = .ok m.state := VisualState.read_toTokens hr.2
    refine hread.trans ?_
    rw [hstate, Except.map, VisualPilotDataUpdate.create, ← hr.1]

/-- `VisualPilotDataPeriodic`: the same without being asked for. -/
structure VisualPilotDataPeriodic extends MessageBase where
  state : VisualState := {}
  deriving DecidableEq

namespace VisualPilotDataPeriodic

/-- The constructor: there is no receiver. -/
def create (sender : QString) (state : VisualState) : VisualPilotDataPeriodic := { sender, state }

def toTokens (m : VisualPilotDataPeriodic) : QStringList := m.state.toTokens m.sender

def fromTokens (tokens : QStringList) : Except Fault VisualPilotDataPeriodic :=
  guarded 12 {} tokens do
    return create (← tokenAt tokens 0) (← VisualState.read tokens)

def toUpdate (m : VisualPilotDataPeriodic) : VisualPilotDataUpdate :=
  VisualPilotDataUpdate.create m.sender m.state

end VisualPilotDataPeriodic

instance : Message VisualPilotDataPeriodic where
  pdu := "#SL"
  toTokens := VisualPilotDataPeriodic.toTokens
  fromTokens := VisualPilotDataPeriodic.fromTokens
  texts m := [m.sender, m.receiver]
  InRange m := m.receiver = [] ∧ m.state.InRange
  colon_notMem m h := m.state.colon_notMem_toTokens (h _ (List.mem_cons_self ..))
  fromTokens_fields m hr _ := by
    have hread : VisualPilotDataPeriodic.fromTokens m.toTokens
        = (VisualState.read m.toTokens).map (VisualPilotDataPeriodic.create m.sender) := rfl
    have hstate : VisualState.read m.toTokens = .ok m.state := VisualState.read_toTokens hr.2
    refine hread.trans ?_
    rw [hstate, Except.map, VisualPilotDataPeriodic.create, ← hr.1]

/-- `VisualPilotDataStopped`: an aircraft that does not move; its velocities are
    zero. -/
structure VisualPilotDataStopped extends MessageBase where
  latitude : ℚ := 0
  longitude : ℚ := 0
  altitudeTrue : ℚ := 0
  heightAgl : ℚ := 0
  pitch : ℚ := 0
  bank : ℚ := 0
  heading : ℚ := 0
  noseGearAngle : ℚ := 0
  deriving DecidableEq

namespace VisualPilotDataStopped

/-- The constructor: there is no receiver. -/
def create (sender : QString) (latitude longitude altitudeTrue heightAgl pitch bank heading
    noseGearAngle : ℚ) : VisualPilotDataStopped :=
  { sender, latitude, longitude, altitudeTrue, heightAgl, pitch, bank, heading, noseGearAngle }

variable (m : VisualPilotDataStopped)

/-- The state of the aircraft, without velocities. -/
def state : VisualState :=
  { latitude := m.latitude, longitude := m.longitude, altitudeTrue := m.altitudeTrue,
    heightAgl := m.heightAgl, pitch := m.pitch, bank := m.bank, heading := m.heading,
    noseGearAngle := m.noseGearAngle }

/-- The nose gear angle is the seventh token. -/
def toTokens : QStringList :=
  m.state.positionTokens m.sender ++ [QString.numberFixed m.noseGearAngle 2]

/-- The nose gear angle is looked for in the thirteenth token. -/
def fromTokens (tokens : QStringList) : Except Fault VisualPilotDataStopped :=
  guarded 6 {} tokens do
    let v ← VisualState.readPosition tokens
    return create (← tokenAt tokens 0) v.latitude v.longitude v.altitudeTrue v.heightAgl v.pitch
      v.bank v.heading v.noseGearAngle

def toUpdate : VisualPilotDataUpdate :=
  VisualPilotDataUpdate.create m.sender m.state

/-- Whatever the nose gear angle, zero comes back. -/
theorem fromTokens_toTokens (h : m.state.PositionInRange) :
    fromTokens m.toTokens = .ok { m with receiver := [], noseGearAngle := 0 } := by
  have hread : fromTokens m.toTokens = (VisualState.readPosition m.toTokens).map (fun v =>
      create m.sender v.latitude v.longitude v.altitudeTrue v.heightAgl v.pitch v.bank v.heading
        v.noseGearAngle) := rfl
  have hzero : (tokenOr m.toTokens 12 "0").toDouble = 0 := by
    have htoken : tokenOr m.toTokens 12 "0" = QString.number 0 := rfl
    rw [htoken, QString.toDouble_number, Int.cast_zero]
  have hposition := @VisualState.readPosition_tokens m.sender _ h
    [QString.numberFixed m.noseGearAngle 2]
  rw [← toTokens, hzero] at hposition
  rw [hread, hposition]
  rfl

end VisualPilotDataStopped

instance : Message VisualPilotDataStopped where
  pdu := "#ST"
  toTokens := VisualPilotDataStopped.toTokens
  fromTokens := VisualPilotDataStopped.fromTokens
  texts m := [m.sender, m.receiver]
  InRange m := m.receiver = [] ∧ m.state.PositionInRange ∧ m.noseGearAngle = 0
  colon_notMem m h := by
    intro t ht
    rcases List.mem_append.mp ht with ht | ht
    · exact m.state.colon_notMem_positionTokens (h _ (List.mem_cons_self ..)) t ht
    · rw [List.mem_singleton.mp ht]
      exact QString.colon_notMem_numberFixed _ _
  fromTokens_fields m hr _ := by
    rcases hr with ⟨hreceiver, hposition, hgear⟩
    refine (VisualPilotDataStopped.fromTokens_toTokens m hposition).trans ?_
    rw [← hreceiver, ← hgear]

/-- `CAircraftLights`. -/
structure AircraftLights where
  isNull : Bool := false
  strobeOn : Bool := false
  landingOn : Bool := false
  taxiOn : Bool := false
  beaconOn : Bool := false
  navOn : Bool := false
  logoOn : Bool := false
  recognitionOn : Bool := false
  cabinOn : Bool := false
  wingOn : Bool := false
  deriving DecidableEq

namespace AircraftLights

/-- The bits of the lights that are on; a null and the wing light have none. -/
def toFlags (lights : AircraftLights) : Int32 :=
  (if lights.beaconOn then 0x002 else 0) ||| (if lights.cabinOn then 0x400 else 0)
    ||| (if lights.landingOn then 0x020 else 0) ||| (if lights.logoOn then 0x200 else 0)
    ||| (if lights.navOn then 0x008 else 0) ||| (if lights.recognitionOn then 0x080 else 0)
    ||| (if lights.strobeOn then 0x004 else 0) ||| (if lights.taxiOn then 0x040 else 0)

def fromFlags (n : Int32) : AircraftLights where
  strobeOn := n &&& 0x4 != 0
  landingOn := n &&& 0x20 != 0
  taxiOn := n &&& 0x40 != 0
  beaconOn := n &&& 0x2 != 0
  navOn := n &&& 0x8 != 0
  logoOn := n &&& 0x200 != 0
  recognitionOn := n &&& 0x80 != 0
  cabinOn := n &&& 0x400 != 0

/-- Lights with a flag each come back. -/
theorem fromFlags_toFlags {lights : AircraftLights} (hnull : lights.isNull = false)
    (hwing : lights.wingOn = false) : fromFlags lights.toFlags = lights := by
  have hall : ∀ strobe landing taxi beacon nav logo recognition cabin : Bool,
      fromFlags (toFlags ⟨false, strobe, landing, taxi, beacon, nav, logo, recognition, cabin,
        false⟩) = ⟨false, strobe, landing, taxi, beacon, nav, logo, recognition, cabin, false⟩ := by
    decide
  rcases lights with ⟨isNull, strobe, landing, taxi, beacon, nav, logo, recognition, cabin, wing⟩
  subst hnull hwing
  exact hall strobe landing taxi beacon nav logo recognition cabin

end AircraftLights

/-- The conversion of a real number to an integer. -/
def truncated (x : ℚ) : Int32 := Int32.ofInt (Int.tdiv x.num x.den)

@[simp] theorem truncated_intCast (n : Int32) : truncated (n.toInt : ℚ) = n := by
  rw [truncated]
  simp

/-- `EuroscopeSimData`: the aircraft of a Euroscope simulator. -/
structure EuroscopeSimData extends MessageBase where
  model : QString := []
  livery : QString := []
  timestamp : UInt64 := 0
  latitude : ℚ := 0
  longitude : ℚ := 0
  altitude : ℚ := 0
  heading : ℚ := 0
  bank : Int32 := 0
  pitch : Int32 := 0
  groundSpeed : Int32 := 0
  onGround : Bool := false
  gearPercent : Int32 := 0
  thrustPercent : Int32 := 0
  lights : AircraftLights := {}
  deriving DecidableEq

namespace EuroscopeSimData

/-- The constructor: there is no receiver, and the percentages are cut to whole
    numbers. -/
def create (sender model livery : QString) (timestamp : UInt64)
    (latitude longitude altitude heading : ℚ) (bank pitch groundSpeed : Int32) (onGround : Bool)
    (gearPercent thrustPercent : ℚ) (lights : AircraftLights) : EuroscopeSimData :=
  { sender, model, livery, timestamp, latitude, longitude, altitude, heading, bank, pitch,
    groundSpeed, onGround, gearPercent := truncated gearPercent,
    thrustPercent := truncated thrustPercent, lights }

/-- The first token is empty; two tokens behind the percentages are constant. -/
def toTokens (m : EuroscopeSimData) : QStringList :=
  [[], m.sender, m.model, m.livery, QString.number m.timestamp.toNat,
    QString.numberFixed m.latitude 7, QString.numberFixed m.longitude 7,
    QString.numberFixed m.altitude 1, QString.numberFixed m.heading 2,
    QString.number m.bank.toInt, QString.number m.pitch.toInt,
    QString.number m.groundSpeed.toInt, if m.onGround then "1" else "0",
    QString.number m.gearPercent.toInt, QString.number m.thrustPercent.toInt, "0",
    "0.0", QString.number m.lights.toFlags.toInt]

def fromTokens (tokens : QStringList) : Except Fault EuroscopeSimData :=
  guarded 18 {} tokens do
    return create (← tokenAt tokens 1) (← tokenAt tokens 2) (← tokenAt tokens 3)
      (← tokenAt tokens 4).toULongLong (← tokenAt tokens 5).toDouble (← tokenAt tokens 6).toDouble
      (← tokenAt tokens 7).toDouble (← tokenAt tokens 8).toDouble (← tokenAt tokens 9).toInt
      (← tokenAt tokens 10).toInt (← tokenAt tokens 11).toInt
      ((← tokenAt tokens 12).toInt != 0) (← tokenAt tokens 13).toDouble
      (← tokenAt tokens 14).toDouble (AircraftLights.fromFlags (← tokenAt tokens 17).toInt)

end EuroscopeSimData

instance : Message EuroscopeSimData where
  pdu := "SIMDATA"
  toTokens := EuroscopeSimData.toTokens
  fromTokens := EuroscopeSimData.fromTokens
  texts m := [m.sender, m.receiver, m.model, m.livery]
  InRange m := m.receiver = [] ∧ OnGrid 7 m.latitude ∧ OnGrid 7 m.longitude ∧ OnGrid 1 m.altitude
    ∧ OnGrid 2 m.heading ∧ m.lights.isNull = false ∧ m.lights.wingOn = false
  colon_notMem m h := by
    have hground : ':' ∉ (if m.onGround then ['1'] else ['0']) := by
      cases m.onGround <;> decide
    simp [EuroscopeSimData.toTokens, h, hground]
  fromTokens_fields m hr _ := by
    rcases hr with ⟨hreceiver, hlat, hlon, halt, hheading, hnull, hwing⟩
    have hread : EuroscopeSimData.fromTokens m.toTokens = .ok (EuroscopeSimData.create m.sender
        m.model m.livery (QString.number m.timestamp.toNat).toULongLong
        (QString.numberFixed m.latitude 7).toDouble (QString.numberFixed m.longitude 7).toDouble
        (QString.numberFixed m.altitude 1).toDouble (QString.numberFixed m.heading 2).toDouble
        (QString.number m.bank.toInt).toInt (QString.number m.pitch.toInt).toInt
        (QString.number m.groundSpeed.toInt).toInt
        (QString.toInt (if m.onGround then "1" else "0") != 0)
        (QString.number m.gearPercent.toInt).toDouble
        (QString.number m.thrustPercent.toInt).toDouble
        (AircraftLights.fromFlags (QString.number m.lights.toFlags.toInt).toInt)) := rfl
    have hground : (QString.toInt (if m.onGround then "1" else "0") != 0)
        = m.onGround := by
      cases m.onGround <;> decide
    rw [hread, QString.toULongLong_number, QString.toDouble_numberFixed (by decide) hlat,
      QString.toDouble_numberFixed (by decide) hlon, QString.toDouble_numberFixed (by decide) halt,
      QString.toDouble_numberFixed (by decide) hheading, hground]
    simp only [QString.toInt_number, QString.toDouble_number, EuroscopeSimData.create,
      truncated_intCast, AircraftLights.fromFlags_toFlags hnull hwing]
    rw [← hreceiver]

end NeoSwift.Fsd
