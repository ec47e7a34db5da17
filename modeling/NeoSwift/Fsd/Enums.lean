import NeoSwift.Qt.Text

/-!
# FSD Enumerations

The enumerations that travel in FSD messages and their texts. Each text table
and its inverse are written separately, as in the program, so that which values
come back is a theorem about the two of them: all ratings, facilities and
flight types do, but transponder modes, simulator types and query types do so
only in part.

## Main definitions

* `FsdEnum`: A type with a text form, `toQString` and `fromQString`.
* The enumerations themselves.

## Theorems

* `fromQString_toQString` for the ratings, facilities and flight types.
* `TransponderMode.fromQString_toQString_iff` and the same for `SimType` and
  `ClientQueryType`: The values that come back.
* `colon_notMem_toQString`: No text contains the separator.
-/

namespace NeoSwift.Fsd

/-- A type with the specialisations of `toQString` and `fromQString`. -/
class FsdEnum (α : Type) where
  toQString : α → QString
  fromQString : QString → α

export FsdEnum (toQString fromQString)

/-- ATC ratings. -/
inductive AtcRating where
  | unknown | observer | student | student2 | student3 | controller1 | controller2 | controller3
  | instructor1 | instructor2 | instructor3 | supervisor | administrator
  deriving DecidableEq

instance : FsdEnum AtcRating where
  toQString
    | .unknown => "0"
    | .observer => "1"
    | .student => "2"
    | .student2 => "3"
    | .student3 => "4"
    | .controller1 => "5"
    | .controller2 => "6"
    | .controller3 => "7"
    | .instructor1 => "8"
    | .instructor2 => "9"
    | .instructor3 => "10"
    | .supervisor => "11"
    | .administrator => "12"
  fromQString str :=
    if str = [] then .unknown
    else if str = "1" then .observer
    else if str = "2" then .student
    else if str = "3" then .student2
    else if str = "4" then .student3
    else if str = "5" then .controller1
    else if str = "6" then .controller2
    else if str = "7" then .controller3
    else if str = "8" then .instructor1
    else if str = "9" then .instructor2
    else if str = "10" then .instructor3
    else if str = "11" then .supervisor
    else if str = "12" then .administrator
    else .unknown

/-- Pilot ratings. -/
inductive PilotRating where
  | unknown | student | vfr | ifr | instructor | supervisor
  deriving DecidableEq

instance : FsdEnum PilotRating where
  toQString
    | .unknown => "0"
    | .student => "1"
    | .vfr => "2"
    | .ifr => "3"
    | .instructor => "4"
    | .supervisor => "5"
  fromQString str :=
    if str = [] then .unknown
    else if str = "0" then .unknown
    else if str = "1" then .student
    else if str = "2" then .vfr
    else if str = "3" then .ifr
    else if str = "4" then .instructor
    else if str = "5" then .supervisor
    else .unknown

/-- Flight simulator types. -/
inductive SimType where
  | unknown | msfs95 | msfs98 | mscfs | msfs2000 | mscfs2 | msfs2002 | mscfs3 | msfs2004 | msfsx
  | msfs | msfs2024 | xplane8 | xplane9 | xplane10 | xplane11 | xplane12 | p3Dv1 | p3Dv2 | p3Dv3
  | p3Dv4 | p3Dv5 | flightGear
  deriving DecidableEq

instance : FsdEnum SimType where
  toQString
    | .unknown => "0"
    | .msfs95 => "1"
    | .msfs98 => "2"
    | .mscfs => "3"
    | .msfs2000 => "4"
    | .mscfs2 => "5"
    | .msfs2002 => "6"
    | .mscfs3 => "7"
    | .msfs2004 => "8"
    | .msfsx => "9"
    | .msfs => "10"
    | .msfs2024 => "11"
    | .xplane8 => "12"
    | .xplane9 => "13"
    | .xplane10 => "14"
    | .xplane11 => "16"
    | .flightGear => "25"
    | .p3Dv1 => "30"
    | .p3Dv2 => "30"
    | .p3Dv3 => "30"
    | .p3Dv4 => "30"
    -- future versions
    | .xplane12 => "0"
    | .p3Dv5 => "0"
  fromQString str :=
    if str = [] then .unknown
    else if str = "0" then .unknown
    else if str = "1" then .msfs95
    else if str = "2" then .msfs98
    else if str = "3" then .mscfs
    else if str = "4" then .msfs2000
    else if str = "5" then .mscfs2
    else if str = "6" then .msfs2002
    else if str = "7" then .mscfs3
    else if str = "8" then .msfs2004
    else if str = "9" then .msfsx
    else if str = "10" then .msfs
    else if str = "11" then .msfs2024
    else if str = "12" then .xplane8
    else if str = "13" then .xplane9
    else if str = "14" then .xplane10
    else if str = "16" then .xplane11
    else if str = "25" then .flightGear
    -- still ambiguous which P3D version
    else if str = "30" then .p3Dv4
    else .unknown

/-- `CFacilityType`. -/
inductive FacilityType where
  | obs | fss | del | gnd | twr | app | ctr | unknown
  deriving DecidableEq

instance : FsdEnum FacilityType where
  toQString
    | .obs => "0"
    | .fss => "1"
    | .del => "2"
    | .gnd => "3"
    | .twr => "4"
    | .app => "5"
    | .ctr => "6"
    | .unknown => []
  fromQString str :=
    if str = [] then .unknown
    else if str = "0" then .obs
    else if str = "1" then .fss
    else if str = "2" then .del
    else if str = "3" then .gnd
    else if str = "4" then .twr
    else if str = "5" then .app
    else if str = "6" then .ctr
    else .unknown

/-- What a client query asks for. -/
inductive ClientQueryType where
  | unknown | isValidATC | capabilities | com1Freq | realName | server | atis | publicIP | inf | fp
  | aircraftConfig | euroscopeSimData
  deriving DecidableEq

/-- The query types that are known and ignored. They are read as unknown. -/
def ignoredQueryTypes : QStringList :=
  ["BC", "BY", "DI", "DP", "DR", "FA", "HC",
    "HI", "HT", "ID", "IH", "IT", "PT", "SC",
    "ST", "TA", "VT", "VER", "WH", "HLP",
    "NOHLP", "NEWATIS", "NEWINFO"]

instance : FsdEnum ClientQueryType where
  toQString
    | .isValidATC => "ATC"
    | .capabilities => "CAPS"
    | .com1Freq => "C?"
    | .realName => "RN"
    | .server => "SV"
    | .atis => "ATIS"
    | .publicIP => "IP"
    | .inf => "INF"
    | .fp => "FP"
    | .aircraftConfig => "ACC"
    | .euroscopeSimData => "SIMDATA"
    | .unknown => "Unknown query type"
  fromQString str :=
    if str = [] then .unknown
    else if str = "ATC" then .isValidATC
    else if str = "CAPS" then .capabilities
    else if str = "C?" then .com1Freq
    else if str = "RN" then .realName
    else if str = "SV" then .server
    else if str = "ATIS" then .atis
    else if str = "IP" then .publicIP
    else if str = "INF" then .inf
    else if str = "FP" then .fp
    else if str = "ACC" then .aircraftConfig
    else if str ∈ ignoredQueryTypes then .unknown
    else .unknown

/-- Flight rules in a flight plan. -/
inductive FlightType where
  | ifr | vfr | svfr | dvfr
  deriving DecidableEq

instance : FsdEnum FlightType where
  toQString
    | .ifr => "I"
    | .vfr => "V"
    | .svfr => "S"
    | .dvfr => "D"
  fromQString str :=
    if str = "I" then .ifr
    else if str = "V" then .vfr
    else if str = "S" then .svfr
    else if str = "D" then .dvfr
    else .ifr

/-- `CTransponder::TransponderMode`. -/
inductive TransponderMode where
  | stateStandby | modeMil1 | modeMil2 | modeMil3 | modeMil4 | modeMil5 | stateIdent | modeA | modeC
  | modeS
  deriving DecidableEq

instance : FsdEnum TransponderMode where
  toQString
    | .stateStandby => "S"
    | .modeMil1 => "N"
    | .modeMil2 => "N"
    | .modeMil3 => "N"
    | .modeMil4 => "N"
    | .modeMil5 => "N"
    | .modeA => "N"
    | .modeC => "N"
    | .modeS => "N"
    | .stateIdent => "Y"
  fromQString str :=
    if str = "S" then .stateStandby
    else if str = "N" then .modeC
    else if str = "Y" then .stateIdent
    else .stateStandby

/-- Client capabilities, one bit each. -/
inductive Capability where
  | atcInfo | secondaryPos | aircraftInfo | ongoingCoord | interminPos | fastPos | visPos | stealth
  | aircraftConfig | icaoEquipment
  deriving DecidableEq

/-- `toQString(Capabilities)` of a single capability. -/
def Capability.toQString : Capability → QString
  | .atcInfo => "ATCINFO"
  | .secondaryPos => "SECPOS"
  | .aircraftInfo => "MODELDESC"
  | .ongoingCoord => "ONGOINGCOORD"
  | .interminPos => "INTERIMPOS"
  | .visPos => "VISUPDATE"
  | .fastPos => "FASTPOS"
  | .stealth => "STEALTH"
  | .aircraftConfig => "ACCONFIG"
  | .icaoEquipment => "ICAOEQ"

/-- `fromQString<Capabilities>`, `none` for `Capabilities::None`. -/
def Capability.fromQString (str : QString) : Option Capability :=
  if str = "ATCINFO" then some .atcInfo
  else if str = "SECPOS" then some .secondaryPos
  else if str = "MODELDESC" then some .aircraftInfo
  else if str = "ONGOINGCOORD" then some .ongoingCoord
  else if str = "INTERIMPOS" then some .interminPos
  else if str = "FASTPOS" then some .fastPos
  else if str = "VISUPDATE" then some .visPos
  else if str = "STEALTH" then some .stealth
  else if str = "ACCONFIG" then some .aircraftConfig
  else if str = "ICAOEQ" then some .icaoEquipment
  else none

/-- The kinds of lines in an ATIS response. -/
inductive AtisLineType where
  | unknown | voiceRoom | textMessage | zuluLogoff | lineCount
  deriving DecidableEq

/-- `fromQString<AtisLineType>`. -/
def AtisLineType.fromQString (str : QString) : AtisLineType :=
  if str = "V" then .voiceRoom
  else if str = "Z" then .zuluLogoff
  else if str = "T" then .textMessage
  else if str = "E" then .lineCount
  else .unknown

/-- Error codes of the server. The wire has them as numbers, and a number that
    is no enumerator is a value of the type as well. -/
inductive ServerErrorCode where
  | noError | callsignInUse | invalidCallsign | alreadyRegistered | syntaxError
  | invalidSrcCallsign | invalidCidPassword | noSuchCallsign | noFlightPlan | noWeatherProfile
  | invalidRevision | requestedLevelTooHigh | serverFull | cidSuspended | invalidCtrl
  | ratingTooLow | invalidClient | authTimeout | unknown
  | other (code : Int32)
  deriving DecidableEq

/-- The enumerators in the order of their values. -/
def ServerErrorCode.enumerators : List ServerErrorCode :=
  [.noError, .callsignInUse, .invalidCallsign, .alreadyRegistered, .syntaxError,
    .invalidSrcCallsign, .invalidCidPassword, .noSuchCallsign, .noFlightPlan, .noWeatherProfile,
    .invalidRevision, .requestedLevelTooHigh, .serverFull, .cidSuspended, .invalidCtrl,
    .ratingTooLow, .invalidClient, .authTimeout, .unknown]

/-- `static_cast<int>`. -/
def ServerErrorCode.toInt : ServerErrorCode → Int32
  | .other code => code
  | v => Int32.ofNat (enumerators.idxOf v)

/-- `static_cast<ServerErrorCode>`. -/
def ServerErrorCode.ofInt (n : Int32) : ServerErrorCode :=
  if 0 ≤ n then enumerators.getD n.toInt.toNat (.other n) else .other n

@[simp] theorem ServerErrorCode.ofInt_toInt {v : ServerErrorCode} (h : v ∈ enumerators) :
    ofInt v.toInt = v := by
  have hall : ∀ v ∈ enumerators, ofInt v.toInt = v := by decide
  exact hall v h

@[simp] theorem AtcRating.fromQString_toQString (v : AtcRating) :
    fromQString (toQString v) = v := by
  cases v <;> rfl

@[simp] theorem PilotRating.fromQString_toQString (v : PilotRating) :
    fromQString (toQString v) = v := by
  cases v <;> rfl

@[simp] theorem FacilityType.fromQString_toQString (v : FacilityType) :
    fromQString (toQString v) = v := by
  cases v <;> rfl

@[simp] theorem FlightType.fromQString_toQString (v : FlightType) :
    fromQString (toQString v) = v := by
  cases v <;> rfl

/-- Of the transponder modes only standby, mode C and ident come back: every
    other mode is sent as mode C. -/
theorem TransponderMode.fromQString_toQString_iff (v : TransponderMode) :
    fromQString (toQString v) = v ↔ v = .stateStandby ∨ v = .modeC ∨ v = .stateIdent := by
  cases v <;> decide

/-- The simulator types that share their text with another one do not come
    back. -/
theorem SimType.fromQString_toQString_iff (v : SimType) :
    fromQString (toQString v) = v ↔
      ¬(v = .p3Dv1 ∨ v = .p3Dv2 ∨ v = .p3Dv3 ∨ v = .xplane12 ∨ v = .p3Dv5) := by
  cases v <;> decide

/-- The text of the simulator data query is written but not read. -/
theorem ClientQueryType.fromQString_toQString_iff (v : ClientQueryType) :
    fromQString (toQString v) = v ↔ v ≠ .euroscopeSimData := by
  cases v <;> decide

@[simp] theorem AtcRating.colon_notMem (v : AtcRating) : ':' ∉ toQString v := by
  cases v <;> decide

@[simp] theorem PilotRating.colon_notMem (v : PilotRating) : ':' ∉ toQString v := by
  cases v <;> decide

@[simp] theorem SimType.colon_notMem (v : SimType) : ':' ∉ toQString v := by
  cases v <;> decide

@[simp] theorem FacilityType.colon_notMem (v : FacilityType) : ':' ∉ toQString v := by
  cases v <;> decide

@[simp] theorem ClientQueryType.colon_notMem (v : ClientQueryType) : ':' ∉ toQString v := by
  cases v <;> decide

@[simp] theorem FlightType.colon_notMem (v : FlightType) : ':' ∉ toQString v := by
  cases v <;> decide

@[simp] theorem TransponderMode.colon_notMem (v : TransponderMode) : ':' ∉ toQString v := by
  cases v <;> decide

end NeoSwift.Fsd
