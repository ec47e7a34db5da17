import NeoSwift.Qt.Text

/-!
# Callsigns

A callsign keeps the text it was set with and a unified text: trimmed, in upper
case, and without the characters callsigns do not have. Callsigns are equal
when their unified texts are. A callsign without a type hint is treated as one
of a controller when it ends like one.

The case mapping and the classes of characters are those of the Unicode
database, taken as parameters.

## Main definitions

* `Unicode`: Case mapping and character classes.
* `Callsign.unifyCallsign`: The unified text.
* `Callsign.create`: A callsign from a text.
-/

namespace NeoSwift.Aviation

/-- Upper and lower case and `QChar::isLetterOrNumber`. -/
structure Unicode where
  upper : Char → List Char
  lower : Char → List Char
  isLetterOrNumber : Char → Bool

namespace Unicode

def toUpper (u : Unicode) (s : QString) : QString := s.flatMap u.upper

def toLower (u : Unicode) (s : QString) : QString := s.flatMap u.lower

/-- The ASCII part of the database. -/
def ascii : Unicode where
  upper c := [c.toUpper]
  lower c := [c.toLower]
  isLetterOrNumber c := c.isAlphanum

end Unicode

/-- `CCallsign::TypeHint`. -/
inductive TypeHint where
  | noHint | atc | aircraft
  deriving DecidableEq

/-- `CCallsign`: the text as it was set and the unified one. -/
structure Callsign where
  callsignAsSet : QString := []
  callsign : QString := []
  typeHint : TypeHint := .noHint
  deriving DecidableEq

namespace Callsign

/-- The suffixes of stations. -/
def atcAlikeCallsignSuffixes : QStringList :=
  ["ATIS", "APP", "GND", "OBS", "DEP", "TWR", "DEL", "CTR", "SUP", "FSS", "INS"]

/-- On a text in upper case. -/
def looksLikeAtcCallsign (callsign : QString) : Bool :=
  callsign.contains "_" && atcAlikeCallsignSuffixes.any (fun r => r.isSuffixOf callsign)

/-- Only controllers have hyphens. -/
def unifyCallsign (u : Unicode) (callsign : QString) (hint : TypeHint) : QString :=
  let ucCallsign := u.toUpper callsign.trimmed
  let strict := ucCallsign.filter (fun c => u.isLetterOrNumber c || c == '_')
  let hyphens := ucCallsign.filter (fun c => u.isLetterOrNumber c || c == '_' || c == '-')
  match hint with
  | .atc => hyphens
  | .aircraft => strict
  | .noHint => if looksLikeAtcCallsign ucCallsign then hyphens else strict

/-- The constructor. -/
def create (u : Unicode) (callsign : QString) (hint : TypeHint) : Callsign where
  callsignAsSet := callsign.trimmed
  callsign := unifyCallsign u callsign hint
  typeHint := hint

variable (cs : Callsign)

def isEmpty : Bool := cs.callsignAsSet.isEmpty

/-- `operator==`. -/
def equals (cs other : Callsign) : Bool := cs.callsign == other.callsign

def hasSuffix : Bool := cs.callsignAsSet.contains "_"

/-- What is behind the last underscore. -/
def getSuffix (u : Unicode) (cs : Callsign) : QString :=
  if cs.hasSuffix then u.toUpper ((cs.callsignAsSet.splitOn '_').getLastD []) else []

/-- The callsign ends with `_OBS`. -/
def isObserverCallsign : Bool :=
  "_OBS".toList.isSuffixOf (cs.callsignAsSet.map Char.toUpper)

/-- Not an aircraft, and the callsign ends with `SUP`. -/
def isSupervisorCallsign : Bool :=
  cs.typeHint != .aircraft && "SUP".toList.isSuffixOf cs.callsign

def isBroadcastCallsign : Bool :=
  cs.callsignAsSet == "*" || cs.callsign == "*"
    || cs.callsignAsSet == "BROADCAST"

/-- Cross coupled callsigns such as `*EDDF_TWR` are sent as they were set. -/
def getFsdCallsignString : QString :=
  if cs.callsignAsSet.startsWith "*" then cs.callsignAsSet else cs.callsign

end Callsign

end NeoSwift.Aviation
