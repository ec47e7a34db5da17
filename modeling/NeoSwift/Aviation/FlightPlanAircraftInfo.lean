import NeoSwift.Aviation.Equipment
import NeoSwift.Lib.Fallible
import NeoSwift.Misc.Simulation.AircraftModel

/-!
# Aircraft Info of a Flight Plan

`CFlightPlanAircraftInfo`: the aircraft, its wake turbulence category and its equipment, read
from a text in the format of the ICAO (`B789/H-SDE1/LB1`), in that of the FAA (`H/B772/L`) or
from a type designator alone, and written in the format of the ICAO. The number of slashes and
hyphens decides which reader takes the text; the fields of a split text, the characters of a
field and the assertions are guarded here as they are in the program.

## Main definitions

* `CWakeTurbulenceCategory`: The category and its letter.
* `CFlightPlanAircraftInfo.parse`: The constructor from a text.
* `CFlightPlanAircraftInfo.asIcaoString`: The text.

## Theorems

* `parse_yields`: Every text is read, to an info that can be written.
* `parse_asIcaoString`: What was written is read back.
* `normal_form`: Both, with the texts of the equipment.
-/

namespace NeoSwift.Aviation

open Fallible Codes

/-- What the database says of upper case letters, of digits and of the characters of ASCII. -/
structure UnicodeData.Standard (u : UnicodeData) : Prop where
  upper_ascii : ∀ c : Char, c.toNat < 128 → u.upper c = [c.toUpper]
  isUpper_ascii : ∀ c : Char, c.toNat < 128 → u.isUpper c = c.isUpper
  isDigit_ascii : ∀ c : Char, c.toNat < 128 → u.isDigit c = c.isDigit
  upper_of_isUpper : ∀ c, u.isUpper c = true → u.upper c = [c]
  upper_of_isDigit : ∀ c, u.isDigit c = true → u.upper c = [c]
  notSpace_of_isUpper : ∀ c, u.isUpper c = true → QString.isSpace c = false
  notSpace_of_isDigit : ∀ c, u.isDigit c = true → QString.isSpace c = false

/-- `QChar::toUpper`: a character whose upper case is longer than one stays. -/
def UnicodeData.upperChar (u : UnicodeData) (c : Char) : Char :=
  match u.upper c with
  | [d] => d
  | _ => c

/-- `QString::at`. -/
def charAt (s : QString) (i : ℕ) : Except FlightPlanFault Char :=
  match s[i]? with
  | some c => .ok c
  | none => .error .outOfRange

/-- `QStringList::at`. -/
def fieldAt (fields : QStringList) (i : ℕ) : Except FlightPlanFault QString :=
  match fields[i]? with
  | some field => .ok field
  | none => .error .outOfRange

/-! ## Designators -/

namespace CAircraftIcaoCode

def designatorMinLength : ℕ := 2

def designatorMaxLength : ℕ := 5

/-- 2 to 5 characters, upper-case letters and digits, a letter in front. -/
def isValidDesignator (u : UnicodeData) (designator : QString) : Except FlightPlanFault Bool :=
  if designator.size < designatorMinLength ∨ designatorMaxLength < designator.size then .ok false
  else do
    let first ← charAt designator 0
    if !u.isUpper first then .ok false
    else .ok (!designator.any fun c => !u.isUpper c && !u.isDigit c)

/-- The constructor from a designator alone. -/
def ofDesignator (u : UnicodeData) (icao : QString) : CAircraftIcaoCode :=
  { designator := u.unified icao, combinedType := u.unified [] }

end CAircraftIcaoCode

/-! ## Wake turbulence categories -/

/-- `CWakeTurbulenceCategory::WakeTurbulenceCategory`. -/
inductive WakeTurbulenceCategory where
  | unknown | light | medium | heavy | super
  deriving DecidableEq

/-- `CWakeTurbulenceCategory`. -/
structure CWakeTurbulenceCategory where
  wtc : WakeTurbulenceCategory := .unknown
  deriving DecidableEq

namespace CWakeTurbulenceCategory

/-- The constructor from a letter. -/
def ofLetter (u : UnicodeData) (letter : Char) : CWakeTurbulenceCategory :=
  let letter := u.upperChar letter
  if letter = 'L' then ⟨.light⟩
  else if letter = 'M' then ⟨.medium⟩
  else if letter = 'H' then ⟨.heavy⟩
  else if letter = 'J' then ⟨.super⟩
  else ⟨.unknown⟩

/-- The letter of the category, a hyphen if it is not known. -/
def toQString (category : CWakeTurbulenceCategory) : QString :=
  match category.wtc with
  | .light => ['L']
  | .medium => ['M']
  | .heavy => ['H']
  | .super => ['J']
  | .unknown => ['-']

def isUnknown (category : CWakeTurbulenceCategory) : Bool := category.wtc = .unknown

end CWakeTurbulenceCategory

/-! ## The info -/

/-- `CFlightPlanAircraftInfo`. -/
structure CFlightPlanAircraftInfo where
  aircraftIcao : CAircraftIcaoCode := {}
  comNavEquipment : CComNavEquipment := {}
  ssrEquipment : CSsrEquipment := {}
  wtc : CWakeTurbulenceCategory := {}
  deriving DecidableEq

namespace CFlightPlanAircraftInfo

/-- The equipment for communication and navigation of a code of the FAA. -/
def faaCodeToComNav (equipmentCode : Char) : CComNavEquipment :=
  if equipmentCode ∈ ['H', 'O', 'W'] then .ofFlags {.rvsm} ∅
  else if equipmentCode = 'Z' then .ofFlags {.rvsm, .pbn} ∅
  else if equipmentCode = 'L' then .ofFlags {.rvsm, .gnss} ∅
  else if equipmentCode ∈ ['X', 'T', 'U'] then .ofFlags ∅ ∅
  else if equipmentCode ∈ ['D', 'B', 'A'] then .ofFlags {.dme} ∅
  else if equipmentCode ∈ ['M', 'N', 'P'] then .ofFlags {.tacan} ∅
  else if equipmentCode ∈ ['Y', 'C', 'I'] then .ofFlags {.pbn} ∅
  else if equipmentCode ∈ ['V', 'S', 'G'] then .ofFlags {.gnss} ∅
  else {}

/-- The surveillance equipment of a code of the FAA. -/
def faaCodeToSsr (equipmentCode : Char) : CSsrEquipment :=
  if equipmentCode ∈ ['W', 'Z', 'L', 'U', 'A', 'P', 'I', 'G'] then .ofFlags {.modeAC}
  else if equipmentCode ∈ ['H', 'O', 'X', 'D', 'M', 'Y', 'V'] then .ofFlags {.none}
  else if equipmentCode ∈ ['T', 'B', 'N', 'C', 'S'] then .ofFlags {.modeA}
  else {}

def faaCodeToEquipment (equipmentCode : Char) : CComNavEquipment × CSsrEquipment :=
  (faaCodeToComNav equipmentCode, faaCodeToSsr equipmentCode)

section Parse

variable (u : UnicodeData)

/-- The category in front of the hyphen. -/
def icaoCategory (field : QString) : Except FlightPlanFault CWakeTurbulenceCategory :=
  if field.isEmpty then .ok {}
  else do
    let letter ← charAt field 0
    .ok (.ofLetter u letter)

/-- Three parts: type and category, COM/NAV equipment, transponder. -/
def parseIcaoEquipmentCode (equipment : QString) :
    Except FlightPlanFault CFlightPlanAircraftInfo :=
  let firstSplit := equipment.split '/'
  if firstSplit.length ≠ 3 then .error .assertion
  else do
    let designator ← fieldAt firstSplit 0
    let middle ← fieldAt firstSplit 1
    let ssr ← fieldAt firstSplit 2
    let valid ← CAircraftIcaoCode.isValidDesignator u designator
    if !valid || middle.isEmpty || ssr.isEmpty then .ok {}
    else
      let info : CFlightPlanAircraftInfo :=
        { aircraftIcao := .ofDesignator u designator, ssrEquipment := .ofText ssr }
      let secondSplit := middle.split '-'
      if secondSplit.length ≠ 2 then .ok info
      else do
        let category ← fieldAt secondSplit 0
        let wtc ← icaoCategory u category
        let comNav ← fieldAt secondSplit 1
        .ok { info with wtc := wtc, comNavEquipment := .ofText comNav }

/-- The aircraft, and whether it stands where the equipment code would stand. -/
def faaAircraft (beforeLast last : QString) :
    Except FlightPlanFault (CAircraftIcaoCode × Bool) := do
  let beforeLastValid ← CAircraftIcaoCode.isValidDesignator u beforeLast
  if beforeLastValid then .ok (.ofDesignator u beforeLast, false)
  else do
    let lastValid ← CAircraftIcaoCode.isValidDesignator u last
    if lastValid then .ok (.ofDesignator u last, true) else .ok ({}, false)

/-- The category of the prefix, and whether the equipment code is missing. -/
def faaCategory (split : QStringList) (missingEquipmentCode : Bool) :
    Except FlightPlanFault (CWakeTurbulenceCategory × Bool) := do
  let first ← fieldAt split 0
  if split.length = 3 then
    if first = ['H'] ∨ first = ['J'] then do
      let letter ← charAt first 0
      .ok (.ofLetter u letter, missingEquipmentCode)
    else .ok ({}, missingEquipmentCode)
  else if split.length = 2 ∧ first.size = 1 then do
    let letter ← charAt first 0
    .ok (.ofLetter u letter, true)
  else .ok ({}, missingEquipmentCode)

/-- Category, type and equipment letter, of which some may be missing. -/
def parseFaaEquipmentCode (equipment : QString) :
    Except FlightPlanFault CFlightPlanAircraftInfo :=
  let split := equipment.split '/'
  if ¬(split.length = 2 ∨ split.length = 3) then .error .assertion
  else do
    let beforeLast ← fieldAt split (split.length - 2)
    let last ← fieldAt split (split.length - 1)
    let (aircraftIcao, missing) ← faaAircraft u beforeLast last
    let (wtc, missing) ← faaCategory u split missing
    if missing || last.isEmpty then .ok { aircraftIcao := aircraftIcao, wtc := wtc }
    else do
      let equipmentCode ← charAt last 0
      let (comNavEquipment, ssrEquipment) := faaCodeToEquipment equipmentCode
      .ok ⟨aircraftIcao, comNavEquipment, ssrEquipment, wtc⟩

/-- Only the type, if the first part is one. -/
def parseUnknownEquipmentCode (equipment : QString) :
    Except FlightPlanFault CFlightPlanAircraftInfo := do
  let first ← fieldAt (equipment.split '/') 0
  let valid ← CAircraftIcaoCode.isValidDesignator u first
  if 1 < first.size ∧ valid then .ok { aircraftIcao := .ofDesignator u first } else .ok {}

/-- The constructor from a text. -/
def parse (equipmentCodeAndAircraft : QString) : Except FlightPlanFault CFlightPlanAircraftInfo :=
  let equipment := (u.toUpper equipmentCodeAndAircraft.trimmed).remove [' ']
  let numberSlash := equipment.count '/'
  let numberHypen := equipment.count '-'
  if numberHypen = 1 ∧ numberSlash = 2 then parseIcaoEquipmentCode u equipment
  else if 1 ≤ numberSlash ∧ numberSlash ≤ 2 ∧ numberHypen = 0 then
    parseFaaEquipmentCode u equipment
  else parseUnknownEquipmentCode u equipment

end Parse

/-- The category is written as `MEDIUM` if it is not known. -/
def asIcaoString (info : CFlightPlanAircraftInfo) : Except FlightPlanFault QString := do
  let wtc ← charAt (if !info.wtc.isUnknown then info.wtc.toQString
    else (CWakeTurbulenceCategory.mk .medium).toQString) 0
  let comNav ← info.comNavEquipment.convertToQString
  let ssr ← info.ssrEquipment.convertToQString
  .ok (info.aircraftIcao.designator ++ '/' :: wtc :: '-' :: comNav ++ '/' :: ssr)

end CFlightPlanAircraftInfo

/-! ## Guards that hold -/

theorem yields_charAt {s : QString} (h : s ≠ []) : Yields (fun _ => True) (charAt s 0) := by
  cases s with
  | nil => exact absurd rfl h
  | cons c s => exact yields_ok trivial

theorem yields_fieldAt {fields : QStringList} {i : ℕ} (h : i < fields.length) :
    Yields (· ∈ fields) (fieldAt fields i) := by
  rw [fieldAt, List.getElem?_eq_getElem h]
  exact yields_ok (List.getElem_mem h)

/-- A text has one field more than it has separators. -/
theorem length_split (s : QString) (sep : Char) : (s.split sep).length = s.count sep + 1 := by
  rw [QString.split, List.splitOn_eq_splitOnP]
  induction s with
  | nil => rfl
  | cons c s ih =>
      rw [List.splitOnP_cons_eq_if_modifyHead, List.count_cons]
      by_cases h : c = sep
      · have hbeq : (c == sep) = true := beq_iff_eq.mpr h
        rw [if_pos hbeq, if_pos hbeq, List.length_cons, ih]
      · rw [if_neg (by rwa [beq_iff_eq]), if_neg (by rwa [beq_iff_eq]), List.length_modifyHead, ih]

theorem split_of_notMem {s : QString} {sep : Char} (h : sep ∉ s) : s.split sep = [s] := by
  have hone := QString.split_join (List.cons_ne_nil s [])
    fun f hf => (List.mem_singleton.mp hf).symm ▸ h
  rwa [QString.join, List.intercalate_singleton] at hone

namespace CAircraftIcaoCode

variable {u : UnicodeData} {d : QString}

/-- Between two and five upper case letters and digits, a letter first. -/
def ValidDesignator (u : UnicodeData) (d : QString) : Prop :=
  2 ≤ d.size ∧ d.size ≤ 5 ∧ (∀ c ∈ d.head?, u.isUpper c = true) ∧
    ∀ c ∈ d, u.isUpper c = true ∨ u.isDigit c = true

theorem ValidDesignator.ne_nil (h : ValidDesignator u d) : d ≠ [] := by
  rintro rfl
  exact nomatch h.1

/-- The first character is only asked for where there is one. -/
theorem yields_isValidDesignator (u : UnicodeData) (d : QString) :
    Yields (fun valid => valid = true ↔ ValidDesignator u d) (isValidDesignator u d) := by
  unfold isValidDesignator designatorMinLength designatorMaxLength
  refine yields_ite (fun hsize => yields_ok ⟨(nomatch ·), fun h => ?_⟩) fun hsize => ?_
  · have h2 := h.1
    have h5 := h.2.1
    omega
  · cases d with
    -- Without a character the size check has failed before.
    | nil => exact absurd (Or.inl (by decide)) hsize
    | cons c d =>
        have hrange : 2 ≤ QString.size (c :: d) ∧ QString.size (c :: d) ≤ 5 := by omega
        refine yields_ite (fun hlower => yields_ok ⟨(nomatch ·), fun h => ?_⟩) fun hupper => ?_
        · rw [h.2.2.1 c rfl] at hlower
          cases hlower
        · refine yields_ok ?_
          rw [Bool.not_eq_true', List.any_eq_false]
          have hupper : u.isUpper c = true := by simpa using hupper
          -- What is not one of the characters is a letter in upper case, or a digit.
          constructor
          · intro hall
            refine ⟨hrange.1, hrange.2, fun a ha => ?_, fun a ha => ?_⟩
            · cases ha
              exact hupper
            · have hnot := hall a ha
              rw [Bool.and_eq_true, Bool.not_eq_true', Bool.not_eq_true', not_and_or,
                Bool.not_eq_false, Bool.not_eq_false] at hnot
              exact hnot
          · intro h a ha
            rw [Bool.and_eq_true, Bool.not_eq_true', Bool.not_eq_true', not_and_or,
              Bool.not_eq_false, Bool.not_eq_false]
            exact h.2.2.2 a ha

theorem isValidDesignator_eq_ok_true_iff :
    isValidDesignator u d = .ok true ↔ ValidDesignator u d := by
  rcases yields_isValidDesignator u d with ⟨valid, hvalid, hiff⟩
  rw [hvalid, Except.ok.injEq, hiff]

end CAircraftIcaoCode

namespace CFlightPlanAircraftInfo

open CAircraftIcaoCode

/-! ## Every text is read -/

/-- The equipment has flags to be written, and the aircraft is none or that of a designator. -/
structure Writable (u : UnicodeData) (info : CFlightPlanAircraftInfo) : Prop where
  comNav : info.comNavEquipment.HasFlags
  ssr : info.ssrEquipment.HasFlags
  aircraft : info.aircraftIcao = {} ∨
    ∃ d, ValidDesignator u d ∧ info.aircraftIcao = .ofDesignator u d

theorem comNav_default : CComNavEquipment.HasFlags {} := CComNavEquipment.hasFlags_ofText []

theorem ssr_default : CSsrEquipment.HasFlags {} := CSsrEquipment.hasFlags_ofText []

theorem hasFlags_faaCodeToComNav (c : Char) : (faaCodeToComNav c).HasFlags := by
  unfold faaCodeToComNav
  split_ifs <;> first | exact CComNavEquipment.hasFlags_ofFlags _ _ | exact comNav_default

theorem hasFlags_faaCodeToSsr (c : Char) : (faaCodeToSsr c).HasFlags := by
  unfold faaCodeToSsr
  split_ifs <;> first | exact CSsrEquipment.hasFlags_ofFlags _ | exact ssr_default

variable (u : UnicodeData)

theorem writable_default : Writable u {} := ⟨comNav_default, ssr_default, .inl rfl⟩

theorem yields_icaoCategory (field : QString) : Yields (fun _ => True) (icaoCategory u field) := by
  refine yields_ite (fun _ => yields_ok trivial) fun hne => ?_
  rw [List.isEmpty_iff] at hne
  exact yields_bind (yields_charAt hne) fun letter _ => yields_ok trivial

theorem parseIcaoEquipmentCode_yields {equipment : QString} (h : equipment.count '/' = 2) :
    Yields (Writable u) (parseIcaoEquipmentCode u equipment) := by
  have hlength : (equipment.split '/').length = 3 := by rw [length_split, h]
  unfold parseIcaoEquipmentCode
  rw [if_neg (not_not.mpr hlength)]
  refine yields_bind (yields_fieldAt (by omega)) fun designator _ => ?_
  refine yields_bind (yields_fieldAt (by omega)) fun middle _ => ?_
  refine yields_bind (yields_fieldAt (by omega)) fun ssr _ => ?_
  refine yields_bind (yields_isValidDesignator u designator) fun valid hvalid => ?_
  refine yields_ite (fun _ => yields_ok (writable_default u)) fun hparts => ?_
  have hdesignator : ValidDesignator u designator := hvalid.mp (by
    simp only [Bool.or_eq_true, Bool.not_eq_true', not_or, Bool.not_eq_false] at hparts
    exact hparts.1.1)
  refine yields_ite (fun _ => yields_ok ?_) fun hsecond => ?_
  · exact ⟨comNav_default, CSsrEquipment.hasFlags_ofText ssr, .inr ⟨designator, hdesignator, rfl⟩⟩
  · refine yields_bind (yields_fieldAt (by omega)) fun category _ => ?_
    refine yields_bind (yields_icaoCategory u category) fun wtc _ => ?_
    refine yields_bind (yields_fieldAt (by omega)) fun comNav _ => yields_ok ?_
    exact ⟨CComNavEquipment.hasFlags_ofText comNav, CSsrEquipment.hasFlags_ofText ssr,
      .inr ⟨designator, hdesignator, rfl⟩⟩

theorem faaAircraft_yields (beforeLast last : QString) :
    Yields (fun found => found.1 = {} ∨ ∃ d, ValidDesignator u d ∧ found.1 = .ofDesignator u d)
      (faaAircraft u beforeLast last) := by
  refine yields_bind (yields_isValidDesignator u beforeLast) fun valid hvalid => ?_
  refine yields_ite (fun h => yields_ok (.inr ⟨beforeLast, hvalid.mp h, rfl⟩)) fun _ => ?_
  refine yields_bind (yields_isValidDesignator u last) fun lastValid hlast => ?_
  exact yields_ite (fun h => yields_ok (.inr ⟨last, hlast.mp h, rfl⟩)) fun _ => yields_ok (.inl rfl)

theorem faaCategory_yields {split : QStringList} (h : 2 ≤ split.length) (missing : Bool) :
    Yields (fun _ => True) (faaCategory u split missing) := by
  refine yields_bind (yields_fieldAt (by omega)) fun first _ => ?_
  refine yields_ite (fun _ => ?_) fun _ => ?_
  · refine yields_ite (fun hfront => ?_) fun _ => yields_ok trivial
    refine yields_bind (yields_charAt ?_) fun letter _ => yields_ok trivial
    rintro rfl
    exact hfront.elim (nomatch ·) (nomatch ·)
  · refine yields_ite (fun hone => ?_) fun _ => yields_ok trivial
    refine yields_bind (yields_charAt ?_) fun letter _ => yields_ok trivial
    rintro rfl
    exact nomatch hone.2

theorem parseFaaEquipmentCode_yields {equipment : QString}
    (h : 1 ≤ equipment.count '/' ∧ equipment.count '/' ≤ 2) :
    Yields (Writable u) (parseFaaEquipmentCode u equipment) := by
  have hlength : (equipment.split '/').length = 2 ∨ (equipment.split '/').length = 3 := by
    rw [length_split]
    omega
  unfold parseFaaEquipmentCode
  rw [if_neg (not_not.mpr hlength)]
  refine yields_bind (yields_fieldAt (by omega)) fun beforeLast _ => ?_
  refine yields_bind (yields_fieldAt (by omega)) fun last _ => ?_
  refine yields_bind (faaAircraft_yields u beforeLast last) fun found hfound => ?_
  refine yields_bind (faaCategory_yields u (by omega) found.2) fun category _ => ?_
  refine yields_ite (fun _ => yields_ok ⟨comNav_default, ssr_default, hfound⟩) fun hcode => ?_
  have hlast : last ≠ [] := by
    rintro rfl
    exact hcode (Bool.or_true _)
  refine yields_bind (yields_charAt hlast) fun code _ => yields_ok ?_
  exact ⟨hasFlags_faaCodeToComNav code, hasFlags_faaCodeToSsr code, hfound⟩

theorem parseUnknownEquipmentCode_yields (equipment : QString) :
    Yields (Writable u) (parseUnknownEquipmentCode u equipment) := by
  refine yields_bind (yields_fieldAt (by rw [length_split]; omega)) fun first _ => ?_
  refine yields_bind (yields_isValidDesignator u first) fun valid hvalid => ?_
  refine yields_ite (fun h => yields_ok ?_) fun _ => yields_ok (writable_default u)
  exact ⟨comNav_default, ssr_default, .inr ⟨first, hvalid.mp h.2, rfl⟩⟩

/-- No text ends the program, and what is read can be written. -/
theorem parse_yields (s : QString) : Yields (Writable u) (parse u s) := by
  refine yields_ite (fun h => parseIcaoEquipmentCode_yields u h.2) fun _ => ?_
  exact yields_ite (fun h => parseFaaEquipmentCode_yields u ⟨h.1, h.2.1⟩) fun _ =>
    parseUnknownEquipmentCode_yields u _

/-! ## What is written is read back -/

variable {u}

/-- An upper case letter or a digit. -/
def CodeChar (u : UnicodeData) (c : Char) : Prop := u.isUpper c = true ∨ u.isDigit c = true

theorem toUpper_of_fixed {s : QString} (h : ∀ c ∈ s, u.upper c = [c]) : u.toUpper s = s := by
  rw [Unicode.toUpper]
  induction s with
  | nil => rfl
  | cons c s ih =>
      rw [List.flatMap_cons, h c List.mem_cons_self,
        ih fun d hd => h d (List.mem_cons_of_mem c hd), List.singleton_append]

/-- A text of the format of the ICAO whose parts are as they should be. -/
theorem parseIcaoEquipmentCode_of_split {equipment d middle ssr comNav : QString} {letter : Char}
    (hfirst : equipment.split '/' = [d, middle, ssr]) (hd : ValidDesignator u d)
    (hmiddle : middle.isEmpty = false) (hssr : ssr.isEmpty = false)
    (hsecond : middle.split '-' = [[letter], comNav]) :
    parseIcaoEquipmentCode u equipment =
      .ok ⟨.ofDesignator u d, .ofText comNav, .ofText ssr, .ofLetter u letter⟩ := by
  have hthree : ¬[d, middle, ssr].length ≠ 3 := not_not.mpr rfl
  have htwo : ¬[[letter], comNav].length ≠ 2 := not_not.mpr rfl
  have hparts : ¬((!true || false || false) = true) := Bool.false_ne_true
  rw [parseIcaoEquipmentCode, hfirst, bind_ok _ (show fieldAt [d, middle, ssr] 0 = .ok d from rfl),
    bind_ok _ (show fieldAt [d, middle, ssr] 1 = .ok middle from rfl),
    bind_ok _ (show fieldAt [d, middle, ssr] 2 = .ok ssr from rfl),
    bind_ok _ (isValidDesignator_eq_ok_true_iff.mpr hd), hmiddle, hssr, hsecond]
  rfl

theorem toNat_of_isUpper {c : Char} (h : c.isUpper = true) : 65 ≤ c.toNat ∧ c.toNat ≤ 90 := by
  have hrange : 'A'.val ≤ c.val ∧ c.val ≤ 'Z'.val := of_decide_eq_true h
  exact ⟨UInt32.le_iff_toNat_le.mp hrange.1, UInt32.le_iff_toNat_le.mp hrange.2⟩

theorem toNat_of_isDigit {c : Char} (h : c.isDigit = true) : 48 ≤ c.toNat ∧ c.toNat ≤ 57 := by
  simp only [Char.isDigit, Bool.and_eq_true, decide_eq_true_eq] at h
  exact ⟨UInt32.le_iff_toNat_le.mp h.1, UInt32.le_iff_toNat_le.mp h.2⟩

theorem toNat_of_alphanum {c : Char} (h : c.isUpper = true ∨ c.isDigit = true) :
    48 ≤ c.toNat ∧ c.toNat ≤ 90 := by
  rcases h with h | h
  · have hrange := toNat_of_isUpper h
    omega
  · have hrange := toNat_of_isDigit h
    omega

theorem toUpper_of_alphanum {c : Char} (h : c.isUpper = true ∨ c.isDigit = true) :
    c.toUpper = c := by
  have hrange := toNat_of_alphanum h
  refine dif_neg fun hlower => ?_
  have h97 : 97 ≤ c.toNat := UInt32.le_iff_toNat_le.mp hlower.1
  omega

theorem notSpace_of_alphanum {c : Char} (h : c.isUpper = true ∨ c.isDigit = true) :
    QString.isSpace c = false := by
  have hrange := toNat_of_alphanum h
  simp only [QString.isSpace, Bool.or_eq_false_iff, Bool.and_eq_false_iff, beq_eq_false_iff_ne,
    decide_eq_false_iff_not]
  omega

/-- The category that is sent. -/
def sentCategory (category : CWakeTurbulenceCategory) : CWakeTurbulenceCategory :=
  if category.isUnknown then ⟨.medium⟩ else category

variable (hu : u.Standard)

include hu

theorem codeChar_of_ascii {c : Char} (h : c.isUpper = true ∨ c.isDigit = true) : CodeChar u c := by
  have hlt : c.toNat < 128 := by
    have hrange := toNat_of_alphanum h
    omega
  rwa [CodeChar, hu.isUpper_ascii c hlt, hu.isDigit_ascii c hlt]

theorem ne_of_codeChar {c d : Char} (h : CodeChar u c) (hd : d.toNat < 128)
    (hupper : d.isUpper = false) (hdigit : d.isDigit = false) : c ≠ d := by
  rintro rfl
  rw [CodeChar, hu.isUpper_ascii c hd, hu.isDigit_ascii c hd, hupper, hdigit] at h
  exact h.elim (nomatch ·) (nomatch ·)

theorem notMem_of_codeChars {s : QString} (h : ∀ c ∈ s, CodeChar u c) {d : Char}
    (hd : d.toNat < 128) (hupper : d.isUpper = false) (hdigit : d.isDigit = false) : d ∉ s :=
  fun hmem => ne_of_codeChar hu (h d hmem) hd hupper hdigit rfl

/-- What the readers are given of a text of code characters, slashes and hyphens is the text. -/
theorem normalised {t : QString} (h : ∀ c ∈ t, CodeChar u c ∨ c = '/' ∨ c = '-') :
    (u.toUpper t.trimmed).remove [' '] = t := by
  have hspace : ∀ c ∈ t, QString.isSpace c = false := by
    intro c hc
    rcases h c hc with (hupper | hdigit) | rfl | rfl
    · exact hu.notSpace_of_isUpper c hupper
    · exact hu.notSpace_of_isDigit c hdigit
    · decide
    · decide
  have hfixed : ∀ c ∈ t, u.upper c = [c] := by
    intro c hc
    rcases h c hc with (hupper | hdigit) | rfl | rfl
    · exact hu.upper_of_isUpper c hupper
    · exact hu.upper_of_isDigit c hdigit
    · exact hu.upper_ascii '/' (by decide)
    · exact hu.upper_ascii '-' (by decide)
  rw [QString.trimmed_of_no_space hspace, toUpper_of_fixed hfixed]
  exact QString.remove_of_notMem fun hmem => absurd (hspace ' ' hmem) (by decide)

theorem unified_of_codeChars {d : QString} (h : ∀ c ∈ d, CodeChar u c) : u.unified d = d := by
  rw [UnicodeData.unified, QString.trimmed_of_no_space fun c hc => ?_]
  · exact toUpper_of_fixed fun c hc =>
      (h c hc).elim (hu.upper_of_isUpper c) (hu.upper_of_isDigit c)
  · exact (h c hc).elim (hu.notSpace_of_isUpper c) (hu.notSpace_of_isDigit c)

theorem ofLetter_of_ascii {c : Char} (h : c.isUpper = true) :
    CWakeTurbulenceCategory.ofLetter u c =
      if c = 'L' then ⟨.light⟩ else if c = 'M' then ⟨.medium⟩ else if c = 'H' then ⟨.heavy⟩
        else if c = 'J' then ⟨.super⟩ else ⟨.unknown⟩ := by
  have hrange := toNat_of_isUpper h
  have hc : u.upperChar c = c := by
    rw [UnicodeData.upperChar, hu.upper_ascii c (by omega), toUpper_of_alphanum (.inl h)]
  rw [CWakeTurbulenceCategory.ofLetter, hc]

/-- The letter that is written is that of the category sent. -/
theorem exists_letter (category : CWakeTurbulenceCategory) :
    ∃ letter, charAt (if !category.isUnknown then category.toQString
        else (CWakeTurbulenceCategory.mk .medium).toQString) 0 = .ok letter ∧
      CodeChar u letter ∧ CWakeTurbulenceCategory.ofLetter u letter = sentCategory category := by
  have hupper : ∀ c ∈ ['L', 'M', 'H', 'J'], c.isUpper = true := List.all_eq_true.mp (by decide)
  have hread : ∀ c ∈ ['L', 'M', 'H', 'J'], CodeChar u c ∧ CWakeTurbulenceCategory.ofLetter u c =
      if c = 'L' then ⟨.light⟩ else if c = 'M' then ⟨.medium⟩ else if c = 'H' then ⟨.heavy⟩
        else if c = 'J' then ⟨.super⟩ else ⟨.unknown⟩ := fun c hc =>
    ⟨codeChar_of_ascii hu (.inl (hupper c hc)), ofLetter_of_ascii hu (hupper c hc)⟩
  rcases category with ⟨wtc⟩
  -- An unknown category is sent as medium.
  cases wtc with
  | unknown | medium =>
      rcases hread 'M' (by decide) with ⟨hcode, hof⟩
      exact ⟨'M', rfl, hcode, hof.trans (by decide)⟩
  | light =>
      rcases hread 'L' (by decide) with ⟨hcode, hof⟩
      exact ⟨'L', rfl, hcode, hof.trans (by decide)⟩
  | heavy =>
      rcases hread 'H' (by decide) with ⟨hcode, hof⟩
      exact ⟨'H', rfl, hcode, hof.trans (by decide)⟩
  | super =>
      rcases hread 'J' (by decide) with ⟨hcode, hof⟩
      exact ⟨'J', rfl, hcode, hof.trans (by decide)⟩

/-- The text of four parts of code characters is read as these parts. -/
theorem parse_parts {d comNav ssr : QString} {letter : Char} (hd : ValidDesignator u d)
    (hletter : CodeChar u letter) (hcomNav : ∀ c ∈ comNav, CodeChar u c)
    (hssr : ∀ c ∈ ssr, CodeChar u c) (hne : ssr ≠ []) :
    parse u (d ++ '/' :: letter :: '-' :: comNav ++ '/' :: ssr) =
      .ok ⟨.ofDesignator u d, .ofText comNav, .ofText ssr, .ofLetter u letter⟩ := by
  have hslash : ∀ {s : QString}, (∀ c ∈ s, CodeChar u c) → '/' ∉ s := fun h =>
    notMem_of_codeChars hu h (by decide) (by decide) (by decide)
  have hhyphen : ∀ {s : QString}, (∀ c ∈ s, CodeChar u c) → '-' ∉ s := fun h =>
    notMem_of_codeChars hu h (by decide) (by decide) (by decide)
  have hd' : ∀ c ∈ d, CodeChar u c := hd.2.2.2
  have hone : ∀ c ∈ [letter], CodeChar u c := fun c hc => List.mem_singleton.mp hc ▸ hletter
  have hone' : '/' ∉ [letter] ∧ '-' ∉ [letter] := ⟨hslash hone, hhyphen hone⟩
  generalize hm : letter :: '-' :: comNav = middle
  have hsecond : QString.split middle '-' = [[letter], comNav] := by
    rw [← hm, show letter :: '-' :: comNav = [letter] ++ '-' :: comNav from rfl,
      QString.split_append_cons hone'.2, split_of_notMem (hhyphen hcomNav)]
  have hmiddle : '/' ∉ middle := by
    rw [← hm, List.mem_cons, List.mem_cons, ← List.mem_singleton]
    exact fun h => h.elim hone'.1 fun h => h.elim (nomatch ·) (hslash hcomNav)
  generalize ht : d ++ '/' :: middle ++ '/' :: ssr = t
  have hfirst : t.split '/' = [d, middle, ssr] := by
    rw [← ht, List.append_assoc, List.cons_append, QString.split_append_cons (hslash hd'),
      QString.split_append_cons hmiddle, split_of_notMem (hslash hssr)]
  have hall : ∀ c ∈ t, CodeChar u c ∨ c = '/' ∨ c = '-' := by
    intro c hc
    simp only [← ht, ← hm, List.mem_append, List.mem_cons] at hc
    rcases hc with (hc | rfl | rfl | rfl | hc) | rfl | hc
    · exact .inl (hd' c hc)
    · exact .inr (.inl rfl)
    · exact .inl hletter
    · exact .inr (.inr rfl)
    · exact .inl (hcomNav c hc)
    · exact .inr (.inl rfl)
    · exact .inl (hssr c hc)
  -- The numbers of separators are read off the splits.
  have hslashes : t.count '/' = 2 := by
    have hlength := length_split t '/'
    rw [hfirst] at hlength
    exact Nat.succ.inj hlength.symm
  have hhyphens : t.count '-' = 1 := by
    have hlength := length_split middle '-'
    rw [hsecond] at hlength
    rw [← ht, List.count_append, List.count_append, List.count_cons_of_ne (by decide),
      List.count_cons_of_ne (by decide), List.count_eq_zero.mpr (hhyphen hd'),
      List.count_eq_zero.mpr (hhyphen hssr), Nat.zero_add]
    exact Nat.succ.inj hlength.symm
  rw [parse, normalised hu hall, if_pos ⟨hhyphens, hslashes⟩]
  refine parseIcaoEquipmentCode_of_split hfirst hd ?_ ?_ hsecond
  · rw [← hm]
    rfl
  · rwa [List.isEmpty_eq_false_iff]

/-- An info that is written is read back, with the category that was sent. -/
theorem parse_asIcaoString {x : CFlightPlanAircraftInfo} (hx : Writable u x)
    (hvalid : ValidDesignator u x.aircraftIcao.designator) :
    ∃ t, x.asIcaoString = .ok t ∧ parse u t = .ok { x with wtc := sentCategory x.wtc } := by
  -- The aircraft is the one made from its own designator.
  have haircraft : CAircraftIcaoCode.ofDesignator u x.aircraftIcao.designator = x.aircraftIcao := by
    rcases hx.aircraft with hnone | ⟨d, hd, haircraft⟩
    · rw [hnone] at hvalid
      exact absurd rfl hvalid.ne_nil
    · have hsame : x.aircraftIcao.designator = d := by
        rw [haircraft]
        exact unified_of_codeChars hu hd.2.2.2
      rw [hsame, haircraft]
  rcases exists_letter hu x.wtc with ⟨letter, hletter, hcode, hof⟩
  have hcomNav := CComNavEquipment.convertToQString_of_hasFlags hx.comNav
  have hssr := CSsrEquipment.convertToQString_of_hasFlags hx.ssr
  refine ⟨_, by rw [asIcaoString, bind_ok _ hletter, bind_ok _ hcomNav, bind_ok _ hssr], ?_⟩
  rw [parse_parts hu hvalid hcode
      (fun c hc => codeChar_of_ascii hu (CComNavEquipment.alphanum_of_mem_row hc))
      (fun c hc => codeChar_of_ascii hu (CSsrEquipment.alphanum_of_mem_row hc))
      (row_ne_nil CSsrEquipment.recognisable (CSsrEquipment.enabled_ne_nil hx.ssr)),
    CComNavEquipment.ofText_row hx.comNav, CSsrEquipment.ofText_row hx.ssr, hof, haircraft]

omit hu

/-- The text of the equipment is not empty and is read as the same flags. -/
def ComNavRestored (e : CComNavEquipment) : Prop :=
  ∃ t, e.convertToQString = .ok t ∧ t ≠ [] ∧ CComNavEquipment.ofText t = e

/-- The equipment comes back from its text. -/
def SsrRestored (e : CSsrEquipment) : Prop :=
  ∃ t, e.convertToQString = .ok t ∧ t ≠ [] ∧ CSsrEquipment.ofText t = e

theorem comNavRestored_of_hasFlags {e : CComNavEquipment} (h : e.HasFlags) : ComNavRestored e :=
  ⟨_, CComNavEquipment.convertToQString_of_hasFlags h,
    row_ne_nil CComNavEquipment.recognisable (CComNavEquipment.enabled_ne_nil h),
    CComNavEquipment.ofText_row h⟩

theorem ssrRestored_of_hasFlags {e : CSsrEquipment} (h : e.HasFlags) : SsrRestored e :=
  ⟨_, CSsrEquipment.convertToQString_of_hasFlags h,
    row_ne_nil CSsrEquipment.recognisable (CSsrEquipment.enabled_ne_nil h),
    CSsrEquipment.ofText_row h⟩

/-- The normal form: every text is read, and an info with a valid designator is read back from
    its text, where a category that is not known becomes `MEDIUM`. The equipment alone comes back
    for every set of flags. -/
theorem normal_form (u : UnicodeData) (hu : u.Standard) :
    (∀ s, ∃ x, parse u s = .ok x ∧
      (isValidDesignator u x.aircraftIcao.designator = .ok true →
        ∃ t, x.asIcaoString = .ok t ∧ parse u t =
          .ok { x with wtc := if x.wtc.isUnknown then ⟨.medium⟩ else x.wtc })) ∧
    (∀ equipment satcom, ComNavRestored (.ofFlags equipment satcom)) ∧
    (∀ e : CComNavEquipment, e.equipment ≠ ∅ ∨ e.cpdlcSatcomEquipment ≠ ∅ → ComNavRestored e) ∧
    (∀ equipment, SsrRestored (.ofFlags equipment)) ∧
    ∀ e : CSsrEquipment, e.equipment ≠ ∅ → SsrRestored e := by
  refine ⟨fun s => ?_, fun equipment satcom => ?_, fun e => comNavRestored_of_hasFlags,
    fun equipment => ?_, fun e => ssrRestored_of_hasFlags⟩
  · rcases parse_yields u s with ⟨x, hx, hwritable⟩
    exact ⟨x, hx, fun hvalid =>
      parse_asIcaoString hu hwritable (isValidDesignator_eq_ok_true_iff.mp hvalid)⟩
  · exact comNavRestored_of_hasFlags (CComNavEquipment.hasFlags_ofFlags equipment satcom)
  · exact ssrRestored_of_hasFlags (CSsrEquipment.hasFlags_ofFlags equipment)

theorem ascii_standard : UnicodeData.ascii.Standard where
  upper_ascii _ _ := rfl
  isUpper_ascii _ _ := rfl
  isDigit_ascii _ _ := rfl
  upper_of_isUpper _ h := congrArg ([·]) (toUpper_of_alphanum (.inl h))
  upper_of_isDigit _ h := congrArg ([·]) (toUpper_of_alphanum (.inr h))
  notSpace_of_isUpper _ h := notSpace_of_alphanum (.inl h)
  notSpace_of_isDigit _ h := notSpace_of_alphanum (.inr h)

/-- A text in lower case with a blank, whose category is not known. -/
theorem normal_form_b789 :
    ∃ x t, parse UnicodeData.ascii "b789/x-sj1 rw/lb1" = .ok x ∧ x.wtc.isUnknown = true ∧
      x.asIcaoString = .ok t ∧ parse UnicodeData.ascii t = .ok { x with wtc := ⟨.medium⟩ } := by
  have hread : ∃ x, parse UnicodeData.ascii "b789/x-sj1 rw/lb1" = .ok x ∧
      x.aircraftIcao.designator = "B789" ∧ x.wtc.isUnknown = true := by
    refine ⟨⟨.ofDesignator UnicodeData.ascii "B789", .ofText "SJ1RW",
      .ofText "LB1", ⟨.unknown⟩⟩, ?_, ?_, rfl⟩
    · decide +kernel
    · decide +kernel
  rcases hread with ⟨x, hx, hdesignator, hunknown⟩
  rcases (normal_form UnicodeData.ascii ascii_standard).1 "b789/x-sj1 rw/lb1" with
      ⟨y, hy, hback⟩
  rcases Except.ok.inj (hx.symm.trans hy) with rfl
  obtain ⟨t, ht, hparse⟩ := hback (by rw [hdesignator]; decide +kernel)
  rw [hunknown] at hparse
  exact ⟨x, t, hx, hunknown, ht, hparse⟩

end CFlightPlanAircraftInfo

end NeoSwift.Aviation
