import NeoSwift.Misc.Simulation.FsCommon.IniLine
import NeoSwift.Misc.Simulation.AircraftModel

/-!
# Entries of an aircraft.cfg

`CAircraftCfgEntries` and the lines of `CAircraftCfgParser::performParsingOfSingleFile` that are
read into it. A key is what a line begins with, in any case. Keys are prefixes of one another, so
that the order in which they are looked for matters.

What the lines of a section leave in an entry is stated without the loop: each field is the
content of the last line with its key.

## Main definitions

* `CAircraftCfgEntries`: An entry with its setters.
* `CfgKey`, `cfgKey`: The keys of a FLTSIM section.
* `CAircraftCfgEntries.parseLine`: A line of such a section.
* `CAircraftCfgEntries.ofLines`: What the lines of a section say.
* `AtcTypes.parseLine`: A line of a GENERAL section.

## Theorems

* `foldl_parseLine`: The loop over the lines of a FLTSIM section.
* `atcType_of_line`, `atcModel_of_line`: A GENERAL section in which the key is given once.
-/

namespace NeoSwift.Misc

namespace FsCommon

open QString Aviation

/-- `CAircraftCfgEntries`. -/
structure CAircraftCfgEntries where
  index : ℕ
  fileName : QString
  title : QString := []
  atcType : QString := []
  atcModel : QString := []
  atcAirline : QString := []
  atcParkingCode : QString := []
  atcIdColor : QString := []
  description : QString := []
  uiType : QString := []
  uiManufacturer : QString := []
  uiVariation : QString := []
  texture : QString := []
  simName : QString := []
  createdBy : QString := []
  rotorcraft : Bool := false
  timestampMSecsSinceEpoch : ℤ := -1
  deriving DecidableEq

/-- Keys that a FLTSIM section may have. -/
inductive CfgKey
  | atcParkingCodes
  | atcAirline
  | atcIdColor
  | uiManufacturer
  | uiTyperole
  | uiType
  | uiVariation
  | description
  | texture
  | createdBy
  | sim
  | title
  deriving DecidableEq

variable (u : UnicodeData)

/-- `startsWith` with `Qt::CaseInsensitive`. -/
def startsWithCaseless (line part : QString) : Bool :=
  (part.map u.foldCase).isPrefixOf (line.map u.foldCase)

/-- `startsWith("//")`. -/
def isRemark (line : QString) : Bool := line.startsWith "//"

/-- The key of a line, none for a remark. -/
def cfgKey (line : QString) : Option CfgKey :=
  let starts (key : String) : Bool := startsWithCaseless u line key.toList
  if isRemark line then none
  else if starts "atc_" then
    if starts "atc_parking_codes" then some .atcParkingCodes
    else if starts "atc_airline" then some .atcAirline
    else if starts "atc_id_color" then some .atcIdColor
    else none
  else if starts "ui_" then
    if starts "ui_manufacturer" then some .uiManufacturer
    else if starts "ui_typerole" then some .uiTyperole
    else if starts "ui_type" then some .uiType
    else if starts "ui_variation" then some .uiVariation
    else none
  else if starts "description" then some .description
  else if starts "texture" then some .texture
  else if starts "createdBy" then some .createdBy
  else if starts "sim" then some .sim
  else if starts "title" then some .title
  else none

/-- A role with "rotor". -/
def isRotorRole (content : QString) : Bool := contains (u.toLower content) "rotor"

namespace CAircraftCfgEntries

variable (e : CAircraftCfgEntries)

/-- The setters trim their texts. -/
def setTitle (title : QString) : CAircraftCfgEntries := { e with title := title.trimmed }

def setAtcModel (atcModel : QString) : CAircraftCfgEntries :=
  { e with atcModel := atcModel.trimmed }

def setAtcType (atcType : QString) : CAircraftCfgEntries := { e with atcType := atcType.trimmed }

def setAtcParkingCode (parkingCode : QString) : CAircraftCfgEntries :=
  { e with atcParkingCode := parkingCode.trimmed }

def setAtcAirline (airline : QString) : CAircraftCfgEntries :=
  { e with atcAirline := airline.trimmed }

def setAtcIdColor (color : QString) : CAircraftCfgEntries := { e with atcIdColor := color.trimmed }

def setSimName (simName : QString) : CAircraftCfgEntries := { e with simName := simName.trimmed }

def setDescription (description : QString) : CAircraftCfgEntries :=
  { e with description := description.trimmed }

def setCreatedBy (createdBy : QString) : CAircraftCfgEntries :=
  { e with createdBy := createdBy.trimmed }

def setTexture (texture : QString) : CAircraftCfgEntries := { e with texture := texture.trimmed }

def setUiType (type : QString) : CAircraftCfgEntries := { e with uiType := type.trimmed }

def setUiVariation (variation : QString) : CAircraftCfgEntries :=
  { e with uiVariation := variation.trimmed }

def setUiManufacturer (manufacturer : QString) : CAircraftCfgEntries :=
  { e with uiManufacturer := manufacturer.trimmed }

def setRotorcraft (isRotorcraft : Bool) : CAircraftCfgEntries :=
    { e with rotorcraft := isRotorcraft }

/-- The setter of a key. -/
def setContent (c : QString) : CfgKey → CAircraftCfgEntries
  | .atcParkingCodes => e.setAtcParkingCode c
  | .atcAirline => e.setAtcAirline c
  | .atcIdColor => e.setAtcIdColor c
  | .uiManufacturer => e.setUiManufacturer c
  | .uiTyperole => e.setRotorcraft (isRotorRole u c)
  | .uiType => e.setUiType c
  | .uiVariation => e.setUiVariation c
  | .description => e.setDescription c
  | .texture => e.setTexture c
  | .createdBy => e.setCreatedBy c
  | .sim => e.setSimName c
  | .title => e.setTitle c

/-- A line of a FLTSIM section. -/
def parseLine (line : QString) : CAircraftCfgEntries :=
  match cfgKey u line with
  | none => e
  | some key => e.setContent u (getFixedIniLineContent line) key

end CAircraftCfgEntries

/-! ## What the lines say -/

/-- The content of the last line with a key. -/
def lastContent (key : CfgKey) (lines : List QString) : Option QString :=
  (lines.filter fun line => cfgKey u line = some key).getLast?.map getFixedIniLineContent

/-- Without a line for it a text is empty. -/
def lastText (key : CfgKey) (lines : List QString) : QString :=
  (lastContent u key lines).elim [] trimmed

/-- The entry of a section. -/
def CAircraftCfgEntries.ofLines (fileName : QString) (index : ℕ) (isRotorcraftPath : Bool)
    (lines : List QString) : CAircraftCfgEntries where
  index := index
  fileName := fileName
  title := lastText u .title lines
  atcAirline := lastText u .atcAirline lines
  atcParkingCode := lastText u .atcParkingCodes lines
  atcIdColor := lastText u .atcIdColor lines
  description := lastText u .description lines
  uiType := lastText u .uiType lines
  uiManufacturer := lastText u .uiManufacturer lines
  uiVariation := lastText u .uiVariation lines
  texture := lastText u .texture lines
  simName := lastText u .sim lines
  createdBy := lastText u .createdBy lines
  rotorcraft := (lastContent u .uiTyperole lines).elim isRotorcraftPath (isRotorRole u)

variable {u}

theorem lastContent_concat (key : CfgKey) (lines : List QString) (line : QString) :
    lastContent u key (lines ++ [line]) =
      if cfgKey u line = some key then some (getFixedIniLineContent line)
      else lastContent u key lines := by
  unfold lastContent
  rw [List.filter_append, List.filter_cons, List.filter_nil]
  by_cases h : cfgKey u line = some key
  · rw [if_pos h, if_pos (decide_eq_true h), List.getLast?_concat]
    rfl
  · rw [if_neg h, if_neg (mt of_decide_eq_true h), List.append_nil]

theorem lastText_concat (key : CfgKey) (lines : List QString) (line : QString) :
    lastText u key (lines ++ [line]) =
      if cfgKey u line = some key then trimmed (getFixedIniLineContent line)
      else lastText u key lines := by
  unfold lastText
  rw [lastContent_concat]
  by_cases h : cfgKey u line = some key
  · rw [if_pos h, if_pos h]
    rfl
  · rw [if_neg h, if_neg h]

/-- One more line is one setter. -/
theorem ofLines_concat (fileName : QString) (index : ℕ) (isRotorcraftPath : Bool)
    (lines : List QString) (line : QString) :
    CAircraftCfgEntries.ofLines u fileName index isRotorcraftPath (lines ++ [line]) =
      (CAircraftCfgEntries.ofLines u fileName index isRotorcraftPath lines).parseLine u line := by
  unfold CAircraftCfgEntries.ofLines CAircraftCfgEntries.parseLine
  simp only [lastText_concat, lastContent_concat]
  cases h : cfgKey u line with
  | none => rfl
  | some key => cases key <;> rfl

/-- What the loop over the lines of a section leaves. -/
theorem foldl_parseLine (fileName : QString) (index : ℕ) (isRotorcraftPath : Bool)
    (lines : List QString) :
    lines.foldl (CAircraftCfgEntries.parseLine u)
        { index := index, fileName := fileName, rotorcraft := isRotorcraftPath } =
      CAircraftCfgEntries.ofLines u fileName index isRotorcraftPath lines := by
  induction lines using List.reverseRecOn with
  | nil => rfl
  | append_singleton lines line ih =>
    rw [List.foldl_append, ih, ofLines_concat]
    rfl

/-! ## The GENERAL section -/

/-- `atcType` and `atcModel`, the latter from the designator. -/
structure AtcTypes where
  atcType : QString := []
  atcModel : QString := []
  deriving DecidableEq

variable (u)

/-- A line with the type. -/
def isAtcTypeLine (line : QString) : Bool :=
  !isRemark line && startsWithCaseless u line "atc_type"

/-- A line with the designator. -/
def isDesignatorLine (line : QString) : Bool :=
  !isRemark line && !startsWithCaseless u line "atc_type" &&
    startsWithCaseless u line "icao_type_designator"

/-- A line of a GENERAL section. Nothing is read once both are there. -/
def AtcTypes.parseLine (t : AtcTypes) (line : QString) : AtcTypes :=
  if isRemark line then t
  else if t.atcType.isEmpty || t.atcModel.isEmpty then
    let c := getFixedIniLineContent line
    if startsWithCaseless u line "atc_type" then { t with atcType := c }
    else if startsWithCaseless u line "icao_type_designator" then { t with atcModel := c }
    else t
  else t

variable {u}

/-- The type is only read from a line with it, and always if there is none yet. -/
theorem atcType_parseLine (t : AtcTypes) (line : QString) :
    (isAtcTypeLine u line = false → (t.parseLine u line).atcType = t.atcType) ∧
      (isAtcTypeLine u line = true → t.atcType = [] →
        (t.parseLine u line).atcType = getFixedIniLineContent line) := by
  unfold isAtcTypeLine AtcTypes.parseLine
  cases hremark : isRemark line with
  | true => exact ⟨fun _ => rfl, fun h => absurd h Bool.false_ne_true⟩
  | false =>
    cases htype : startsWithCaseless u line "atc_type" with
    | true =>
      refine ⟨fun h => absurd h.symm Bool.false_ne_true, fun _ hempty => ?_⟩
      rw [hempty]
      rfl
    | false =>
      refine ⟨fun _ => ?_, fun h => absurd h Bool.false_ne_true⟩
      simp only [Bool.false_eq_true]
      split_ifs <;> rfl

/-- As `atcType_parseLine`, for the designator. -/
theorem atcModel_parseLine (t : AtcTypes) (line : QString) :
    (isDesignatorLine u line = false → (t.parseLine u line).atcModel = t.atcModel) ∧
      (isDesignatorLine u line = true → t.atcModel = [] →
        (t.parseLine u line).atcModel = getFixedIniLineContent line) := by
  unfold isDesignatorLine AtcTypes.parseLine
  cases hremark : isRemark line with
  | true => exact ⟨fun _ => rfl, fun h => absurd h Bool.false_ne_true⟩
  | false =>
    -- The type is asked for first.
    cases htype : startsWithCaseless u line "atc_type" with
    | true =>
      refine ⟨fun _ => ?_, fun h => absurd h Bool.false_ne_true⟩
      simp only [Bool.false_eq_true]
      split_ifs <;> rfl
    | false =>
      cases hdesignator : startsWithCaseless u line "icao_type_designator" with
      | true =>
        refine ⟨fun h => absurd h.symm Bool.false_ne_true, fun _ hempty => ?_⟩
        rw [hempty, List.isEmpty_nil, Bool.or_true]
        rfl
      | false =>
        refine ⟨fun _ => ?_, fun h => absurd h Bool.false_ne_true⟩
        split_ifs <;> rfl

/-- A value that one kind of lines sets while it is empty, in a text with one such line. -/
theorem value_of_line {value : AtcTypes → QString} {isLine : QString → Bool}
    (hstep : ∀ t line, (isLine line = false → value (AtcTypes.parseLine u t line) = value t) ∧
      (isLine line = true → value t = [] →
        value (AtcTypes.parseLine u t line) = getFixedIniLineContent line))
    {lines : List QString} {line : QString} (hunique : lines.filter isLine = [line])
    (t : AtcTypes) (hempty : value t = []) :
    value (lines.foldl (AtcTypes.parseLine u) t) = getFixedIniLineContent line := by
  -- Lines of other kinds leave the value alone, behind the line and in front of it.
  have hkept : ∀ (lines : List QString) (t : AtcTypes), lines.filter isLine = [] →
      value (lines.foldl (AtcTypes.parseLine u) t) = value t := by
    intro lines
    induction lines with
    | nil => exact fun _ _ => rfl
    | cons line lines ih =>
      intro t hnone
      rw [List.filter_cons] at hnone
      cases hline : isLine line with
      | true =>
        rw [hline] at hnone
        cases hnone
      | false =>
        rw [hline] at hnone
        rw [List.foldl_cons, ih _ hnone, (hstep t line).1 hline]
  induction lines generalizing t with
  | nil => exact absurd hunique (List.cons_ne_nil _ _).symm
  | cons first lines ih =>
    rw [List.filter_cons] at hunique
    cases hfirst : isLine first with
    | true =>
      rw [hfirst, if_pos rfl, List.cons.injEq] at hunique
      rw [List.foldl_cons, hkept _ _ hunique.2, (hstep t first).2 hfirst hempty, hunique.1]
    | false =>
      rw [hfirst] at hunique
      exact ih hunique _ (((hstep t first).1 hfirst).trans hempty)

theorem atcType_of_line {lines : List QString} {line : QString}
    (hunique : lines.filter (isAtcTypeLine u) = [line]) :
    (lines.foldl (AtcTypes.parseLine u) {}).atcType = getFixedIniLineContent line :=
  value_of_line atcType_parseLine hunique {} rfl

theorem atcModel_of_line {lines : List QString} {line : QString}
    (hunique : lines.filter (isDesignatorLine u) = [line]) :
    (lines.foldl (AtcTypes.parseLine u) {}).atcModel = getFixedIniLineContent line :=
  value_of_line atcModel_parseLine hunique {} rfl

end FsCommon

end NeoSwift.Misc
