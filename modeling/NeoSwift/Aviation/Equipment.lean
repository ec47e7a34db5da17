import NeoSwift.Qt.Codes

/-!
# Equipment of a Flight Plan

Fields 10a and 10b of a flight plan: the equipment for communication and navigation and that
for surveillance, sets of flags that are written as rows of codes of one or two characters. The
reader asks for each code in turn and removes it; where nothing was found in a text that is not
empty, the equipment is "none". Every object written has a flag, and its text is read as the
same flags.

## Main definitions

* `CComNavEquipment`: Equipment for communication and navigation.
* `CSsrEquipment`: Surveillance equipment.

## Theorems

* `CComNavEquipment.hasFlags_ofText`, `CSsrEquipment.hasFlags_ofText`: What is read has a flag.
* `CComNavEquipment.ofText_row`, `CSsrEquipment.ofText_row`: Written flags are read back.
-/

namespace NeoSwift.Aviation

open Codes

/-- What ends the program: an assertion that does not hold, or an index past the end. -/
inductive FlightPlanFault where
  | assertion | outOfRange
  deriving DecidableEq

/-- `CComNavEquipment::ComNavEquipmentOption`. -/
inductive ComNavEquipmentOption where
  | standard | gbas | lpv | loranC | dme | fmcAcars | dFisAcars | pdcAcars | adf | gnss | hfRtf
  | inertiaNavigation | mls | ils | noEquip | vor | pbn | tacan | uhfRtf | vhfRtf | rvsm | mnps
  | vhf833 | other
  deriving DecidableEq

/-- `CComNavEquipment::CpdlcSatcomEquipmentOption`. -/
inductive CpdlcSatcomEquipmentOption where
  | cpdlcAtn | cpdlcFansHfdl | cpdlcFansVdlA | cpdlcFansVdl2 | cpdlcFansSatcomInmarsat
  | cpdlcFansSatcomMtsat | cpdlcFansSatcomIridium | atcSatvoiceInmarsat | atcSatvoiceMtsat
  | atcSatvoiceIridium | cpdlcRcp400 | cpdlcRcp240 | satvoiceRcp400
  deriving DecidableEq

/-- An option of either enumeration of `CComNavEquipment`. -/
inductive EquipmentOption where
  | comNav (equip : ComNavEquipmentOption)
  | satcom (equip : CpdlcSatcomEquipmentOption)
  deriving DecidableEq

/-- `CSsrEquipment::SsrEquipmentOption`. -/
inductive SsrEquipmentOption where
  | none | modeA | modeAC | modeSTypeE | modeSTypeH | modeSTypeI | modeSTypeL | modeSTypeX
  | modeSTypeP | modeSTypeS | adsBB1 | adsBB2 | adsBU1 | adsBU2 | adsBV1 | adsBV2 | adsCD1
  | adsCG1
  deriving DecidableEq

def ComNavEquipmentOption.flagToString : ComNavEquipmentOption → QString
  | .standard => ['S']
  | .gbas => ['A']
  | .lpv => ['B']
  | .loranC => ['C']
  | .dme => ['D']
  | .fmcAcars => ['E', '1']
  | .dFisAcars => ['E', '2']
  | .pdcAcars => ['E', '3']
  | .adf => ['F']
  | .gnss => ['G']
  | .hfRtf => ['H']
  | .inertiaNavigation => ['I']
  | .mls => ['K']
  | .ils => ['L']
  | .noEquip => ['N']
  | .vor => ['O']
  | .pbn => ['R']
  | .tacan => ['T']
  | .uhfRtf => ['U']
  | .vhfRtf => ['V']
  | .rvsm => ['W']
  | .mnps => ['X']
  | .vhf833 => ['Y']
  | .other => ['Z']

def CpdlcSatcomEquipmentOption.flagToString : CpdlcSatcomEquipmentOption → QString
  | .cpdlcAtn => ['J', '1']
  | .cpdlcFansHfdl => ['J', '2']
  | .cpdlcFansVdlA => ['J', '3']
  | .cpdlcFansVdl2 => ['J', '4']
  | .cpdlcFansSatcomInmarsat => ['J', '5']
  | .cpdlcFansSatcomMtsat => ['J', '6']
  | .cpdlcFansSatcomIridium => ['J', '7']
  | .atcSatvoiceInmarsat => ['M', '1']
  | .atcSatvoiceMtsat => ['M', '2']
  | .atcSatvoiceIridium => ['M', '3']
  | .cpdlcRcp400 => ['P', '1']
  | .cpdlcRcp240 => ['P', '2']
  | .satvoiceRcp400 => ['P', '3']

def SsrEquipmentOption.flagToString : SsrEquipmentOption → QString
  | .none => ['N']
  | .modeA => ['A']
  | .modeAC => ['C']
  | .modeSTypeE => ['E']
  | .modeSTypeH => ['H']
  | .modeSTypeI => ['I']
  | .modeSTypeL => ['L']
  | .modeSTypeX => ['X']
  | .modeSTypeP => ['P']
  | .modeSTypeS => ['S']
  | .adsBB1 => ['B', '1']
  | .adsBB2 => ['B', '2']
  | .adsBU1 => ['U', '1']
  | .adsBU2 => ['U', '2']
  | .adsBV1 => ['V', '1']
  | .adsBV2 => ['V', '2']
  | .adsCD1 => ['D', '1']
  | .adsCG1 => ['G', '1']

/-- `CComNavEquipment`. -/
structure CComNavEquipment where
  equipment : Finset ComNavEquipmentOption := {.standard}
  cpdlcSatcomEquipment : Finset CpdlcSatcomEquipmentOption := ∅
  deriving DecidableEq

/-- `CSsrEquipment`. -/
structure CSsrEquipment where
  equipment : Finset SsrEquipmentOption := {.none}
  deriving DecidableEq

/-! ## Communication and Navigation -/

namespace CComNavEquipment

/-- The constructor from flags. -/
def ofFlags (comNavEquipment : Finset ComNavEquipmentOption)
    (cpdlcSatcomEquipment : Finset CpdlcSatcomEquipmentOption) : CComNavEquipment :=
  if comNavEquipment = ∅ then ⟨{.noEquip}, cpdlcSatcomEquipment⟩
  else ⟨comNavEquipment, cpdlcSatcomEquipment⟩

/-- The order in which the constructor from a text looks for equipment. -/
def equipmentOrder : List ComNavEquipmentOption :=
  [.standard, .gbas, .lpv, .loranC, .dme, .fmcAcars, .dFisAcars, .pdcAcars, .adf, .gnss, .hfRtf,
   .inertiaNavigation, .mls, .ils, .noEquip, .vor, .pbn, .tacan, .uhfRtf, .vhfRtf, .rvsm, .mnps,
   .vhf833, .other]

/-- The order in which it then looks for data link and satellite equipment. -/
def satcomOrder : List CpdlcSatcomEquipmentOption :=
  [.cpdlcAtn, .cpdlcFansHfdl, .cpdlcFansVdlA, .cpdlcFansVdl2, .cpdlcFansSatcomInmarsat,
   .cpdlcFansSatcomMtsat, .cpdlcFansSatcomIridium, .atcSatvoiceInmarsat, .atcSatvoiceMtsat,
   .atcSatvoiceIridium, .cpdlcRcp400, .cpdlcRcp240, .satvoiceRcp400]

/-- `append_equipment_flag_if_exist` for every flag. -/
def appendEquipment (equipment : QString) : QString × Finset ComNavEquipmentOption :=
  equipmentOrder.foldl (appendFlagIfExist ComNavEquipmentOption.flagToString) (equipment, ∅)

/-- `append_satcom_flag_if_exist` for every flag. -/
def appendSatcom (equipment : QString) : QString × Finset CpdlcSatcomEquipmentOption :=
  satcomOrder.foldl (appendFlagIfExist CpdlcSatcomEquipmentOption.flagToString) (equipment, ∅)

/-- The constructor from a text. -/
def ofText (equipment : QString) : CComNavEquipment :=
  if equipment.isEmpty then {}
  else
    let (equipment, flags) := appendEquipment equipment
    let (equipment, satcomFlags) := appendSatcom equipment
    if !equipment.isEmpty && flags = ∅ then ⟨{.noEquip}, ∅⟩ else ⟨flags, satcomFlags⟩

/-- The order in which the flags are written. -/
def printOrder : List EquipmentOption :=
  [.comNav .standard, .comNav .gbas, .comNav .lpv, .comNav .loranC, .comNav .dme,
   .comNav .fmcAcars, .comNav .dFisAcars, .comNav .pdcAcars, .comNav .adf, .comNav .gnss,
   .comNav .hfRtf, .comNav .inertiaNavigation, .satcom .cpdlcAtn, .satcom .cpdlcFansHfdl,
   .satcom .cpdlcFansVdlA, .satcom .cpdlcFansVdl2, .satcom .cpdlcFansSatcomInmarsat,
   .satcom .cpdlcFansSatcomMtsat, .satcom .cpdlcFansSatcomIridium, .comNav .mls, .comNav .ils,
   .satcom .atcSatvoiceInmarsat, .satcom .atcSatvoiceMtsat, .satcom .atcSatvoiceIridium,
   .comNav .noEquip, .comNav .vor, .satcom .cpdlcRcp400, .satcom .cpdlcRcp240,
   .satcom .satvoiceRcp400, .comNav .pbn, .comNav .tacan, .comNav .uhfRtf, .comNav .vhfRtf,
   .comNav .rvsm, .comNav .mnps, .comNav .vhf833, .comNav .other]

/-- Either `flagToString`. -/
def optionText : EquipmentOption → QString
  | .comNav equip => equip.flagToString
  | .satcom equip => equip.flagToString

variable (e : CComNavEquipment)

/-- Either `hasEquipment`. -/
def hasEquipment : EquipmentOption → Bool
  | .comNav equip => decide (equip ∈ e.equipment)
  | .satcom equip => decide (equip ∈ e.cpdlcSatcomEquipment)

def enabledOptions : QStringList := (printOrder.filter e.hasEquipment).map optionText

/-- Asserts that the text is not empty. -/
def convertToQString : Except FlightPlanFault QString :=
  let equipmentString := QString.join e.enabledOptions []
  if equipmentString.isEmpty then .error .assertion else .ok equipmentString

/-- Some flag is set. -/
def HasFlags : Prop := e.equipment ≠ ∅ ∨ e.cpdlcSatcomEquipment ≠ ∅

end CComNavEquipment

/-! ## Surveillance -/

namespace CSsrEquipment

/-- The constructor from flags. -/
def ofFlags (equipment : Finset SsrEquipmentOption) : CSsrEquipment :=
  if equipment = ∅ then ⟨{.none}⟩ else ⟨equipment⟩

/-- The order in which flags are looked for and written. -/
def order : List SsrEquipmentOption :=
  [.none, .modeA, .modeAC, .modeSTypeE, .modeSTypeH, .modeSTypeI, .modeSTypeL, .modeSTypeX,
   .modeSTypeP, .modeSTypeS, .adsBB1, .adsBB2, .adsBU1, .adsBU2, .adsBV1, .adsBV2, .adsCD1,
   .adsCG1]

/-- `append_equipment_flag_if_exist` for every flag. -/
def appendEquipment (equipment : QString) : QString × Finset SsrEquipmentOption :=
  order.foldl (appendFlagIfExist SsrEquipmentOption.flagToString) (equipment, ∅)

/-- The constructor from a text. -/
def ofText (equipment : QString) : CSsrEquipment :=
  if equipment.isEmpty then {}
  else
    let (equipment, flags) := appendEquipment equipment
    if !equipment.isEmpty && flags = ∅ then ⟨{.none}⟩ else ⟨flags⟩

variable (e : CSsrEquipment)

def hasEquipment (equip : SsrEquipmentOption) : Bool := decide (equip ∈ e.equipment)

def enabledOptions : QStringList :=
  (order.filter e.hasEquipment).map SsrEquipmentOption.flagToString

/-- Asserts that the text is not empty. -/
def convertToQString : Except FlightPlanFault QString :=
  let equipmentString := QString.join e.enabledOptions []
  if equipmentString.isEmpty then .error .assertion else .ok equipmentString

/-- Some flag is set. -/
def HasFlags : Prop := e.equipment ≠ ∅

end CSsrEquipment

/-! ## The codes -/

theorem notMem_tail_of_all {s t : QString}
    (h : (s.head?.all fun c => !t.tail.contains c) = true) : ∀ c ∈ s.head?, c ∉ t.tail := by
  intro c hc hmem
  rw [Option.mem_def.mp hc, Option.all_some, List.contains_iff_mem.mpr hmem] at h
  cases h

namespace CComNavEquipment

theorem mem_equipmentOrder (f : ComNavEquipmentOption) : f ∈ equipmentOrder := by
  cases f <;> decide

theorem mem_satcomOrder (f : CpdlcSatcomEquipmentOption) : f ∈ satcomOrder := by
  cases f <;> decide

theorem mem_printOrder (f : EquipmentOption) : f ∈ printOrder := by
  rcases f with f | f <;> cases f <;> decide

theorem recognisable : Recognisable optionText where
  ne_nil f := by
    have h : ∀ f ∈ printOrder, optionText f ≠ [] := by decide +kernel
    exact h f (mem_printOrder f)
  prefix_free f g := by
    have h : ∀ f ∈ printOrder, ∀ g ∈ printOrder, optionText f <+: optionText g → f = g := by
      decide +kernel
    exact h f (mem_printOrder f) g (mem_printOrder g)
  head_notMem_tail f g := by
    have h : ∀ f ∈ printOrder, ∀ g ∈ printOrder,
        ((optionText f).head?.all fun c => !(optionText g).tail.contains c) = true := by
      decide +kernel
    exact notMem_tail_of_all (h f (mem_printOrder f) g (mem_printOrder g))

/-- The flags set, in the order in which they are written. -/
def enabled (e : CComNavEquipment) : List EquipmentOption := printOrder.filter e.hasEquipment

variable {e : CComNavEquipment}

theorem mem_enabled {f : EquipmentOption} : f ∈ e.enabled ↔ e.hasEquipment f = true := by
  rw [enabled, List.mem_filter]
  exact and_iff_right (mem_printOrder f)

theorem enabled_ne_nil (h : e.HasFlags) : e.enabled ≠ [] := by
  rcases h with h | h
  · rcases Finset.nonempty_iff_ne_empty.mpr h with ⟨f, hf⟩
    exact List.ne_nil_of_mem (mem_enabled (f := .comNav f).mpr (decide_eq_true hf))
  · rcases Finset.nonempty_iff_ne_empty.mpr h with ⟨f, hf⟩
    exact List.ne_nil_of_mem (mem_enabled (f := .satcom f).mpr (decide_eq_true hf))

theorem convertToQString_of_hasFlags (h : e.HasFlags) :
    e.convertToQString = .ok (row optionText e.enabled) := by
  have hne := row_ne_nil recognisable (enabled_ne_nil h)
  have htext : QString.join e.enabledOptions [] = row optionText e.enabled :=
    join_map_nil optionText e.enabled
  rw [convertToQString, htext]
  exact if_neg (by rwa [List.isEmpty_iff])

/-- Codes are of upper case letters and digits. -/
theorem alphanum_of_mem_row {flags : List EquipmentOption} {c : Char}
    (hc : c ∈ row optionText flags) : c.isUpper = true ∨ c.isDigit = true := by
  have h : ∀ f ∈ printOrder, ((optionText f).all fun c => c.isUpper || c.isDigit) = true := by
    decide +kernel
  rcases List.mem_flatMap.mp hc with ⟨f, -, hcf⟩
  exact Bool.or_eq_true_iff.mp (List.all_eq_true.mp (h f (mem_printOrder f)) c hcf)

/-- What is left of a row when the equipment flags were looked for. -/
def satcomRest (e : CComNavEquipment) : List EquipmentOption :=
  e.enabled.filter (· ∉ equipmentOrder.map EquipmentOption.comNav)

theorem appendEquipment_row :
    appendEquipment (row optionText e.enabled) = (row optionText e.satcomRest, e.equipment) := by
  have htext : ∀ f, ComNavEquipmentOption.flagToString f = optionText (.comNav f) := fun _ => rfl
  rcases foldl_appendFlagIfExist recognisable
      (fun _ _ => EquipmentOption.comNav.inj) htext equipmentOrder e.enabled ∅ with ⟨hrest, hfound⟩
  unfold appendEquipment
  refine Prod.ext hrest (Finset.ext fun f => (hfound f).trans ?_)
  rw [mem_enabled]
  simp [mem_equipmentOrder, hasEquipment]

theorem appendSatcom_row :
    appendSatcom (row optionText e.satcomRest) = ([], e.cpdlcSatcomEquipment) := by
  have htext : ∀ f, CpdlcSatcomEquipmentOption.flagToString f = optionText (.satcom f) :=
    fun _ => rfl
  rcases foldl_appendFlagIfExist recognisable
      (fun _ _ => EquipmentOption.satcom.inj) htext satcomOrder e.satcomRest ∅ with ⟨hrest, hfound⟩
  unfold appendSatcom
  refine Prod.ext (hrest.trans ?_) (Finset.ext fun f => (hfound f).trans ?_)
  · -- Every flag is of one of the two kinds, and all of each kind have been looked for.
    have hnil : e.satcomRest.filter (· ∉ satcomOrder.map EquipmentOption.satcom) = [] := by
      rw [List.filter_eq_nil_iff]
      intro f hf
      cases f with
      | comNav f =>
          exact absurd (List.mem_map_of_mem (mem_equipmentOrder f))
            (of_decide_eq_true (List.mem_filter.mp hf).2)
      | satcom f =>
          exact fun hnot => of_decide_eq_true hnot (List.mem_map_of_mem (mem_satcomOrder f))
    rw [hnil]
    rfl
  · have hkept : EquipmentOption.satcom f ∉ equipmentOrder.map EquipmentOption.comNav := by
      rw [List.mem_map]
      rintro ⟨g, -, heq⟩
      cases heq
    rw [satcomRest, List.mem_filter, mem_enabled]
    simp [mem_satcomOrder, hasEquipment]

/-- The codes of an object are read as its flags. -/
theorem ofText_row (h : e.HasFlags) : ofText (row optionText e.enabled) = e := by
  have hne := row_ne_nil recognisable (enabled_ne_nil h)
  rw [ofText, if_neg (by rwa [List.isEmpty_iff]), appendEquipment_row]
  simp only [appendSatcom_row]
  rfl

theorem appendEquipment_of_empty {t rest : QString} (h : appendEquipment t = (rest, ∅)) :
    rest = t := by
  have hsame := foldl_appendFlagIfExist_eq_empty (congrArg Prod.snd h)
  exact congrArg Prod.fst (h.symm.trans hsame)

theorem appendSatcom_of_empty {t rest : QString} (h : appendSatcom t = (rest, ∅)) : rest = t := by
  have hsame := foldl_appendFlagIfExist_eq_empty (congrArg Prod.snd h)
  exact congrArg Prod.fst (h.symm.trans hsame)

/-- What is read has a flag: a text in which nothing was found is still there. -/
theorem hasFlags_ofText (t : QString) : (ofText t).HasFlags := by
  rw [ofText]
  by_cases hnil : t.isEmpty = true
  · rw [if_pos hnil]
    exact .inl (Finset.singleton_ne_empty _)
  · rw [if_neg hnil]
    rcases hequipment : appendEquipment t with ⟨rest, flags⟩
    rcases hsatcom : appendSatcom rest with ⟨rest', satcomFlags⟩
    simp only [hsatcom]
    split
    case isTrue => exact .inl (Finset.singleton_ne_empty _)
    case isFalse hfound =>
      by_cases hflags : flags = ∅
      · subst hflags
        refine .inr fun hnone => hfound ?_
        rw [show satcomFlags = ∅ from hnone] at hsatcom
        rw [appendSatcom_of_empty hsatcom, appendEquipment_of_empty hequipment]
        simpa using hnil
      · exact .inl hflags

theorem hasFlags_ofFlags (equipment : Finset ComNavEquipmentOption)
    (satcom : Finset CpdlcSatcomEquipmentOption) : (ofFlags equipment satcom).HasFlags := by
  rw [ofFlags]
  split
  case isTrue => exact .inl (Finset.singleton_ne_empty _)
  case isFalse h => exact .inl h

end CComNavEquipment

namespace CSsrEquipment

theorem mem_order (f : SsrEquipmentOption) : f ∈ order := by
  cases f <;> decide

theorem recognisable : Recognisable SsrEquipmentOption.flagToString where
  ne_nil f := by
    have h : ∀ f ∈ order, f.flagToString ≠ [] := by decide +kernel
    exact h f (mem_order f)
  prefix_free f g := by
    have h : ∀ f ∈ order, ∀ g ∈ order, f.flagToString <+: g.flagToString → f = g := by
      decide +kernel
    exact h f (mem_order f) g (mem_order g)
  head_notMem_tail f g := by
    have h : ∀ f ∈ order, ∀ g ∈ order,
        (f.flagToString.head?.all fun c => !g.flagToString.tail.contains c) = true := by
      decide +kernel
    exact notMem_tail_of_all (h f (mem_order f) g (mem_order g))

/-- The flags set, in the order in which they are written. -/
def enabled (e : CSsrEquipment) : List SsrEquipmentOption := order.filter e.hasEquipment

variable {e : CSsrEquipment}

theorem mem_enabled {f : SsrEquipmentOption} : f ∈ e.enabled ↔ f ∈ e.equipment := by
  rw [enabled, List.mem_filter, hasEquipment, decide_eq_true_iff]
  exact and_iff_right (mem_order f)

theorem enabled_ne_nil (h : e.HasFlags) : e.enabled ≠ [] := by
  rcases Finset.nonempty_iff_ne_empty.mpr h with ⟨f, hf⟩
  exact List.ne_nil_of_mem (mem_enabled.mpr hf)

theorem convertToQString_of_hasFlags (h : e.HasFlags) :
    e.convertToQString = .ok (row SsrEquipmentOption.flagToString e.enabled) := by
  have hne := row_ne_nil recognisable (enabled_ne_nil h)
  have htext : QString.join e.enabledOptions [] = row SsrEquipmentOption.flagToString e.enabled :=
    join_map_nil SsrEquipmentOption.flagToString e.enabled
  rw [convertToQString, htext]
  exact if_neg (by rwa [List.isEmpty_iff])

/-- Codes are of upper case letters and digits. -/
theorem alphanum_of_mem_row {flags : List SsrEquipmentOption} {c : Char}
    (hc : c ∈ row SsrEquipmentOption.flagToString flags) : c.isUpper = true ∨ c.isDigit = true := by
  have h : ∀ f ∈ order, (f.flagToString.all fun c => c.isUpper || c.isDigit) = true := by
    decide +kernel
  rcases List.mem_flatMap.mp hc with ⟨f, -, hcf⟩
  exact Bool.or_eq_true_iff.mp (List.all_eq_true.mp (h f (mem_order f)) c hcf)

theorem appendEquipment_row :
    appendEquipment (row SsrEquipmentOption.flagToString e.enabled) = ([], e.equipment) := by
  have htext : ∀ f, SsrEquipmentOption.flagToString f = SsrEquipmentOption.flagToString (id f) :=
    fun _ => rfl
  rcases foldl_appendFlagIfExist recognisable Function.injective_id htext order e.enabled ∅ with
      ⟨hrest, hfound⟩
  unfold appendEquipment
  refine Prod.ext (hrest.trans ?_) (Finset.ext fun f => (hfound f).trans ?_)
  · have hnil : e.enabled.filter (· ∉ order.map id) = [] := by
      rw [List.filter_eq_nil_iff]
      exact fun f _ hnot => of_decide_eq_true hnot (mem_order f)
    rw [hnil]
    rfl
  · rw [mem_enabled]
    simp [mem_order]

/-- The codes of an object are read as its flags. -/
theorem ofText_row (h : e.HasFlags) :
    ofText (row SsrEquipmentOption.flagToString e.enabled) = e := by
  have hne := row_ne_nil recognisable (enabled_ne_nil h)
  rw [ofText, if_neg (by rwa [List.isEmpty_iff]), appendEquipment_row]
  rfl

theorem appendEquipment_of_empty {t rest : QString} (h : appendEquipment t = (rest, ∅)) :
    rest = t := by
  have hsame := foldl_appendFlagIfExist_eq_empty (congrArg Prod.snd h)
  exact congrArg Prod.fst (h.symm.trans hsame)

theorem hasFlags_ofText (t : QString) : (ofText t).HasFlags := by
  rw [ofText]
  by_cases hnil : t.isEmpty = true
  · rw [if_pos hnil]
    exact Finset.singleton_ne_empty _
  · rw [if_neg hnil]
    rcases hequipment : appendEquipment t with ⟨rest, flags⟩
    dsimp only
    split
    case isTrue => exact Finset.singleton_ne_empty _
    case isFalse hfound =>
      rintro (rfl : flags = ∅)
      refine hfound ?_
      rw [appendEquipment_of_empty hequipment]
      simpa using hnil

theorem hasFlags_ofFlags (equipment : Finset SsrEquipmentOption) :
    (ofFlags equipment).HasFlags := by
  rw [ofFlags]
  split
  case isTrue => exact Finset.singleton_ne_empty _
  case isFalse h => exact h

end CSsrEquipment

end NeoSwift.Aviation
