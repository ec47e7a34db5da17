import NeoSwift.Misc.Simulation.FsCommon.AircraftCfgEntries
import NeoSwift.Lib.Sections
import Mathlib.Data.List.ModifyLast

/-!
# Parsing an aircraft.cfg

`CAircraftCfgParser::performParsingOfSingleFile`: a loop over the lines with a current section.
The next FLTSIM section is looked for by its number, and the type and the designator are
completed after all lines. That the file has a valid timestamp is asserted there; without one the
entries have none here.

The loop is compared with the sections of the text. What is in a section depends on its own
lines only, and the number of a FLTSIM section is the count of those in front of it.

## Main definitions

* `ParserState.parseLine`: One line.
* `performParsingOfSingleFile`: A file.
* `fileSections`, `fltsimSections`, `generalLines`: The sections of a text.
* `Numbered`: FLTSIM sections numbered in their order.

## Theorems

* `reads_section`: What a section adds to the state of the loop.
* `reads_sections`: What all of them add.
* `parses_sections`: The entries of a file.
-/

namespace NeoSwift.Misc

namespace FsCommon

open QString Aviation Sections

/-- Which part of the file a line is in. -/
inductive FileSection
  | general
  | fltsim
  | unknown
  deriving DecidableEq

/-- `[FLTSIM.%1]`. -/
def fltSectionStr (fltsimCounter : ℕ) : QString :=
  "[FLTSIM." ++ number fltsimCounter ++ [']']

/-- The variables of the loop. -/
structure ParserState extends AtcTypes where
  tempEntries : List CAircraftCfgEntries := []
  fltSection : QString := fltSectionStr 0
  fltsimCounter : ℕ := 0
  currentSection : FileSection := .unknown
  deriving DecidableEq

/-- A file that can be opened. Times are `none` if they are not valid. -/
structure CfgFile where
  text : QString
  lastModified : Option ℤ
  birthTime : Option ℤ

/-- `CStatusMessage`, the text with its arguments. -/
inductive ParserMessage
  | warning (text : QString) (args : QStringList)
  | info (text : QString) (args : QStringList)
  deriving DecidableEq

def unableToReadFile (fnFixed : QString) : ParserMessage :=
  .warning "Unable to read file '%1'" [fnFixed]

def hasNoTitle (fileName : QString) (index : ℕ) : ParserMessage :=
  .info "FS model in %1, index %2 has no title" [fileName, number index]

/-- `startsWith("[")`. -/
def isHeader (line : QString) : Bool := line.startsWith ['[']

variable (u : UnicodeData) (fileName : QString)

def isRotorcraftPath : Bool :=
  contains (fileName.map u.foldCase) ("rotorcraft".toList.map u.foldCase)

namespace ParserState

variable (st : ParserState)

/-- A line in brackets. -/
def parseHeader (lineFixed : QString) : ParserState :=
  if startsWithCaseless u lineFixed "[GENERAL]" then { st with currentSection := .general }
  else if startsWithCaseless u lineFixed st.fltSection then
    { st with
      tempEntries := st.tempEntries ++ [{
        index := st.fltsimCounter
        fileName := fileName
        rotorcraft := isRotorcraftPath u fileName }]
      currentSection := .fltsim
      fltsimCounter := st.fltsimCounter + 1
      fltSection := fltSectionStr (st.fltsimCounter + 1) }
  else { st with currentSection := .unknown }

/-- Another line. The last entry is the one of the current section. -/
def parseContent (lineFixed : QString) : ParserState :=
  match st.currentSection with
  | .general => { st with toAtcTypes := st.toAtcTypes.parseLine u lineFixed }
  | .fltsim =>
    { st with tempEntries := st.tempEntries.modifyLast fun e => e.parseLine u lineFixed }
  | .unknown => st

/-- A line that is not empty. -/
def parseLineFixed (lineFixed : QString) : ParserState :=
  if isHeader lineFixed then st.parseHeader u fileName lineFixed
  else st.parseContent u lineFixed

/-- A line, unless it is empty. -/
def parseLine (line : QString) : ParserState :=
  let lineFixed := line.trimmed
  if lineFixed.isEmpty then st else st.parseLineFixed u fileName lineFixed

end ParserState

/-- `CFileUtils::fixWindowsUncPath`. -/
def fixWindowsUncPath (win : Bool) (filePath : QString) : QString :=
  if !win then filePath
  else if !filePath.startsWith ['/'] then filePath
  else if filePath.startsWith "//" then filePath
  else '/' :: filePath

/-- A time that is not valid is before all others. -/
def CfgFile.fileTimestamp (file : CfgFile) : Option ℤ :=
  match file.lastModified, file.birthTime with
  | none, birth => birth
  | some modified, none => some modified
  | some modified, some birth => if birth > modified then some birth else some modified

/-- `setAtcModel`, `setAtcType` and `setUtcTimestamp`. -/
def CAircraftCfgEntries.complete (t : AtcTypes) (fileTimestamp : Option ℤ)
    (e : CAircraftCfgEntries) : CAircraftCfgEntries :=
  { (e.setAtcModel t.atcModel).setAtcType t.atcType with
    timestampMSecsSinceEpoch := fileTimestamp.getD (-1) }

/-- The entries, `ok` and the messages. -/
def performParsingOfSingleFile (win : Bool) (files : QString → Option CfgFile) :
    List CAircraftCfgEntries × Bool × List ParserMessage :=
  let fnFixed := fixWindowsUncPath win fileName
  match files fnFixed with
  | none => ([], false, [unableToReadFile fnFixed])
  | some file =>
    let st := (file.text.split '\n').foldl (ParserState.parseLine u fileName) {}
    let result := (st.tempEntries.filter fun e => !e.title.isEmpty).map
      (CAircraftCfgEntries.complete st.toAtcTypes file.fileTimestamp)
    let msgs := (st.tempEntries.filter fun e => e.title.isEmpty).map
      fun e => hasNoTitle fileName e.index
    (result, true, msgs)

/-! ## Sections -/

abbrev CfgSection := QString × List QString

/-- Lines with something on them. -/
def fixedLines (text : QString) : List QString :=
  ((text.split '\n').map trimmed).filter fun line => !line.isEmpty

/-- The sections of a file with their lines. -/
def fileSections (text : QString) : List CfgSection := sections isHeader (fixedLines text)

def isGeneralSection (s : CfgSection) : Bool := startsWithCaseless u s.1 "[GENERAL]"

def isFltsimSection (s : CfgSection) : Bool :=
  !isGeneralSection u s && startsWithCaseless u s.1 "[FLTSIM."

def fltsimSections (ss : List CfgSection) : List CfgSection := ss.filter (isFltsimSection u)

/-- The lines of the GENERAL section. -/
def generalLines (ss : List CfgSection) : List QString :=
  (ss.filter (isGeneralSection u)).flatMap Prod.snd

/-- FLTSIM sections numbered from `k` on. -/
def NumberedFrom (k : ℕ) (ss : List CfgSection) : Prop :=
  ∀ s ∈ (fltsimSections u ss).zipIdx k, startsWithCaseless u s.1.1 (fltSectionStr s.2) = true

/-- FLTSIM sections numbered in their order. -/
def Numbered (text : QString) : Prop := NumberedFrom u 0 (fileSections text)

/-- The entries of the FLTSIM sections, those without a title as well. -/
def entriesFrom (k : ℕ) (ss : List CfgSection) : List CAircraftCfgEntries :=
  ((fltsimSections u ss).zipIdx k).map fun s =>
    CAircraftCfgEntries.ofLines u fileName s.2 (isRotorcraftPath u fileName) s.1.2

variable {u fileName}

theorem fltsimSections_cons (s : CfgSection) (ss : List CfgSection) :
    fltsimSections u (s :: ss) = fltsimSections u [s] ++ fltsimSections u ss := by
  rw [fltsimSections, ← List.singleton_append, List.filter_append]
  rfl

theorem generalLines_cons (s : CfgSection) (ss : List CfgSection) :
    generalLines u (s :: ss) = generalLines u [s] ++ generalLines u ss := by
  rw [generalLines, ← List.singleton_append, List.filter_append, List.flatMap_append]
  rfl

theorem entriesFrom_cons (k : ℕ) (s : CfgSection) (ss : List CfgSection) :
    entriesFrom u fileName k (s :: ss) = entriesFrom u fileName k [s] ++
        entriesFrom u fileName (k + (fltsimSections u [s]).length) ss := by
  unfold entriesFrom
  rw [fltsimSections_cons, List.zipIdx_append, List.map_append]

theorem numberedFrom_cons {k : ℕ} {s : CfgSection} {ss : List CfgSection}
    (h : NumberedFrom u k (s :: ss)) :
    NumberedFrom u k [s] ∧ NumberedFrom u (k + (fltsimSections u [s]).length) ss := by
  unfold NumberedFrom at h ⊢
  rw [fltsimSections_cons, List.zipIdx_append] at h
  exact List.forall_mem_append.mp h

/-- The name of a numbered section is that of a FLTSIM section. -/
theorem fltsim_of_fltSectionStr {line : QString} {k : ℕ}
    (h : startsWithCaseless u line (fltSectionStr k) = true) :
    startsWithCaseless u line "[FLTSIM." = true := by
  unfold startsWithCaseless fltSectionStr at *
  rw [List.isPrefixOf_iff_prefix] at *
  refine List.IsPrefix.trans ?_ h
  exact List.prefix_append _ _

/-! ## The loop -/

namespace ParserState

variable {st : ParserState} {lines : List QString}

/-- Empty lines do not matter. -/
theorem foldl_parseLine_fixed (lines : List QString) (st : ParserState) :
    lines.foldl (parseLine u fileName) st =
      ((lines.map trimmed).filter fun line => !line.isEmpty).foldl (parseLineFixed u fileName)
        st := by
  induction lines generalizing st with
  | nil => rfl
  | cons line lines ih =>
    rw [List.map_cons, List.filter_cons, List.foldl_cons, ih, parseLine]
    cases h : (trimmed line).isEmpty with
    | true => rfl
    | false => rfl

theorem parseLineFixed_header {line : QString} (hheader : isHeader line = true) :
    st.parseLineFixed u fileName line = st.parseHeader u fileName line := by
  rw [parseLineFixed, hheader, if_pos rfl]

theorem parseLineFixed_body {line : QString} (hbody : isHeader line = false) :
    st.parseLineFixed u fileName line = st.parseContent u line := by
  rw [parseLineFixed, hbody, if_neg Bool.false_ne_true]

/-- Lines outside of the sections that are read. -/
theorem foldl_unknown (hbody : ∀ line ∈ lines, isHeader line = false)
    (h : st.currentSection = .unknown) : lines.foldl (parseLineFixed u fileName) st = st := by
  induction lines with
  | nil => rfl
  | cons line lines ih =>
    rw [List.forall_mem_cons] at hbody
    have hline : st.parseContent u line = st := by
      simp [parseContent, h]
    rw [List.foldl_cons, parseLineFixed_body hbody.1, hline]
    exact ih hbody.2

/-- Lines of a GENERAL section. -/
theorem foldl_general (hbody : ∀ line ∈ lines, isHeader line = false)
    (h : st.currentSection = .general) :
    lines.foldl (parseLineFixed u fileName) st =
      { st with toAtcTypes := lines.foldl (AtcTypes.parseLine u) st.toAtcTypes } := by
  induction lines generalizing st with
  | nil => rfl
  | cons line lines ih =>
    rw [List.forall_mem_cons] at hbody
    have hline : st.parseContent u line =
        { st with toAtcTypes := st.toAtcTypes.parseLine u line } := by
      simp [parseContent, h]
    rw [List.foldl_cons, parseLineFixed_body hbody.1, hline]
    exact ih hbody.2 h

/-- Lines of a FLTSIM section, which only change the last entry. -/
theorem foldl_fltsim {es : List CAircraftCfgEntries} {e : CAircraftCfgEntries}
    (hbody : ∀ line ∈ lines, isHeader line = false) (h : st.currentSection = .fltsim)
    (hentries : st.tempEntries = es ++ [e]) :
    lines.foldl (parseLineFixed u fileName) st =
      { st with tempEntries := es ++ [lines.foldl (CAircraftCfgEntries.parseLine u) e] } := by
  induction lines generalizing st e with
  | nil =>
    rw [List.foldl_nil, List.foldl_nil, ← hentries]
  | cons line lines ih =>
    rw [List.forall_mem_cons] at hbody
    have hline : st.parseContent u line =
      { st with tempEntries := es ++ [e.parseLine u line] } := by
      simp [parseContent, h, hentries, List.modifyLast_concat]
    rw [List.foldl_cons, parseLineFixed_body hbody.1, hline]
    exact ih hbody.2 h rfl

/-- The loop over the lines of a section. -/
def readSection (u : UnicodeData) (fileName : QString) (st : ParserState) (s : CfgSection) :
    ParserState :=
  s.2.foldl (parseLineFixed u fileName) (st.parseLineFixed u fileName s.1)

end ParserState

/-- What reading sections adds to the state, the next FLTSIM section being that with number
    `k` before. -/
structure Reads (u : UnicodeData) (fileName : QString) (k : ℕ) (st : ParserState)
    (ss : List CfgSection) (st' : ParserState) : Prop where
  entries : st'.tempEntries = st.tempEntries ++ entriesFrom u fileName k ss
  types : st'.toAtcTypes = (generalLines u ss).foldl (AtcTypes.parseLine u) st.toAtcTypes
  counter : st'.fltsimCounter = k + (fltsimSections u ss).length
  expected : st'.fltSection = fltSectionStr (k + (fltsimSections u ss).length)

theorem fltsimSections_singleton (s : CfgSection) :
    fltsimSections u [s] = if isFltsimSection u s then [s] else [] := List.filter_cons

theorem generalLines_singleton (s : CfgSection) :
    generalLines u [s] = if isGeneralSection u s then s.2 else [] := by
  rw [generalLines, List.filter_cons, List.filter_nil]
  split_ifs
  · rw [List.flatMap_singleton]
  · rfl

theorem entriesFrom_of_fltsim {k : ℕ} {s : CfgSection} (h : isFltsimSection u s = true) :
    entriesFrom u fileName k [s] =
      [CAircraftCfgEntries.ofLines u fileName k (isRotorcraftPath u fileName) s.2] := by
  rw [entriesFrom, fltsimSections_singleton, h]
  rfl

theorem entriesFrom_of_not_fltsim {k : ℕ} {s : CfgSection} (h : isFltsimSection u s = false) :
    entriesFrom u fileName k [s] = [] := by
  rw [entriesFrom, fltsimSections_singleton, h]
  rfl

/-- A section that begins no entry. -/
theorem reads_of_not_fltsim {k : ℕ} {st st' : ParserState} {s : CfgSection}
    (hnone : isFltsimSection u s = false) (hcounter : st.fltsimCounter = k)
    (hexpected : st.fltSection = fltSectionStr k) (hentries : st'.tempEntries = st.tempEntries)
    (htypes : st'.toAtcTypes = (generalLines u [s]).foldl (AtcTypes.parseLine u) st.toAtcTypes)
    (hcounter' : st'.fltsimCounter = st.fltsimCounter)
    (hexpected' : st'.fltSection = st.fltSection) : Reads u fileName k st [s] st' := by
  have hlength : (fltsimSections u [s]).length = 0 := by
    rw [fltsimSections_singleton, hnone]
    rfl
  refine ⟨?_, htypes, ?_, ?_⟩
  · rw [entriesFrom_of_not_fltsim hnone, List.append_nil, hentries]
  · rw [hlength, hcounter', hcounter, Nat.add_zero]
  · rw [hlength, hexpected', hexpected, Nat.add_zero]

/-- One section. -/
theorem reads_section {k : ℕ} {st : ParserState} {s : CfgSection}
    (hheader : isHeader s.1 = true) (hbody : ∀ line ∈ s.2, isHeader line = false)
    (hcounter : st.fltsimCounter = k) (hexpected : st.fltSection = fltSectionStr k)
    (hnumbered : NumberedFrom u k [s]) :
    Reads u fileName k st [s] (st.readSection u fileName s) := by
  rw [ParserState.readSection, ParserState.parseLineFixed_header hheader, ParserState.parseHeader]
  by_cases hgeneral : startsWithCaseless u s.1 "[GENERAL]" = true
  · have hnone : isFltsimSection u s = false := by
      rw [isFltsimSection, isGeneralSection, hgeneral]
      rfl
    rw [if_pos hgeneral, ParserState.foldl_general hbody rfl]
    refine reads_of_not_fltsim hnone hcounter hexpected rfl ?_ rfl rfl
    rw [generalLines_singleton, isGeneralSection, if_pos hgeneral]
  rw [if_neg hgeneral]
  rw [Bool.not_eq_true] at hgeneral
  have htypes : generalLines u [s] = [] := by
    rw [generalLines_singleton, isGeneralSection, hgeneral]
    rfl
  by_cases hfltsim : startsWithCaseless u s.1 st.fltSection = true
  · -- The entry is begun by the header and is the last one for all lines of the section.
    have hsome : isFltsimSection u s = true := by
      rw [isFltsimSection, isGeneralSection, hgeneral,
        fltsim_of_fltSectionStr (hexpected ▸ hfltsim)]
      rfl
    have hlength : fltsimSections u [s] = [s] := by
      rw [fltsimSections_singleton, if_pos hsome]
    rw [if_pos hfltsim, ParserState.foldl_fltsim hbody rfl rfl]
    refine ⟨?_, ?_, ?_, ?_⟩
    · rw [entriesFrom_of_fltsim hsome, foldl_parseLine, hcounter]
    · rw [htypes]
      rfl
    · rw [hlength, ← hcounter]
      rfl
    · rw [hlength, ← hcounter]
      rfl
  · -- The code leaves out a FLTSIM section with another number, which is none by assumption.
    have hnone : isFltsimSection u s = false := by
      by_contra hsome
      rw [Bool.not_eq_false] at hsome
      rw [hexpected] at hfltsim
      refine hfltsim (hnumbered (s, k) ?_)
      rw [fltsimSections_singleton, hsome]
      exact List.mem_singleton_self _
    rw [if_neg hfltsim, ParserState.foldl_unknown hbody rfl]
    refine reads_of_not_fltsim hnone hcounter hexpected rfl ?_ rfl rfl
    rw [htypes]
    rfl

/-- All sections. -/
theorem reads_sections {k : ℕ} {st : ParserState} {ss : List CfgSection}
    (hsections : ∀ s ∈ ss, isHeader s.1 = true ∧ ∀ line ∈ s.2, isHeader line = false)
    (hcounter : st.fltsimCounter = k) (hexpected : st.fltSection = fltSectionStr k)
    (hnumbered : NumberedFrom u k ss) :
    Reads u fileName k st ss (ss.foldl (ParserState.readSection u fileName) st) := by
  induction ss generalizing k st with
  | nil => exact ⟨(List.append_nil _).symm, rfl, hcounter, hexpected⟩
  | cons s ss ih =>
    rw [List.forall_mem_cons] at hsections
    rcases numberedFrom_cons hnumbered with ⟨hfirst, hrest⟩
    -- The first section moves the number, from which the others are numbered.
    have hs : Reads u fileName k st [s] (st.readSection u fileName s) :=
      reads_section hsections.1.1 hsections.1.2 hcounter hexpected hfirst
    have hss := ih hsections.2 hs.counter hs.expected hrest
    rw [List.foldl_cons]
    refine ⟨?_, ?_, ?_, ?_⟩
    · rw [hss.entries, hs.entries, entriesFrom_cons k s ss, List.append_assoc]
    · rw [hss.types, hs.types, generalLines_cons s ss, List.foldl_append]
    · rw [hss.counter, fltsimSections_cons s ss, List.length_append, Nat.add_assoc]
    · rw [hss.expected, fltsimSections_cons s ss, List.length_append, Nat.add_assoc]

/-- What the loop leaves for a file whose FLTSIM sections are numbered in their order. -/
theorem reads_file {text : QString} (hnumbered : Numbered u text) :
    Reads u fileName 0 {} (fileSections text)
      ((text.split '\n').foldl (ParserState.parseLine u fileName) {}) := by
  rw [ParserState.foldl_parseLine_fixed, foldl_sections isHeader,
    ParserState.foldl_unknown (fun _ => not_header_of_mem_front) rfl]
  exact reads_sections (fun _ => of_mem_sections) rfl rfl hnumbered

variable (u fileName) in
/-- The entries of a file: those of its FLTSIM sections that have a title, with the type and the
    designator of the GENERAL section. -/
theorem parses_sections (win : Bool) (files : QString → Option CfgFile) (file : CfgFile)
    (hopen : files (fixWindowsUncPath win fileName) = some file)
    (hnumbered : Numbered u file.text) :
    let ss := fileSections file.text
    let t : AtcTypes := (generalLines u ss).foldl (AtcTypes.parseLine u) {}
    performParsingOfSingleFile u fileName win files =
        (((entriesFrom u fileName 0 ss).filter fun e => !e.title.isEmpty).map
            (CAircraftCfgEntries.complete t file.fileTimestamp),
          true,
          ((entriesFrom u fileName 0 ss).filter fun e => e.title.isEmpty).map
            fun e => hasNoTitle fileName e.index) ∧
      (∀ line, (generalLines u ss).filter (isAtcTypeLine u) = [line] →
        t.atcType = getFixedIniLineContent line) ∧
      ∀ line, (generalLines u ss).filter (isDesignatorLine u) = [line] →
        t.atcModel = getFixedIniLineContent line := by
  have hreads : Reads u fileName 0 {} (fileSections file.text)
      ((file.text.split '\n').foldl (ParserState.parseLine u fileName) {}) := reads_file hnumbered
  refine ⟨?_, fun _ => atcType_of_line, fun _ => atcModel_of_line⟩
  unfold performParsingOfSingleFile
  dsimp only
  rw [hopen]
  dsimp only
  rw [hreads.entries, hreads.types]
  rfl

/-- A section without a title, one with a title, and the type behind them. -/
def sampleCfg : CfgFile where
  text := "[FLTSIM.0]\nsim=a\n[Flt]\n\n[fltsim.1]\ntitle=B\n[GENERAL]\natc_type=C"
  lastModified := some 5
  birthTime := none

theorem parses_sample :
    Numbered .ascii sampleCfg.text ∧
      performParsingOfSingleFile .ascii ['a'] false (fun _ => some sampleCfg) =
        ([{ index := 1, fileName := ['a'], title := ['B'], atcType := ['C'],
            timestampMSecsSinceEpoch := 5 }],
          true,
          [hasNoTitle ['a'] 0]) := by
  have hnumbered : Numbered .ascii sampleCfg.text := by
    unfold Numbered NumberedFrom
    decide
  refine ⟨hnumbered, ?_⟩
  rw [(parses_sections .ascii ['a'] false (fun _ => some sampleCfg) sampleCfg rfl hnumbered).1]
  decide

end FsCommon

end NeoSwift.Misc
