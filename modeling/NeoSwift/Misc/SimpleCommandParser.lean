import NeoSwift.Qt.Words

/-!
# Command Lines

`CSimpleCommandParser`: a command line such as `.msg EDDF hello` in its parts. The first part is
a command if it has a dot in front.

A line is parsed over what the parser has of the line before. The parts stay if the new line is
blank, and the command stays if the new line has none. Where a part is, is looked up in the
cleaned line, but what is returned is cut out of the line as it was entered.

Letters other than those of ASCII have no case here.

## Main definitions

* `CSimpleCommandParser`: The parser.
* `parse`: A line is parsed.
* `part`, `partAndRemainingStringAfter`, `matchesCommand` and friends: What is known of the line.
* `SameAnswers`: Two parsers cannot be told apart.
* `WholeFront`: Blanks in the line do not matter to what is cut out of it.

## Theorems

* `nthIndexOf_join`, `partAndRemainingStringAfter_eq`: Where a part is found.
* `parse_eq_of_forgets`, `forgets_of_sameAnswers`: When the parser has nothing of the lines before.
* `cutsRight_parse_iff`: When the rest of a line is cut out right.
* `parser_answers_iff`: Both.
* `old_command_matches`: A line without a command is taken for the command before.
-/

namespace NeoSwift

namespace QString

/-- What is outside of ASCII stays as it is. -/
def toLower (s : QString) : QString := s.map Char.toLower

/-- `indexOf` from a place on, where a negative place counts from the end. -/
def indexOfCaseless (s part : QString) (start : ℤ) : Option ℕ :=
  let i := if start < 0 then (start + s.length).toNat else start.toNat
  if i ≤ s.length then (indexOf (toLower (s.drop i)) (toLower part)).map (· + i) else none

theorem indexOfCaseless_natCast {s part : QString} {start : ℕ} (h : start ≤ s.length) :
    indexOfCaseless s part start
      = (indexOf (toLower (s.drop start)) (toLower part)).map (· + start) := by
  have hstart : ¬ (start : ℤ) < 0 := by omega
  simp [indexOfCaseless, if_neg hstart, if_pos h]

end QString

namespace Misc

/-- The loop over the places of a character, with the last of them. -/
def nthIndexLoop (string : QString) (ch : Char) : ℕ → ℕ → ℤ → ℤ
  | 0, _, ci => ci
  | t + 1, start, _ =>
    match string.indexOfCaseless [ch] start with
    | none => -1
    | some ci => if string.length ≤ ci + 1 then -1 else nthIndexLoop string ch t (ci + 1) ci

/-- From one on, and -1 if there is none. -/
def nthIndexOf (string : QString) (ch : Char) (nth : ℤ) : ℤ :=
  if nth < 1 ∨ string = [] ∨ string.length < nth then -1
  else nthIndexLoop string ch nth.toNat 0 (-1)

/-- By the first character, or as `on`. -/
def stringToBool (string : QString) : Bool :=
  match string.trimmed.toLower with
  | [] => false
  | c :: s =>
    if c ∈ ['1', 't', 'y', 'x'] then true
    else if c ∈ ['0', 'f', 'n', '_'] then false
    else if c = 'e' then true
    else if c = 'd' then false
    else c :: s = "on"

/-- The parser with what it has parsed. -/
structure CSimpleCommandParser where
  originalLine : QString := []
  cleanedLine : QString := []
  commandPart : QString := []
  splitParts : QStringList := []
  knownCommands : QStringList := []
  knownCommand : Bool := false

/-- Where a part is in a line of parts with a blank between them. -/
def offset (parts : QStringList) (i : ℕ) : ℕ :=
  ((parts.take i).map (fun word => word.length + 1)).sum

namespace CSimpleCommandParser

/-- One dot. -/
def removeLeadingDot (candidate : QString) : QString :=
  if candidate.head? = some '.' then candidate.drop 1 else candidate

/-- Without blanks, case and a dot. -/
def formatCommand (command : QString) : QString := removeLeadingDot command.trimmed.toLower

/-- With a dot in front. -/
def isCommand (candidate : QString) : Bool := candidate.head? = some '.'

/-- The constructor. -/
def create (knownCommands : QStringList) : CSimpleCommandParser :=
  { knownCommands := knownCommands.map formatCommand }

variable (p : CSimpleCommandParser)

/-- What was parsed before is forgotten. -/
def parse (commandLine : QString) : CSimpleCommandParser :=
  let cleaned := commandLine.trimmed.simplified
  let entered := { p with
    knownCommand := false, originalLine := commandLine, cleanedLine := cleaned }
  if cleaned = [] then entered
  else
    let parts := cleaned.split ' '
    match parts with
    | [] => { entered with splitParts := parts }
    | first :: _ =>
      if isCommand first then
        { entered with
          splitParts := parts
          commandPart := formatCommand first
          knownCommand := p.knownCommands.contains (formatCommand first) }
      else { entered with splitParts := parts }

/-- One line after the other. -/
def parseAll (lines : List QString) : CSimpleCommandParser := lines.foldl parse p

def isKnownCommand : Bool := p.knownCommand

/-- Empty if there is none. -/
def part (index : ℤ) : QString :=
  if index < 0 then [] else (p.splitParts[index.toNat]?).getD []

/-- From the part on to the end. -/
def partAndRemainingStringAfter (index : ℤ) : QString :=
  if index < 0 then p.cleanedLine
  else
    let start := if index < 1 then 0 else nthIndexOf p.cleanedLine ' ' index
    match p.cleanedLine.indexOfCaseless (p.part index) start with
    | none => []
    | some fi => QString.trimmed (p.originalLine.drop fi)

/-- The command is one. -/
def countParts : ℕ := p.splitParts.length

def hasPart (index : ℤ) : Bool := 0 ≤ index && index < p.countParts

def countPartsWithoutCommand : ℕ := if p.countParts > 0 then p.countParts - 1 else 0

def isInt (index : ℤ) : Bool :=
  if p.part index = [] then false else (p.part index).toInt?.isSome

/-- The default if the part is no number. -/
def toInt (index : ℤ) (default : Int32) : Int32 :=
  if p.part index = [] then default else ((p.part index).toInt?).getD default

def toBool (index : ℤ) (default : Bool) : Bool :=
  if p.part index = [] then default else stringToBool (p.part index)

/-- Without case. -/
def matchesPart (index : ℤ) (toMatch : QString) : Bool :=
  if toMatch = [] then false
  else if !p.hasPart index then false
  else if p.part index = [] then false
  else (p.part index).length = toMatch.length && (p.part index).toLower.startsWith toMatch.toLower

/-- By its name or an alias. -/
def matchesCommand (checkCommand alias1 alias2 : QString) : Bool :=
  if p.commandPart = [] then false
  else if checkCommand ≠ [] ∧ formatCommand checkCommand = p.commandPart then true
  else if alias1 ≠ [] ∧ formatCommand alias1 = p.commandPart then true
  else alias2 ≠ [] && formatCommand alias2 = p.commandPart

/-- The command begins with the pattern, formatted. -/
def commandStartsWith (startPattern : QString) : Bool :=
  if p.commandPart = [] then false else p.commandPart.startsWith (formatCommand startPattern)

/-- The command ends with the pattern as it is. -/
def commandEndsWith (endPattern : QString) : Bool :=
  if p.commandPart = [] then false else endPattern.isSuffixOf p.commandPart

/-! ## What is expected -/

/-- No member tells the parsers apart. -/
structure SameAnswers (p q : CSimpleCommandParser) : Prop where
  isKnownCommand : p.isKnownCommand = q.isKnownCommand
  part : p.part = q.part
  partAndRemainingStringAfter : p.partAndRemainingStringAfter = q.partAndRemainingStringAfter
  countParts : p.countParts = q.countParts
  hasPart : p.hasPart = q.hasPart
  countPartsWithoutCommand : p.countPartsWithoutCommand = q.countPartsWithoutCommand
  isInt : p.isInt = q.isInt
  toInt : p.toInt = q.toInt
  toBool : p.toBool = q.toBool
  matchesPart : p.matchesPart = q.matchesPart
  matchesCommand : p.matchesCommand = q.matchesCommand
  commandStartsWith : p.commandStartsWith = q.commandStartsWith
  commandEndsWith : p.commandEndsWith = q.commandEndsWith

/-- What is returned for a part and the rest is that, but for blanks. -/
def CutsRight : Prop :=
  ∀ i < p.countParts,
    (p.partAndRemainingStringAfter i).simplified = QString.join (p.splitParts.drop i) [' ']

/-- The last of the commands that were entered. -/
def lastCommand (lines : List QString) : Option QString :=
  ((lines.filterMap fun line => line.words.head?).filter isCommand).getLast?

/-- The line replaces what there is of the lines before: without parts only if they had none, and
    without a command only if the last one was but a dot. -/
def Forgets (history : List QString) (line : QString) : Prop :=
  match line.words with
  | [] => ∀ before ∈ history, before.words = []
  | first :: _ => isCommand first = true ∨ ∀ command ∈ lastCommand history, command = ['.']

/-- In front of the place a part has in the cleaned line, the line has the parts in front of it
    as a whole, so that surplus blanks do not push them behind it. -/
def WholeFront (line : QString) : Prop :=
  ∀ i < line.words.length, QString.words (line.take (offset line.words i)) = line.words.take i

end CSimpleCommandParser

/-! ## Places in a line -/

section Places

variable {parts : QStringList}

theorem offset_succ {i : ℕ} {word : QString} {rest : QStringList}
    (h : parts.drop i = word :: rest) : offset parts (i + 1) =
      offset parts i + (word.length + 1) := by
  have htake : parts.take (i + 1) = parts.take i ++ [word] := by
    rw [List.take_add, h]
    rfl
  rw [offset, htake, List.map_append, List.sum_append]
  rfl

theorem drop_join {i : ℕ} (hi : i < parts.length) :
    (QString.join parts [' ']).drop (offset parts i) = QString.join (parts.drop i) [' '] := by
  induction i with
  | zero => rfl
  | succ i ih =>
    have hdrop := List.drop_eq_getElem_cons (show i < parts.length by omega)
    have hnext := List.drop_eq_getElem_cons hi
    rw [offset_succ hdrop, ← List.drop_drop, ih (by omega), hdrop, hnext, QString.join,
      List.intercalate_cons_cons, List.append_assoc, ← List.drop_drop, List.drop_left]
    rfl

theorem le_offset {i : ℕ} (hi : i ≤ parts.length) : i ≤ offset parts i := by
  induction i with
  | zero => exact Nat.zero_le _
  | succ i ih =>
    rw [offset_succ (List.drop_eq_getElem_cons hi)]
    omega

/-- A blank is one in lower case only. -/
theorem toLower_ne_blank {c : Char} (hc : c ≠ ' ') : c.toLower ≠ ' ' := by
  unfold Char.toLower
  split_ifs with hupper
  · intro heq
    have hval : c.val + ('a'.val - 'A'.val) = ' '.val := congrArg Char.val heq
    have hnat := congrArg UInt32.toNat hval
    have hlo : 65 ≤ c.val.toNat := UInt32.le_iff_toNat_le.mp hupper.1
    have hhi : c.val.toNat ≤ 90 := UInt32.le_iff_toNat_le.mp hupper.2
    have hsum : (c.val.toNat + 32) % 2 ^ 32 = 32 := hnat
    omega
  · exact hc

theorem blank_notMem_toLower {word : QString} (h : ∀ c ∈ word, QString.isSpace c = false) :
    ' ' ∉ word.toLower := by
  intro hmem
  rcases List.mem_map.mp hmem with ⟨c, hc, heq⟩
  refine toLower_ne_blank ?_ heq
  rintro rfl
  exact absurd (h ' ' hc) (by decide)

/-- The next blank is behind the word. -/
theorem indexOf_blank {word : QString} (h : ∀ c ∈ word, QString.isSpace c = false) (t : QString) :
    QString.indexOf (QString.toLower (word ++ ' ' :: t)) (QString.toLower [' '])
      = some word.length := by
  have hnot : ¬ [' '] <:+: word.toLower := fun hin =>
    blank_notMem_toLower h (hin.subset List.mem_cons_self)
  have hlower : QString.toLower (word ++ ' ' :: t) = word.toLower ++ ' ' :: t.toLower :=
    List.map_append
  rw [hlower]
  generalize hw : word.toLower = w at hnot
  have hlength : word.length = w.length := by rw [← hw, QString.toLower, List.length_map]
  rw [hlength]
  clear hw hlength hlower h
  -- The word has no blank, so the search goes over it.
  induction w with
  | nil =>
    have hblank : [' '] ≠ [] := by decide
    exact QString.indexOf_self_append hblank t.toLower
  | cons c w ih =>
    rw [List.infix_cons_iff, not_or] at hnot
    have hbegin : ¬ [' '] <+: c :: (w ++ ' ' :: t.toLower) := fun hbegins =>
      hnot.1 (by
        rw [List.cons_prefix_cons] at hbegins ⊢
        exact ⟨hbegins.1, List.nil_prefix⟩)
    change QString.indexOf (c :: (w ++ ' ' :: t.toLower)) [' '] = _
    rw [QString.indexOf_cons, if_neg hbegin]
    have hrest := ih hnot.2
    change QString.indexOf (w ++ ' ' :: t.toLower) [' '] = some w.length at hrest
    rw [hrest]
    rfl

variable (hne : ∀ w ∈ parts, w ≠ [])
  (hspace : ∀ w ∈ parts, ∀ c ∈ w, QString.isSpace c = false)

include hne in
theorem offset_lt {i : ℕ} (hi : i < parts.length) :
    offset parts i < (QString.join parts [' ']).length := by
  by_contra hle
  have hdrop := drop_join hi
  rw [List.drop_of_length_le (by omega), List.drop_eq_getElem_cons hi, QString.join] at hdrop
  have hword := hne _ (List.getElem_mem hi)
  cases hrest : parts.drop (i + 1) with
  | nil =>
    rw [hrest, List.intercalate_singleton] at hdrop
    exact hword hdrop.symm
  | cons next rest =>
    rw [hrest, List.intercalate_cons_cons, List.append_assoc] at hdrop
    exact hword (List.append_eq_nil_iff.mp hdrop.symm).1

include hne hspace in
/-- The blanks are where the parts begin. -/
theorem nthIndexLoop_join (t j : ℕ) (ci : ℤ) (h : j + t < parts.length) :
    nthIndexLoop (QString.join parts [' ']) ' ' t (offset parts j) ci
      = if t = 0 then ci else (offset parts (j + t) : ℤ) - 1 := by
  induction t generalizing j ci with
  | zero => rfl
  | succ t ih =>
    -- The next two parts begin at their offsets, with a blank between them.
    have hj := List.drop_eq_getElem_cons (show j < parts.length by omega)
    have hnext := List.drop_eq_getElem_cons (show j + 1 < parts.length by omega)
    have hsucc := offset_succ hj
    have hlt := offset_lt hne (show j + 1 < parts.length by omega)
    have hdrop := drop_join (show j < parts.length by omega)
    rw [hj, hnext, QString.join, QString.join, List.intercalate_cons_cons, List.append_assoc,
      List.singleton_append] at hdrop
    -- The search for a blank goes over the part and finds it.
    have hfound : QString.indexOfCaseless (QString.join parts [' ']) [' '] (offset parts j : ℕ)
        = some (parts[j].length + offset parts j) := by
      rw [QString.indexOfCaseless_natCast (by omega), QString.join, hdrop,
        indexOf_blank (hspace _ (List.getElem_mem _))]
      rfl
    rw [nthIndexLoop, hfound]
    dsimp only
    have hplace : parts[j].length + offset parts j + 1 = offset parts (j + 1) := by omega
    rw [if_neg (by omega), hplace, ih (j + 1) _ (by omega), if_neg (Nat.succ_ne_zero t)]
    split_ifs with ht
    · subst ht
      push_cast
      omega
    · rw [Nat.add_assoc, Nat.add_comm 1 t]

include hne hspace in
theorem nthIndexOf_join {i : ℕ} (hpos : 0 < i) (hi : i < parts.length) :
    nthIndexOf (QString.join parts [' ']) ' ' i = (offset parts i : ℤ) - 1 := by
  have hlt := offset_lt hne hi
  have hle := le_offset hi.le
  have hjoin : QString.join parts [' '] ≠ [] := by
    intro hnil
    rw [hnil] at hlt
    cases hlt
  rw [nthIndexOf, if_neg (by push Not; exact ⟨by omega, hjoin, by omega⟩)]
  have hloop := nthIndexLoop_join hne hspace i 0 (-1) (by omega)
  rw [if_neg hpos.ne', Nat.zero_add] at hloop
  exact hloop

include hne hspace in
/-- A part is found at its place. -/
theorem indexOfCaseless_part {i : ℕ} (hi : i < parts.length) :
    QString.indexOfCaseless (QString.join parts [' ']) parts[i]
        (if (i : ℤ) < 1 then 0 else nthIndexOf (QString.join parts [' ']) ' ' i)
      = some (offset parts i) := by
  have hword : parts[i].toLower ≠ [] := by
    rw [QString.toLower, Ne, List.map_eq_nil_iff]
    exact hne _ (List.getElem_mem hi)
  obtain ⟨rest, hrest⟩ : ∃ rest, QString.join (parts.drop i) [' '] = parts[i] ++ rest := by
    rw [List.drop_eq_getElem_cons hi, QString.join]
    cases parts.drop (i + 1) with
    | nil => exact ⟨[], by rw [List.intercalate_singleton, List.append_nil]⟩
    | cons next rest => exact ⟨_, by rw [List.intercalate_cons_cons, List.append_assoc]⟩
  have hlower : QString.toLower (parts[i] ++ rest) = parts[i].toLower ++ rest.toLower :=
    List.map_append
  cases i with
  | zero =>
    refine (QString.indexOfCaseless_natCast (Nat.zero_le _)).trans ?_
    have hline : QString.join parts [' '] = parts[0] ++ rest := hrest
    rw [List.drop_zero, hline, hlower, QString.indexOf_self_append hword]
    rfl
  | succ i =>
    -- The search begins with the blank in front of the part.
    have hlt := offset_lt hne hi
    have hcons := List.drop_eq_getElem_cons (Nat.lt_of_succ_lt hi)
    have hsucc := offset_succ hcons
    have hstart : ((offset parts (i + 1) : ℤ) - 1) = (offset parts i + parts[i].length : ℕ) := by
      omega
    have hblank : (QString.join parts [' ']).drop (offset parts i + parts[i].length)
        = ' ' :: (parts[i + 1] ++ rest) := by
      rw [← hrest, ← List.drop_drop, drop_join (Nat.lt_of_succ_lt hi), hcons,
        List.drop_eq_getElem_cons hi, QString.join, List.intercalate_cons_cons, List.append_assoc,
        List.drop_left]
      rfl
    have hnot : ¬ parts[i + 1].toLower <+: ' ' :: (parts[i + 1] ++ rest).toLower := by
      intro hfront
      rcases List.exists_cons_of_ne_nil hword with ⟨c, w, hcw⟩
      rw [hcw, List.cons_prefix_cons] at hfront
      refine blank_notMem_toLower (hspace _ (List.getElem_mem hi)) ?_
      rw [hcw, hfront.1]
      exact List.mem_cons_self
    rw [if_neg (by omega), nthIndexOf_join hne hspace (Nat.succ_pos i) hi, hstart,
      QString.indexOfCaseless_natCast (by omega), hblank]
    change (QString.indexOf (' ' :: (parts[i + 1] ++ rest).toLower) _).map _ = _
    rw [QString.indexOf_cons, if_neg hnot, hlower, QString.indexOf_self_append hword]
    simp only [Option.map_some, Option.some.injEq]
    omega

end Places

namespace CSimpleCommandParser

/-! ## A line is parsed -/

section Parse

variable {p : CSimpleCommandParser} {line : QString}

theorem parse_blank (h : line.words = []) :
    p.parse line = { p with knownCommand := false, originalLine := line, cleanedLine := [] } := by
  have hclean : QString.simplified line.trimmed = [] :=
    (QString.simplified_eq_nil_iff _).mpr ((QString.words_trimmed line).trans h)
  unfold parse
  rw [hclean]
  rfl

theorem parse_words {first : QString} {rest : QStringList} (h : line.words = first :: rest) :
    p.parse line = { p with
      knownCommand := isCommand first && p.knownCommands.contains (formatCommand first)
      originalLine := line
      cleanedLine := QString.join line.words [' ']
      splitParts := line.words
      commandPart := if isCommand first then formatCommand first else p.commandPart } := by
  have hne : line.words ≠ [] := h ▸ List.cons_ne_nil first rest
  have hclean : QString.simplified line.trimmed ≠ [] := by
    rwa [Ne, QString.simplified_eq_nil_iff, QString.words_trimmed]
  have hsplit : QString.split (QString.simplified line.trimmed) ' ' = first :: rest := by
    rw [QString.simplified_trimmed, QString.split_simplified hne, h]
  unfold parse
  simp only [if_neg hclean, hsplit]
  rw [QString.simplified_trimmed, QString.simplified_eq_join, h]
  cases isCommand first <;> rfl

@[simp] theorem parse_knownCommands : (p.parse line).knownCommands = p.knownCommands := by
  cases h : line.words with
  | nil => rw [parse_blank h]
  | cons first rest => rw [parse_words h]

/-- What is cut out of the line for a part. -/
theorem partAndRemainingStringAfter_eq {i : ℕ} (hi : i < line.words.length) :
    (p.parse line).partAndRemainingStringAfter i
      = QString.trimmed (line.drop (offset line.words i)) := by
  rcases List.exists_cons_of_length_pos (Nat.zero_lt_of_lt hi) with ⟨first, rest, hwords⟩
  have hpart : (p.parse line).part i = line.words[i] := by
    rw [parse_words hwords, part, if_neg (by omega), Int.toNat_natCast,
      List.getElem?_eq_getElem hi, Option.getD_some]
  have hline : (p.parse line).originalLine = line := by rw [parse_words hwords]
  have hclean : (p.parse line).cleanedLine = QString.join line.words [' '] := by
    rw [parse_words hwords]
  have hfound := indexOfCaseless_part (fun w hw => (QString.of_mem_words hw).1)
    (fun w hw => (QString.of_mem_words hw).2) hi
  simp only [partAndRemainingStringAfter, if_neg (show ¬ (i : ℤ) < 0 by omega), hpart, hline,
    hclean, hfound]

/-- The rest of a line is cut out right where blanks do not move it. -/
theorem cutsRight_parse_iff (hparts : (p.parse line).splitParts = line.words) :
    (p.parse line).CutsRight ↔ WholeFront line := by
  unfold CutsRight WholeFront
  rw [countParts, hparts]
  refine forall₂_congr fun i hi => ?_
  have hrest : (QString.join (line.words.drop i) [' ']).simplified
      = QString.join (line.words.drop i) [' '] := by
    rw [QString.simplified_eq_join, QString.words_join_drop]
  rw [partAndRemainingStringAfter_eq hi, QString.simplified_trimmed, ← hrest,
    QString.simplified_eq_iff, QString.words_join_drop, QString.words_drop_iff _ hi]

end Parse

/-! ## One line after the other -/

section Lines

variable (ks : QStringList) (history : List QString) (line : QString)

theorem parseAll_concat (p : CSimpleCommandParser) :
    p.parseAll (history ++ [line]) = (p.parseAll history).parse line :=
  List.foldl_concat ..

theorem parseAll_knownCommands :
    ((create ks).parseAll history).knownCommands = (create ks).knownCommands := by
  induction history using List.reverseRecOn with
  | nil => rfl
  | append_singleton history line ih => rw [parseAll_concat, parse_knownCommands, ih]

/-- There are parts if a line had some. -/
theorem splitParts_parseAll_eq_nil_iff :
    ((create ks).parseAll history).splitParts = [] ↔ ∀ before ∈ history, before.words = [] := by
  induction history using List.reverseRecOn with
  | nil => exact iff_of_true rfl nofun
  | append_singleton history line ih =>
    rw [parseAll_concat, List.forall_mem_append, List.forall_mem_singleton, ← ih]
    cases h : line.words with
    | nil =>
      rw [parse_blank h]
      exact (and_iff_left rfl).symm
    | cons first rest =>
      rw [parse_words h]
      exact iff_of_false (h ▸ List.cons_ne_nil first rest)
        fun hnil => List.cons_ne_nil first rest hnil.2

theorem lastCommand_concat : lastCommand (history ++ [line]) =
    match line.words with
    | [] => lastCommand history
    | first :: _ => if isCommand first then some first else lastCommand history := by
  rw [lastCommand, List.filterMap_append, List.filter_append, List.getLast?_append]
  cases h : line.words with
  | nil =>
    rw [List.filterMap_cons_none (by rw [h]; rfl)]
    rfl
  | cons first rest =>
    rw [List.filterMap_cons_some (b := first) (by rw [h]; rfl)]
    cases hcommand : isCommand first with
    | false => simp only [hcommand, List.filter_cons]; rfl
    | true => simp only [hcommand, List.filter_cons]; rfl

/-- The command is the last one that was entered. -/
theorem commandPart_parseAll : ((create ks).parseAll history).commandPart
    = ((lastCommand history).map formatCommand).getD [] := by
  induction history using List.reverseRecOn with
  | nil => rfl
  | append_singleton history line ih =>
    rw [parseAll_concat, lastCommand_concat]
    cases h : line.words with
    | nil =>
      rw [parse_blank h]
      exact ih
    | cons first rest =>
      rw [parse_words h]
      dsimp only
      split_ifs
      · rfl
      · exact ih

/-- Only a dot without a name is formatted to nothing. -/
theorem formatCommand_eq_nil_iff {word : QString} (h : ∀ c ∈ word, QString.isSpace c = false)
    (hdot : isCommand word = true) : formatCommand word = [] ↔ word = ['.'] := by
  cases word with
  | nil => cases hdot
  | cons c word =>
    obtain rfl : c = '.' := by simpa [isCommand] using hdot
    rw [formatCommand, QString.trimmed_of_no_space h]
    change QString.toLower word = [] ↔ _
    rw [QString.toLower, List.map_eq_nil_iff, List.cons.injEq, and_iff_right rfl]

/-- Without a command to find, the last one was but a dot. -/
theorem commandPart_parseAll_eq_nil_iff : ((create ks).parseAll history).commandPart = [] ↔
    ∀ command ∈ lastCommand history, command = ['.'] := by
  rw [commandPart_parseAll]
  cases h : lastCommand history with
  | none => exact iff_of_true rfl fun _ hmem => absurd hmem (Option.not_mem_none _)
  | some command =>
    have hmem := List.mem_of_getLast? h
    rw [List.mem_filter, List.mem_filterMap] at hmem
    rcases hmem with ⟨⟨line, -, hline⟩, hcommand⟩
    have hspace := (QString.of_mem_words (List.mem_of_head? hline)).2
    rw [Option.map_some, Option.getD_some, formatCommand_eq_nil_iff hspace hcommand]
    exact ⟨fun hdot _ hsome => Option.some.inj hsome ▸ hdot, fun hall => hall _ rfl⟩

theorem lastCommand_of_blank (h : ∀ before ∈ history, before.words = []) :
    lastCommand history = none := by
  have hnone : history.filterMap (fun line => line.words.head?) = [] :=
    List.filterMap_eq_nil_iff.mpr fun before hmem => by rw [h before hmem]; rfl
  rw [lastCommand, hnone]
  rfl

variable {history line} in
/-- A line that replaces what there is of the lines before is parsed as the first one. -/
theorem parse_eq_of_forgets (h : Forgets history line) :
    ((create ks).parseAll history).parse line = (create ks).parse line := by
  have hknown := parseAll_knownCommands ks history
  unfold Forgets at h
  cases hwords : line.words with
  | nil =>
    rw [hwords] at h
    have hparts := (splitParts_parseAll_eq_nil_iff ks history).mpr h
    have hcommand := commandPart_parseAll ks history
    rw [lastCommand_of_blank history h] at hcommand
    rw [parse_blank hwords, parse_blank hwords, hknown, hparts, hcommand]
    rfl
  | cons first rest =>
    rw [hwords] at h
    rw [parse_words hwords, parse_words hwords, hknown]
    rcases h with hcommand | hlast
    · rw [if_pos hcommand, if_pos hcommand]
    · rw [(commandPart_parseAll_eq_nil_iff ks history).mpr hlast]
      rfl

variable {history line} in
/-- What is left of a line before is seen. -/
theorem forgets_of_sameAnswers
    (h : SameAnswers (((create ks).parseAll history).parse line) ((create ks).parse line)) :
    Forgets history line := by
  unfold Forgets
  cases hwords : line.words with
  | nil =>
    have hcount := h.countParts
    rw [parse_blank hwords, parse_blank hwords] at hcount
    exact (splitParts_parseAll_eq_nil_iff ks history).mp (List.length_eq_zero_iff.mp hcount)
  | cons first rest =>
    refine or_iff_not_imp_left.mpr fun hcommand => ?_
    refine (commandPart_parseAll_eq_nil_iff ks history).mp ?_
    by_contra hleft
    -- Every command starts with nothing.
    have hold : (((create ks).parseAll history).parse line).commandStartsWith [] = true := by
      rw [parse_words hwords, commandStartsWith, if_neg hcommand, if_neg hleft]
      rfl
    have hfresh : ((create ks).parse line).commandStartsWith [] = false := by
      rw [parse_words hwords, if_neg hcommand]
      rfl
    rw [h.commandStartsWith, hfresh] at hold
    exact Bool.noConfusion hold

/-- After a line only that line is known, and the rest of it is cut out right, just where it
    replaces what there is of the lines before and blanks do not move its parts. -/
theorem parser_answers_iff :
    SameAnswers ((create ks).parseAll (history ++ [line])) ((create ks).parse line) ∧
      ((create ks).parseAll (history ++ [line])).CutsRight
      ↔ Forgets history line ∧ WholeFront line := by
  rw [parseAll_concat]
  have hparts : ((create ks).parse line).splitParts = line.words := by
    cases hwords : line.words with
    | nil => rw [parse_blank hwords]; rfl
    | cons first rest => rw [parse_words hwords, hwords]
  constructor
  · rintro ⟨hsame, hcut⟩
    have hforget := forgets_of_sameAnswers ks hsame
    rw [parse_eq_of_forgets ks hforget] at hcut
    exact ⟨hforget, (cutsRight_parse_iff hparts).mp hcut⟩
  · rintro ⟨hforget, hfront⟩
    rw [parse_eq_of_forgets ks hforget]
    exact ⟨by constructor <;> rfl, (cutsRight_parse_iff hparts).mpr hfront⟩

/-- A line without a command is taken for the command before, and what is entered behind blanks
    is cut in a word. -/
theorem old_command_matches :
    (¬ SameAnswers ((create []).parseAll [".msg EDDF hello", "hello"])
        ((create []).parse "hello")) ∧
      ((create []).parse "  .msg a").partAndRemainingStringAfter 1 = "g a" := by
  refine ⟨fun h => ?_, by decide⟩
  have hmatches := congrFun (congrFun (congrFun h.matchesCommand ".msg") []) []
  cases hmatches

end Lines

end CSimpleCommandParser

end Misc

end NeoSwift
