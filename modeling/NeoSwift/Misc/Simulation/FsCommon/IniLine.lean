import NeoSwift.Qt.Search

/-!
# Lines of an aircraft.cfg

`CAircraftCfgParser::getFixedIniLineContent`: what a line has behind its first `=`, without
a comment, outer quotes and line breaks of C. Balanced quotes are removed where they are the
first and the last character, and a single one at the beginning is removed.

The comment is removed with the character in front of its `;`, so that a blank has to be there.

## Main definitions

* `getFixedIniLineContent`: The content of a line.

## Theorems

* `getFixedIniLineContent_comment`: A comment behind a blank.
* `getFixedIniLineContent_quoted`: A value in quotes.
* `content_of_line`: Both.
-/

namespace NeoSwift

namespace QString

/-- `QStringView::left`, which is all for a number below zero. -/
def left (s : QString) (n : ℤ) : QString := if n < 0 then s else s.take n.toNat

/-- `QString::replace` of a backslash and a letter by a blank. -/
def replaceEscape (letter : Char) : QString → QString
  | [] => []
  | c :: s =>
    match s with
    | [] => [c]
    | d :: rest =>
      if c = '\\' ∧ d = letter then ' ' :: replaceEscape letter rest
      else c :: replaceEscape letter (d :: rest)

end QString

namespace Misc

namespace FsCommon

open QString

/-- `hasBalancedQuotes`. -/
def hasBalancedQuotes (content : QString) (quote : Char) : Bool := content.count quote % 2 == 0

def fixQuotes (content : QString) : QString :=
  if hasBalancedQuotes content '\"' then
    if 2 < content.length ∧ content.startsWith ['\"'] ∧ ['\"'].isSuffixOf content then
      (content.drop 1).dropLast
    else content
  else if content.startsWith ['\"'] then content.drop 1
  else content

/-- Line breaks and tabulators of C. -/
def fixLinebreaks (content : QString) : QString := replaceEscape 't' (replaceEscape 'n' content)

/-- The first `=` is looked for in the whole line. -/
def getFixedIniLineContent (line : QString) : QString :=
  if line.isEmpty then []
  else
    let indexComment : ℤ := (line.indexOf [';']).elim (-1) fun i => i
    let content : QString := (line.left (indexComment - 1)).trimmed
    match line.indexOf ['='] with
    | none => []
    | some index => fixLinebreaks (fixQuotes (trimmed (content.drop (index + 1))))

/-! ## Comments -/

variable {key value blanks comment : QString}

/-- A text without comments, quotes and further `=`. -/
def IsPlain (s : QString) : Prop := ';' ∉ s ∧ '=' ∉ s ∧ '\"' ∉ s

/-- Blanks behind a text do not matter. -/
theorem trimmed_append_blanks (s : QString) (hblanks : ∀ c ∈ blanks, isSpace c = true) :
    trimmed (s ++ blanks) = trimmed s := by
  have hbehind : ∀ t : QString, (t ++ blanks).rdropWhile isSpace = t.rdropWhile isSpace := by
    intro t
    have hreverse : ∀ c ∈ blanks.reverse, isSpace c = true := fun c hc =>
      hblanks c (List.mem_reverse.mp hc)
    rw [List.rdropWhile, List.reverse_append, List.dropWhile_append,
      List.dropWhile_eq_nil_iff.mpr hreverse]
    rfl
  unfold trimmed
  rw [List.dropWhile_append]
  by_cases hempty : s.dropWhile isSpace = []
  · rw [hempty, List.isEmpty_nil, if_pos rfl, List.dropWhile_eq_nil_iff.mpr hblanks]
  · rw [if_neg (mt List.isEmpty_iff.mp hempty), hbehind]

theorem length_trimmed_le (s : QString) : (trimmed s).length ≤ s.length :=
  (List.rdropWhile_prefix _ _).length_le.trans (List.dropWhile_sublist _).length_le

/-- The content of a line without a comment. -/
theorem getFixedIniLineContent_of_plain (hkey : '=' ∉ key) (hcomment : ';' ∉ key ++ '=' :: value) :
    getFixedIniLineContent (key ++ '=' :: value) = fixLinebreaks (fixQuotes
        (trimmed ((trimmed (key ++ '=' :: value)).drop (key.length + 1)))) := by
  have hne : (key ++ '=' :: value).isEmpty = false := List.isEmpty_eq_false_iff.mpr
    (List.append_ne_nil_of_right_ne_nil _ (List.cons_ne_nil _ _))
  unfold getFixedIniLineContent
  rw [hne, if_neg Bool.false_ne_true, indexOf_sep_eq_none hcomment, indexOf_sep hkey]
  rfl

/-- The character in front of a comment is taken for a part of it. -/
theorem getFixedIniLineContent_of_comment (hkey : '=' ∉ key)
    (hcomment : ';' ∉ key ++ '=' :: value) :
    getFixedIniLineContent (key ++ '=' :: value ++ ';' :: comment) = fixLinebreaks (fixQuotes
        (trimmed ((trimmed (key ++ '=' :: value).dropLast).drop (key.length + 1)))) := by
  have hne : (key ++ '=' :: value ++ ';' :: comment).isEmpty = false :=
    List.isEmpty_eq_false_iff.mpr
      (List.append_ne_nil_of_right_ne_nil _ (List.cons_ne_nil _ _))
  -- What is left of the comment loses one more character.
  have hleft : left (key ++ '=' :: value ++ ';' :: comment)
      (((key ++ '=' :: value).length : ℤ) - 1) = (key ++ '=' :: value).dropLast := by
    have hpos : 0 < (key ++ '=' :: value).length := by
      rw [List.length_append, List.length_cons]
      omega
    unfold left
    rw [if_neg (by omega), List.dropLast_eq_take, List.take_append_of_le_length (by omega)]
    congr 1
    omega
  have hindex : indexOf (key ++ '=' :: value ++ ';' :: comment) ['='] = some key.length := by
    rw [List.append_assoc]
    exact indexOf_sep hkey _
  unfold getFixedIniLineContent
  rw [hne, if_neg Bool.false_ne_true, indexOf_sep hcomment, hindex]
  dsimp only [Option.elim]
  rw [hleft]

/-- A blank or nothing in front of a comment. -/
theorem getFixedIniLineContent_comment (hkey : IsPlain key) (hvalue : IsPlain value)
    (hblanks : ∀ c ∈ blanks, isSpace c = true)
    (hlast : ∀ c ∈ (value ++ blanks).getLast?, isSpace c = true) :
    getFixedIniLineContent (key ++ '=' :: (value ++ blanks) ++ ';' :: comment) =
      getFixedIniLineContent (key ++ '=' :: value) := by
  have hnotBlank : ';' ∉ blanks := fun h => Bool.false_ne_true (hblanks _ h)
  have hplain : ';' ∉ key ++ '=' :: value := by
    rw [List.mem_append, List.mem_cons]
    rintro (h | h | h)
    · exact hkey.1 h
    · cases h
    · exact hvalue.1 h
  have hcomment : ';' ∉ key ++ '=' :: (value ++ blanks) := by
    rw [← List.cons_append, ← List.append_assoc, List.mem_append]
    exact not_or.mpr ⟨hplain, hnotBlank⟩
  rw [getFixedIniLineContent_of_comment hkey.2.1 hcomment,
    getFixedIniLineContent_of_plain hkey.2.1 hplain]
  congr 2
  rcases List.eq_nil_or_concat' (value ++ blanks) with hnone | ⟨text, c, htext⟩
  · -- The equals sign is cut off, but nothing was behind it.
    rw [hnone, (List.append_eq_nil_iff.mp hnone).1, List.dropLast_concat]
    have hlong := length_trimmed_le (key ++ ['='])
    rw [List.length_append, List.length_singleton] at hlong
    rw [List.drop_eq_nil_of_le (Nat.le_succ_of_le (length_trimmed_le key)),
      List.drop_eq_nil_of_le hlong]
  · -- What is cut off is a blank.
    have hc : isSpace c = true := hlast c (by rw [htext]; exact List.getLast?_concat)
    have hcut : (key ++ '=' :: (value ++ blanks)).dropLast = key ++ '=' :: text := by
      rw [htext, ← List.cons_append, ← List.append_assoc, List.dropLast_concat]
    have htrimmed : trimmed (key ++ '=' :: text) = trimmed (key ++ '=' :: value) := by
      have hblank : ∀ d ∈ [c], isSpace d = true := fun d hd => List.mem_singleton.mp hd ▸ hc
      rw [← trimmed_append_blanks (key ++ '=' :: text) hblank, List.append_assoc, List.cons_append,
        ← htext, ← List.cons_append, ← List.append_assoc, trimmed_append_blanks _ hblanks]
    rw [hcut, htrimmed]

/-! ## Quotes -/

/-- Balanced quotes around a value are removed. -/
theorem getFixedIniLineContent_quoted {inner : QString} (hkey : '=' ∉ key)
    (hcomment : ';' ∉ key ++ inner) (hhead : ∀ c ∈ key.head?, isSpace c = false)
    (hne : inner ≠ []) (hbalanced : hasBalancedQuotes ('\"' :: (inner ++ ['\"'])) '\"' = true) :
    getFixedIniLineContent (key ++ '=' :: '\"' :: (inner ++ ['\"'])) = fixLinebreaks inner := by
  have hplain : ';' ∉ key ++ '=' :: '\"' :: (inner ++ ['\"']) := by
    simp only [List.mem_append, List.mem_cons, not_or] at hcomment ⊢
    exact ⟨hcomment.1, by decide, by decide, hcomment.2, by decide⟩
  have hquoted : ('\"' :: (inner ++ ['\"'])).getLast? = some '\"' := by
    rw [← List.cons_append]
    exact List.getLast?_concat
  have hquotedLast : ∀ c ∈ ('\"' :: (inner ++ ['\"'])).getLast?, isSpace c = false := by
    intro c hc
    rw [hquoted, Option.mem_some_iff] at hc
    rw [← hc]
    decide
  have hline : trimmed (key ++ '=' :: '\"' :: (inner ++ ['\"'])) =
      key ++ '=' :: '\"' :: (inner ++ ['\"']) := by
    refine trimmed_of_edges (fun c hc => ?_) fun c hc => hquotedLast c ?_
    · cases key with
      | nil =>
        rw [← Option.some.inj hc]
        decide
      | cons d key => exact hhead c hc
    · rw [List.getLast?_append] at hc
      exact hc
  have hvalue : trimmed ('\"' :: (inner ++ ['\"'])) = '\"' :: (inner ++ ['\"']) := by
    refine trimmed_of_edges (fun c hc => ?_) hquotedLast
    rw [← Option.some.inj hc]
    decide
  -- Nothing is trimmed, so that the value is behind the `=` of the line.
  have hdrop : (key ++ '=' :: '\"' :: (inner ++ ['\"'])).drop (key.length + 1) =
      '\"' :: (inner ++ ['\"']) := by
    rw [← List.drop_drop, List.drop_left]
    rfl
  rw [getFixedIniLineContent_of_plain hkey hplain, hline, hdrop, hvalue, fixQuotes, hbalanced,
    if_pos rfl, if_pos, List.drop_one, List.tail_cons, List.dropLast_concat]
  have hlength := List.length_pos_iff.mpr hne
  refine ⟨?_, rfl, ?_⟩
  · rw [List.length_cons, List.length_append, List.length_singleton]
    omega
  · rw [List.isSuffixOf_iff_suffix]
    exact ⟨'\"' :: inner, rfl⟩

/-- A comment behind a blank does not matter, and balanced quotes around a value are removed
    with the line breaks of C. -/
theorem content_of_line :
    (∀ key value blanks comment : QString, IsPlain key → IsPlain value →
      (∀ c ∈ blanks, isSpace c = true) → (∀ c ∈ (value ++ blanks).getLast?, isSpace c = true) →
        getFixedIniLineContent (key ++ '=' :: (value ++ blanks) ++ ';' :: comment) =
          getFixedIniLineContent (key ++ '=' :: value)) ∧
      ∀ key inner : QString, '=' ∉ key → ';' ∉ key ++ inner →
        (∀ c ∈ key.head?, isSpace c = false) → inner ≠ [] →
          hasBalancedQuotes ('\"' :: (inner ++ ['\"'])) '\"' = true →
            getFixedIniLineContent (key ++ '=' :: '\"' :: (inner ++ ['\"'])) =
              fixLinebreaks inner :=
  ⟨fun _ _ _ _ hkey hvalue hblanks hlast =>
      getFixedIniLineContent_comment hkey hvalue hblanks hlast,
    fun _ _ hkey hcomment hhead hne hbalanced =>
      getFixedIniLineContent_quoted hkey hcomment hhead hne hbalanced⟩

theorem content_of_title :
    getFixedIniLineContent "title=A320 ;old" = getFixedIniLineContent "title=A320" ∧
      getFixedIniLineContent "title=\"A320 \"Retro\" X\"" = "A320 \"Retro\" X" :=
  ⟨content_of_line.1 "title" "A320" " " "old"
      ⟨by decide, by decide, by decide⟩ ⟨by decide, by decide, by decide⟩
      (List.forall_mem_singleton.mpr rfl) (fun _ hc => Option.some.inj hc ▸ rfl),
    content_of_line.2 "title" "A320 \"Retro\" X" (by decide) (by decide)
      (fun _ hc => Option.some.inj hc ▸ rfl) (by decide) (by decide)⟩

/-- Without a blank a character is lost. Line breaks of C are replaced also in quotes, where a
    comment is one as well. The quotes are not where they are looked for if the line is not
    trimmed. -/
theorem content_of_line_changed :
    getFixedIniLineContent "title=A320;old" ≠ getFixedIniLineContent "title=A320" ∧
      getFixedIniLineContent "title=\"A\\nB\"" ≠ "A\\nB" ∧
      getFixedIniLineContent "title=\"A;B\"" ≠ "A;B" ∧
      getFixedIniLineContent " title=\"AB\"" ≠ "AB" := by
  decide

end FsCommon

end Misc

end NeoSwift
