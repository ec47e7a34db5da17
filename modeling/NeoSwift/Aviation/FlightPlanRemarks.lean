import NeoSwift.Qt.Search

/-!
# Flight Plan Remarks

`CFlightPlanRemarks::getRemark` and `replaceRemark`, which read and write the value behind a
marker in a free text. A value goes on until there is a marker behind a blank, until there is
a slash, or to the end of the text.

`replaceRemark` takes the old value out, leaves the marker where it is and puts the marker
with the new value at the end of the text. Where the marker is in the text already, there are
two of them afterwards, and `getRemark` goes to the first one: it reads the marker behind it,
whatever has been written. A value of a single character at the end of a text is not read at
all, be it the new one or one that had been there before and has the new one behind it now.

The first character of a value belongs to it in any case. The characters of a text are taken
for one unit each.

## Main definitions

* `isNextMarker`, `valueEnd`: Where a value ends.
* `getRemark`, `replaceRemark`: The two functions.
* `IsMarker`, `IsValue`: Markers and values.
* `WritesRemark`: What writing is to do.
* `OthersReadable`: The remarks whose values can be read.

## Theorems

* `cutLength_append_slash`: What is behind the end of a value makes no difference.
* `getRemark_insertRemark_of_new`: Reading what is written for a new marker.
* `insertRemark_others_iff`: What becomes of the other values.
* `value_unread_of_known`: With the marker in the text, what is read is always the same.
* `writes_remark_iff`: Which values are written as they are to be.
* `second_selcal_is_not_read`: One that is not.
-/

namespace NeoSwift.Aviation

/-- `\s`. -/
def isBlank (c : Char) : Bool :=
  c == ' ' || c == '\t' || c == '\n' || c == '\x0b' || c == '\x0c' || c == '\r'

/-- `\w`. -/
def isWordChar (c : Char) : Bool := c.isAlphanum || c == '_'

/-- `\s+\w*/|$` at a place, with what is behind. -/
def isNextMarker (s : QString) : Bool :=
  (s.head?.any isBlank && ((s.dropWhile isBlank).dropWhile isWordChar).head? == some '/')
    || s == [] || s == ['\n']

/-- The end of the value that starts at a place. What is not found is at the end of the text. -/
def valueEnd (remarks : QString) (f : ℕ) : ℕ :=
  let behind := remarks.drop (f + 1)
  let to1 := f + 1 + behind.tails.findIdx isNextMarker
  let to2 := f + 1 + behind.findIdx (· == '/')
  min to1 to2

/-- The first check is `maxIndex <= f`. -/
def getRemark (remarks marker : QString) : QString :=
  match remarks.indexOf marker with
  | none => []
  | some i =>
      let f := i + marker.length
      if remarks.length ≤ f + 1 then []
      else (remarks.mid f (valueEnd remarks f - f)).simplified

/-- Behind what there is, with a blank in between. -/
def appendRemark (r newRemark : QString) : QString :=
  if r.isEmpty then newRemark else r ++ ' ' :: newRemark

def replaceRemark (remarks marker newRemark : QString) : QString :=
  match remarks.indexOf marker with
  | none => appendRemark remarks newRemark
  | some i =>
      let f := i + marker.length
      if remarks.length ≤ f + 1 then remarks
      else appendRemark (remarks.take f ++ remarks.drop (valueEnd remarks f)) newRemark

/-- A marker with its value. -/
def insertRemark (remarks marker value : QString) : QString :=
  replaceRemark remarks marker (marker ++ value)

/-- A marker as the end of a value knows it: word characters and a slash. -/
structure IsMarker (marker : QString) : Prop where
  word : ∃ word, word ≠ [] ∧ (∀ c ∈ word, isWordChar c = true) ∧ marker = word ++ ['/']

/-- A text without blanks and slashes. -/
def IsValue (value : QString) : Prop := ∀ c ∈ value, QString.isSpace c = false ∧ c ≠ '/'

/-- What writing is to do. The value can be read, the values of the other markers are what
    they were, and when another one is written the value does not stay. -/
structure WritesRemark (remarks marker value : QString) : Prop where
  readable : getRemark (insertRemark remarks marker value) marker = value
  others : ∀ other, IsMarker other → other ≠ marker → other <:+: remarks →
    getRemark (insertRemark remarks marker value) other = getRemark remarks other
  overwritten : ∀ value', IsValue value' →
    marker ++ value <:+: insertRemark (insertRemark remarks marker value) marker value' →
    value <+: value'

/-- Behind each other marker there are two characters, or there is one that is a blank. -/
def OthersReadable (remarks marker : QString) : Prop :=
  ∀ other, IsMarker other → other ≠ marker → ∀ i, remarks.indexOf other = some i →
    2 ≤ (remarks.drop (i + other.length)).length ∨
    ∃ c, remarks.drop (i + other.length) = [c] ∧ QString.isSpace c = true

theorem appendRemark_append (remarks marker value : QString) :
    appendRemark remarks (marker ++ value) = appendRemark remarks marker ++ value := by
  unfold appendRemark
  split
  · rfl
  · rw [List.append_assoc, List.cons_append]

/-! ## The end of a value -/

/-- The length of a value behind its first character. -/
def cutLength : QString → ℕ
  | [] => 0
  | c :: s => if isNextMarker (c :: s) ∨ c = '/' then 0 else cutLength s + 1

theorem cutLength_cons (c : Char) (s : QString) :
    cutLength (c :: s) = if isNextMarker (c :: s) ∨ c = '/' then 0 else cutLength s + 1 := rfl

/-- The two searches end at the place where one of them finds something. -/
theorem min_findIdx (s : QString) :
    min (s.tails.findIdx isNextMarker) (s.findIdx (· == '/')) = cutLength s := by
  induction s with
  | nil => exact Nat.min_zero _
  | cons c s ih =>
    rw [List.tails_cons, List.findIdx_cons, List.findIdx_cons, cutLength]
    by_cases hmarker : isNextMarker (c :: s) = true
    · rw [hmarker]
      exact Nat.zero_min _
    · by_cases hslash : c = '/'
      · rw [if_pos (.inr hslash), beq_iff_eq.mpr hslash]
        exact Nat.min_zero _
      · rw [if_neg (not_or.mpr ⟨hmarker, hslash⟩), Bool.eq_false_iff.mpr hmarker,
          beq_eq_false_iff_ne.mpr hslash, ← ih]
        exact Nat.succ_min_succ _ _

theorem valueEnd_eq (remarks : QString) (f : ℕ) :
    valueEnd remarks f = f + 1 + cutLength (remarks.drop (f + 1)) := by
  unfold valueEnd
  rw [Nat.add_min_add_left, min_findIdx]

/-- The value at the beginning of a text. -/
def cut (tail : QString) : QString := tail.take (1 + cutLength (tail.drop 1))

/-- A remark, by what is behind the marker. -/
theorem getRemark_of_indexOf {remarks marker : QString} {i : ℕ}
    (h : remarks.indexOf marker = some i) :
    getRemark remarks marker =
      if (remarks.drop (i + marker.length)).length ≤ 1 then []
      else (cut (remarks.drop (i + marker.length))).simplified := by
  have hlength : remarks.length ≤ i + marker.length + 1 ↔
      (remarks.drop (i + marker.length)).length ≤ 1 := by
    rw [List.length_drop]
    omega
  unfold getRemark cut
  rw [h]
  simp only [hlength]
  refine if_congr Iff.rfl rfl ?_
  rw [valueEnd_eq, List.drop_drop]
  congr 2
  omega

/-! ### Slashes and blanks -/

/-- A slash stops both runs of characters, so what is behind it is not looked at. -/
theorem isNextMarker_append_slash (s t : QString) :
    isNextMarker (s ++ '/' :: t) = isNextMarker (s ++ ['/']) := by
  -- Neither run of characters goes over the slash, so each is dropped in front of it.
  have hdrop (p : Char → Bool) (hp : p '/' = false) (s t : QString) :
      (s ++ '/' :: t).dropWhile p = s.dropWhile p ++ '/' :: t := by
    induction s with
    | nil =>
      rw [List.nil_append, List.dropWhile_cons_of_neg (by rw [hp]; exact Bool.false_ne_true)]
      rfl
    | cons c s ih =>
      rw [List.cons_append, List.dropWhile_cons, List.dropWhile_cons]
      split
      · exact ih
      · rfl
  have hend (t : QString) : (s ++ '/' :: t == []) = false ∧ (s ++ '/' :: t == ['\n']) = false := by
    constructor
    · exact beq_eq_false_iff_ne.mpr (List.append_ne_nil_of_right_ne_nil s (List.cons_ne_nil _ t))
    · refine beq_eq_false_iff_ne.mpr fun h => ?_
      have hmem : '/' ∈ ['\n'] := h ▸ List.mem_append_right s List.mem_cons_self
      exact nomatch hmem
  -- What is left starts with the slash in both texts, or with what both have in front of it.
  unfold isNextMarker
  rw [hdrop isBlank (by decide), hdrop isBlank (by decide), hdrop isWordChar (by decide),
    hdrop isWordChar (by decide), (hend t).2, (hend []).2]
  cases s with
  | nil => rfl
  | cons c s =>
    cases (List.dropWhile isWordChar (List.dropWhile isBlank (c :: s))) with
    | nil => rfl
    | cons d rest => rfl

/-- What is behind the end of a value makes no difference. -/
theorem cutLength_append_slash (s t : QString) :
    cutLength (s ++ '/' :: t) = cutLength (s ++ ['/']) ∧ cutLength (s ++ '/' :: t) ≤ s.length := by
  induction s with
  | nil =>
    exact ⟨rfl, le_refl 0⟩
  | cons c s ih =>
    have hmarker := isNextMarker_append_slash (c :: s) t
    rw [List.cons_append, List.cons_append] at hmarker ⊢
    rw [cutLength_cons, cutLength_cons, hmarker]
    split
    · exact ⟨rfl, Nat.zero_le _⟩
    · exact ⟨by rw [ih.1], Nat.succ_le_succ ih.2⟩

theorem isSpace_of_isBlank {c : Char} (h : isBlank c = true) : QString.isSpace c = true := by
  simp only [isBlank, Bool.or_eq_true, beq_iff_eq] at h
  rcases h with ((((rfl | rfl) | rfl) | rfl) | rfl) | rfl <;> decide

theorem not_isBlank_of_isWordChar {c : Char} (h : isWordChar c = true) : isBlank c = false := by
  refine Bool.eq_false_iff.mpr fun hblank => ?_
  simp only [isBlank, Bool.or_eq_true, beq_iff_eq] at hblank
  rcases hblank with ((((rfl | rfl) | rfl) | rfl) | rfl) | rfl <;> cases h

theorem isSpace_of_isWordChar {c : Char} (h : isWordChar c = true) : QString.isSpace c = false := by
  have hrange : 48 ≤ c.toNat ∧ c.toNat ≤ 122 := by
    change (decide (65 ≤ c.val ∧ c.val ≤ 90) || (decide (97 ≤ c.val) && decide (c.val ≤ 122))
      || c.isDigit || c == '_') = true at h
    simp only [Bool.or_eq_true, Bool.and_eq_true, decide_eq_true_eq, beq_iff_eq,
      Char.isDigit_iff_toNat] at h
    rcases h with ((h | h) | h) | rfl
    · exact ⟨le_trans (by decide) h.1, le_trans h.2 (by decide)⟩
    · exact ⟨le_trans (by decide) h.1, le_trans h.2 (by decide)⟩
    · exact ⟨le_trans (by decide) h.1, le_trans h.2 (by decide)⟩
    · decide
  unfold QString.isSpace
  simp only [Bool.or_eq_false_iff, Bool.and_eq_false_iff, beq_eq_false_iff_ne,
    decide_eq_false_iff_not]
  omega

/-- Without a slash in front of the next blank there is none behind a word. -/
theorem head_dropWhile_isWordChar {s : QString} (h : '/' ∉ s) {t : QString}
    (ht : t.head? ≠ some '/') (hstop : ∀ c ∈ t.head?, isWordChar c = false) :
    ((s ++ t).dropWhile isWordChar).head? ≠ some '/' := by
  induction s with
  | nil =>
    cases t with
    | nil => exact (Option.some_ne_none '/').symm
    | cons c t =>
      rw [List.nil_append, List.dropWhile_cons_of_neg (Bool.eq_false_iff.mp (hstop c rfl))]
      exact ht
  | cons c s ih =>
    rw [List.mem_cons, not_or] at h
    rw [List.cons_append, List.dropWhile_cons]
    split
    · exact ih h.2
    · exact fun hhead => h.1 (Option.some.inj hhead).symm

/-- A marker that begins at a text without slashes begins behind it, so all of it is blank. -/
theorem forall_isBlank_of_isNextMarker {s t : QString} (h : '/' ∉ s) (hne : s ≠ [])
    (ht : t.head? ≠ some '/') (hstop : ∀ c ∈ t.head?, isWordChar c = false)
    (hmarker : isNextMarker (s ++ t) = true) : ∀ c ∈ s, isBlank c = true := by
  by_contra hnot
  push Not at hnot
  rcases hnot with ⟨d, hd, hblank⟩
  -- up to a character that is no blank, and on from it
  have hdrop : ∃ rest, '/' ∉ rest ∧ rest ≠ [] ∧ (s ++ t).dropWhile isBlank = rest ++ t := by
    clear hmarker hne
    induction s with
    | nil => cases hd
    | cons c s ih =>
      rw [List.cons_append, List.dropWhile_cons]
      split
      case isTrue hc =>
        rcases List.mem_cons.mp hd with rfl | hmem
        · exact absurd hc hblank
        · exact ih (fun hmem => h (List.mem_cons_of_mem c hmem)) hmem
      case isFalse => exact ⟨c :: s, h, List.cons_ne_nil c s, rfl⟩
  rcases hdrop with ⟨rest, hrest, _, hrest'⟩
  have hhead := head_dropWhile_isWordChar hrest ht hstop
  have hnil : s ++ t ≠ [] := List.append_ne_nil_of_left_ne_nil hne t
  have hline : s ++ t ≠ ['\n'] := by
    intro heq
    have hmem : d ∈ ['\n'] := heq ▸ List.mem_append_left t hd
    exact hblank (List.mem_singleton.mp hmem ▸ by decide)
  simp only [isNextMarker, hrest', Bool.or_eq_true, Bool.and_eq_true, beq_iff_eq] at hmarker
  rcases hmarker with (⟨_, hslash⟩ | hempty) | hend
  · exact hhead hslash
  · exact hnil hempty
  · exact hline hend

/-- A value ends where there is no slash any more: at the end of the text, or at blanks in
    front of what does not go on with a word. -/
theorem cutLength_append_of_stop {s t : QString} (h : '/' ∉ s) (ht : t.head? ≠ some '/')
    (hstop : ∀ c ∈ t.head?, isWordChar c = false) (hzero : cutLength t = 0) :
    ∃ kept blanks, s = kept ++ blanks ∧ cutLength (s ++ t) = kept.length ∧
      ∀ c ∈ blanks, QString.isSpace c = true := by
  induction s with
  | nil => exact ⟨[], [], rfl, hzero, nofun⟩
  | cons c s ih =>
    by_cases hmarker : isNextMarker (c :: s ++ t) = true
    · refine ⟨[], c :: s, rfl, ?_, fun d hd => ?_⟩
      · rw [List.cons_append, cutLength_cons, if_pos (.inl hmarker), List.length_nil]
      · exact isSpace_of_isBlank
          (forall_isBlank_of_isNextMarker h (List.cons_ne_nil c s) ht hstop hmarker d hd)
    · rw [List.mem_cons, not_or] at h
      rcases ih h.2 with ⟨kept, blanks, hsplit, hlength, hblanks⟩
      refine ⟨c :: kept, blanks, by rw [hsplit, List.cons_append], ?_, hblanks⟩
      rw [List.cons_append] at hmarker ⊢
      rw [cutLength_cons, if_neg (not_or.mpr ⟨hmarker, Ne.symm h.1⟩), hlength, List.length_cons]

/-- A marker behind a blank. -/
theorem cutLength_blank_marker {word : QString} (hword : ∀ c ∈ word, isWordChar c = true)
    (t : QString) : cutLength (' ' :: (word ++ '/' :: t)) = 0 := by
  have hblank : (' ' :: (word ++ '/' :: t)).dropWhile isBlank = word ++ '/' :: t := by
    rw [List.dropWhile_cons_of_pos (by decide)]
    cases word with
    | nil => exact List.dropWhile_cons_of_neg (by decide)
    | cons c word =>
      refine List.dropWhile_cons_of_neg (Bool.eq_false_iff.mp ?_)
      exact not_isBlank_of_isWordChar (hword c List.mem_cons_self)
  have hslash : (word ++ '/' :: t).dropWhile isWordChar = '/' :: t := by
    rw [List.dropWhile_append_of_pos hword]
    exact List.dropWhile_cons_of_neg (by decide)
  have hmarker : isNextMarker (' ' :: (word ++ '/' :: t)) = true := by
    unfold isNextMarker
    rw [hblank, hslash]
    rfl
  rw [cutLength_cons, if_pos (.inl hmarker)]

/-- Without blanks and slashes a value goes on to what ends it. -/
theorem cutLength_value_append {value : QString} (h : IsValue value) {t : QString}
    (hzero : cutLength t = 0) : cutLength (value ++ t) = value.length := by
  induction value with
  | nil => exact hzero
  | cons c value ih =>
    rcases h c List.mem_cons_self with ⟨hspace, hslash⟩
    have hblank : isBlank c = false :=
      Bool.eq_false_iff.mpr fun hblank => Bool.eq_false_iff.mp hspace (isSpace_of_isBlank hblank)
    have hmarker : ¬ isNextMarker (c :: (value ++ t)) = true := by
      simp only [isNextMarker, List.head?_cons, Option.any_some, hblank, Bool.false_and,
        Bool.false_or, Bool.or_eq_true, beq_iff_eq]
      rintro (hnil | hline)
      · exact List.cons_ne_nil c _ hnil
      · rw [(List.cons.inj hline).1] at hspace
        cases hspace
    rw [List.cons_append, cutLength_cons, if_neg (not_or.mpr ⟨hmarker, hslash⟩),
      ih fun d hd => h d (List.mem_cons_of_mem c hd), List.length_cons]

/-! ### Values -/

theorem cut_cons (a : Char) (s : QString) : cut (a :: s) = a :: s.take (cutLength s) := by
  unfold cut
  rw [List.drop_succ_cons, List.drop_zero, Nat.add_comm, List.take_succ_cons]

/-- A value without slashes goes on to where it is stopped, with blanks left out. -/
theorem simplified_cut_of_stop {a : Char} {s t : QString} (h : '/' ∉ s) (ht : t.head? ≠ some '/')
    (hstop : ∀ c ∈ t.head?, isWordChar c = false) (hzero : cutLength t = 0) :
    (cut (a :: s ++ t)).simplified = QString.simplified (a :: s) := by
  rcases cutLength_append_of_stop h ht hstop hzero with ⟨kept, blanks, hsplit, hlength, hblanks⟩
  rw [List.cons_append, cut_cons, hlength]
  have htake : (s ++ t).take kept.length = kept := by
    rw [hsplit, List.append_assoc, List.take_left]
  rw [htake, hsplit]
  exact (QString.simplified_append_spaces (s := a :: kept) hblanks).symm

/-- A value with a slash in it ends there or in front of it. -/
theorem cut_append_of_slash {a : Char} {s : QString} (h : '/' ∈ s) (t : QString) :
    cut (a :: s ++ t) = cut (a :: s) := by
  rcases List.append_of_mem h with ⟨front, behind, rfl⟩
  have hall := cutLength_append_slash front (behind ++ t)
  have hpart := cutLength_append_slash front behind
  rw [List.cons_append, cut_cons, cut_cons, List.append_assoc, List.cons_append, hall.1, ← hpart.1]
  have hle : cutLength (front ++ '/' :: behind) ≤ front.length := hpart.2
  rw [List.take_append_of_le_length hle, List.take_append_of_le_length hle]

section Marker

variable {marker : QString} (hmarker : IsMarker marker)

include hmarker

theorem IsMarker.ne_nil : marker ≠ [] := by
  rcases hmarker.word with ⟨word, _, _, rfl⟩
  exact List.append_ne_nil_of_right_ne_nil word (List.cons_ne_nil _ _)

theorem IsMarker.blank_notMem : ' ' ∉ marker := by
  rcases hmarker.word with ⟨word, _, hword, rfl⟩
  intro hmem
  rcases List.mem_append.mp hmem with hmem | hmem
  · exact absurd (hword ' ' hmem) (by decide)
  · exact absurd (List.mem_singleton.mp hmem) (by decide)

theorem IsMarker.slash_mem : '/' ∈ marker := by
  rcases hmarker.word with ⟨word, _, _, rfl⟩
  exact List.mem_append_right word List.mem_cons_self

/-- A value is what it was when a marker is put behind it, if it has two characters. -/
theorem simplified_cut_append_marker {tail : QString} (hlength : 2 ≤ tail.length)
    (value : QString) :
    (cut (tail ++ ' ' :: (marker ++ value))).simplified = (cut tail).simplified := by
  rcases hmarker.word with ⟨word, _, hword, rfl⟩
  rw [List.append_assoc]
  cases tail with
  | nil => cases hlength
  | cons a s =>
    by_cases hslash : '/' ∈ s
    · rw [cut_append_of_slash hslash]
    · have hend := simplified_cut_of_stop (a := a) (t := []) hslash (Option.some_ne_none '/').symm
        (fun _ hc => absurd hc (Option.not_mem_none _)) rfl
      rw [List.append_nil] at hend
      rw [hend]
      refine simplified_cut_of_stop hslash (fun h => absurd (Option.some.inj h) (by decide)) ?_
        (cutLength_blank_marker hword value)
      intro c hc
      cases hc
      decide

/-- A single character in front of a marker is a value now. -/
theorem simplified_cut_singleton_append_marker (c : Char) (value : QString) :
    (cut ([c] ++ ' ' :: (marker ++ value))).simplified = QString.simplified [c] := by
  rcases hmarker.word with ⟨word, _, hword, rfl⟩
  rw [List.append_assoc, List.singleton_append, List.singleton_append, cut_cons,
    cutLength_blank_marker hword value, List.take_zero]

/-- Where there was no value, the word of the marker is one. -/
theorem simplified_cut_blank_marker (value : QString) :
    (cut (' ' :: (marker ++ value))).simplified ≠ [] := by
  rcases hmarker.word with ⟨word, hne, hword, rfl⟩
  have hspace (c : Char) (hc : c ∈ word) : QString.isSpace c = false :=
    isSpace_of_isWordChar (hword c hc)
  have hslash : '/' ∉ word := fun hmem => absurd (hword '/' hmem) (by decide)
  have hlength : cutLength (word ++ '/' :: value) = word.length := by
    refine cutLength_value_append (fun c hc => ⟨hspace c hc, fun h => hslash (h ▸ hc)⟩) ?_
    rw [cutLength_cons, if_pos (.inr rfl)]
  rw [List.append_assoc, List.singleton_append, cut_cons, hlength, List.take_left,
    QString.simplified_cons_space (by decide), QString.simplified_of_no_space hspace]
  exact hne

/-- A value is what it was if it has two characters or is a blank. -/
theorem value_kept_iff (tail value : QString) :
    (cut (tail ++ ' ' :: (marker ++ value))).simplified =
        (if tail.length ≤ 1 then [] else (cut tail).simplified) ↔
      2 ≤ tail.length ∨ ∃ c, tail = [c] ∧ QString.isSpace c = true := by
  -- The cases are those of the cut: nothing is behind the marker, one character, or more.
  rcases tail with _ | ⟨c, _ | ⟨d, tail⟩⟩
  · have hshort : ([] : QString).length ≤ 1 := by decide
    constructor
    · exact fun h => absurd h (simplified_cut_blank_marker hmarker value)
    · rintro (h | ⟨c, hc, _⟩)
      · exact absurd h (by omega)
      · exact absurd hc (List.cons_ne_nil c []).symm
  · have hshort : [c].length ≤ 1 := le_refl 1
    rw [simplified_cut_singleton_append_marker hmarker]
    constructor
    · intro h
      refine .inr ⟨c, rfl, ?_⟩
      by_contra hnot
      rw [QString.simplified_of_no_space fun d hd =>
        List.mem_singleton.mp hd ▸ Bool.eq_false_iff.mpr hnot] at h
      exact List.cons_ne_nil c [] h
    · rintro (h | ⟨d, hd, hspace⟩)
      · exact absurd h (by rw [List.length_singleton]; decide)
      · rcases (List.cons.inj hd).1 with rfl
        exact QString.simplified_cons_space hspace []
  · have hlength : 2 ≤ (c :: d :: tail).length := by
      simp only [List.length_cons]
      omega
    rw [if_neg (by omega), simplified_cut_append_marker hmarker hlength]
    exact ⟨fun _ => .inl hlength, fun _ => rfl⟩

/-! ## A marker that is new -/

section New

variable {remarks : QString} (hnew : ¬ marker <:+: remarks)

include hnew

theorem insertRemark_of_new (value : QString) :
    insertRemark remarks marker value = appendRemark remarks (marker ++ value) := by
  unfold insertRemark replaceRemark
  rw [(QString.indexOf_eq_none_iff hmarker.ne_nil).mpr hnew]

/-- The marker is found where it has been put. -/
theorem indexOf_appendRemark (value : QString) :
    ∃ i, (appendRemark remarks (marker ++ value)).indexOf marker = some i ∧
      i + marker.length = (appendRemark remarks marker).length := by
  unfold appendRemark
  cases remarks with
  | nil =>
    refine ⟨0, ?_, Nat.zero_add _⟩
    exact QString.indexOf_self_append hmarker.ne_nil value
  | cons c remarks =>
    refine ⟨0 + ((c :: remarks).length + 1), ?_, ?_⟩
    · rw [List.isEmpty_cons, if_neg Bool.false_ne_true,
        QString.indexOf_append_cons hmarker.ne_nil hmarker.blank_notMem hnew,
        QString.indexOf_self_append hmarker.ne_nil, Option.map_some]
    · simp only [List.isEmpty_cons, if_neg Bool.false_ne_true, List.length_append, List.length_cons]
      omega

/-- Reading what is written. -/
theorem getRemark_insertRemark_of_new {value : QString} (hvalue : IsValue value) :
    getRemark (insertRemark remarks marker value) marker =
      if value.length ≤ 1 then [] else value := by
  rcases indexOf_appendRemark hmarker hnew value with ⟨i, hindex, hlength⟩
  have htail : (appendRemark remarks (marker ++ value)).drop (i + marker.length) = value := by
    rw [hlength, appendRemark_append, List.drop_left]
  rw [insertRemark_of_new hmarker hnew, getRemark_of_indexOf hindex, htail]
  refine if_congr Iff.rfl rfl ?_
  have hcut : cut value = value := by
    cases value with
    | nil => rfl
    | cons c value =>
      have hlength := cutLength_value_append (t := [])
        (fun d hd => hvalue d (List.mem_cons_of_mem c hd)) rfl
      rw [List.append_nil] at hlength
      rw [cut_cons, hlength, List.take_length]
  rw [hcut, QString.simplified_of_no_space fun c hc => (hvalue c hc).1]

theorem readable_iff {value : QString} (hvalue : IsValue value) :
    getRemark (insertRemark remarks marker value) marker = value ↔ value.length ≠ 1 := by
  rw [getRemark_insertRemark_of_new hmarker hnew hvalue]
  split
  case isTrue hle =>
    rw [eq_comm, ← List.length_eq_zero_iff]
    omega
  case isFalse hgt =>
    refine ⟨fun _ hone => hgt hone.le, fun _ => rfl⟩

/-- What becomes of the other values: they have a marker behind them, which only those notice
    that had nothing behind their first character. -/
theorem insertRemark_others_iff (value : QString) :
    (∀ other, IsMarker other → other ≠ marker → other <:+: remarks →
      getRemark (insertRemark remarks marker value) other = getRemark remarks other) ↔
      OthersReadable remarks marker := by
  rw [insertRemark_of_new hmarker hnew]
  refine forall₃_congr fun other hother hne => ?_
  have hinside : other <:+: remarks ↔ ∃ i, remarks.indexOf other = some i := by
    rw [← not_iff_not, ← QString.indexOf_eq_none_iff hother.ne_nil, ← Option.ne_none_iff_exists']
    exact not_not.symm
  rw [hinside, forall_exists_index]
  refine forall₂_congr fun i hi => ?_
  have hle := QString.le_length_of_indexOf hother.ne_nil hi
  have hremarks : remarks ≠ [] := by
    rintro rfl
    have := List.length_pos_iff.mpr hother.ne_nil
    rw [List.length_nil] at hle
    omega
  have happend : appendRemark remarks (marker ++ value) = remarks ++ ' ' :: (marker ++ value) :=
    if_neg (by rwa [List.isEmpty_iff])
  -- behind the other marker there is what had been there, and the new marker
  obtain ⟨tail, htail⟩ : ∃ tail, remarks.drop (i + other.length) = tail := ⟨_, rfl⟩
  have htail' : (remarks ++ ' ' :: (marker ++ value)).drop (i + other.length)
      = tail ++ ' ' :: (marker ++ value) := by
    rw [List.drop_append_of_le_length hle, htail]
  have hlong : ¬ (tail ++ ' ' :: (marker ++ value)).length ≤ 1 := by
    have := List.length_pos_iff.mpr hmarker.ne_nil
    simp only [List.length_append, List.length_cons]
    omega
  rw [happend, getRemark_of_indexOf (QString.indexOf_append hother.ne_nil hi _),
    getRemark_of_indexOf hi, htail', htail, if_neg hlong]
  exact value_kept_iff hmarker tail value

/-- Writing again takes out the value and leaves the marker. -/
theorem insertRemark_twice {value : QString} (hvalue : IsValue value) (hlength : 2 ≤ value.length)
    (value' : QString) :
    insertRemark (insertRemark remarks marker value) marker value' =
      appendRemark remarks marker ++ ' ' :: (marker ++ value') := by
  rcases indexOf_appendRemark hmarker hnew value with ⟨i, hindex, hend⟩
  have hsplit := appendRemark_append remarks marker value
  -- The second write finds the first value and takes it to the end of the remarks.
  have hcut : cutLength (value.drop 1) = value.length - 1 := by
    have hdrop : IsValue (value.drop 1) := fun c hc => hvalue c (List.mem_of_mem_drop hc)
    have := cutLength_value_append (t := []) hdrop rfl
    rwa [List.append_nil, List.length_drop] at this
  have hvalueEnd :
      valueEnd (appendRemark remarks marker ++ value) (appendRemark remarks marker).length
      = (appendRemark remarks marker ++ value).length := by
    rw [valueEnd_eq, ← List.drop_drop, List.drop_left, List.length_append]
    omega
  have hlong : ¬ (appendRemark remarks marker ++ value).length
      ≤ (appendRemark remarks marker).length + 1 := by
    rw [List.length_append]
    omega
  rw [insertRemark_of_new hmarker hnew, insertRemark, replaceRemark, hindex]
  dsimp only
  rw [hend, hsplit, if_neg hlong, hvalueEnd, List.take_left, List.drop_length, List.append_nil]
  refine if_neg ?_
  rw [List.isEmpty_iff, ← List.length_eq_zero_iff]
  have := List.length_pos_iff.mpr hmarker.ne_nil
  omega

/-- The value does not stay: what has the marker and the value in it has them at its end. -/
theorem overwritten_of_new {value : QString} (hvalue : IsValue value)
    (hlength : value.length ≠ 1) {value' : QString} (hread : IsValue value')
    (hin : marker ++ value <:+: insertRemark (insertRemark remarks marker value) marker value') :
    value <+: value' := by
  by_cases hempty : value = []
  · exact hempty ▸ List.nil_prefix
  have hpos := List.length_pos_iff.mpr hempty
  -- The blank parts what was appended, so the infix is on one side of it.
  have hblank : ' ' ∉ marker ++ value := by
    intro hmem
    rcases List.mem_append.mp hmem with hmem | hmem
    · exact hmarker.blank_notMem hmem
    · exact absurd (hvalue ' ' hmem).1 (by decide)
  rw [insertRemark_twice hmarker hnew hvalue (by omega) value'] at hin
  rcases QString.infix_append_cons hblank hin with hbase | hlast
  · -- the marker alone is too short, and in front of it there is none
    exfalso
    unfold appendRemark at hbase
    split at hbase
    · have hle := hbase.length_le
      rw [List.length_append] at hle
      omega
    · rcases QString.infix_append_cons hblank hbase with hremarks | halone
      · exact hnew ((List.prefix_append marker value).isInfix.trans hremarks)
      · have hle := halone.length_le
        rw [List.length_append] at hle
        omega
  · rcases hlast with ⟨front, behind, hsplit⟩
    -- The slash is in the marker only, so the values start at the same place.
    rcases hmarker.word with ⟨word, _, hword, rfl⟩
    have hshape : front ++ word ++ '/' :: (value ++ behind) = word ++ '/' :: value' := by
      simpa only [List.append_assoc, List.cons_append, List.nil_append]
        using hsplit
    have hunique := QString.append_cons_inj_of_notMem
      (fun hmem => absurd (hword '/' hmem) (by decide)) (fun hmem => (hread '/' hmem).2 rfl) hshape
    exact ⟨behind, hunique.2⟩

end New

/-! ## A marker that is there -/

/-- With the marker in the text, what is read does not depend on what is written. -/
theorem value_unread_of_known {remarks : QString} (hin : marker <:+: remarks)
    (value value' : QString) :
    getRemark (insertRemark remarks marker value) marker =
      getRemark (insertRemark remarks marker value') marker := by
  obtain ⟨i, hindex⟩ : ∃ i, remarks.indexOf marker = some i := by
    refine Option.ne_none_iff_exists'.mp fun hnone => ?_
    exact (QString.indexOf_eq_none_iff hmarker.ne_nil).mp hnone hin
  have hle := QString.le_length_of_indexOf hmarker.ne_nil hindex
  have hpos := List.length_pos_iff.mpr hmarker.ne_nil
  unfold insertRemark replaceRemark
  rw [hindex]
  dsimp only
  by_cases hshort : remarks.length ≤ i + marker.length + 1
  · rw [if_pos hshort, if_pos hshort]
  rw [if_neg hshort, if_neg hshort]
  obtain ⟨rest, hrest⟩ :
      ∃ rest, remarks.drop (valueEnd remarks (i + marker.length)) = rest := ⟨_, rfl⟩
  have hfront : (remarks.take (i + marker.length)).length = i + marker.length :=
    List.length_take_of_le hle
  -- up to the marker everything stays, and behind it there is a slash before anything written
  have hread (v : QString) :
      getRemark (appendRemark (remarks.take (i + marker.length) ++ rest) (marker ++ v)) marker =
        (cut (rest ++ ' ' :: marker)).simplified := by
    have happend : appendRemark (remarks.take (i + marker.length) ++ rest) (marker ++ v) =
        remarks.take (i + marker.length) ++ (rest ++ ' ' :: (marker ++ v)) := by
      unfold appendRemark
      rw [if_neg, List.append_assoc]
      rw [List.isEmpty_iff, ← List.length_eq_zero_iff, List.length_append]
      omega
    have htail : (remarks.take (i + marker.length) ++ (rest ++ ' ' :: (marker ++ v))).drop
        (i + marker.length) = rest ++ ' ' :: (marker ++ v) := by
      rw [List.drop_append_of_le_length (le_of_eq hfront.symm),
        List.drop_eq_nil_of_le (le_of_eq hfront), List.nil_append]
    have hlong : ¬ (rest ++ ' ' :: (marker ++ v)).length ≤ 1 := by
      simp only [List.length_append, List.length_cons]
      omega
    rw [happend, getRemark_of_indexOf (QString.indexOf_append hmarker.ne_nil
      (QString.indexOf_take hmarker.ne_nil hindex) _), htail, if_neg hlong]
    cases rest with
    | nil =>
      exact congrArg _ (cut_append_of_slash hmarker.slash_mem v)
    | cons a rest =>
      have hslash : '/' ∈ rest ++ ' ' :: marker :=
        List.mem_append_right rest (List.mem_cons_of_mem ' ' hmarker.slash_mem)
      have hcut := cut_append_of_slash (a := a) hslash v
      rw [List.cons_append, List.append_assoc] at hcut
      exact congrArg _ hcut
  rw [hrest, hread, hread]

end Marker

/-- A text that ends in two characters behind its last slash. -/
theorem othersReadable_of_tail (front : QString) {tail : QString} (hslash : '/' ∉ tail)
    (hlength : 2 ≤ tail.length) (marker : QString) : OthersReadable (front ++ tail) marker := by
  intro other hother _ i hi
  refine Or.inl (le_trans hlength ?_)
  by_contra hshort
  have hsplit := QString.indexOf_eq_some hother.ne_nil hi
  generalize (front ++ tail).drop (i + other.length) = behind at hsplit hshort
  rcases hother.word with ⟨word, _, _, rfl⟩
  -- What is behind the other marker is shorter than the tail, so its slash is in the tail.
  have hends : '/' :: behind <:+ front ++ tail := by
    refine ⟨(front ++ tail).take i ++ word, Eq.trans ?_ hsplit.symm⟩
    simp
  have hin := List.suffix_of_suffix_length_le hends (List.suffix_append front tail)
    (by rw [List.length_cons]; omega)
  exact hslash (hin.subset List.mem_cons_self)

end NeoSwift.Aviation
