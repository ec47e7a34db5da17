import NeoSwift.Qt.Search

/-!
# The Words of a Text

A simplified text is its words with a blank between them. A text that is cut has the words of
its two parts, but for a word that the cut goes through. So what is behind a cut has the last
words of the text just where what is in front of it has the first ones.

## Main definitions

* `QString.words`: The words of a text.

## Theorems

* `words_append_cons`: Blanks divide the words.
* `words_trimmed`, `words_join`: Blanks around a text, and single ones.
* `words_drop_iff`: Where a cut leaves the words whole.
* `split_simplified`: The parts of a simplified text.
-/

namespace NeoSwift.QString

variable (s : QString)

/-- What is between the blanks. -/
def words : QStringList := (s.splitOnP isSpace).filter (fun word => word != [])

theorem simplified_eq_join : s.simplified = join s.words [' '] := rfl

@[simp] theorem words_nil : words [] = [] := rfl

/-- A blank divides the words in front of it and those behind. -/
theorem words_append_cons {c : Char} (hc : isSpace c = true) (s t : QString) :
    words (s ++ c :: t) = words s ++ words t := by
  rw [words, List.splitOnP_append_cons s t hc, List.filter_append]
  rfl

theorem words_cons {c : Char} (hc : isSpace c = true) (s : QString) : words (c :: s) = words s :=
  words_append_cons hc [] s

theorem words_concat {c : Char} (hc : isSpace c = true) (s : QString) :
    words (s ++ [c]) = words s := by
  rw [words_append_cons hc, words_nil, List.append_nil]

theorem words_eq_singleton {word : QString} (hne : word ≠ [])
    (h : ∀ c ∈ word, isSpace c = false) : words word = [word] := by
  rw [words, List.splitOnP_eq_singleton h]
  exact List.filter_cons_of_pos (bne_iff_ne.mpr hne)

theorem words_of_no_space {s : QString} (h : ∀ c ∈ s, isSpace c = false) :
    words s = if s = [] then [] else [s] := by
  split_ifs with hs
  · rw [hs, words_nil]
  · exact words_eq_singleton hs h

/-- A text without blanks, or one with a text without blanks in front of the first blank. -/
theorem words_induction {P : QString → Prop} (hword : ∀ s, (∀ c ∈ s, isSpace c = false) → P s)
    (hcons : ∀ s c t, (∀ c ∈ s, isSpace c = false) → isSpace c = true → P t → P (s ++ c :: t))
    (s : QString) : P s := by
  induction h : s.length using Nat.strong_induction_on generalizing s with
  | _ n ih =>
    have hfront : ∀ c ∈ s.takeWhile (fun c => !isSpace c), isSpace c = false := fun c hc => by
      simpa only [Bool.not_eq_true'] using List.mem_takeWhile_imp hc
    have hsplit := List.takeWhile_append_dropWhile (p := fun c => !isSpace c) (l := s)
    -- By the length: what is behind the first blank is shorter.
    cases hrest : s.dropWhile (fun c => !isSpace c) with
    | nil =>
      rw [hrest, List.append_nil] at hsplit
      exact hword s (hsplit ▸ hfront)
    | cons c t =>
      have hc : isSpace c = true := by
        have hhead := List.head?_dropWhile_not (fun c => !isSpace c) s
        rw [hrest] at hhead
        simpa using hhead
      rw [hrest] at hsplit
      rw [← hsplit]
      have hlength := congrArg List.length hsplit
      rw [List.length_append, List.length_cons] at hlength
      exact hcons _ c t hfront hc (ih t.length (by omega) t rfl)

/-- Words are not empty and have no blanks. -/
theorem of_mem_words {s word : QString} (h : word ∈ words s) :
    word ≠ [] ∧ ∀ c ∈ word, isSpace c = false := by
  induction s using words_induction with
  | hword s hs =>
    rw [words_of_no_space hs] at h
    split_ifs at h with hne
    · cases h
    · exact List.mem_singleton.mp h ▸ ⟨hne, hs⟩
  | hcons s c t hs hc ih =>
    rw [words_append_cons hc, List.mem_append] at h
    rcases h with hfirst | hrest
    · rw [words_of_no_space hs] at hfirst
      split_ifs at hfirst with hne
      · cases hfirst
      · exact List.mem_singleton.mp hfirst ▸ ⟨hne, hs⟩
    · exact ih hrest

/-- What a text ends with goes on in what follows it. -/
theorem words_append_left : ∃ front last, (∀ c ∈ last, isSpace c = false) ∧
    ∀ t, words (s ++ t) = front ++ words (last ++ t) := by
  induction s using List.reverseRecOn with
  | nil => exact ⟨[], [], nofun, fun t => rfl⟩
  | append_singleton s c ih =>
    by_cases hc : isSpace c = true
    · refine ⟨words s, [], nofun, fun t => ?_⟩
      rw [List.append_assoc, List.singleton_append, words_append_cons hc, List.nil_append]
    · rcases ih with ⟨front, last, hlast, hwords⟩
      refine ⟨front, last ++ [c], fun d hd => ?_, fun t => ?_⟩
      · rcases List.mem_append.mp hd with hd | hd
        · exact hlast d hd
        · rw [List.mem_singleton.mp hd]
          exact Bool.not_eq_true _ ▸ hc
      · rw [List.append_assoc, hwords, List.append_assoc]

/-- What a text begins with goes on from what is in front of it. -/
theorem words_append_right (t : QString) : ∃ first rest, (∀ c ∈ first, isSpace c = false) ∧
    ∀ s, words (s ++ t) = words (s ++ first) ++ rest := by
  induction t with
  | nil => exact ⟨[], [], nofun, fun s => (List.append_nil _).symm⟩
  | cons c t ih =>
    by_cases hc : isSpace c = true
    · refine ⟨[], words t, nofun, fun s => ?_⟩
      rw [words_append_cons hc, List.append_nil]
    · rcases ih with ⟨first, rest, hfirst, hwords⟩
      refine ⟨c :: first, rest, fun d hd => ?_, fun s => ?_⟩
      · rcases List.mem_cons.mp hd with rfl | hd
        · exact Bool.not_eq_true _ ▸ hc
        · exact hfirst d hd
      · rw [List.append_cons, hwords, ← List.append_cons]

/-- The front of a list is what is in front of its rest. -/
theorem eq_drop_iff_of_append {l u v : QStringList} (h : l = u ++ v) {i : ℕ}
    (hi : i ≤ l.length) : v = l.drop i ↔ u = l.take i := by
  have hlength := congrArg List.length h
  rw [List.length_append] at hlength
  constructor
  · intro hv
    have hlen := congrArg List.length hv
    rw [List.length_drop] at hlen
    rw [h, List.take_left' (by omega)]
  · intro hu
    have hlen := congrArg List.length hu
    rw [List.length_take] at hlen
    rw [h, List.drop_left' (by omega)]

/-- Behind a cut are the last words where the first words are in front of it. -/
theorem words_drop_iff {s : QString} (k : ℕ) {i : ℕ} (hi : i < s.words.length) :
    words (s.drop k) = s.words.drop i ↔ words (s.take k) = s.words.take i := by
  rcases words_append_left (s.take k) with ⟨front, last, hlast, hleft⟩
  rcases words_append_right (s.drop k) with ⟨first, rest, hfirst, hright⟩
  have hwords : s.words = front ++ words (last ++ first) ++ rest := by
    conv_lhs => rw [← List.take_append_drop k s]
    rw [hright, hleft]
  have htake : words (s.take k) = front ++ words last := by
    have h := hleft []
    rwa [List.append_nil, List.append_nil] at h
  have hdrop : words (s.drop k) = words first ++ rest := hright []
  have hboth : ∀ c ∈ last ++ first, isSpace c = false := fun c hc =>
    (List.mem_append.mp hc).elim (hlast c) (hfirst c)
  by_cases hcut : last = [] ∨ first = []
  · -- The cut goes through no word.
    refine eq_drop_iff_of_append ?_ hi.le
    rw [hwords, htake, hdrop]
    rcases hcut with rfl | rfl
    · rw [words_nil, List.append_nil, List.nil_append, List.append_assoc]
    · rw [words_nil, List.nil_append, List.append_nil]
  · push Not at hcut
    have hwhole : last ++ first ≠ [] := List.append_ne_nil_of_left_ne_nil hcut.1 first
    rw [words_eq_singleton hwhole hboth, List.append_assoc] at hwords
    rw [htake, hdrop, words_eq_singleton hcut.1 hlast, words_eq_singleton hcut.2 hfirst, hwords]
    rw [hwords] at hi
    simp only [List.length_append, List.length_cons, List.length_nil] at hi
    refine iff_of_false (fun h => ?_) (fun h => ?_)
    · have hlen := congrArg List.length h
      simp only [List.length_append, List.length_drop, List.length_cons] at hlen
      obtain rfl : i = front.length := by omega
      rw [List.drop_left, List.singleton_append, List.singleton_append, List.cons.injEq] at h
      exact hcut.1 (List.self_eq_append_left.mp h.1)
    · have hlen := congrArg List.length h
      simp only [List.length_append, List.length_take, List.length_cons, List.length_nil] at hlen
      obtain rfl : i = front.length + 1 := by omega
      rw [List.take_append, List.take_of_length_le (by omega), Nat.add_sub_cancel_left] at h
      have hword := List.append_cancel_left h
      rw [List.singleton_append, List.take_succ_cons, List.cons.injEq] at hword
      exact hcut.2 (List.self_eq_append_right.mp hword.1)

/-! ## Texts with few blanks -/

theorem words_dropWhile : words (s.dropWhile isSpace) = words s := by
  induction s with
  | nil => rfl
  | cons c s ih =>
    rw [List.dropWhile_cons]
    split_ifs with hc
    · rw [ih, words_cons hc]
    · rfl

theorem words_rdropWhile : words (s.rdropWhile isSpace) = words s := by
  induction s using List.reverseRecOn with
  | nil => rfl
  | append_singleton s c ih =>
    rw [List.rdropWhile_concat]
    split_ifs with hc
    · rw [ih, words_concat hc]
    · rfl

@[simp] theorem words_trimmed : words s.trimmed = words s := by
  rw [trimmed, words_rdropWhile, words_dropWhile]

theorem words_join {parts : QStringList} (hne : ∀ w ∈ parts, w ≠ [])
    (hspace : ∀ w ∈ parts, ∀ c ∈ w, isSpace c = false) : words (join parts [' ']) = parts := by
  induction parts with
  | nil => rfl
  | cons word parts ih =>
    have hword := words_eq_singleton (hne word List.mem_cons_self) (hspace word List.mem_cons_self)
    cases parts with
    | nil =>
      rw [join, List.intercalate_singleton]
      exact hword
    | cons next parts =>
      rw [join, List.intercalate_cons_cons, List.append_assoc, List.singleton_append,
        words_append_cons (by decide), hword]
      exact congrArg (word :: ·) (ih (fun w hw => hne w (List.mem_cons_of_mem word hw))
        (fun w hw => hspace w (List.mem_cons_of_mem word hw)))

/-- Words with a blank between them are left alone. -/
theorem simplified_join {parts : QStringList} (hne : ∀ w ∈ parts, w ≠ [])
    (hspace : ∀ w ∈ parts, ∀ c ∈ w, isSpace c = false) :
    (join parts [' ']).simplified = join parts [' '] := by
  rw [simplified_eq_join, words_join hne hspace]

theorem words_join_drop (i : ℕ) : words (join (s.words.drop i) [' ']) = s.words.drop i :=
  words_join (fun _ hw => (of_mem_words (List.mem_of_mem_drop hw)).1)
    (fun _ hw => (of_mem_words (List.mem_of_mem_drop hw)).2)

/-- A simplified text has the words of the text. -/
@[simp] theorem words_simplified : words s.simplified = words s :=
  words_join_drop s 0

theorem simplified_trimmed : s.trimmed.simplified = s.simplified := by
  rw [simplified_eq_join, simplified_eq_join, words_trimmed]

/-- Texts with the same words are the same when they are simplified. -/
theorem simplified_eq_iff (s t : QString) : s.simplified = t.simplified ↔ s.words = t.words := by
  constructor
  · intro h
    rw [← words_simplified s, h, words_simplified]
  · intro h
    rw [simplified_eq_join, simplified_eq_join, h]

theorem simplified_eq_nil_iff : s.simplified = [] ↔ s.words = [] := by
  rw [show ([] : QString) = QString.simplified [] from rfl, simplified_eq_iff, words_nil]

/-- The parts of a simplified text. -/
theorem split_simplified {s : QString} (h : s.words ≠ []) : split s.simplified ' ' = s.words :=
  split_join h fun _ hw hmem =>
    absurd ((of_mem_words hw).2 ' ' hmem) (by decide)

end NeoSwift.QString
