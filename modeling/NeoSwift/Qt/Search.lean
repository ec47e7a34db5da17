import NeoSwift.Qt.Text

/-!
# Searching a Text

`QString::indexOf` for a part of a text, which is its first place. A place in the text is the
first one also in what begins with that text, and what has no separator is found behind the
separator if it is not found in front.

## Main definitions

* `QString.mid`: A number of characters from a place on.
* `QString.indexOf`: The first place of a part.

## Theorems

* `indexOf_eq_some`: What a place is.
* `indexOf_append`: A text and what begins with it.
* `indexOf_append_cons`: A text with a separator.
* `infix_append_cons`: Parts without the separator are on one side of it.
* `indexOf_sep`: The separator itself.
-/

namespace NeoSwift.QString

/-- `QStringView::mid`. -/
def mid (s : QString) (position n : ℕ) : QString := (s.drop position).take n

/-- `QString::indexOf`. -/
def indexOf (s part : QString) : Option ℕ := s.tails.findIdx? fun t => part.isPrefixOf t

variable {s part : QString}

theorem indexOf_nil (hne : part ≠ []) : indexOf [] part = none := by
  cases part with
  | nil => exact absurd rfl hne
  | cons c part => rfl

theorem indexOf_cons (c : Char) (s part : QString) :
    indexOf (c :: s) part = if part <+: c :: s then some 0 else (indexOf s part).map (· + 1) := by
  unfold indexOf
  rw [List.tails_cons, List.findIdx?_cons]
  by_cases h : part <+: c :: s
  · rw [if_pos h, if_pos (List.isPrefixOf_iff_prefix.mpr h)]
  · rw [if_neg h, if_neg (fun hbegins => h (List.isPrefixOf_iff_prefix.mp hbegins))]

/-- At its place the text is the part and what is behind. -/
theorem indexOf_eq_some (hne : part ≠ []) {i : ℕ} (h : indexOf s part = some i) :
    s = s.take i ++ part ++ s.drop (i + part.length) := by
  induction s generalizing i with
  | nil =>
    rw [indexOf_nil hne] at h
    cases h
  | cons c s ih =>
    rw [indexOf_cons] at h
    split at h
    case isTrue hbegins =>
      cases h
      rcases hbegins with ⟨rest, hrest⟩
      rw [← hrest, List.take_zero, Nat.zero_add, List.nil_append, List.drop_left]
    case isFalse =>
      rcases Option.map_eq_some_iff.mp h with ⟨j, hj, rfl⟩
      rw [Nat.succ_add]
      exact congrArg (c :: ·) (ih hj)

theorem le_length_of_indexOf (hne : part ≠ []) {i : ℕ} (h : indexOf s part = some i) :
    i + part.length ≤ s.length := by
  have hpos := List.length_pos_iff.mpr hne
  have hlength := congrArg List.length (indexOf_eq_some hne h)
  simp only [List.length_append, List.length_take] at hlength
  omega

theorem indexOf_eq_none_iff (hne : part ≠ []) : indexOf s part = none ↔ ¬ part <:+: s := by
  induction s with
  | nil =>
    rw [indexOf_nil hne, List.infix_nil]
    exact ⟨fun _ => hne, fun _ => rfl⟩
  | cons c s ih =>
    rw [indexOf_cons, List.infix_cons_iff]
    by_cases h : part <+: c :: s
    · rw [if_pos h]
      exact ⟨fun hnone => absurd hnone (Option.some_ne_none 0), fun hnot => absurd (.inl h) hnot⟩
    · rw [if_neg h, Option.map_eq_none_iff, ih]
      exact ⟨fun hnot hor => hor.elim h hnot, fun hnot hin => hnot (.inr hin)⟩

/-- What begins with a text has its parts where the text has them. -/
theorem indexOf_append (hne : part ≠ []) {i : ℕ} (h : indexOf s part = some i) (t : QString) :
    indexOf (s ++ t) part = some i := by
  induction s generalizing i with
  | nil =>
    rw [indexOf_nil hne] at h
    cases h
  | cons c s ih =>
    rw [indexOf_cons] at h
    rw [List.cons_append, indexOf_cons]
    split at h
    case isTrue hbegins =>
      cases h
      exact if_pos (hbegins.trans (List.prefix_append (c :: s) t))
    case isFalse hnot =>
      rcases Option.map_eq_some_iff.mp h with ⟨j, hj, rfl⟩
      have hlength := le_length_of_indexOf hne hj
      have hnot' : ¬ part <+: c :: (s ++ t) := fun hbegins =>
        hnot (List.prefix_of_prefix_length_le hbegins (List.prefix_append (c :: s) t)
          (by rw [List.length_cons]; omega))
      rw [if_neg hnot', ih hj]
      rfl

/-- A part is found where the text is cut off behind it. -/
theorem indexOf_take (hne : part ≠ []) {i : ℕ} (h : indexOf s part = some i) :
    indexOf (s.take (i + part.length)) part = some i := by
  have hle := le_length_of_indexOf hne h
  have hsplit := indexOf_eq_some hne h
  have htake : s.take (i + part.length) = s.take i ++ part := by
    have hlength : (s.take i ++ part).length = i + part.length := by
      rw [List.length_append, List.length_take, Nat.min_eq_left (by omega)]
    conv_lhs => rw [hsplit]
    rw [← hlength, List.take_left]
  cases hfound : indexOf (s.take (i + part.length)) part with
  | none =>
    refine absurd ?_ ((indexOf_eq_none_iff hne).mp hfound)
    rw [htake]
    exact (List.suffix_append (s.take i) part).isInfix
  | some j =>
    have hall := indexOf_append hne hfound (s.drop (i + part.length))
    rw [List.take_append_drop, h] at hall
    exact hall.symm

/-! ## Separators -/

/-- What begins before a separator and does not have it ends before it. -/
theorem prefix_of_prefix_append_cons {sep : Char} (hsep : sep ∉ part) {t : QString}
    (h : part <+: s ++ sep :: t) : part <+: s := by
  by_cases hlength : part.length ≤ s.length
  · exact List.prefix_of_prefix_length_le h (List.prefix_append s _) hlength
  · have hlonger := List.prefix_of_prefix_length_le
      (show s ++ [sep] <+: s ++ sep :: t from ⟨t, by rw [List.append_assoc]; rfl⟩) h
      (by rw [List.length_append, List.length_singleton]; omega)
    exact absurd (hlonger.subset (List.mem_append_right s List.mem_cons_self)) hsep

theorem infix_append_cons {sep : Char} (hsep : sep ∉ part) {t : QString}
    (h : part <:+: s ++ sep :: t) : part <:+: s ∨ part <:+: t := by
  induction s with
  | nil =>
    rw [List.nil_append, List.infix_cons_iff] at h
    rcases h with hbegins | hinside
    · have hnil := List.prefix_nil.mp (prefix_of_prefix_append_cons (s := []) hsep hbegins)
      exact .inl (hnil ▸ List.nil_infix)
    · exact .inr hinside
  | cons c s ih =>
    rw [List.cons_append, List.infix_cons_iff] at h
    rcases h with hbegins | hinside
    · exact .inl (prefix_of_prefix_append_cons (s := c :: s) hsep hbegins).isInfix
    · exact (ih hinside).imp_left fun hin => hin.trans (List.suffix_cons c s).isInfix

/-- A part that is not in front of the separator is searched for behind it. -/
theorem indexOf_append_cons (hne : part ≠ []) {sep : Char} (hsep : sep ∉ part)
    (hs : ¬ part <:+: s) (t : QString) :
    indexOf (s ++ sep :: t) part = (indexOf t part).map (· + (s.length + 1)) := by
  induction s with
  | nil =>
    have hnot : ¬ part <+: sep :: t := fun hbegins =>
      hne (List.prefix_nil.mp (prefix_of_prefix_append_cons (s := []) hsep hbegins))
    rw [List.nil_append, indexOf_cons, if_neg hnot]
    rfl
  | cons c s ih =>
    have hnot : ¬ part <+: c :: (s ++ sep :: t) := fun hbegins =>
      hs (prefix_of_prefix_append_cons (s := c :: s) hsep hbegins).isInfix
    rw [List.cons_append, indexOf_cons, if_neg hnot,
      ih fun hin => hs (hin.trans (List.suffix_cons c s).isInfix), Option.map_map]
    rfl

/-- A separator that is there once divides a text in one way. -/
theorem append_cons_inj_of_notMem {sep : Char} {s s' t t' : QString} (hs : sep ∉ s) (ht : sep ∉ t)
    (h : s' ++ sep :: t' = s ++ sep :: t) : s' = s ∧ t' = t := by
  rcases List.append_eq_append_iff.mp h with ⟨mid, hmid, hrest⟩ | ⟨mid, hmid, hrest⟩
  · cases mid with
    | nil => exact ⟨by rw [hmid, List.append_nil], (List.cons.inj hrest).2⟩
    | cons c mid =>
      rcases (List.cons.inj hrest).1 with rfl
      exact absurd (hmid ▸ List.mem_append_right s' List.mem_cons_self) hs
  · cases mid with
    | nil => exact ⟨by rw [hmid, List.append_nil], (List.cons.inj hrest).2.symm⟩
    | cons c mid =>
      have htail := (List.cons.inj hrest).2
      exact absurd (htail ▸ List.mem_append_right mid List.mem_cons_self) ht

/-- A separator that is not in front of it. -/
theorem indexOf_sep {sep : Char} (hs : sep ∉ s) (t : QString) :
    indexOf (s ++ sep :: t) [sep] = some s.length := by
  induction s with
  | nil =>
    have hfront : [sep] <+: sep :: t := List.prefix_append [sep] t
    rw [List.nil_append, indexOf_cons, if_pos hfront]
    rfl
  | cons c s ih =>
    rw [List.mem_cons, not_or] at hs
    rw [List.cons_append, indexOf_cons, if_neg fun h => hs.1 (List.cons_prefix_cons.mp h).1,
      ih hs.2]
    rfl

theorem indexOf_sep_eq_none {sep : Char} (hs : sep ∉ s) : indexOf s [sep] = none :=
  (indexOf_eq_none_iff (List.cons_ne_nil _ _)).mpr fun h => hs ((List.singleton_infix_iff _ _).mp h)

theorem indexOf_self_append (hne : part ≠ []) (t : QString) :
    indexOf (part ++ t) part = some 0 := by
  cases part with
  | nil => exact absurd rfl hne
  | cons c part =>
    rw [List.cons_append, indexOf_cons]
    exact if_pos (List.prefix_append (c :: part) t)

end NeoSwift.QString
