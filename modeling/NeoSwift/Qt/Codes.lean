import Mathlib.Data.Finset.Basic
import NeoSwift.Qt.Search

/-!
# Rows of Codes

A set of flags is written as a row of short codes, and read by asking for each code whether
the text contains it and then removing it. Removing a code joins what was in front of it with
what was behind it, so a reader of this kind can see codes that were never written. It does not
where no code begins another one and the first letter of a code stands nowhere but at the
beginning of codes: then each code of the row is found exactly where it was written.

## Main definitions

* `Recognisable`: Codes that are found where they were written.
* `row`: Flags as a text.
* `appendFlagIfExist`: One flag looked for in a text.

## Theorems

* `contains_row`, `remove_row`: A code in a row.
* `foldl_appendFlagIfExist`: All flags looked for, one after the other.
-/

namespace NeoSwift

namespace QString

theorem contains_eq_true_iff {s part : QString} : s.contains part = true ↔ part <:+: s := by
  rw [contains, List.any_eq_true, List.infix_iff_prefix_suffix]
  refine exists_congr fun t => ?_
  rw [List.mem_tails, List.isPrefixOf_iff_prefix, and_comm]

theorem remove_cons (s : QString) (c : Char) (part : QString) :
    remove s (c :: part) = removeFrom id (c :: part) 0 s := if_neg (List.cons_ne_nil c part)

/-- Inside a part that begins there, everything is left out. -/
theorem removeFrom_length (key : Char → Char) (part s t : QString) :
    removeFrom key part s.length (s ++ t) = removeFrom key part 0 t := by
  induction s with
  | nil => rfl
  | cons c s ih => exact ih

theorem removeFrom_of_prefix (c : Char) (part t : QString) :
    removeFrom id (c :: part) 0 (c :: part ++ t) = removeFrom id (c :: part) 0 t := by
  rw [List.cons_append, removeFrom, if_pos, List.length_cons, Nat.add_sub_cancel, removeFrom_length]
  rw [List.map_id, List.map_id]
  exact List.isPrefixOf_iff_prefix.mpr (List.prefix_append (c :: part) t)

theorem removeFrom_of_not_prefix {c d : Char} {part s : QString} (h : ¬ c :: part <+: d :: s) :
    removeFrom id (c :: part) 0 (d :: s) = d :: removeFrom id (c :: part) 0 s := by
  rw [removeFrom, if_neg]
  rw [List.map_id, List.map_id]
  exact fun hfront => h (List.isPrefixOf_iff_prefix.mp hfront)

/-- What does not have the first character of a part stays. -/
theorem removeFrom_append_of_notMem {c : Char} {part s : QString} (h : c ∉ s) (t : QString) :
    removeFrom id (c :: part) 0 (s ++ t) = s ++ removeFrom id (c :: part) 0 t := by
  induction s with
  | nil => rfl
  | cons d s ih =>
      rw [List.mem_cons, not_or] at h
      rw [List.cons_append, removeFrom_of_not_prefix, ih h.2, List.cons_append]
      exact fun hfront => h.1 (List.cons_prefix_cons.mp hfront).1

theorem remove_of_notMem {c : Char} {part s : QString} (h : c ∉ s) : remove s (c :: part) = s := by
  have hall := @removeFrom_append_of_notMem c part s h []
  rw [List.append_nil] at hall
  rw [remove_cons, hall]
  exact List.append_nil s

theorem infix_append_of_notMem {c : Char} {part s t : QString} (h : c ∉ s) :
    c :: part <:+: s ++ t ↔ c :: part <:+: t := by
  induction s with
  | nil => rfl
  | cons d s ih =>
      rw [List.mem_cons, not_or] at h
      rw [List.cons_append, List.infix_cons_iff, ih h.2, or_iff_right]
      exact fun hfront => h.1 (List.cons_prefix_cons.mp hfront).1

end QString

namespace Codes

open QString

variable {F : Type}

/-- No code begins another one, and the letter a code begins with is not inside a code. -/
structure Recognisable (text : F → QString) : Prop where
  ne_nil : ∀ f, text f ≠ []
  prefix_free : ∀ f g, text f <+: text g → f = g
  head_notMem_tail : ∀ f g, ∀ c ∈ (text f).head?, c ∉ (text g).tail

/-- The codes of flags, one behind the other. -/
def row (text : F → QString) (flags : List F) : QString := flags.flatMap text

theorem row_cons (text : F → QString) (f : F) (flags : List F) :
    row text (f :: flags) = text f ++ row text flags := List.flatMap_cons

theorem join_map_nil (text : F → QString) (flags : List F) :
    join (flags.map text) [] = row text flags := by
  rw [join, row, List.flatMap_def]
  induction flags with
  | nil => rfl
  | cons f flags ih =>
      cases flags with
      | nil => rw [List.map_singleton, List.intercalate_singleton, List.flatten_singleton]
      | cons g flags =>
          rw [List.map_cons, List.flatten_cons, ← ih, List.map_cons,
            List.intercalate_cons_cons, List.append_nil]

variable {text : F → QString} (hcodes : Recognisable text)

include hcodes

theorem row_ne_nil {flags : List F} (h : flags ≠ []) : row text flags ≠ [] := by
  cases flags with
  | nil => exact absurd rfl h
  | cons f flags =>
      exact List.append_ne_nil_of_left_ne_nil (hcodes.ne_nil f) _

/-- Two codes at the beginning of a text are one. -/
theorem prefix_append_iff {f g : F} {t : QString} : text f <+: text g ++ t ↔ f = g := by
  constructor
  · intro h
    rcases List.prefix_or_prefix_of_prefix h (List.prefix_append (text g) t) with hfg | hgf
    · exact hcodes.prefix_free f g hfg
    · exact (hcodes.prefix_free g f hgf).symm
  · rintro rfl
    exact List.prefix_append (text f) t

theorem contains_row (f : F) (flags : List F) :
    (row text flags).contains (text f) = true ↔ f ∈ flags := by
  rw [contains_eq_true_iff]
  induction flags with
  | nil =>
      rw [row, List.flatMap_nil, List.infix_nil]
      exact ⟨fun h => absurd h (hcodes.ne_nil f), fun h => absurd h List.not_mem_nil⟩
  | cons g flags ih =>
      have hfront := prefix_append_iff hcodes (f := f) (g := g) (t := row text flags)
      have htail := hcodes.head_notMem_tail f g
      rw [row_cons, List.mem_cons, ← ih]
      cases hg : text g with
      | nil => exact absurd hg (hcodes.ne_nil g)
      | cons d w =>
          cases hf : text f with
          | nil => exact absurd hf (hcodes.ne_nil f)
          | cons c v =>
              -- An occurrence begins with the code itself or behind it, never inside.
              rw [hf, hg, List.tail_cons] at htail
              rw [hf, hg] at hfront
              rw [List.cons_append] at hfront ⊢
              rw [List.infix_cons_iff, hfront, infix_append_of_notMem (htail c rfl)]

variable [DecidableEq F]

theorem remove_row (f : F) (flags : List F) :
    remove (row text flags) (text f) = row text (flags.filter (· ≠ f)) := by
  cases hf : text f with
  | nil => exact absurd hf (hcodes.ne_nil f)
  | cons c v =>
      rw [remove_cons]
      induction flags with
      | nil => rfl
      -- No code is in the middle of another, so only the code itself is cut out.
      | cons g flags ih =>
          have htail := hcodes.head_notMem_tail f g c (by rw [hf]; rfl)
          rw [row_cons]
          by_cases hgf : g = f
          · subst hgf
            rw [hf, removeFrom_of_prefix, ih,
              List.filter_cons_of_neg (by rw [decide_eq_true_iff]; exact fun h => h rfl)]
          · -- Another code is passed over: the one looked for does not start in it.
            have hfront := mt (prefix_append_iff hcodes (t := row text flags)).mp (Ne.symm hgf)
            have hkept : decide (g ≠ f) = true := decide_eq_true hgf
            rw [List.filter_cons, if_pos hkept, row_cons]
            rw [hf] at hfront
            cases hg : text g with
            | nil => exact absurd hg (hcodes.ne_nil g)
            | cons d w =>
                rw [hg, List.tail_cons] at htail
                rw [hg, List.cons_append] at hfront
                rw [List.cons_append, removeFrom_of_not_prefix hfront,
                  removeFrom_append_of_notMem htail, ih, List.cons_append]

omit hcodes

/-- A flag is set where the text has its code, which is then removed. -/
def appendFlagIfExist (flagToString : F → QString) (state : QString × Finset F) (flag : F) :
    QString × Finset F :=
  if state.1.contains (flagToString flag) then
    (state.1.remove (flagToString flag), insert flag state.2)
  else state

/-- Where no flag was found the text is as it was. -/
theorem foldl_appendFlagIfExist_eq_empty {flagToString : F → QString} {order : List F}
    {state : QString × Finset F} (h : (order.foldl (appendFlagIfExist flagToString) state).2 = ∅) :
    order.foldl (appendFlagIfExist flagToString) state = state := by
  induction order generalizing state with
  | nil => rfl
  | cons f order ih =>
      rw [List.foldl_cons] at h ⊢
      have hsame := ih h
      rw [hsame] at h ⊢
      by_cases hfound : state.1.contains (flagToString f) = true
      · -- The flag would be in the set.
        rw [appendFlagIfExist, if_pos hfound] at h
        exact absurd h (Finset.insert_ne_empty f state.2)
      · rw [appendFlagIfExist, if_neg hfound]

include hcodes

/-- What is left of a row when flags of one kind were looked for in it, and the flags found. -/
theorem foldl_appendFlagIfExist {E : Type} [DecidableEq E] {i : E → F}
    (hi : Function.Injective i) {flagToString : E → QString}
    (htext : ∀ f, flagToString f = text (i f)) (order : List E) (flags : List F)
    (found : Finset E) :
    (order.foldl (appendFlagIfExist flagToString) (row text flags, found)).1 =
        row text (flags.filter (· ∉ order.map i)) ∧
      ∀ f, f ∈ (order.foldl (appendFlagIfExist flagToString) (row text flags, found)).2 ↔
        f ∈ found ∨ f ∈ order ∧ i f ∈ flags := by
  induction order generalizing flags found with
  | nil =>
      refine ⟨?_, fun f => ?_⟩
      · simp
      · simp
  | cons e order ih =>
      -- Looking for one flag takes it out of the row and puts it with those found.
      have hstep : appendFlagIfExist flagToString (row text flags, found) e =
          (row text (flags.filter (· ≠ i e)), if i e ∈ flags then insert e found else found) := by
        rw [appendFlagIfExist, htext]
        by_cases hmem : i e ∈ flags
        · rw [if_pos ((contains_row hcodes (i e) flags).mpr hmem), if_pos hmem]
          exact congrArg (·, insert e found) (remove_row hcodes (i e) flags)
        · rw [if_neg (mt (contains_row hcodes (i e) flags).mp hmem), if_neg hmem,
            List.filter_eq_self.mpr]
          exact fun g hg => decide_eq_true fun heq => hmem (heq ▸ hg)
      rw [List.foldl_cons, hstep]
      rcases ih (flags.filter (· ≠ i e)) (if i e ∈ flags then insert e found else found) with
          ⟨hrest, hfound⟩
      refine ⟨?_, fun f => ?_⟩
      · rw [hrest, List.filter_filter]
        refine congrArg (row text) (List.filter_congr fun g _ => ?_)
        simp [Bool.and_comm]
      · rw [hfound f, List.mem_filter, decide_eq_true_iff, hi.ne_iff]
        by_cases hmem : i e ∈ flags
        · rw [if_pos hmem]
          by_cases hfe : f = e
          · subst hfe
            simp [hmem]
          · simp [hfe]
        · rw [if_neg hmem]
          by_cases hfe : f = e
          · subst hfe
            simp [hmem]
          · simp [hfe]

end Codes

end NeoSwift
