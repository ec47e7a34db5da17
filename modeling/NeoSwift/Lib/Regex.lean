import Mathlib.Data.List.Basic
import Mathlib.Data.List.Nodup
import Mathlib.Data.List.Infix

/-!
# Regular Expressions

Regular expressions with named groups, matched by backtracking as Perl does it. The ways to
match at the beginning of a text are listed in the order in which they are tried, and the
first of them is the match: of two alternatives the first one goes first, and what is
optional or repeated takes as much as it can.

A sequence matches first where each part matches first on what the part before it has left.
That is all there is to a match that needs no backtracking; that there is no match at all is
a matter of all ways.

A list of codes of one length has at most one way to match, and so has one of codes of which
none begins another; their order does not matter. It does not matter either for codes which
end at a separator, as what stops before it is passed over.

## Main definitions

* `Regex`: Regular expressions.
* `Regex.attempts`, `Regex.first`: The ways to match, and the match.
* `Regex.firstInto`: The match as seen by what comes behind it.
* `Regex.lit`, `Regex.chars`, `Regex.oneOf`: A text, characters of a kind, and a list of texts.
* `Regex.optionals`: Optional groups one behind the other, and a text behind them.
* `Captures.captured`: What a group has captured.

## Theorems

* `first_seq`, `first_opt`, `first_group`: The match of what is built up.
* `first_seq_of_firstInto`: The match where the first one of a part leads nowhere.
* `attempts_oneOf`, `attempts_oneOf_append`, `firstInto_oneOf`: The match of a list of codes.
* `first_optionals_zip`: Optional groups in a row.
* `attempts_optionals_of_stuck`: Where they cannot get through a text.
* `mem_names_of_mem`: Only the groups of an expression capture.
* `length_lt_of_first`: What cannot match nothing makes a text shorter.
-/

namespace NeoSwift

/-- Regular expressions with groups named by `ν`. A repetition is one of characters. -/
inductive Regex (ν : Type) where
  | char (p : Char → Bool)
  | empty
  | seq (r t : Regex ν)
  | alt (r t : Regex ν)
  | opt (r : Regex ν)
  | star (p : Char → Bool)
  | group (x : ν) (r : Regex ν)

/-- What the groups have captured, first ones first. -/
abbrev Captures (ν : Type) := List (ν × List Char)

/-- What a group has captured; nothing where it took no part. -/
def Captures.captured {ν : Type} [BEq ν] (captures : Captures ν) (x : ν) : List Char :=
  (captures.lookup x).getD []

namespace Regex

variable {ν : Type}

instance : Append (Regex ν) := ⟨.seq⟩

/-- What a repetition leaves, as much as possible taken first. -/
def starRests (p : Char → Bool) : List Char → List (List Char)
  | [] => [[]]
  | c :: s => if p c then starRests p s ++ [c :: s] else [c :: s]

/-- The ways to match at the beginning of a text, with what they leave of it. -/
def attempts : Regex ν → List Char → List (Captures ν × List Char)
  | .char _, [] => []
  | .char p, c :: s => if p c then [([], s)] else []
  | .empty, s => [([], s)]
  | .seq r t, s =>
      (r.attempts s).flatMap fun m => (t.attempts m.2).map fun n => (m.1 ++ n.1, n.2)
  | .alt r t, s => r.attempts s ++ t.attempts s
  | .opt r, s => r.attempts s ++ [([], s)]
  | .star p, s => (starRests p s).map fun rest => ([], rest)
  | .group x r, s =>
      (r.attempts s).map fun m => ((x, s.take (s.length - m.2.length)) :: m.1, m.2)

/-- The match at the beginning of a text. -/
def first (r : Regex ν) (s : List Char) : Option (Captures ν × List Char) := (r.attempts s).head?

/-- A text. -/
def lit : List Char → Regex ν
  | [] => .empty
  | c :: cs => .seq (.char (· == c)) (lit cs)

/-- `n` characters. -/
def chars (p : Char → Bool) : ℕ → Regex ν
  | 0 => .empty
  | n + 1 => .seq (.char p) (chars p n)

/-- One of some texts. -/
def oneOf : List (List Char) → Regex ν
  | [] => .char fun _ => false
  | code :: codes => .alt (lit code) (oneOf codes)

/-- Optional groups one behind the other, and a text behind them. -/
def optionals (last : List Char) : List (ν × List (List Char)) → Regex ν
  | [] => lit last
  | (x, codes) :: groups => .seq (.opt (.group x (oneOf codes))) (optionals last groups)

/-- The first way to match that leaves a text of a kind. -/
def firstInto (ok : List Char → Bool) (r : Regex ν) (s : List Char) :
    Option (Captures ν × List Char) :=
  (r.attempts s).find? fun m => ok m.2

/-- The groups of an expression. -/
def names : Regex ν → List ν
  | .char _ | .empty | .star _ => []
  | .seq r t | .alt r t => r.names ++ t.names
  | .opt r => r.names
  | .group x r => x :: r.names

/-- Whether an expression may match nothing. -/
def nullable : Regex ν → Bool
  | .char _ => false
  | .empty | .opt _ | .star _ => true
  | .seq r t => r.nullable && t.nullable
  | .alt r t => r.nullable || t.nullable
  | .group _ r => r.nullable

/-! ## Matches that need no backtracking -/

section First

variable {r t : Regex ν} {s s₁ s₂ : List Char} {c d : Captures ν}

theorem attempts_of_first (h : r.first s = some (c, s₁)) :
    ∃ others, r.attempts s = (c, s₁) :: others := List.head?_eq_some_iff.mp h

theorem first_eq_none : r.first s = none ↔ r.attempts s = [] := List.head?_eq_none_iff

theorem first_of_attempts (h : r.attempts s = [(c, s₁)]) : r.first s = some (c, s₁) := by
  unfold first
  rw [h, List.head?_cons]

theorem attempts_seq_of_attempts (hr : r.attempts s = [(c, s₁)]) :
    (r ++ t).attempts s = (t.attempts s₁).map fun n => (c ++ n.1, n.2) := by
  change (r.attempts s).flatMap _ = _
  rw [hr, List.flatMap_singleton]

theorem attempts_group {x : ν} {taken : List Char} (hr : r.attempts (taken ++ s) = [(c, s)]) :
    (Regex.group x r).attempts (taken ++ s) = [((x, taken) :: c, s)] := by
  change ((r.attempts (taken ++ s)).map _) = _
  rw [hr, List.map_singleton, List.length_append, Nat.add_sub_cancel, List.take_left]

theorem attempts_group_of_nil {x : ν} (hr : r.attempts s = []) :
    (Regex.group x r).attempts s = [] := by
  change ((r.attempts s).map _) = _
  rw [hr, List.map_nil]

theorem attempts_alt (r t : Regex ν) (s : List Char) :
    (Regex.alt r t).attempts s = r.attempts s ++ t.attempts s := rfl

theorem first_seq (hr : r.first s = some (c, s₁)) (ht : t.first s₁ = some (d, s₂)) :
    (r ++ t).first s = some (c ++ d, s₂) := by
  rcases attempts_of_first hr with ⟨others, hothers⟩
  rcases attempts_of_first ht with ⟨others', hothers'⟩
  change (((r.attempts s).flatMap _).head?) = _
  rw [hothers, List.flatMap_cons, hothers']
  rfl

/-- What cannot begin cannot be gone through. -/
theorem attempts_seq_of_left (hr : r.attempts s = []) : (r ++ t).attempts s = [] := by
  change (r.attempts s).flatMap _ = []
  rw [hr, List.flatMap_nil]

theorem attempts_seq_of_right (ht : ∀ m ∈ r.attempts s, t.attempts m.2 = []) :
    (r ++ t).attempts s = [] := by
  change (r.attempts s).flatMap _ = []
  rw [List.flatMap_eq_nil_iff]
  intro m hm
  rw [ht m hm, List.map_nil]

theorem first_alt_left (hr : r.first s = some (c, s₁)) :
    (Regex.alt r t).first s = some (c, s₁) := by
  rcases attempts_of_first hr with ⟨others, hothers⟩
  change ((r.attempts s ++ t.attempts s).head?) = _
  rw [hothers]
  rfl

theorem first_alt_right (hr : r.attempts s = []) : (Regex.alt r t).first s = t.first s := by
  change ((r.attempts s ++ t.attempts s).head?) = _
  rw [hr]
  rfl

theorem first_opt (hr : r.first s = some (c, s₁)) : (Regex.opt r).first s = some (c, s₁) := by
  rcases attempts_of_first hr with ⟨others, hothers⟩
  change ((r.attempts s ++ [([], s)]).head?) = _
  rw [hothers]
  rfl

theorem first_opt_skip (hr : r.attempts s = []) : (Regex.opt r).first s = some ([], s) := by
  change ((r.attempts s ++ [([], s)]).head?) = _
  rw [hr]
  rfl

/-- A group captures what is taken. -/
theorem first_group {x : ν} {taken : List Char} (hr : r.first (taken ++ s) = some (c, s)) :
    (Regex.group x r).first (taken ++ s) = some ((x, taken) :: c, s) := by
  rcases attempts_of_first hr with ⟨others, hothers⟩
  change (((r.attempts (taken ++ s)).map _).head?) = _
  rw [hothers, List.map_cons, List.head?_cons, List.length_append, Nat.add_sub_cancel,
    List.take_left]

theorem first_char {p : Char → Bool} {a : Char} (h : p a = true) :
    (Regex.char p : Regex ν).first (a :: s) = some ([], s) := by
  change ((if p a then [([], s)] else []).head?) = _
  rw [if_pos h]
  rfl

theorem attempts_char_of_not {p : Char → Bool} {a : Char} (h : p a = false) :
    (Regex.char p : Regex ν).attempts (a :: s) = [] := by
  change (if p a then [([], s)] else []) = _
  rw [if_neg (Bool.eq_false_iff.mp h)]

/-- A repetition takes all that it can. -/
theorem first_star {p : Char → Bool} {taken : List Char} (htaken : ∀ a ∈ taken, p a = true)
    (hs : ∀ a ∈ s.head?, p a = false) :
    (Regex.star p : Regex ν).first (taken ++ s) = some ([], s) := by
  -- The longest repetition is tried first, and nothing more can be taken behind it.
  have hrests : ∃ others, starRests p (taken ++ s) = s :: others := by
    induction taken with
    | nil =>
      cases s with
      | nil => exact ⟨[], rfl⟩
      | cons a s =>
        refine ⟨[], ?_⟩
        change (if p a then _ else _) = _
        rw [if_neg (Bool.eq_false_iff.mp (hs a rfl))]
    | cons a taken ih =>
      rcases ih fun b hb => htaken b (List.mem_cons_of_mem a hb) with ⟨others, hothers⟩
      refine ⟨others ++ [a :: (taken ++ s)], ?_⟩
      change (if p a then starRests p (taken ++ s) ++ [a :: (taken ++ s)] else _) = _
      rw [if_pos (htaken a List.mem_cons_self), hothers]
      rfl
  rcases hrests with ⟨others, hothers⟩
  change (((starRests p (taken ++ s)).map _).head?) = _
  rw [hothers]
  rfl

/-- What one or more characters leave. -/
theorem mem_starRests_of_mem {p : Char → Bool} {a : Char} {m : Captures ν × List Char}
    (hm : m ∈ (Regex.char p ++ Regex.star p).attempts (a :: s)) : m.2 ∈ starRests p s := by
  rcases List.mem_flatMap.mp hm with ⟨m₁, hm₁, hmap⟩
  rcases List.mem_map.mp hmap with ⟨m₂, hm₂, rfl⟩
  rcases List.mem_map.mp hm₂ with ⟨rest, hrest, rfl⟩
  change m₁ ∈ (if p a then [([], s)] else []) at hm₁
  split at hm₁
  · rw [List.mem_singleton.mp hm₁] at hrest
    exact hrest
  · cases hm₁

end First

/-! ## Texts and lists of texts -/

section Texts

variable {s : List Char}

theorem attempts_chars (p : Char → Bool) (n : ℕ) (s : List Char) :
    (chars p n : Regex ν).attempts s
      = if n ≤ s.length ∧ (s.take n).all p = true then [([], s.drop n)] else [] := by
  induction n generalizing s with
  | zero => rw [if_pos ⟨Nat.zero_le _, rfl⟩]; rfl
  | succ n ih =>
    cases s with
    | nil => rw [if_neg fun h => absurd h.1 (Nat.not_succ_le_zero n)]; rfl
    | cons a s =>
      change ((if p a then [([], s)] else []).flatMap _) = _
      simp only [List.length_cons, Nat.succ_le_succ_iff, List.take_succ_cons, List.all_cons,
        Bool.and_eq_true]
      by_cases ha : p a = true
      · rw [if_pos ha, List.flatMap_singleton, ih s]
        simp only [ha, true_and]
        split <;> rfl
      · rw [if_neg ha, List.flatMap_nil, if_neg fun h => ha h.2.1]

/-- Not enough characters of the kind. -/
theorem attempts_chars_of_stop {p : Char → Bool} {n : ℕ} {taken : List Char} {c : Char}
    (hlength : taken.length < n) (hc : p c = false) (s : List Char) :
    (chars p n : Regex ν).attempts (taken ++ c :: s) = [] := by
  rw [attempts_chars]
  refine if_neg fun h => ?_
  have hmem : c ∈ (taken ++ c :: s).take n := by
    rw [List.take_append, List.take_cons (by omega)]
    exact List.mem_append_right _ List.mem_cons_self
  rw [List.all_eq_true] at h
  exact Bool.eq_false_iff.mp hc (h.2 c hmem)

theorem attempts_chars_append {p : Char → Bool} {n : ℕ} {taken : List Char}
    (hlength : taken.length = n) (htaken : ∀ a ∈ taken, p a = true) (s : List Char) :
    (chars p n : Regex ν).attempts (taken ++ s) = [([], s)] := by
  rw [attempts_chars, ← hlength, List.take_left, List.drop_left]
  refine if_pos ⟨?_, List.all_eq_true.mpr htaken⟩
  rw [List.length_append]
  exact Nat.le_add_right _ _

theorem attempts_lit (code s : List Char) :
    (lit code : Regex ν).attempts s = if code.isPrefixOf s then [([], s.drop code.length)] else []
    := by
  induction code generalizing s with
  | nil => rfl
  | cons a code ih =>
    cases s with
    | nil => rfl
    | cons b s =>
      change ((if b == a then [([], s)] else []).flatMap _) = _
      have hcomm : (b == a) = (a == b) := Bool.beq_comm
      -- The characters are compared one by one, as the prefix is.
      cases hab : (a == b) with
      | true =>
        rw [hcomm, hab, if_pos rfl, List.flatMap_singleton, ih s]
        rw [show (a :: code).isPrefixOf (b :: s) = code.isPrefixOf s by
          rw [List.isPrefixOf_cons_cons, hab, Bool.true_and]]
        cases code.isPrefixOf s <;> rfl
      | false =>
        rw [hcomm, hab, if_neg Bool.false_ne_true, List.flatMap_nil,
          show (a :: code).isPrefixOf (b :: s) = false by
            rw [List.isPrefixOf_cons_cons, hab, Bool.false_and],
          if_neg Bool.false_ne_true]

theorem attempts_lit_of_ne {a c : Char} (h : c ≠ a) (code s : List Char) :
    (lit (a :: code) : Regex ν).attempts (c :: s) = [] := by
  rw [attempts_lit]
  refine if_neg ?_
  rw [List.isPrefixOf_cons_cons, beq_eq_false_iff_ne.mpr h.symm]
  exact Bool.false_ne_true

theorem first_lit (code s : List Char) : (lit code : Regex ν).first (code ++ s) = some ([], s) := by
  unfold first
  rw [attempts_lit, if_pos (List.isPrefixOf_iff_prefix.mpr (List.prefix_append code s)),
    List.drop_left]
  rfl

theorem attempts_oneOf_of_not {codes : List (List Char)} (h : ∀ code ∈ codes, ¬ code <+: s) :
    (oneOf codes : Regex ν).attempts s = [] := by
  induction codes with
  | nil => cases s <;> rfl
  | cons code codes ih =>
    change (lit code).attempts s ++ (oneOf codes).attempts s = _
    rw [attempts_lit, if_neg (mt List.isPrefixOf_iff_prefix.mp (h code List.mem_cons_self))]
    exact ih fun c hc => h c (List.mem_cons_of_mem code hc)

/-- Of codes of one length a text begins with at most one. -/
theorem attempts_oneOf {codes : List (List Char)} {n : ℕ}
    (hlength : ∀ code ∈ codes, code.length = n)
    (hnodup : codes.Nodup) (s : List Char) :
    (oneOf codes : Regex ν).attempts s = if s.take n ∈ codes then [([], s.drop n)] else [] := by
  induction codes with
  | nil =>
    cases s <;> rfl
  | cons code codes ih =>
    have hcode := hlength code List.mem_cons_self
    rw [List.nodup_cons] at hnodup
    change (lit code).attempts s ++ (oneOf codes).attempts s = _
    rw [ih (fun c hc => hlength c (List.mem_cons_of_mem code hc)) hnodup.2, attempts_lit]
    have hbegins : code.isPrefixOf s = true ↔ s.take n = code := by
      rw [List.isPrefixOf_iff_prefix, List.prefix_iff_eq_take, hcode]
      exact eq_comm
    by_cases htake : s.take n = code
    · rw [if_pos (hbegins.mpr htake), if_neg (htake ▸ hnodup.1),
        if_pos (htake ▸ List.mem_cons_self), hcode]
      rfl
    · rw [if_neg (mt hbegins.mp htake)]
      simp [htake]

/-- Of codes of which none begins another a text begins with at most one. -/
theorem attempts_oneOf_append {codes : List (List Char)} {code : List Char}
    (hfree : codes.Pairwise fun a b => ¬ a <+: b ∧ ¬ b <+: a) (hcode : code ∈ codes)
    (s : List Char) : (oneOf codes : Regex ν).attempts (code ++ s) = [([], s)] := by
  have hcode_prefix := List.prefix_append code s
  induction codes with
  | nil => cases hcode
  | cons a codes ih =>
    rw [List.pairwise_cons] at hfree
    change (lit a).attempts (code ++ s) ++ (oneOf codes).attempts (code ++ s) = _
    rw [attempts_lit]
    rcases List.mem_cons.mp hcode with rfl | hcode
    · -- what is behind the code in the list is not in front of the text
      have hrest : (oneOf codes : Regex ν).attempts (code ++ s) = [] := by
        have hlater : ∀ b ∈ codes, ¬ b <+: code ++ s := by
          intro b hb hbegins
          rcases List.prefix_or_prefix_of_prefix hcode_prefix hbegins with h | h
          · exact (hfree.1 b hb).1 h
          · exact (hfree.1 b hb).2 h
        exact attempts_oneOf_of_not hlater
      rw [if_pos (List.isPrefixOf_iff_prefix.mpr hcode_prefix), List.drop_left, hrest]
      rfl
    · -- What is in front of the code in the list is not in front of the text.
      have ha : ¬ a <+: code ++ s := by
        intro hbegins
        rcases List.prefix_or_prefix_of_prefix hcode_prefix hbegins with h | h
        · exact (hfree.1 code hcode).2 h
        · exact (hfree.1 code hcode).1 h
      rw [if_neg (mt List.isPrefixOf_iff_prefix.mp ha)]
      exact ih hfree.2 hcode

end Texts

/-! ## Optional groups in a row -/

section Optionals

variable {last : List Char} {groups : List (ν × List (List Char))} {x : ν}
  {codes : List (List Char)} {n : ℕ} {code s s₁ : List Char} {c : Captures ν}

theorem first_optionals_cons (hlength : ∀ code ∈ codes, code.length = n) (hnodup : codes.Nodup)
    (hcode : code ∈ codes) (h : (optionals last groups).first s = some (c, s₁)) :
    (optionals last ((x, codes) :: groups)).first (code ++ s) = some ((x, code) :: c, s₁) := by
  have hone : (oneOf codes : Regex ν).first (code ++ s) = some ([], s) := by
    unfold first
    rw [attempts_oneOf hlength hnodup, ← hlength code hcode, List.take_left, if_pos hcode,
      List.drop_left]
    rfl
  exact first_seq (first_opt (first_group hone)) h

/-- A group is left out where none of its codes is there. -/
theorem first_optionals_skip (hlength : ∀ code ∈ codes, code.length = n) (hnodup : codes.Nodup)
    (hcode : s.take n ∉ codes) :
    (optionals last ((x, codes) :: groups)).first s = (optionals last groups).first s := by
  unfold first
  change (((((oneOf codes).attempts s).map _ ++ [([], s)]).flatMap _).head?) = _
  rw [attempts_oneOf hlength hnodup, if_neg hcode, List.map_nil, List.nil_append,
    List.flatMap_singleton]
  change ((((optionals last groups).attempts s).map id).head?) = _
  rw [List.map_id]

/-- Groups with the same codes capture the codes in front of the text in their order. -/
theorem first_optionals_zip (hlength : ∀ code ∈ codes, code.length = n) (hnodup : codes.Nodup)
    (xs : List ν) (taken : List (List Char)) (hxs : taken.length ≤ xs.length)
    (htaken : ∀ code ∈ taken, code ∈ codes) (hlast : (last ++ s).take n ∉ codes) :
    (optionals last (xs.map fun x => (x, codes))).first (taken.flatten ++ (last ++ s))
      = some (xs.zip taken, s) := by
  induction xs generalizing taken with
  | nil =>
    rw [List.length_eq_zero_iff.mp (Nat.le_zero.mp hxs)]
    exact first_lit last s
  | cons x xs ih =>
    rw [List.map_cons]
    cases taken with
    | nil =>
      rw [List.flatten_nil, List.nil_append, first_optionals_skip hlength hnodup hlast]
      have hrest := ih [] (Nat.zero_le xs.length) htaken
      rw [List.flatten_nil, List.nil_append, List.zip_nil_right] at hrest
      rw [List.zip_nil_right, hrest]
    | cons code taken =>
      rw [List.flatten_cons, List.append_assoc]
      exact first_optionals_cons hlength hnodup (htaken code List.mem_cons_self)
        (ih taken (Nat.le_of_succ_le_succ hxs) fun c hc => htaken c (List.mem_cons_of_mem code hc))

/-- Codes of one length that are followed by something which is none of them are not gone
through, where no code can be mistaken for what is behind the groups. -/
theorem attempts_optionals_of_stuck (hlength : ∀ group ∈ groups, ∀ code ∈ group.2, code.length = n)
    (hnodup : ∀ group ∈ groups, group.2.Nodup) {taken : List (List Char)} {bad : List Char}
    (htaken : ∀ code ∈ taken, code.length = n ∧ ∀ rest, last.isPrefixOf (code ++ rest) = false)
    (hbad : ∀ group ∈ groups, bad.take n ∉ group.2) (hlast : last.isPrefixOf bad = false) :
    (optionals last groups).attempts (taken.flatten ++ bad) = [] := by
  induction groups generalizing taken with
  | nil =>
    unfold optionals
    rw [attempts_lit]
    refine if_neg ?_
    cases taken with
    | nil => exact Bool.eq_false_iff.mp hlast
    | cons code taken =>
      rw [List.flatten_cons, List.append_assoc]
      exact Bool.eq_false_iff.mp ((htaken code List.mem_cons_self).2 _)
  | cons group groups ih =>
    have ih' := @ih (fun g hg => hlength g (List.mem_cons_of_mem group hg))
      (fun g hg => hnodup g (List.mem_cons_of_mem group hg))
    have hrest := fun g hg => hbad g (List.mem_cons_of_mem group hg)
    refine attempts_seq_of_right fun m hm => ?_
    -- the group is left out, or it takes the code in front
    change m ∈ ((oneOf group.2).attempts _).map _ ++ [([], _)] at hm
    rw [attempts_oneOf (hlength group List.mem_cons_self) (hnodup group List.mem_cons_self),
      List.mem_append, List.mem_singleton] at hm
    rcases hm with hm | hm
    · cases taken with
      | nil =>
        rw [List.flatten_nil, List.nil_append, if_neg (hbad group List.mem_cons_self)] at hm
        cases hm
      | cons code taken =>
        have hcode := (htaken code List.mem_cons_self).1
        split at hm
        · rw [List.map_singleton, List.mem_singleton] at hm
          rw [hm]
          rw [List.flatten_cons, List.append_assoc, ← hcode, List.drop_left]
          exact ih' (fun c hc => htaken c (List.mem_cons_of_mem code hc)) hrest
        · cases hm
    · rw [hm]
      exact ih' htaken hrest

end Optionals

/-! ## Matches that need backtracking -/

section Backtracking

variable {r t : Regex ν} {ok : List Char → Bool} {s s₁ s₂ : List Char} {c d : Captures ν}

/-- What the second part cannot go on from is passed over. -/
theorem first_seq_of_firstInto (hr : r.firstInto ok s = some (c, s₁))
    (hok : ∀ s, ok s = false → t.attempts s = []) (ht : t.first s₁ = some (d, s₂)) :
    (r ++ t).first s = some (c ++ d, s₂) := by
  rcases List.find?_eq_some_iff_append.mp hr with ⟨_, dead, others, hattempts, hdead⟩
  rcases attempts_of_first ht with ⟨others', hothers'⟩
  have hnone : (dead.flatMap fun m => (t.attempts m.2).map fun n => (m.1 ++ n.1, n.2)) = [] := by
    rw [List.flatMap_eq_nil_iff]
    intro m hm
    rw [hok m.2 (by simpa only [Bool.not_eq_true'] using hdead m hm), List.map_nil]
  change (((r.attempts s).flatMap _).head?) = _
  rw [hattempts, List.flatMap_append, hnone, List.flatMap_cons, hothers']
  rfl

theorem firstInto_seq (hr : r.first s = some (c, s₁)) (ht : t.firstInto ok s₁ = some (d, s₂)) :
    (r ++ t).firstInto ok s = some (c ++ d, s₂) := by
  rcases attempts_of_first hr with ⟨others, hothers⟩
  change ((r.attempts s).flatMap _).find? _ = _
  rw [hothers, List.flatMap_cons, List.find?_append, List.find?_map]
  change ((t.firstInto ok s₁).map _).or _ = _
  rw [ht]
  rfl

theorem firstInto_opt (hr : r.firstInto ok s = some (c, s₁)) :
    (Regex.opt r).firstInto ok s = some (c, s₁) := by
  change (r.attempts s ++ [([], s)]).find? _ = _
  rw [List.find?_append]
  change (r.firstInto ok s).or _ = _
  rw [hr]
  rfl

theorem firstInto_opt_skip (hr : r.attempts s = []) (hok : ok s = true) :
    (Regex.opt r).firstInto ok s = some ([], s) := by
  change (r.attempts s ++ [([], s)]).find? _ = _
  rw [hr]
  exact List.find?_cons_of_pos hok

theorem firstInto_alt_left (hr : r.firstInto ok s = some (c, s₁)) :
    (Regex.alt r t).firstInto ok s = some (c, s₁) := by
  change (r.attempts s ++ t.attempts s).find? _ = _
  rw [List.find?_append]
  change (r.firstInto ok s).or _ = _
  rw [hr]
  rfl

theorem firstInto_alt_right (hr : r.attempts s = []) :
    (Regex.alt r t).firstInto ok s = t.firstInto ok s := by
  change (r.attempts s ++ t.attempts s).find? _ = _
  rw [hr]
  rfl

/-- Of codes which end at a separator the one that is there is found, whatever their order. -/
theorem firstInto_oneOf {codes : List (List Char)} {code : List Char} {sep : Char}
    (hsep : ∀ code ∈ codes, sep ∉ code) (hcode : code ∈ codes) (s : List Char) :
    (oneOf codes : Regex ν).firstInto (fun rest => rest.head? == some sep) (code ++ sep :: s)
      = some ([], sep :: s) := by
  induction codes with
  | nil => cases hcode
  | cons a codes ih =>
    have hcode_sep := hsep code hcode
    change ((lit a).attempts (code ++ sep :: s)
      ++ (oneOf codes).attempts (code ++ sep :: s)).find? _ = _
    rw [List.find?_append, attempts_lit]
    by_cases ha : a = code
    · rw [ha, if_pos (List.isPrefixOf_iff_prefix.mpr (List.prefix_append _ _)), List.drop_left,
        List.find?_cons_of_pos (by exact beq_self_eq_true _)]
      rfl
    · have hrest : (oneOf codes : Regex ν).firstInto (fun rest => rest.head? == some sep)
          (code ++ sep :: s) = some ([], sep :: s) :=
        ih (fun c hc => hsep c (List.mem_cons_of_mem a hc))
          ((List.mem_cons.mp hcode).resolve_left fun h => ha h.symm)
      split
      case isFalse => exact hrest
      case isTrue hbegins =>
        -- a code that is shorter stops before the separator
        have hshort : a <+: code := by
          rcases List.prefix_or_prefix_of_prefix (List.isPrefixOf_iff_prefix.mp hbegins)
            (List.prefix_append code (sep :: s)) with h | h
          · exact h
          · rcases h with ⟨tail, htail⟩
            cases tail with
            | nil => exact absurd (List.append_nil code ▸ htail).symm ha
            | cons b tail =>
              rcases List.isPrefixOf_iff_prefix.mp hbegins with ⟨rest, hrest⟩
              rw [← htail, List.append_assoc, List.append_cancel_left_eq, List.cons_append,
                List.cons.injEq] at hrest
              have hmem : sep ∈ a := by
                rw [← htail, ← hrest.1]
                exact List.mem_append_right _ List.mem_cons_self
              exact absurd hmem (hsep a List.mem_cons_self)
        rcases hshort with ⟨tail, htail⟩
        cases tail with
        | nil => exact absurd (List.append_nil a ▸ htail) ha
        | cons b tail =>
          have hb : b ≠ sep := by
            rintro rfl
            exact hcode_sep (htail ▸ List.mem_append_right _ List.mem_cons_self)
          rw [← htail, List.append_assoc, List.drop_left, List.find?_cons_of_neg]
          · rw [← List.append_assoc, htail]
            exact hrest
          · simpa only [List.cons_append, List.head?_cons, beq_iff_eq, Option.some.injEq] using hb

end Backtracking

variable {m : Captures ν × List Char}

/-- Only the groups of an expression capture. -/
theorem mem_names_of_mem {r : Regex ν} {s : List Char}
    (hm : m ∈ r.attempts s) : ∀ p ∈ m.1, p.1 ∈ r.names := by
  -- One case for each expression: only a group adds a name.
  induction r generalizing s m with
  | char p =>
    cases s with
    | nil => cases hm
    | cons a s =>
      change m ∈ (if p a then [([], s)] else []) at hm
      split at hm
      · rw [List.mem_singleton.mp hm]
        exact nofun
      · cases hm
  | empty =>
    rw [List.mem_singleton.mp hm]
    exact nofun
  | seq r t ihr iht =>
    rcases List.mem_flatMap.mp hm with ⟨m₁, hm₁, hmap⟩
    rcases List.mem_map.mp hmap with ⟨m₂, hm₂, rfl⟩
    intro p hp
    rcases List.mem_append.mp hp with hp | hp
    · exact List.mem_append_left _ (ihr hm₁ p hp)
    · exact List.mem_append_right _ (iht hm₂ p hp)
  | alt r t ihr iht =>
    intro p hp
    rcases List.mem_append.mp hm with hm | hm
    · exact List.mem_append_left _ (ihr hm p hp)
    · exact List.mem_append_right _ (iht hm p hp)
  | opt r ih =>
    rcases List.mem_append.mp hm with hm | hm
    · exact ih hm
    · rw [List.mem_singleton.mp hm]
      exact nofun
  | star p =>
    rcases List.mem_map.mp hm with ⟨rest, _, rfl⟩
    exact nofun
  | group x r ih =>
    rcases List.mem_map.mp hm with ⟨m', hm', rfl⟩
    intro p hp
    rcases List.mem_cons.mp hp with rfl | hp
    · exact List.mem_cons_self
    · exact List.mem_cons_of_mem x (ih hm' p hp)

/-! ## What a match leaves -/

theorem length_le_of_mem_starRests {p : Char → Bool} {s rest : List Char}
    (h : rest ∈ starRests p s) : rest.length ≤ s.length := by
  induction s with
  | nil => rw [List.mem_singleton.mp h]
  | cons a s ih =>
    have hall : rest ∈ starRests p s ∨ rest = a :: s := by
      unfold starRests at h
      split at h
      · exact (List.mem_append.mp h).imp id List.mem_singleton.mp
      · exact .inr (List.mem_singleton.mp h)
    rcases hall with hrest | rfl
    · exact (ih hrest).trans (Nat.le_succ _)
    · exact le_refl _

theorem length_le_of_mem_attempts {r : Regex ν} {s : List Char}
    (hm : m ∈ r.attempts s) : m.2.length ≤ s.length := by
  -- One case for each expression: what is left is a part of what was there.
  induction r generalizing s m with
  | char p =>
    cases s with
    | nil => cases hm
    | cons a s =>
      change m ∈ (if p a then [([], s)] else []) at hm
      split at hm
      · rw [List.mem_singleton.mp hm]
        exact Nat.le_succ _
      · cases hm
  | empty => rw [List.mem_singleton.mp hm]
  | seq r t ihr iht =>
    rcases List.mem_flatMap.mp hm with ⟨m₁, hm₁, hmap⟩
    rcases List.mem_map.mp hmap with ⟨m₂, hm₂, rfl⟩
    exact (iht hm₂).trans (ihr hm₁)
  | alt r t ihr iht => exact (List.mem_append.mp hm).elim ihr iht
  | opt r ih =>
    rcases List.mem_append.mp hm with hm | hm
    · exact ih hm
    · rw [List.mem_singleton.mp hm]
  | star p =>
    rcases List.mem_map.mp hm with ⟨rest, hrest, rfl⟩
    exact length_le_of_mem_starRests hrest
  | group x r ih =>
    rcases List.mem_map.mp hm with ⟨m', hm', rfl⟩
    exact ih (m := m') hm'

/-- What cannot match nothing takes a character on every way to match. -/
theorem length_lt_of_mem_attempts {r : Regex ν} (hr : r.nullable = false) {s : List Char}
    (hm : m ∈ r.attempts s) : m.2.length < s.length := by
  induction r generalizing s m with
  | char p =>
    cases s with
    | nil => cases hm
    | cons a s =>
      change m ∈ (if p a then [([], s)] else []) at hm
      split at hm
      · rw [List.mem_singleton.mp hm]
        exact Nat.lt_succ_self _
      · cases hm
  | empty => cases hr
  | seq r t ihr iht =>
    rcases List.mem_flatMap.mp hm with ⟨m₁, hm₁, hmap⟩
    rcases List.mem_map.mp hmap with ⟨m₂, hm₂, rfl⟩
    -- one of the two takes a character, and the other one puts none back
    rcases Bool.and_eq_false_iff.mp hr with hr | ht
    · exact (length_le_of_mem_attempts hm₂).trans_lt (ihr hr hm₁)
    · exact (iht ht hm₂).trans_le (length_le_of_mem_attempts hm₁)
  | alt r t ihr iht =>
    rcases Bool.or_eq_false_iff.mp hr with ⟨hr, ht⟩
    exact (List.mem_append.mp hm).elim (ihr hr) (iht ht)
  | opt r _ => cases hr
  | star p => cases hr
  | group x r ih =>
    rcases List.mem_map.mp hm with ⟨m', hm', rfl⟩
    exact ih (m := m') hr hm'

theorem length_lt_of_first {r : Regex ν} (hr : r.nullable = false) {s : List Char}
    (hfirst : r.first s = some m) : m.2.length < s.length :=
  length_lt_of_mem_attempts hr (List.mem_of_head? hfirst)

end Regex

end NeoSwift
