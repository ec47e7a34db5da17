import Mathlib.Computability.Language
import NeoSwift.Lib.Regex

/-!
# The Language of a Regular Expression

What a regular expression matches, without the order in which it tries. The ways to match at
the beginning of a text are the words of the language in front of it, so that an expression is
found in a text where a part of the text is a word, and matches the text as a whole where the
text itself is.

## Main definitions

* `Regex.language`: The language.
* `Regex.hasMatch`: Whether the expression is found in a text.
* `Regex.matchesWhole`: Whether it matches a text as a whole.
* `Regex.charsUpTo`: So many characters of a kind.

## Theorems

* `mem_attempts_iff`: The ways to match are words of the language.
* `hasMatch_iff`, `matchesWhole_iff`: Both by the language.
* `mem_language_charsUpTo`, `mem_language_lit`: Characters of a kind, and a text.
-/

namespace NeoSwift.Regex

variable {ν : Type}

/-- The texts an expression matches. -/
def language : Regex ν → Language Char
  | .char p => {w | ∃ c, p c = true ∧ w = [c]}
  | .empty => 1
  | .seq r t => r.language * t.language
  | .alt r t => r.language + t.language
  | .opt r => r.language + 1
  | .star p => {w | ∀ c ∈ w, p c = true}
  | .group _ r => r.language

/-- There is a match anywhere in a text. -/
def hasMatch (r : Regex ν) (s : List Char) : Bool :=
  s.tails.any fun t => (r.first t).isSome

/-- There is a match of the whole text. -/
def matchesWhole (r : Regex ν) (s : List Char) : Bool :=
  (r.attempts s).any fun m => m.2.isEmpty

variable (p : Char → Bool)

theorem mem_starRests_iff (s rest : List Char) :
    rest ∈ starRests p s ↔ ∃ w, (∀ c ∈ w, p c = true) ∧ s = w ++ rest := by
  induction s with
  | nil =>
    constructor
    · intro h
      exact ⟨[], nofun, (List.mem_singleton.mp h).symm⟩
    · rintro ⟨w, -, h⟩
      exact List.mem_singleton.mpr (List.append_eq_nil_iff.mp h.symm).2
  | cons a s ih =>
    -- Either the first character is taken, or the repetition ends here.
    have hstay : (∃ w, (∀ c ∈ w, p c = true) ∧ a :: s = w ++ rest) ↔
        (p a = true ∧ ∃ w, (∀ c ∈ w, p c = true) ∧ s = w ++ rest) ∨ rest = a :: s := by
      constructor
      · rintro ⟨w, hw, h⟩
        cases w with
        | nil => exact .inr h.symm
        | cons b w =>
          rw [List.cons_append, List.cons.injEq] at h
          refine .inl ⟨h.1 ▸ hw b List.mem_cons_self, w, fun c hc => ?_, h.2⟩
          exact hw c (List.mem_cons_of_mem b hc)
      · rintro (⟨ha, w, hw, h⟩ | h)
        · refine ⟨a :: w, fun c hc => ?_, by rw [List.cons_append, h]⟩
          rcases List.mem_cons.mp hc with rfl | hmem
          · exact ha
          · exact hw c hmem
        · exact ⟨[], nofun, h.symm⟩
    rw [hstay, ← ih, starRests]
    split
    case isTrue ha => rw [List.mem_append, List.mem_singleton, and_iff_right ha]
    case isFalse ha =>
      rw [List.mem_singleton]
      exact ⟨.inr, fun h => h.resolve_left fun hmem => ha hmem.1⟩

/-- The one way to match nothing is the empty word. -/
theorem exists_mem_nothing_iff (s rest : List Char) :
    (∃ c, (c, rest) ∈ [(([] : Captures ν), s)]) ↔ ∃ w ∈ (1 : Language Char), s = w ++ rest := by
  constructor
  · rintro ⟨c, hc⟩
    rw [List.mem_singleton, Prod.mk.injEq] at hc
    exact ⟨[], (Language.mem_one []).mpr rfl, hc.2.symm⟩
  · rintro ⟨w, hw, rfl⟩
    rw [(Language.mem_one w).mp hw]
    exact ⟨[], List.mem_singleton_self _⟩

/-- The ways to match are the words of the language in front of a text. -/
theorem mem_attempts_iff (r : Regex ν) (s rest : List Char) :
    (∃ c, (c, rest) ∈ r.attempts s) ↔ ∃ w ∈ r.language, s = w ++ rest := by
  -- One case for each expression. The captures do not matter, only what is left.
  induction r generalizing s rest with
  | char p =>
    cases s with
    | nil =>
      refine iff_of_false (fun ⟨_, hc⟩ => absurd hc List.not_mem_nil) ?_
      rintro ⟨w, ⟨c, -, rfl⟩, h⟩
      exact List.cons_ne_nil c rest h.symm
    | cons a s =>
      change (∃ c, (c, rest) ∈ if p a then [([], s)] else []) ↔ _
      constructor
      · rintro ⟨c, hc⟩
        split at hc
        case isTrue ha =>
          rw [List.mem_singleton, Prod.mk.injEq] at hc
          exact ⟨[a], ⟨a, ha, rfl⟩, by rw [hc.2, List.singleton_append]⟩
        case isFalse => cases hc
      · rintro ⟨w, ⟨b, hb, rfl⟩, h⟩
        rw [List.singleton_append, List.cons.injEq] at h
        refine ⟨[], ?_⟩
        rw [if_pos (h.1 ▸ hb), h.2]
        exact List.mem_singleton_self _
  | empty =>
    exact exists_mem_nothing_iff s rest
  | seq r t ihr iht =>
    constructor
    · rintro ⟨c, hc⟩
      rcases List.mem_flatMap.mp hc with ⟨m, hm, hmap⟩
      rcases List.mem_map.mp hmap with ⟨n, hn, heq⟩
      rw [Prod.mk.injEq] at heq
      -- The rest of the first expression is the text of the second one.
      rcases (ihr s m.2).mp ⟨m.1, hm⟩ with ⟨w, hw, hs⟩
      rcases (iht m.2 n.2).mp ⟨n.1, hn⟩ with ⟨v, hv, hrest⟩
      refine ⟨w ++ v, Language.append_mem_mul hw hv, ?_⟩
      rw [hs, hrest, heq.2, List.append_assoc]
    · rintro ⟨x, hx, hs⟩
      rcases Language.mem_mul.mp hx with ⟨w, hw, v, hv, rfl⟩
      rcases (ihr s (v ++ rest)).mpr ⟨w, hw, by rw [hs, List.append_assoc]⟩ with ⟨c, hc⟩
      rcases (iht (v ++ rest) rest).mpr ⟨v, hv, rfl⟩ with ⟨d, hd⟩
      exact ⟨c ++ d, List.mem_flatMap.mpr ⟨_, hc, List.mem_map.mpr ⟨_, hd, rfl⟩⟩⟩
  | alt r t ihr iht =>
    change (∃ c, (c, rest) ∈ r.attempts s ++ t.attempts s) ↔ _
    simp [exists_or, ihr, iht, language, Language.mem_add, or_and_right]
  | opt r ih =>
    change (∃ c, (c, rest) ∈ r.attempts s ++ [([], s)]) ↔ _
    -- The empty word stands for an option that is not taken.
    have hskip := exists_mem_nothing_iff (ν := ν) s rest
    simp only [List.mem_append, exists_or, ih, hskip, language, Language.mem_add, or_and_right]
  | star p =>
    constructor
    · rintro ⟨c, hc⟩
      rcases List.mem_map.mp hc with ⟨rest', hrest, heq⟩
      rw [Prod.mk.injEq] at heq
      exact (mem_starRests_iff p s rest).mp (heq.2 ▸ hrest)
    · intro h
      exact ⟨[], List.mem_map.mpr ⟨rest, (mem_starRests_iff p s rest).mpr h, rfl⟩⟩
  | group x r ih =>
    change (∃ c, (c, rest) ∈ (r.attempts s).map _) ↔ ∃ w ∈ r.language, s = w ++ rest
    rw [← ih s rest]
    constructor
    · rintro ⟨c, hc⟩
      rcases List.mem_map.mp hc with ⟨m, hm, heq⟩
      rw [Prod.mk.injEq] at heq
      exact ⟨m.1, heq.2 ▸ hm⟩
    · rintro ⟨c, hc⟩
      exact ⟨_, List.mem_map.mpr ⟨_, hc, rfl⟩⟩

/-- An expression is found where a part of the text is a word of its language. -/
theorem hasMatch_iff (r : Regex ν) (s : List Char) :
    r.hasMatch s = true ↔ ∃ w ∈ r.language, w <:+: s := by
  unfold hasMatch
  rw [List.any_eq_true]
  constructor
  · rintro ⟨t, ht, hsome⟩
    rcases Option.isSome_iff_exists.mp hsome with ⟨m, hm⟩
    rcases (mem_attempts_iff r t m.2).mp ⟨m.1, List.mem_of_head? hm⟩ with ⟨w, hw, rfl⟩
    rcases (List.mem_tails _ _).mp ht with ⟨front, rfl⟩
    exact ⟨w, hw, front, m.2, List.append_assoc front w m.2⟩
  · rintro ⟨w, hw, front, behind, rfl⟩
    rcases (mem_attempts_iff r (w ++ behind) behind).mpr ⟨w, hw, rfl⟩ with ⟨c, hc⟩
    refine ⟨w ++ behind, (List.mem_tails _ _).mpr ⟨front, (List.append_assoc ..).symm⟩, ?_⟩
    exact List.isSome_head?.mpr (List.ne_nil_of_mem hc)

theorem matchesWhole_iff (r : Regex ν) (s : List Char) :
    r.matchesWhole s = true ↔ s ∈ r.language := by
  unfold matchesWhole
  rw [List.any_eq_true]
  constructor
  · rintro ⟨m, hm, hend⟩
    rcases (mem_attempts_iff r s m.2).mp ⟨m.1, hm⟩ with ⟨w, hw, hs⟩
    rw [List.isEmpty_iff.mp hend, List.append_nil] at hs
    exact hs ▸ hw
  · intro hs
    rcases (mem_attempts_iff r s []).mpr ⟨s, hs, (List.append_nil s).symm⟩ with ⟨c, hc⟩
    exact ⟨(c, []), hc, rfl⟩

theorem hasMatch_of_matchesWhole {r : Regex ν} {s : List Char} (h : r.matchesWhole s = true) :
    r.hasMatch s = true :=
  (hasMatch_iff r s).mpr ⟨s, (matchesWhole_iff r s).mp h, List.infix_rfl⟩

/-! ## Characters of a kind -/

/-- Up to `n` characters, as many as there are. -/
def upTo (p : Char → Bool) : ℕ → Regex ν
  | 0 => .empty
  | n + 1 => .opt (.char p ++ upTo p n)

/-- From `lo` to `lo + n` characters. -/
def charsUpTo (p : Char → Bool) (lo n : ℕ) : Regex ν := chars p lo ++ upTo p n

theorem mem_language_seq_char (t : Regex ν) (w : List Char) :
    w ∈ (Regex.seq (.char p) t).language ↔ ∃ c v, p c = true ∧ v ∈ t.language ∧ w = c :: v := by
  constructor
  · intro h
    rcases Language.mem_mul.mp h with ⟨_, ⟨c, hc, rfl⟩, v, hv, rfl⟩
    exact ⟨c, v, hc, hv, rfl⟩
  · rintro ⟨c, v, hc, hv, rfl⟩
    exact Language.mem_mul.mpr ⟨[c], ⟨c, hc, rfl⟩, v, hv, rfl⟩

theorem mem_language_chars (n : ℕ) (w : List Char) :
    w ∈ (chars p n : Regex ν).language ↔ w.length = n ∧ ∀ c ∈ w, p c = true := by
  induction n generalizing w with
  | zero =>
    rw [List.length_eq_zero_iff]
    constructor
    · intro h
      rcases (Language.mem_one w).mp h with rfl
      exact ⟨rfl, nofun⟩
    · exact fun h => (Language.mem_one w).mpr h.1
  | succ n ih =>
    rw [chars, mem_language_seq_char]
    simp only [ih]
    constructor
    · rintro ⟨c, v, hc, ⟨rfl, hv⟩, rfl⟩
      exact ⟨rfl, List.forall_mem_cons.mpr ⟨hc, hv⟩⟩
    · rintro ⟨hlength, hw⟩
      rcases List.exists_cons_of_length_eq_add_one hlength with ⟨c, v, rfl⟩
      rcases List.forall_mem_cons.mp hw with ⟨hc, hv⟩
      exact ⟨c, v, hc, ⟨Nat.succ.inj hlength, hv⟩, rfl⟩

theorem mem_language_upTo (n : ℕ) (w : List Char) :
    w ∈ (upTo p n : Regex ν).language ↔ w.length ≤ n ∧ ∀ c ∈ w, p c = true := by
  induction n generalizing w with
  | zero =>
    rw [Nat.le_zero, List.length_eq_zero_iff]
    constructor
    · intro h
      rcases (Language.mem_one w).mp h with rfl
      exact ⟨rfl, nofun⟩
    · exact fun h => (Language.mem_one w).mpr h.1
  | succ n ih =>
    change w ∈ (Regex.seq (.char p) (upTo p n)).language + 1 ↔ _
    rw [Language.mem_add, mem_language_seq_char]
    simp only [ih]
    constructor
    · rintro (⟨c, v, hc, ⟨hlength, hv⟩, rfl⟩ | rfl)
      · exact ⟨Nat.succ_le_succ hlength, List.forall_mem_cons.mpr ⟨hc, hv⟩⟩
      · exact ⟨Nat.zero_le _, nofun⟩
    · rintro ⟨hlength, hw⟩
      cases w with
      | nil => exact .inr rfl
      | cons c v =>
        rcases List.forall_mem_cons.mp hw with ⟨hc, hv⟩
        exact .inl ⟨c, v, hc, ⟨Nat.le_of_succ_le_succ hlength, hv⟩, rfl⟩

/-- So many characters of a kind, one behind the other. -/
theorem mem_language_charsUpTo (lo n : ℕ) (w : List Char) :
    w ∈ (charsUpTo p lo n : Regex ν).language ↔
      lo ≤ w.length ∧ w.length ≤ lo + n ∧ ∀ c ∈ w, p c = true := by
  change w ∈ (chars p lo : Regex ν).language * (upTo p n : Regex ν).language ↔ _
  rw [Language.mem_mul]
  simp only [mem_language_chars, mem_language_upTo]
  constructor
  · rintro ⟨front, ⟨rfl, hfront⟩, behind, ⟨hlength, hbehind⟩, rfl⟩
    rw [List.length_append]
    exact ⟨by omega, by omega, List.forall_mem_append.mpr ⟨hfront, hbehind⟩⟩
  · rintro ⟨hlo, hhi, hw⟩
    refine ⟨w.take lo, ⟨List.length_take_of_le hlo, fun c hc => hw c (List.mem_of_mem_take hc)⟩,
      w.drop lo, ⟨?_, fun c hc => hw c (List.mem_of_mem_drop hc)⟩, List.take_append_drop lo w⟩
    rw [List.length_drop]
    omega

theorem mem_language_lit (code w : List Char) : w ∈ (lit code : Regex ν).language ↔ w = code := by
  induction code generalizing w with
  | nil => exact Language.mem_one w
  | cons a code ih =>
    rw [lit, mem_language_seq_char]
    simp only [ih, beq_iff_eq]
    constructor
    · rintro ⟨c, v, rfl, rfl, rfl⟩
      rfl
    · rintro rfl
      exact ⟨a, code, rfl, rfl, rfl⟩

end NeoSwift.Regex
