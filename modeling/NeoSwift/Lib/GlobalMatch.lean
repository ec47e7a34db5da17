import NeoSwift.Lib.Regex

/-!
# All Matches

The matches of an expression in a text from left to right. The next one begins behind the last
one, and what cannot begin a match is passed over.

## Main definitions

* `Regex.plus`: One or more characters of a kind.
* `Regex.globalMatch`: What is matched in a text.

## Theorems

* `globalMatch_append`: A match in front of a text is the first one.
* `globalMatch_cons`: What cannot begin a match makes no difference.
-/

namespace NeoSwift.Regex

variable {ν : Type}

/-- One or more characters of a kind. -/
def plus (p : Char → Bool) : Regex ν := .char p ++ .star p

/-- What is matched, where `skip` characters belong to the match before. An expression cannot
    match nothing. -/
def matchesFrom (r : Regex ν) : ℕ → List Char → List (List Char)
  | _, [] => []
  | skip + 1, _ :: s => matchesFrom r skip s
  | 0, c :: s =>
      match r.first (c :: s) with
      | none => matchesFrom r 0 s
      | some m =>
          let taken := (c :: s).take (s.length + 1 - m.2.length)
          taken :: matchesFrom r (taken.length - 1) s

def globalMatch (r : Regex ν) (s : List Char) : List (List Char) := matchesFrom r 0 s

variable {r : Regex ν} {s : List Char} {c : Captures ν} {p : Char → Bool}

theorem matchesFrom_append (r : Regex ν) (taken s : List Char) :
    matchesFrom r taken.length (taken ++ s) = matchesFrom r 0 s := by
  induction taken with
  | nil => rfl
  | cons a taken ih => exact ih

theorem globalMatch_cons {a : Char} (h : r.attempts (a :: s) = []) :
    globalMatch r (a :: s) = globalMatch r s := by
  unfold globalMatch
  rw [matchesFrom, first_eq_none.mpr h]

/-- A match in front of a text is the first one. -/
theorem globalMatch_append {taken : List Char} (hne : taken ≠ [])
    (h : r.first (taken ++ s) = some (c, s)) :
    globalMatch r (taken ++ s) = taken :: globalMatch r s := by
  rcases List.exists_cons_of_ne_nil hne with ⟨a, rest, rfl⟩
  have htake : (a :: (rest ++ s)).take ((rest ++ s).length + 1 - s.length) = a :: rest := by
    have hlength : (rest ++ s).length + 1 - s.length = (a :: rest).length := by
      rw [List.length_append, List.length_cons]
      omega
    rw [hlength]
    exact List.take_left
  rw [List.cons_append] at h ⊢
  unfold globalMatch
  rw [matchesFrom, h]
  dsimp only
  rw [htake, List.length_cons, Nat.add_sub_cancel, matchesFrom_append]

/-- All characters of the kind are taken. -/
theorem first_plus {taken : List Char} (hne : taken ≠ []) (htaken : ∀ a ∈ taken, p a = true)
    (hs : ∀ a ∈ s.head?, p a = false) : (plus p : Regex ν).first (taken ++ s) = some ([], s) := by
  rcases List.exists_cons_of_ne_nil hne with ⟨a, rest, rfl⟩
  exact first_seq (first_char (htaken a List.mem_cons_self))
    (first_star (fun b hb => htaken b (List.mem_cons_of_mem a hb)) hs)

theorem attempts_plus_of_not {a : Char} (h : p a = false) :
    (plus p : Regex ν).attempts (a :: s) = [] :=
  attempts_seq_of_left (attempts_char_of_not h)

end NeoSwift.Regex
