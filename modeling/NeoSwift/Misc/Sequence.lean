import Mathlib.Data.List.Chain
import NeoSwift.Lib.OrderedMap

/-!
# Separating a Sequence

`CSequence::separate` and `separateBy` of `misc/sequence.h`, which split a sequence into
subsequences of one value each, kept in a map by that value. The sequence is sorted by the
value first, and `std::adjacent_find` then looks for the next pair of neighbours that
differ.

What `std::adjacent_find` finds is the first element of the pair, which belongs to the
subsequence in front. The loop takes it for the first one behind: the subsequence in front
is one element short, and from the pair on the search finds the place it starts at, so that
the loop stays there. `separateBy` calls itself.

Loops run on fuel. Iterators are splits of the list: `it` to `mid`, and `mid` to the end.

## Main definitions

* `adjacentFind`: The list up to the first pair of neighbours, and from there on.
* `separate`, `separateBy`: The two functions.
* `CutsExactly`: A list in parts, cut where the neighbours are related.

## Theorems

* `adjacentFind_spec`: What the search finds.
* `separateLoop_of_ne`: The loop that does not come off a pair.
* `separate_of_forall_eq`, `separate_of_not_forall_eq`: Sequences of one value, and others.
* `separate_cuts_iff`: When a sequence is separated.
* `two_values_not_separated`: One that is not.
-/

namespace NeoSwift.Misc

variable {α κ : Type*}

/-- `std::adjacent_find`. -/
def adjacentFind (r : α → α → Bool) : List α → List α × List α
  | [] => ([], [])
  | [a] => ([a], [])
  | a :: b :: rest =>
    if r a b then ([], a :: b :: rest)
    else
      let found := adjacentFind r (b :: rest)
      (a :: found.1, found.2)

section Separate

variable [LinearOrder κ]

def separateLoop (p : α → κ) : ℕ → List α → OrderedMap κ (List α) →
    Option (OrderedMap κ (List α))
  | _, [], result => some result
  | 0, _ :: _, _ => none
  | fuel + 1, a :: rest, result =>
    let found := adjacentFind (fun a b => p a ≠ p b) (a :: rest)
    separateLoop p fuel found.2 (result.insert (p a) found.1)

/-- `std::stable_sort`, the loop and what it has collected. -/
def separate (p : α → κ) (fuel : ℕ) (l : List α) : Option (OrderedMap κ (List α)) :=
  separateLoop p fuel (l.mergeSort fun a b => p a ≤ p b) ∅

/-- The overload it is to call has another name. -/
def separateBy : ℕ → (α → κ) → List α → Option (OrderedMap κ (List α))
  | 0, _, _ => none
  | fuel + 1, k, l => separateBy fuel (fun v => k v) l

end Separate

/-- A list in parts that are not empty, cut between the neighbours that are related and
    nowhere else. -/
structure CutsExactly (r : α → α → Prop) (l : List α) (parts : List (List α)) : Prop where
  flatten : parts.flatten = l
  nonempty : [] ∉ parts
  uncut : ∀ part ∈ parts, part.IsChain fun a b => ¬ r a b
  cut : parts.IsChain fun part next => ∀ a ∈ part.getLast?, ∀ b ∈ next.head?, r a b

theorem CutsExactly.nil (r : α → α → Prop) : CutsExactly r [] [] :=
  ⟨rfl, List.not_mem_nil, nofun, .nil⟩

/-- A list without such neighbours is one part. -/
theorem CutsExactly.whole {r : α → α → Prop} {l : List α} (hne : l ≠ [])
    (h : l.IsChain fun a b => ¬ r a b) : CutsExactly r l [l] := by
  constructor
  case flatten => exact List.append_nil l
  case nonempty =>
    intro hmem
    exact hne (List.mem_singleton.mp hmem).symm
  case uncut =>
    intro part hpart
    exact (List.mem_singleton.mp hpart) ▸ h
  case cut => exact .singleton l

/-! ## The search -/

/-- Either no two neighbours are related, or what is found starts with two that are. -/
theorem adjacentFind_spec (r : α → α → Bool) (l : List α) :
    (l.IsChain (fun a b => ¬ r a b) ∧ adjacentFind r l = (l, [])) ∨
    ∃ front a b behind, r a b ∧ l = front ++ a :: b :: behind ∧
      adjacentFind r l = (front, a :: b :: behind) := by
  induction l with
  | nil => exact .inl ⟨.nil, rfl⟩
  | cons a rest ih =>
    cases rest with
    | nil => exact .inl ⟨.singleton a, rfl⟩
    | cons b rest =>
      by_cases hr : r a b
      · exact .inr ⟨[], a, b, rest, hr, rfl, if_pos hr⟩
      -- the pair at the head is not one: the search goes on behind it
      · have hstep : adjacentFind r (a :: b :: rest) =
            (a :: (adjacentFind r (b :: rest)).1, (adjacentFind r (b :: rest)).2) := if_neg hr
        rcases ih with ⟨hchain, hfound⟩ | ⟨front, c, d, behind, hcd, hl, hfound⟩
        · exact .inl ⟨.cons_cons hr hchain, by rw [hstep, hfound]⟩
        · refine .inr ⟨a :: front, c, d, behind, hcd, ?_, by rw [hstep, hfound]⟩
          rw [hl, List.cons_append]

theorem adjacentFind_of_isChain {r : α → α → Bool} {l : List α}
    (h : l.IsChain fun a b => ¬ r a b) : adjacentFind r l = (l, []) := by
  rcases adjacentFind_spec r l with ⟨_, hfound⟩ | ⟨front, a, b, behind, hr, rfl, _⟩
  · exact hfound
  · exact absurd hr (List.isChain_cons_cons.mp (List.isChain_append.mp h).2.1).1

/-! ## The loop -/

/-- Neighbours of the same value all the way are of one value. -/
theorem forall_eq_of_isChain {p : α → κ} {l : List α} (h : l.IsChain fun a b => p a = p b) :
    ∀ a ∈ l, ∀ b ∈ l, p a = p b := by
  have hpairwise : l.Pairwise fun a b => p a = p b := List.isChain_iff_pairwise.mp h
  intro a ha b hb
  exact List.Pairwise.forall_of_forall (R := fun a b => p a = p b) (fun _ _ => rfl) hpairwise ha hb

theorem isChain_of_forall_eq {p : α → κ} {l : List α} (h : ∀ a ∈ l, ∀ b ∈ l, p a = p b) :
    l.IsChain fun a b => p a = p b := by
  refine (List.pairwise_iff_getElem.mpr ?_).isChain
  intro i j hi hj _
  exact h _ (List.getElem_mem hi) _ (List.getElem_mem hj)

section Loop

variable [LinearOrder κ] {p : α → κ}

/-- In front of a pair that differs the loop stays where it is. -/
theorem separateLoop_of_ne {a b : α} (h : p a ≠ p b) (fuel : ℕ) (rest : List α)
    (result : OrderedMap κ (List α)) : separateLoop p fuel (a :: b :: rest) result = none := by
  induction fuel generalizing result with
  | zero => rfl
  | succ fuel ih =>
    have hfound : adjacentFind (fun a b => p a ≠ p b) (a :: b :: rest) = ([], a :: b :: rest) :=
      if_pos (decide_eq_true h)
    simp only [separateLoop, hfound, ih]

/-- Of one value, the sequence is one part under it. -/
theorem separate_of_forall_eq {l : List α} (h : ∀ a ∈ l, ∀ b ∈ l, p a = p b) :
    ∃ result, separate p 1 l = some result ∧
      CutsExactly (fun a b => p a ≠ p b) l (result.entries.map Prod.snd) := by
  have hsort : (l.mergeSort fun a b => p a ≤ p b) = l := by
    refine List.mergeSort_of_pairwise (List.pairwise_iff_getElem.mpr ?_)
    intro i j hi hj _
    exact decide_eq_true (h _ (List.getElem_mem hi) _ (List.getElem_mem hj)).le
  unfold separate
  rw [hsort]
  cases l with
  | nil => exact ⟨∅, rfl, CutsExactly.nil _⟩
  | cons a rest =>
    have hchain : (a :: rest).IsChain fun a b => ¬ p a ≠ p b :=
      (isChain_of_forall_eq h).imp fun _ _ => not_not.mpr
    have hfound := adjacentFind_of_isChain (r := fun a b => p a ≠ p b)
      (hchain.imp fun _ _ hnot hr => hnot (of_decide_eq_true hr))
    refine ⟨OrderedMap.insert ∅ (p a) (a :: rest), ?_,
      CutsExactly.whole (List.cons_ne_nil a rest) hchain⟩
    simp only [separateLoop, hfound]

/-- Of two values or more, the loop comes to a pair that differs. -/
theorem separate_of_not_forall_eq {l : List α} (h : ¬ ∀ a ∈ l, ∀ b ∈ l, p a = p b) (fuel : ℕ) :
    separate p fuel l = none := by
  have hperm : (l.mergeSort fun a b => p a ≤ p b).Perm l := List.mergeSort_perm l _
  unfold separate
  generalize (l.mergeSort fun a b => p a ≤ p b) = sorted at hperm
  rcases adjacentFind_spec (fun a b => p a ≠ p b) sorted with
    ⟨hchain, _⟩ | ⟨front, a, b, behind, hr, hsorted, hfound⟩
  · -- no such pair, and the values are all the same
    refine absurd ?_ h
    intro a ha b hb
    have hsame := hchain.imp fun _ _ hnot => not_not.mp fun hne => hnot (decide_eq_true hne)
    exact forall_eq_of_isChain hsame a (hperm.mem_iff.mpr ha) b (hperm.mem_iff.mpr hb)
  · cases sorted with
    | nil => exact absurd hsorted (by simp)
    | cons c rest =>
      cases fuel with
      | zero => rfl
      | succ fuel => simp only [separateLoop, hfound, separateLoop_of_ne (of_decide_eq_true hr)]

theorem separateBy_eq_none (fuel : ℕ) (k : α → κ) (l : List α) : separateBy fuel k l = none := by
  induction fuel with
  | zero => rfl
  | succ fuel ih => exact ih

/-- A sequence is separated where all its values are the same, and never by `separateBy`. -/
theorem separate_cuts_iff (p : α → κ) (l : List α) :
    ((∃ fuel result, separate p fuel l = some result ∧
        CutsExactly (fun a b => p a ≠ p b) l (result.entries.map Prod.snd)) ↔
      ∀ a ∈ l, ∀ b ∈ l, p a = p b) ∧ ∀ fuel, separateBy fuel p l = none := by
  refine ⟨⟨?_, ?_⟩, fun fuel => separateBy_eq_none fuel p l⟩
  · rintro ⟨fuel, result, hresult, _⟩
    by_contra hnot
    rw [separate_of_not_forall_eq hnot] at hresult
    cases hresult
  · intro h
    rcases separate_of_forall_eq h with ⟨result, hresult, hcuts⟩
    exact ⟨1, result, hresult, hcuts⟩

end Loop

/-- A sequence of two values, which no amount of time separates, by the one function or by
    the other. -/
theorem two_values_not_separated :
    (¬ ∃ fuel result, separate (fun n : ℕ => n) fuel [1, 2] = some result) ∧
    ¬ ∃ fuel result, separateBy fuel (fun n : ℕ => n) [1, 2] = some result := by
  have hnot : ¬ ∀ a ∈ [1, 2], ∀ b ∈ [1, 2], a = b := by decide
  refine ⟨?_, ?_⟩
  · rintro ⟨fuel, result, hresult⟩
    rw [separate_of_not_forall_eq hnot] at hresult
    cases hresult
  · rintro ⟨fuel, result, hresult⟩
    rw [separateBy_eq_none] at hresult
    cases hresult

end NeoSwift.Misc
