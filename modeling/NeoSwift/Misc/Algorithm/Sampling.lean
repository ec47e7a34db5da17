import Mathlib.Algebra.BigOperators.Group.List.Basic
import Mathlib.Algebra.Order.Ring.Nat
import Mathlib.Data.Nat.Factorial.Basic
import NeoSwift.Lib.IntCast

/-!
# Sampling a Range

`copyRandomElements` and `copySampleElements` of `misc/algorithm.h`, which copy some of the
elements of a range. The first one goes through the range, draws a number below that of the
elements left and takes the next one if it is below the number still needed. When no more are left
than needed, every draw is, and so it never comes short. The second one cuts the range into chunks
of one size and takes an element of each.

Both count the range with an int, which is below what there is if the range has `2 ^ 31` elements
or more. Where more are needed than the int says, `copyRandomElements` comes to a draw from bounds
that are not in order, and `copySampleElements` writes too few. Nothing else goes wrong.

The generator is a parameter, and what it draws is within the bounds. An iterator is what it has
in front of it up to the end. Reading or going past the end is none, and so is a draw from bounds
that are not in order.

## Main definitions

* `UniformIntDistribution`: What is drawn from a generator.
* `copyRandomElements`, `copySampleElements`: The two functions.
* `Samples`: What they are to write.
* `CountsRange`: When the int is good enough.
* `scripts`: What can be drawn for a range.

## Theorems

* `samples_randomLoop`, `randomLoop_eq_none`: The loop that has or has not enough left.
* `copyRandomElements_uniform`: Every choice is made equally often.
* `copySampleElements_eq_some`: An element of each chunk is written.
* `samples_copyRandomElements_iff`, `samples_copySampleElements_iff`: When the count is right.
* `sampling_iff`: The two together.
-/

namespace NeoSwift.Misc

universe u

variable {α σ : Type u}

/-- `std::uniform_int_distribution` and a generator with states `σ`. -/
structure UniformIntDistribution (σ : Type u) where
  choose : ℤ → ℤ → σ → ℤ × σ
  between : ∀ a b s, a ≤ b → a ≤ (choose a b s).1 ∧ (choose a b s).1 ≤ b

/-- The one that chooses the lower bound. -/
def UniformIntDistribution.least : UniformIntDistribution Unit where
  choose a _ s := (a, s)
  between a _ _ h := ⟨le_refl a, h⟩

/-- The one that chooses what it is told next, as far as the bounds admit it. -/
def UniformIntDistribution.scripted : UniformIntDistribution (List ℤ) where
  choose a b s := (max a (min b (s.headD a)), s.tail)
  between _ _ _ h := ⟨le_max_left _ _, max_le h (min_le_left _ _)⟩

/-- A draw, for bounds that are in order. -/
def UniformIntDistribution.draw (rng : UniformIntDistribution σ) (a b : ℤ) (s : σ) :
    Option (ℤ × σ) :=
  if a ≤ b then some (rng.choose a b s) else none

section Copying

variable (rng : UniformIntDistribution σ)

/-- The loop of `copyRandomElements`: the elements that are written, and the generator after it. -/
def randomLoop : List α → ℤ → ℤ → σ → Option (List α × σ)
  | [], _, _, s => some ([], s)
  | a :: rest, size, n, s =>
    if 0 < n then do
      -- one chance for each of those left
      let drawn ← rng.draw 0 (size - 1) s
      if drawn.1 < n then
        (randomLoop rest (size - 1) (n - 1) drawn.2).map fun copied => (a :: copied.1, copied.2)
      else randomLoop rest (size - 1) n drawn.2
    else some ([], s)

def copyRandomElements (range : List α) (n : ℤ) (s : σ) : Option (List α × σ) :=
  randomLoop rng range (castLength range.length) n s

/-- `std::advance`, which stays within the range. -/
def advance (range : List α) (n : ℤ) : Option (List α) :=
  if 0 ≤ n ∧ n ≤ range.length then some (range.drop n.toNat) else none

/-- `std::max(size / n, 1)`. -/
def chunkSize (size n : ℤ) : ℤ := max (size.tdiv n) 1

/-- The loop of `copySampleElements`, with the number of rounds that are left. -/
def sampleLoop (size n : ℤ) : ℕ → List α → σ → Option (List α × σ)
  | 0, _, s => some ([], s)
  | rounds + 1, range, s => do
    let index ← rng.draw 0 (chunkSize size n - 1) s
    let chosen ← advance range index.1
    let a ← chosen.head?
    -- on to the next chunk, wherever in this one the element was
    let rest ← advance chosen (chunkSize size n - index.1)
    (sampleLoop size n rounds rest index.2).map fun copied => (a :: copied.1, copied.2)

def copySampleElements (range : List α) (n : ℤ) (s : σ) : Option (List α × σ) :=
  let size := castLength range.length
  sampleLoop rng size n (min n size).toNat range s

end Copying

/-- As many elements as are needed, or all there are, in the order of the range. -/
def Samples (range : List α) (n : ℤ) (copied : Option (List α × σ)) : Prop :=
  ∃ written s, copied = some (written, s) ∧ written.length = min n.toNat range.length ∧
    written.Sublist range

/-- An element of each of the chunks in front. -/
def OneOfEach (chunk : ℕ) : List α → List α → Prop
  | [], _ => True
  | a :: written, range => a ∈ range.take chunk ∧ OneOfEach chunk written (range.drop chunk)

/-- Nothing is needed, or the number of elements is an int, or what is left of it as an int is
    enough. -/
def CountsRange (range : List α) (n : ℤ) : Prop :=
  n ≤ 0 ∨ range.length < 2 ^ 31 ∨ n ≤ range.length % 2 ^ 32 ∧ (range.length : ℤ) % 2 ^ 32 < 2 ^ 31

instance (range : List α) (n : ℤ) : Decidable (CountsRange range n) :=
  inferInstanceAs (Decidable (_ ∨ _))

variable {rng : UniformIntDistribution σ}

theorem exists_draw (rng : UniformIntDistribution σ) {b : ℤ} (hb : 0 ≤ b) (s : σ) :
    ∃ d s', rng.draw 0 b s = some (d, s') ∧ 0 ≤ d ∧ d ≤ b :=
  ⟨_, _, if_pos hb, rng.between 0 b s hb⟩

theorem draw_scripted {b d : ℤ} (hd : 0 ≤ d) (hb : d ≤ b) (s : List ℤ) :
    UniformIntDistribution.scripted.draw 0 b (d :: s) = some (d, s) := by
  rw [UniformIntDistribution.draw, if_pos (by omega)]
  simp [UniformIntDistribution.scripted, min_eq_right hb, max_eq_right hd]

/-- The remainder that is left of the number is what the int is. -/
theorem countsRange_iff (range : List α) (n : ℤ) :
    CountsRange range n ↔ n ≤ 0 ∨ range.length < 2 ^ 31 ∨ n ≤ castLength range.length := by
  unfold CountsRange
  by_cases hn : 0 < n
  · rw [le_castLength_iff hn]
  · exact iff_of_true (.inl (not_lt.mp hn)) (.inl (not_lt.mp hn))

/-! ## Selection -/

theorem randomLoop_of_nonpos {n : ℤ} (hn : n ≤ 0) (range : List α) (size : ℤ) (s : σ) :
    randomLoop rng range size n s = some ([], s) := by
  cases range with
  | nil => rfl
  | cons a rest => exact if_neg (by omega)

theorem randomLoop_of_draw {size n d : ℤ} {s s' : σ} (hn : 0 < n)
    (hdraw : rng.draw 0 (size - 1) s = some (d, s')) (a : α) (rest : List α) :
    randomLoop rng (a :: rest) size n s =
      if d < n then
        (randomLoop rng rest (size - 1) (n - 1) s').map fun copied => (a :: copied.1, copied.2)
      else randomLoop rng rest (size - 1) n s' := by
  rw [randomLoop, if_pos hn, hdraw]
  rfl

theorem samples_of_nonpos {n : ℤ} (hn : n ≤ 0) (range : List α) (size : ℤ) (s : σ) :
    Samples range n (randomLoop rng range size n s) := by
  refine ⟨[], s, randomLoop_of_nonpos hn range size s, ?_, List.nil_sublist range⟩
  rw [Int.toNat_of_nonpos hn, Nat.zero_min, List.length_nil]

/-- The counter is not above what is left, and it is exact or enough for what is needed. Both
    stay so, and when only as many are left as are needed, the bound of the draw is below that
    number. -/
theorem samples_randomLoop (range : List α) (size n : ℤ) (s : σ) (hsize : size ≤ range.length)
    (henough : n ≤ size ∨ size = range.length) :
    Samples range n (randomLoop rng range size n s) := by
  induction range generalizing size n s with
  | nil => exact ⟨[], s, rfl, (Nat.min_zero _).symm, .refl _⟩
  | cons a rest ih =>
    rw [List.length_cons] at hsize henough
    by_cases hn : n ≤ 0
    · exact samples_of_nonpos hn _ _ _
    rcases exists_draw rng (b := size - 1) (by omega) s with ⟨d, s', hdraw, _, hle⟩
    rw [randomLoop_of_draw (by omega) hdraw]
    by_cases hd : d < n
    · rcases ih (size - 1) (n - 1) s' (by omega) (by omega) with
        ⟨written, s'', hcopied, hlength, hsub⟩
      refine ⟨a :: written, s'', by rw [if_pos hd, hcopied, Option.map_some], ?_, hsub.cons_cons a⟩
      rw [List.length_cons, List.length_cons]
      omega
    · -- what is left behind is still enough, since it is above what was drawn
      rcases ih (size - 1) n s' (by omega) (by omega) with ⟨written, s'', hcopied, hlength, hsub⟩
      refine ⟨written, s'', by rw [if_neg hd, hcopied], ?_, hsub.cons a⟩
      rw [List.length_cons]
      omega

/-- With a counter below what is needed and what is left, every element is taken until the
    bounds are not in order. -/
theorem randomLoop_eq_none (range : List α) (size n : ℤ) (s : σ) (hn : 0 < n) (hneeded : size < n)
    (hleft : size < range.length) (hne : range ≠ []) : randomLoop rng range size n s = none := by
  induction range generalizing size n s with
  | nil => exact absurd rfl hne
  | cons a rest ih =>
    rw [List.length_cons] at hleft
    by_cases hsize : 0 < size
    · rcases exists_draw rng (b := size - 1) (by omega) s with ⟨d, s', hdraw, _, hle⟩
      have hrest : rest ≠ [] := List.ne_nil_of_length_pos (by omega)
      rw [randomLoop_of_draw hn hdraw, if_pos (by omega),
        ih (size - 1) (n - 1) s' (by omega) (by omega) (by omega) hrest, Option.map_none]
    · have hdraw : rng.draw 0 (size - 1) s = none := if_neg (by omega)
      rw [randomLoop, if_pos hn, hdraw]
      rfl

theorem samples_copyRandomElements_iff (range : List α) (n : ℤ) (s : σ) :
    Samples range n (copyRandomElements rng range n s) ↔ CountsRange range n := by
  have hle := castLength_le range.length
  have hlt := castLength_lt range.length
  rw [countsRange_iff, copyRandomElements]
  constructor
  · rintro ⟨written, s', hcopied, _⟩
    -- otherwise the int is below what is needed and below what there is
    by_contra hnot
    rw [randomLoop_eq_none range _ n s (by omega) (by omega) (by omega)
      (List.ne_nil_of_length_pos (by omega))] at hcopied
    cases hcopied
  · rintro (hn | hint | henough)
    · exact samples_of_nonpos hn _ _ _
    · exact samples_randomLoop range _ n s hle (.inr (castLength_of_lt hint))
    · exact samples_randomLoop range _ n s hle (.inl henough)

/-- All the numbers that can be drawn for a range of that size, one for each element. -/
def scripts : ℕ → List (List ℤ)
  | 0 => [[]]
  | left + 1 => (List.range (left + 1)).flatMap fun d : ℕ => (scripts left).map ((d : ℤ) :: ·)

theorem length_scripts (left : ℕ) : (scripts left).length = left.factorial := by
  induction left with
  | zero => rfl
  | succ left ih =>
    rw [scripts]
    simp [ih, Nat.factorial_succ]

variable {β : Type} [DecidableEq β]

/-- For how many of the numbers drawn it is written. -/
def ways (range : List β) (n : ℕ) (written : List β) : ℕ :=
  (scripts range.length).countP fun s =>
    decide ((randomLoop .scripted range range.length n s).map Prod.fst = some written)

/-- For how many it is written behind an element. -/
def waysBehind (a : β) (range : List β) (n : ℕ) (written : List β) : ℕ :=
  (scripts range.length).countP fun s =>
    decide ((randomLoop .scripted range range.length n s).map (fun copied => a :: copied.1)
      = some written)

theorem waysBehind_self (a : β) (range : List β) (n : ℕ) (written : List β) :
    waysBehind a range n (a :: written) = ways range n written := by
  refine List.countP_congr fun s _ => ?_
  cases randomLoop .scripted range range.length n s <;> simp

theorem waysBehind_of_notMem {a : β} {written : List β} (h : a ∉ written) (range : List β)
    (n : ℕ) : waysBehind a range n written = 0 := by
  refine List.countP_eq_zero.mpr fun s _ => ?_
  cases randomLoop .scripted range range.length n s with
  | none => simp
  | some copied =>
    simp only [Option.map_some, Option.some.injEq, decide_eq_true_eq]
    intro heq
    exact h (heq ▸ List.mem_cons_self)

/-- No other elements than those of the range are written. -/
theorem ways_of_notMem {a : β} {range written : List β} (hmem : a ∈ written) (hnot : a ∉ range)
    (n : ℕ) : ways range n written = 0 := by
  refine List.countP_eq_zero.mpr fun s _ => ?_
  have hsamples : Samples range n (randomLoop .scripted range range.length n s) :=
    samples_randomLoop range range.length n s le_rfl (.inr rfl)
  rcases hsamples with ⟨written', s', heq, _, hsub⟩
  rw [heq, Option.map_some, decide_eq_true_eq, Option.some.injEq]
  rintro rfl
  exact hnot (hsub.subset hmem)

/-- The element in front is taken for as many numbers as elements are needed. -/
theorem ways_cons (a : β) (rest : List β) (n : ℕ) (written : List β) (hn : n ≤ rest.length) :
    ways (a :: rest) (n + 1) written
      = (n + 1) * waysBehind a rest n written + (rest.length - n) * ways rest (n + 1) written := by
  have hloop : ∀ (d : ℕ) (s : List ℤ), d ≤ rest.length →
      (randomLoop .scripted (a :: rest) (a :: rest).length (n + 1 : ℕ) ((d : ℤ) :: s)).map Prod.fst
        = if d < n + 1 then
            (randomLoop .scripted rest rest.length n s).map fun copied => a :: copied.1
          else (randomLoop .scripted rest rest.length (n + 1 : ℕ) s).map Prod.fst := by
    intro d s hd
    have hdraw := draw_scripted (d := d) (b := (a :: rest).length - 1) (by omega)
      (by rw [List.length_cons]; omega) s
    rw [randomLoop_of_draw (by omega) hdraw, List.length_cons, Nat.cast_succ, Nat.cast_succ,
      Int.add_sub_cancel, Int.add_sub_cancel]
    by_cases hlt : d < n + 1
    · rw [if_pos hlt, if_pos (by omega), Option.map_map]
      rfl
    · rw [if_neg hlt, if_neg (by omega)]
  have hdrawn : ∀ d ∈ List.range (rest.length + 1),
      ((scripts rest.length).map ((d : ℤ) :: ·)).countP (fun s =>
        decide ((randomLoop .scripted (a :: rest) (a :: rest).length (n + 1 : ℕ) s).map Prod.fst
          = some written))
        = if d < n + 1 then waysBehind a rest n written else ways rest (n + 1) written := by
    intro d hd
    have hle : d ≤ rest.length := Nat.le_of_lt_succ (List.mem_range.mp hd)
    rw [List.countP_map]
    split
    case isTrue hlt =>
      exact List.countP_congr fun s _ => by rw [Function.comp_apply, hloop d s hle, if_pos hlt]
    case isFalse hlt =>
      exact List.countP_congr fun s _ => by rw [Function.comp_apply, hloop d s hle, if_neg hlt]
  -- The numbers below what is needed, and the others.
  have hsum : ∀ k x y : ℕ, ((List.range (n + 1 + k)).map fun d => if d < n + 1 then x else y).sum
      = (n + 1) * x + k * y := by
    intro k x y
    induction k with
    | zero =>
      rw [List.map_congr_left (g := fun _ => x) fun d hd => if_pos (List.mem_range.mp hd)]
      simp
    | succ k ih =>
      rw [← Nat.add_assoc, List.range_succ, List.map_append, List.sum_append, ih,
        List.map_singleton, List.sum_singleton, if_neg (by omega), Nat.succ_mul k,
        Nat.add_assoc]
  rw [ways, show (a :: rest).length = rest.length + 1 from List.length_cons, scripts,
    List.countP_flatMap]
  refine (congrArg List.sum (List.map_congr_left hdrawn)).trans ?_
  have hsplit := hsum (rest.length - n) (waysBehind a rest n written) (ways rest (n + 1) written)
  rwa [show n + 1 + (rest.length - n) = rest.length + 1 by omega] at hsplit

/-- Every choice is made for the same number of the numbers that can be drawn. -/
theorem ways_eq {range written : List β} (hnodup : range.Nodup) (h : written.Sublist range) :
    ways range written.length written
      = written.length.factorial * (range.length - written.length).factorial := by
  induction range generalizing written with
  | nil =>
    rw [List.sublist_nil.mp h]
    rfl
  | cons a rest ih =>
    rcases List.nodup_cons.mp hnodup with ⟨hnot, hrest⟩
    cases written with
    | nil =>
      rw [ways, List.countP_eq_length.mpr fun s _ => by simp [randomLoop], length_scripts]
      exact (Nat.one_mul _).symm
    | cons b written =>
      have hle := h.length_le
      rw [List.length_cons, List.length_cons] at hle
      rw [List.length_cons, ways_cons a rest written.length (b :: written) (by omega),
        List.length_cons]
      rcases List.sublist_cons_iff.mp h with hskip | ⟨written', heq, htake⟩
      · -- Without the element in front, and enough is left.
        have hlen := hskip.length_le
        rw [List.length_cons] at hlen
        have hskipped := ih hrest hskip
        rw [List.length_cons] at hskipped
        rw [waysBehind_of_notMem (fun hmem => hnot (hskip.subset hmem)), Nat.mul_zero,
          Nat.zero_add, hskipped, Nat.mul_left_comm]
        congr 1
        rw [show rest.length - written.length = (rest.length - (written.length + 1)) + 1 by omega,
          show rest.length + 1 - (written.length + 1)
            = (rest.length - (written.length + 1)) + 1 by omega, Nat.factorial_succ]
      · -- With it, as no other element is the same.
        injection heq with hb hwritten
        subst hb hwritten
        have hzero : ways rest (written.length + 1) (b :: written) = 0 :=
          ways_of_notMem List.mem_cons_self hnot _
        rw [waysBehind_self, ih hrest htake, hzero, Nat.mul_zero, Nat.add_zero,
          ← Nat.mul_assoc, ← Nat.factorial_succ, Nat.add_sub_add_right]

/-- If what is drawn is uniform, so is the choice: it is made for the same number of the
    numbers that can be drawn, whatever it is. -/
theorem copyRandomElements_uniform {range written : List β} (hint : range.length < 2 ^ 31)
    (hnodup : range.Nodup) (h : written.Sublist range) :
    (scripts range.length).countP (fun s =>
        decide ((copyRandomElements .scripted range written.length s).map Prod.fst
          = some written))
      = written.length.factorial * (range.length - written.length).factorial := by
  simp only [copyRandomElements, castLength_of_lt hint]
  exact ways_eq hnodup h

/-- Two of three elements, for two of the six scripts. -/
theorem copyRandomElements_uniform_three :
    (scripts [1, 2, 3].length).countP (fun s =>
        decide ((copyRandomElements .scripted [1, 2, 3] [1, 3].length s).map Prod.fst
          = some [1, 3]))
      = [1, 3].length.factorial * ([1, 2, 3].length - [1, 3].length).factorial :=
  copyRandomElements_uniform (by decide) (by decide) (by decide)

/-! ## Chunks -/

theorem chunkSize_pos (size n : ℤ) : 1 ≤ chunkSize size n := le_max_right _ _

/-- The chunks are within the range, whether there are more elements than are needed or not. -/
theorem mul_chunkSize_le {size n : ℤ} (hsize : 0 < size) (hn : 0 < n) :
    min n size * chunkSize size n ≤ size := by
  have hdiv : size.tdiv n = size / n := Int.tdiv_eq_ediv_of_nonneg hsize.le
  unfold chunkSize
  rw [hdiv]
  by_cases h : n ≤ size
  · have hquotient : 1 ≤ size / n := Int.le_ediv_of_mul_le hn (by omega)
    rw [min_eq_left h, max_eq_left hquotient]
    exact Int.mul_ediv_self_le hn.ne'
  · rw [min_eq_right (by omega), Int.ediv_eq_zero_of_lt hsize.le (by omega),
      max_eq_right zero_le_one, mul_one]

/-- An element of each chunk, and so they are in the order of the range. -/
theorem OneOfEach.sublist {chunk : ℕ} {written range : List α} (h : OneOfEach chunk written range) :
    written.Sublist range := by
  induction written generalizing range with
  | nil => exact List.nil_sublist range
  | cons a written ih =>
    -- the element is in its chunk, and the others are behind that
    have happend := (List.singleton_sublist.mpr h.1).append (ih h.2)
    rwa [List.take_append_drop] at happend

theorem advance_of_le {range : List α} {n : ℤ} (hn : 0 ≤ n) (h : n ≤ range.length) :
    advance range n = some (range.drop n.toNat) :=
  if_pos ⟨hn, h⟩

/-- A round takes an element of the next chunk and goes on behind it. -/
theorem exists_round (rng : UniformIntDistribution σ) (size n : ℤ) (range : List α)
    (h : chunkSize size n ≤ range.length) (s : σ) (rounds : ℕ) :
    ∃ a s', a ∈ range.take (chunkSize size n).toNat ∧ sampleLoop rng size n (rounds + 1) range s =
        (sampleLoop rng size n rounds (range.drop (chunkSize size n).toNat) s').map
          fun copied => (a :: copied.1, copied.2) := by
  have hpos := chunkSize_pos size n
  rcases exists_draw rng (b := chunkSize size n - 1) (by omega) s with
    ⟨d, s', hdraw, hd, hle⟩
  have hlt : d.toNat < range.length := by omega
  have hchosen : advance range d = some (range.drop d.toNat) := advance_of_le hd (by omega)
  have hread : (range.drop d.toNat).head? = some range[d.toNat] := by
    rw [List.head?_drop, List.getElem?_eq_getElem hlt]
  -- The iterator is moved to the end of the chunk wherever it stopped.
  have hrest : advance (range.drop d.toNat) (chunkSize size n - d) =
      some (range.drop (chunkSize size n).toNat) := by
    rw [advance_of_le (by omega) (by rw [List.length_drop]; omega), List.drop_drop]
    congr 2
    omega
  refine ⟨range[d.toNat], s', ?_, ?_⟩
  · exact List.mem_take_iff_getElem.mpr ⟨d.toNat, by omega, rfl⟩
  · rw [sampleLoop, hdraw]
    simp [hchosen, hread, hrest]

/-- As long as the chunks are within the range, there is an element of each. -/
theorem sampleLoop_eq_some {size n : ℤ} (rounds : ℕ) (range : List α) (s : σ)
    (h : rounds * chunkSize size n ≤ range.length) :
    ∃ written s', sampleLoop rng size n rounds range s = some (written, s') ∧
      written.length = rounds ∧ OneOfEach (chunkSize size n).toNat written range := by
  induction rounds generalizing range s with
  | zero => exact ⟨[], s, rfl, rfl, trivial⟩
  | succ rounds ih =>
    have hpos := chunkSize_pos size n
    have hrounds : 0 ≤ rounds * chunkSize size n := Int.mul_nonneg (by omega) (by omega)
    rw [Nat.cast_succ, Int.add_mul] at h
    rcases exists_round rng size n range (by omega) s rounds with ⟨a, s', hmem, hround⟩
    rcases ih (range.drop (chunkSize size n).toNat) s' (by rw [List.length_drop]; omega) with
      ⟨written, s'', hcopied, hlength, hrest⟩
    refine ⟨a :: written, s'', by rw [hround, hcopied, Option.map_some], ?_, hmem, hrest⟩
    rw [List.length_cons, hlength]

/-- Whatever the int is, what is written are elements of the range, one of each chunk. -/
theorem copySampleElements_eq_some (rng : UniformIntDistribution σ) (range : List α) (n : ℤ)
    (s : σ) :
    ∃ written s', copySampleElements rng range n s = some (written, s') ∧
      written.length = (min n (castLength range.length)).toNat ∧
      OneOfEach (chunkSize (castLength range.length) n).toNat written range := by
  refine sampleLoop_eq_some _ range s ?_
  have hle := castLength_le range.length
  by_cases h : 0 < n ∧ 0 < castLength range.length
  · have hchunks := mul_chunkSize_le h.2 h.1
    rw [Int.toNat_of_nonneg (by omega)]
    omega
  · have hzero : (min n (castLength range.length)).toNat = 0 := by omega
    rw [hzero]
    omega

theorem samples_copySampleElements_iff (range : List α) (n : ℤ) (s : σ) :
    Samples range n (copySampleElements rng range n s) ↔ CountsRange range n := by
  rcases copySampleElements_eq_some rng range n s with ⟨written, s', hcopied, hlength, heach⟩
  have hsamples : Samples range n (copySampleElements rng range n s) ↔
      (min n (castLength range.length)).toNat = min n.toNat range.length := by
    rw [← hlength]
    constructor
    · rintro ⟨written', s'', hcopied', hlength', _⟩
      rw [hcopied, Option.some.injEq, Prod.mk.injEq] at hcopied'
      rw [hcopied'.1, hlength']
    · intro hall
      exact ⟨written, s', hcopied, hall, heach.sublist⟩
  have hlt := castLength_lt range.length
  have hint : range.length < 2 ^ 31 → castLength range.length = range.length := castLength_of_lt
  rw [hsamples, countsRange_iff]
  omega

/-- Each of the two functions writes what it is to write where the int is good enough. -/
theorem sampling_iff (rng : UniformIntDistribution σ) (range : List α) (n : ℤ) (s : σ) :
    (Samples range n (copyRandomElements rng range n s) ↔ CountsRange range n) ∧
      (Samples range n (copySampleElements rng range n s) ↔ CountsRange range n) :=
  ⟨samples_copyRandomElements_iff range n s, samples_copySampleElements_iff range n s⟩

/-- One element of `2 ^ 31`, whose number is negative as an int. -/
theorem not_samples_of_many :
    ¬Samples (List.replicate (2 ^ 31) true) 1
      (copyRandomElements .least (List.replicate (2 ^ 31) true) 1 ()) ∧
    ¬Samples (List.replicate (2 ^ 31) true) 1
      (copySampleElements .least (List.replicate (2 ^ 31) true) 1 ()) := by
  have hnot : ¬CountsRange (List.replicate (2 ^ 31) true) 1 := by
    rw [CountsRange, List.length_replicate]
    omega
  rw [samples_copyRandomElements_iff, samples_copySampleElements_iff]
  exact ⟨hnot, hnot⟩

end NeoSwift.Misc
