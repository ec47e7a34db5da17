import NeoSwift.Lib.Machine
import Mathlib.Data.List.Basic

/-!
# Line Framing

Lines cut out of a stream that arrives in pieces. A reader keeps what has
arrived in a buffer and hands the terminated lines in it to a consumer, one at a
time; the consumer may close the source, and then the rest of the buffer is
gone.

What a reader hands over is a matter of the stream alone, not of the pieces:
more symbols never change a line that is there already. Up to the first line
that closes the source this holds without any condition, and the rest of the
stream matters only as long as nothing closes it.

Two readers are built from one loop. One reads all lines of a piece as it
arrives. The other one reads a limited number of lines at a time and schedules
another read if there may be more.

## Main definitions

* `lines`, `remainder`: A stream taken apart.
* `Consumer`: What takes the lines.
* `readLines`: The loop of a reader.
* `eager`: A reader that reads on arrival.
* `paced`: A reader that reads a limited number of lines at a time.
* `Paced.pending`: What a paced reader still has to do.

## Theorems

* `lines_append`: Lines come in the order of the pieces.
* `readLines_eq`: What the loop does, in terms of the lines of its buffer.
* `eager_run`: The eager reader hands over the lines of the stream.
* `paced_drains`: The scheduled reads come to an end, in whatever order they run.
* `paced_run`: Then the paced reader has handed over the lines of the stream, too.
-/

namespace NeoSwift.LineFraming

variable {α σ : Type*}

section Lines

variable [DecidableEq α] (eol : α)

/-- The terminated lines of a stream, each with its terminator. -/
def lines : List α → List (List α)
  | [] => []
  | a :: as =>
    if a = eol then [a] :: lines as
    else
      match lines as with
      | [] => []
      | l :: ls => (a :: l) :: ls

/-- What follows the last terminator of a stream. -/
def remainder : List α → List α
  | [] => []
  | a :: as => if a = eol ∨ lines eol as ≠ [] then remainder as else a :: as

/-- The first line of a buffer and what follows it. -/
def cutLine : List α → Option (List α × List α)
  | [] => none
  | a :: as =>
    if a = eol then some ([a], as)
    else (cutLine as).map (fun cut => (a :: cut.1, cut.2))

theorem lines_cons_eol (as : List α) : lines eol (eol :: as) = [eol] :: lines eol as := by
  rw [lines, if_pos rfl]

theorem lines_cons_of_nil {a : α} {as : List α} (ha : a ≠ eol) (h : lines eol as = []) :
    lines eol (a :: as) = [] := by
  rw [lines, if_neg ha, h]

theorem lines_cons_of_cons {a : α} {as l : List α} {ls : List (List α)} (ha : a ≠ eol)
    (h : lines eol as = l :: ls) : lines eol (a :: as) = (a :: l) :: ls := by
  rw [lines, if_neg ha, h]

theorem remainder_cons_of_nil {a : α} {as : List α} (ha : a ≠ eol) (h : lines eol as = []) :
    remainder eol (a :: as) = a :: as := by
  rw [remainder, if_neg (by simp [ha, h])]

theorem remainder_cons_of_cons {a : α} {as l : List α} {ls : List (List α)}
    (h : lines eol as = l :: ls) : remainder eol (a :: as) = remainder eol as := by
  rw [remainder, if_pos (Or.inr (by rw [h]; exact List.cons_ne_nil _ _))]

theorem remainder_cons_eol (as : List α) : remainder eol (eol :: as) = remainder eol as := by
  rw [remainder, if_pos (Or.inl rfl)]

/-- The lines and the remainder are the stream. -/
theorem flatten_lines_append_remainder (xs : List α) :
    (lines eol xs).flatten ++ remainder eol xs = xs := by
  induction xs with
  | nil => rfl
  | cons a as ih =>
      by_cases ha : a = eol
      · subst ha
        simp [lines_cons_eol, remainder_cons_eol, ih]
      · cases h : lines eol as with
        | nil =>
            rw [lines_cons_of_nil eol ha h, remainder_cons_of_nil eol ha h, List.flatten_nil,
              List.nil_append]
        | cons l ls =>
            rw [h] at ih
            rw [lines_cons_of_cons eol ha h, remainder_cons_of_cons eol h, List.flatten_cons,
              List.cons_append, List.cons_append, ← List.flatten_cons, ih]

/-- There is a line to cut off exactly if there is a line. -/
theorem cutLine_eq (buf : List α) :
    cutLine eol buf = match lines eol buf with
      | [] => none
      | l :: ls => some (l, ls.flatten ++ remainder eol buf) := by
  induction buf with
  | nil => rfl
  | cons a as ih =>
      by_cases ha : a = eol
      · subst ha
        rw [cutLine, lines_cons_eol, remainder_cons_eol]
        simp [flatten_lines_append_remainder]
      · rw [cutLine, if_neg ha, ih]
        cases h : lines eol as with
        | nil => rw [lines_cons_of_nil eol ha h, Option.map_none]
        | cons l ls =>
            rw [lines_cons_of_cons eol ha h, remainder_cons_of_cons eol h, Option.map_some]

/-- Lines come in the order of the pieces. The remainder of the first piece
    begins the first line of the second. -/
theorem lines_append (xs ys : List α) :
    lines eol (xs ++ ys) = lines eol xs ++ lines eol (remainder eol xs ++ ys) := by
  induction xs with
  | nil => rfl
  | cons a as ih =>
      by_cases ha : a = eol
      · subst ha
        rw [List.cons_append, lines_cons_eol, lines_cons_eol, remainder_cons_eol, ih,
          List.cons_append]
      · cases h : lines eol as with
        | nil =>
            rw [lines_cons_of_nil eol ha h, remainder_cons_of_nil eol ha h, List.nil_append]
        | cons l ls =>
            rw [h, List.cons_append] at ih
            rw [lines_cons_of_cons eol ha h, remainder_cons_of_cons eol h, List.cons_append,
              lines_cons_of_cons eol ha ih, List.cons_append]

theorem remainder_append (xs ys : List α) :
    remainder eol (xs ++ ys) = remainder eol (remainder eol xs ++ ys) := by
  induction xs with
  | nil => rfl
  | cons a as ih =>
      by_cases ha : a = eol
      · subst ha
        rw [List.cons_append, remainder_cons_eol, remainder_cons_eol, ih]
      · cases h : lines eol as with
        | nil => rw [remainder_cons_of_nil eol ha h]
        | cons l ls =>
            have happ := lines_append eol as ys
            rw [h] at happ
            rw [List.cons_append, remainder_cons_of_cons eol happ, remainder_cons_of_cons eol h, ih]

/-- A line in front of a stream. -/
theorem lines_line_append {body : List α} (h : eol ∉ body) (xs : List α) :
    lines eol (body ++ [eol] ++ xs) = (body ++ [eol]) :: lines eol xs ∧
      remainder eol (body ++ [eol] ++ xs) = remainder eol xs := by
  induction body with
  | nil => exact ⟨lines_cons_eol eol xs, remainder_cons_eol eol xs⟩
  | cons a body ih =>
      rw [List.mem_cons, not_or] at h
      rcases ih h.2 with ⟨hlines, hrem⟩
      exact ⟨lines_cons_of_cons eol (Ne.symm h.1) hlines,
        (remainder_cons_of_cons eol hlines).trans hrem⟩

/-- Lines put together are the lines of the whole, and nothing remains. -/
theorem lines_flatten (ls : List (List α)) (h : ∀ l ∈ ls, ∃ body, l = body ++ [eol] ∧ eol ∉ body) :
    lines eol ls.flatten = ls ∧ remainder eol ls.flatten = [] := by
  induction ls with
  | nil => exact ⟨rfl, rfl⟩
  | cons l ls ih =>
      rcases List.forall_mem_cons.mp h with ⟨⟨body, rfl, hbody⟩, hrest⟩
      rcases lines_line_append eol hbody ls.flatten with ⟨hlines, hrem⟩
      rcases ih hrest with ⟨hlines', hrem'⟩
      rw [List.flatten_cons, hlines, hrem, hlines', hrem']
      exact ⟨rfl, rfl⟩

/-- What is left when the first line is cut off has the other lines and the same
    remainder. -/
theorem lines_rest {buf l : List α} {ls : List (List α)} (h : lines eol buf = l :: ls) :
    lines eol (ls.flatten ++ remainder eol buf) = ls ∧
      remainder eol (ls.flatten ++ remainder eol buf) = remainder eol buf := by
  induction buf generalizing l with
  | nil => exact absurd h (List.cons_ne_nil _ _).symm
  | cons a as ih =>
      by_cases ha : a = eol
      · subst ha
        rw [lines_cons_eol, List.cons.injEq] at h
        rw [remainder_cons_eol, ← h.2, flatten_lines_append_remainder]
        exact ⟨rfl, rfl⟩
      · cases has : lines eol as with
        | nil =>
            rw [lines_cons_of_nil eol ha has] at h
            exact absurd h (List.cons_ne_nil _ _).symm
        | cons l' ls' =>
            rw [lines_cons_of_cons eol ha has, List.cons.injEq] at h
            rw [remainder_cons_of_cons eol has]
            refine ih (l := l') ?_
            rw [has, h.2]

/-- The same when several lines are cut off. -/
theorem lines_drop (n : ℕ) (buf : List α) :
    lines eol (((lines eol buf).drop n).flatten ++ remainder eol buf) = (lines eol buf).drop n ∧
      remainder eol (((lines eol buf).drop n).flatten ++ remainder eol buf)
        = remainder eol buf := by
  induction n generalizing buf with
  | zero =>
      rw [List.drop_zero, flatten_lines_append_remainder]
      exact ⟨rfl, rfl⟩
  | succ n ih =>
      cases h : lines eol buf with
      | nil =>
          have hbuf : remainder eol buf = buf := by
            simpa only [h, List.flatten_nil, List.nil_append] using
              flatten_lines_append_remainder eol buf
          rw [hbuf]
          exact ⟨h, hbuf⟩
      | cons l ls =>
          rcases lines_rest eol h with ⟨hls, hrem⟩
          have hrest := ih (ls.flatten ++ remainder eol buf)
          rw [hls, hrem] at hrest
          exact hrest

/-- A stream has no more lines than symbols. -/
theorem length_lines_le (xs : List α) : (lines eol xs).length ≤ xs.length := by
  induction xs with
  | nil => exact Nat.le_refl 0
  | cons a as ih =>
      by_cases ha : a = eol
      · subst ha
        rw [lines_cons_eol, List.length_cons, List.length_cons]
        omega
      · cases h : lines eol as with
        | nil =>
            rw [lines_cons_of_nil eol ha h]
            exact Nat.zero_le _
        | cons l ls =>
            rw [h] at ih
            rw [lines_cons_of_cons eol ha h]
            simp only [List.length_cons] at ih ⊢
            omega

/-- There is no line in a remainder. -/
theorem lines_remainder (xs : List α) : lines eol (remainder eol xs) = [] := by
  induction xs with
  | nil => rfl
  | cons a as ih =>
      by_cases ha : a = eol
      · subst ha
        rw [remainder_cons_eol, ih]
      · cases h : lines eol as with
        | nil => rw [remainder_cons_of_nil eol ha h, lines_cons_of_nil eol ha h]
        | cons l ls => rw [remainder_cons_of_cons eol h, ih]

end Lines

/-- What takes lines one at a time, and says with each whether it closes the
    source. -/
structure Consumer (σ α : Type*) where
  take : σ → List α → σ × Bool

namespace Consumer

variable (c : Consumer σ α)

/-- Lines taken until one closes the source: the state then, and whether one
    does. -/
def feed : σ → List (List α) → σ × Bool
  | s, [] => (s, false)
  | s, l :: ls => if (c.take s l).2 then ((c.take s l).1, true) else feed (c.take s l).1 ls

/-- The lines up to the first one that closes the source. -/
def untilClosed : σ → List (List α) → List (List α)
  | _, [] => []
  | s, l :: ls => l :: if (c.take s l).2 then [] else untilClosed (c.take s l).1 ls

variable {ls : List (List α)}

theorem feed_append_of_closed {s : σ} (h : (c.feed s ls).2 = true)
    (ms : List (List α)) : c.feed s (ls ++ ms) = c.feed s ls := by
  induction ls generalizing s with
  | nil => cases h
  | cons l ls ih =>
      rw [feed] at h
      rw [List.cons_append, feed, feed]
      split at h
      · rename_i hclosed
        rw [if_pos hclosed, if_pos hclosed]
      · rename_i hopen
        rw [if_neg hopen, if_neg hopen, ih h]

theorem feed_append_of_open {s t : σ} (h : c.feed s ls = (t, false))
    (ms : List (List α)) : c.feed s (ls ++ ms) = c.feed t ms := by
  induction ls generalizing s with
  | nil =>
      cases h
      rfl
  | cons l ls ih =>
      rw [feed] at h
      rw [List.cons_append, feed]
      split at h
      · cases h
      · rename_i hopen
        rw [if_neg hopen, ih h]

theorem untilClosed_append_of_closed {s : σ} (h : (c.feed s ls).2 = true)
    (ms : List (List α)) : c.untilClosed s (ls ++ ms) = c.untilClosed s ls := by
  induction ls generalizing s with
  | nil => cases h
  | cons l ls ih =>
      rw [feed] at h
      rw [List.cons_append, untilClosed, untilClosed]
      split at h
      · rename_i hclosed
        rw [if_pos hclosed, if_pos hclosed]
      · rename_i hopen
        rw [if_neg hopen, if_neg hopen, ih h]

theorem untilClosed_append_of_open {s t : σ} (h : c.feed s ls = (t, false))
    (ms : List (List α)) : c.untilClosed s (ls ++ ms) = ls ++ c.untilClosed t ms := by
  induction ls generalizing s with
  | nil =>
      cases h
      rfl
  | cons l ls ih =>
      rw [feed] at h
      rw [List.cons_append, untilClosed]
      split at h
      · cases h
      · rename_i hopen
        rw [if_neg hopen, ih h, List.cons_append]

/-- Lines behind the one that closes the source do not matter. -/
theorem feed_untilClosed (s : σ) (ls : List (List α)) :
    c.feed s (c.untilClosed s ls) = c.feed s ls := by
  induction ls generalizing s with
  | nil => rfl
  | cons l ls ih =>
      rw [untilClosed, feed, feed]
      split
      · rfl
      · exact ih _

theorem untilClosed_of_open {s : σ} (h : (c.feed s ls).2 = false) : c.untilClosed s ls = ls := by
  have hfeed : c.feed s ls = ((c.feed s ls).1, false) := by rw [← h]
  simpa only [List.append_nil, untilClosed] using c.untilClosed_append_of_open hfeed []

theorem length_untilClosed_le (s : σ) (ls : List (List α)) :
    (c.untilClosed s ls).length ≤ ls.length := by
  induction ls generalizing s with
  | nil => exact Nat.le_refl 0
  | cons l ls ih =>
      rw [untilClosed]
      split
      · exact Nat.succ_le_succ (Nat.zero_le _)
      · exact Nat.succ_le_succ (ih _)

theorem untilClosed_untilClosed (s : σ) (ls : List (List α)) :
    c.untilClosed s (c.untilClosed s ls) = c.untilClosed s ls := by
  induction ls generalizing s with
  | nil => rfl
  | cons l ls ih =>
      rw [untilClosed, untilClosed]
      split
      · rfl
      · rw [ih]

end Consumer

section Reading

variable (c : Consumer σ α)

/-- A reader that started in `s₀` has handed over `out`: while the source is
    open, these are the lines of the stream but for those that wait in the
    buffer; afterwards, they are the same up to the line that closed it. -/
def Reading (s₀ : σ) (all : List (List α)) (s : σ) (waiting out : List (List α)) : Prop :=
  (c.feed s₀ out = (s, false) ∧ all = out ++ waiting) ∨
    ((c.feed s₀ out).2 = true ∧ c.untilClosed s₀ out = c.untilClosed s₀ all)

theorem reading_start (s : σ) : Reading c s [] s [] [] := Or.inl ⟨rfl, rfl⟩

/-- More lines arrive and wait. -/
theorem reading_arrive {s₀ s : σ} {all waiting out : List (List α)}
    (h : Reading c s₀ all s waiting out) (more : List (List α)) :
    Reading c s₀ (all ++ more) s (waiting ++ more) out := by
  rcases h with ⟨hfeed, hall⟩ | ⟨hclosed, huntil⟩
  · refine Or.inl ⟨hfeed, ?_⟩
    rw [hall, List.append_assoc]
  · refine Or.inr ⟨hclosed, ?_⟩
    have hfeed : c.feed s₀ all = c.feed s₀ out := by
      rw [← c.feed_untilClosed s₀ all, ← huntil, c.feed_untilClosed]
    rw [c.untilClosed_append_of_closed (by rw [hfeed, hclosed]), huntil]

/-- Lines that wait are read, and others wait behind them. -/
theorem reading_read {s₀ s : σ} {all ls waiting waiting' out : List (List α)}
    (h : Reading c s₀ all s (ls ++ waiting) out)
    (hwaiting : (c.feed s ls).2 = false → waiting' = waiting) :
    Reading c s₀ all (c.feed s ls).1 waiting' (out ++ c.untilClosed s ls) := by
  rcases h with ⟨hfeed, hall⟩ | ⟨hclosed, huntil⟩
  · have happ : c.feed s₀ (out ++ c.untilClosed s ls) = c.feed s ls := by
      rw [c.feed_append_of_open hfeed, c.feed_untilClosed]
    cases hls : (c.feed s ls).2 with
    | false =>
        refine Or.inl ⟨?_, ?_⟩
        · rw [happ, ← hls]
        · rw [hall, c.untilClosed_of_open hls, hwaiting hls, List.append_assoc]
    | true =>
        refine Or.inr ⟨by rw [happ, hls], ?_⟩
        rw [hall, c.untilClosed_append_of_open hfeed, c.untilClosed_append_of_open hfeed,
          c.untilClosed_untilClosed, c.untilClosed_append_of_closed hls]
  · refine Or.inr ⟨?_, ?_⟩
    · rw [c.feed_append_of_closed hclosed, hclosed]
    · rw [c.untilClosed_append_of_closed hclosed, huntil]

/-- What has been handed over begins what will be. -/
theorem reading_prefix {s₀ s : σ} {all waiting out : List (List α)}
    (h : Reading c s₀ all s waiting out) : c.untilClosed s₀ out <+: c.untilClosed s₀ all := by
  rcases h with ⟨hfeed, hall⟩ | ⟨-, huntil⟩
  · rw [hall, c.untilClosed_append_of_open hfeed, c.untilClosed_of_open (by rw [hfeed])]
    exact List.prefix_append _ _
  · exact huntil ▸ List.prefix_rfl

/-- When no line waits, the lines handed over are those of the stream: all of
    them if nothing closes the source, and those up to the first one that closes
    it in any case. -/
theorem reading_done {s₀ s : σ} {all out : List (List α)} (h : Reading c s₀ all s [] out) :
    c.untilClosed s₀ out = c.untilClosed s₀ all ∧ ((c.feed s₀ all).2 = false → out = all) := by
  rcases h with ⟨-, hall⟩ | ⟨hclosed, huntil⟩
  · rw [List.append_nil] at hall
    subst hall
    exact ⟨rfl, fun _ => rfl⟩
  · refine ⟨huntil, fun hopen => ?_⟩
    rw [← c.feed_untilClosed, ← huntil, c.feed_untilClosed, hclosed] at hopen
    cases hopen

/-- Behind a closed source it does not matter what the reader does. -/
theorem reading_of_closed {s₀ s s' : σ} {all waiting waiting' out : List (List α)}
    (h : Reading c s₀ all s waiting out) (hclosed : (c.feed s₀ out).2 = true) :
    Reading c s₀ all s' waiting' out := by
  rcases h with ⟨hfeed, -⟩ | hdone
  · rw [hfeed] at hclosed
    cases hclosed
  · exact Or.inr hdone

end Reading

/-- What happens to a paced reader: a piece arrives, or one of its scheduled
    reads runs. -/
inductive PacedEvent (α : Type*) where
  | arrive (piece : List α)
  | read (i : ℕ)

/-- The stream that has arrived. -/
def arrived : List (PacedEvent α) → List α
  | [] => []
  | .arrive piece :: events => piece ++ arrived events
  | .read _ :: events => arrived events

theorem arrived_append (es fs : List (PacedEvent α)) :
    arrived (es ++ fs) = arrived es ++ arrived fs := by
  induction es with
  | nil => rfl
  | cons e es ih => cases e <;> simp [arrived, ih]

/-- The state of a paced reader: the consumer, the buffer, and the limits of the
    reads that are scheduled. -/
structure Paced (σ α : Type*) where
  consumer : σ
  buffer : List α
  scheduled : List ℕ

section Readers

variable [DecidableEq α] (eol : α)

/-- The loop of a reader: lines are cut off the buffer, at most so many, and
    those that are kept are handed over. A closed source has an empty buffer. -/
def readLines (keep : List α → Bool) (c : Consumer σ α) :
    ℕ → σ → List α → (σ × List α) × List (List α)
  | 0, s, buf => ((s, buf), [])
  | n + 1, s, buf =>
    match cutLine eol buf with
    | none => ((s, buf), [])
    | some (line, rest) =>
      if keep line then
        let taken := c.take s line
        let next := readLines keep c n taken.1 (if taken.2 then [] else rest)
        (next.1, line :: next.2)
      else readLines keep c n s rest

variable (keep : List α → Bool) (c : Consumer σ α)

theorem readLines_nil (n : ℕ) (s : σ) : readLines eol keep c n s [] = ((s, []), []) := by
  cases n <;> rfl

/-- What the loop does, in terms of the lines of its buffer. -/
theorem readLines_eq (n : ℕ) (s : σ) (buf : List α) :
    readLines eol keep c n s buf
      = (((c.feed s (((lines eol buf).take n).filter keep)).1,
          if (c.feed s (((lines eol buf).take n).filter keep)).2 then []
          else ((lines eol buf).drop n).flatten ++ remainder eol buf),
        c.untilClosed s (((lines eol buf).take n).filter keep)) := by
  induction n generalizing s buf with
  | zero =>
      simp only [List.drop_zero, flatten_lines_append_remainder]
      rfl
  | succ n ih =>
      rw [readLines, cutLine_eq]
      cases hlines : lines eol buf with
      -- Without a line end nothing is cut, and the buffer is the remainder.
      | nil =>
          have hbuf : remainder eol buf = buf := by
            simpa only [hlines, List.flatten_nil, List.nil_append] using
              flatten_lines_append_remainder eol buf
          simp only [hbuf]
          rfl
      | cons l ls =>
          rcases lines_rest eol hlines with ⟨hls, hrem⟩
          dsimp only
          rw [List.take_succ_cons, List.drop_succ_cons]
          split
          · rename_i hkeep
            rw [List.filter_cons_of_pos hkeep, Consumer.feed, Consumer.untilClosed]
            -- A line that closes leaves nothing, whatever is behind it.
            by_cases hclosed : (c.take s l).2
            · simp [hclosed, readLines_nil]
            · simp [hclosed, ih, hls, hrem]
          · rename_i hkeep
            rw [List.filter_cons_of_neg hkeep, ih, hls, hrem]

/-- A reader that started in `s₀` on a stream has `buf` in its buffer and has
    handed over `out`. -/
structure Buffered (s₀ : σ) (stream : List α) (s : σ) (buf : List α) (out : List (List α)) :
    Prop where
  reading : Reading c s₀ ((lines eol stream).filter keep) s ((lines eol buf).filter keep) out
  remainder_eq : (c.feed s₀ out).2 = false → remainder eol buf = remainder eol stream

theorem buffered_start (s : σ) : Buffered eol keep c s [] s [] [] :=
  ⟨reading_start c s, fun _ => rfl⟩

/-- A piece arrives. -/
theorem buffered_arrive {s₀ s : σ} {stream buf : List α} {out : List (List α)}
    (h : Buffered eol keep c s₀ stream s buf out) (piece : List α) :
    Buffered eol keep c s₀ (stream ++ piece) s (buf ++ piece) out := by
  rcases h with ⟨hreading, hrem⟩
  cases hopen : (c.feed s₀ out).2 with
  | true =>
      have harrive := reading_arrive c hreading
        ((lines eol (remainder eol stream ++ piece)).filter keep)
      rw [← List.filter_append, ← lines_append] at harrive
      exact ⟨reading_of_closed c harrive hopen, fun h => nomatch hopen.symm.trans h⟩
  | false =>
      have hrem := hrem hopen
      refine ⟨?_, fun _ => ?_⟩
      · rw [lines_append eol stream, lines_append eol buf, hrem, List.filter_append,
          List.filter_append]
        exact reading_arrive c hreading _
      · rw [remainder_append eol stream, remainder_append eol buf, hrem]

/-- Lines are read. -/
theorem buffered_read {s₀ s : σ} {stream buf : List α} {out : List (List α)}
    (h : Buffered eol keep c s₀ stream s buf out) (n : ℕ) :
    Buffered eol keep c s₀ stream (readLines eol keep c n s buf).1.1
      (readLines eol keep c n s buf).1.2 (out ++ (readLines eol keep c n s buf).2) := by
  rcases h with ⟨hreading, hrem⟩
  rcases lines_drop eol n buf with ⟨hdrop, hdropRem⟩
  have hsplit : (lines eol buf).filter keep
      = ((lines eol buf).take n).filter keep ++ ((lines eol buf).drop n).filter keep := by
    rw [← List.filter_append, List.take_append_drop]
  rw [hsplit] at hreading
  rw [readLines_eq]
  refine ⟨reading_read c hreading fun hopen => ?_, fun hopen => ?_⟩
  · simp [hopen, hdrop]
  · rcases hreading with ⟨hfeed, -⟩ | ⟨hclosed, -⟩
    · rw [c.feed_append_of_open hfeed, c.feed_untilClosed] at hopen
      simp only [hopen, Bool.false_eq_true, if_false, hdropRem]
      exact hrem (by rw [hfeed])
    · rw [c.feed_append_of_closed hclosed, hclosed] at hopen
      cases hopen

/-- A reader without lines in its buffer has handed over those of the stream:
    all of them if nothing closes the source, and those up to the first one that
    closes it in any case. -/
theorem buffered_done {s₀ s : σ} {stream buf : List α} {out : List (List α)}
    (h : Buffered eol keep c s₀ stream s buf out) (hbuf : lines eol buf = []) :
    c.untilClosed s₀ out = c.untilClosed s₀ ((lines eol stream).filter keep) ∧
      ((c.feed s₀ ((lines eol stream).filter keep)).2 = false →
        out = (lines eol stream).filter keep ∧ buf = remainder eol stream) := by
  rcases h with ⟨hreading, hrem⟩
  rw [hbuf] at hreading
  rcases reading_done c hreading with ⟨huntil, hall⟩
  refine ⟨huntil, fun hopen => ?_⟩
  have hout := hall hopen
  have hkept : remainder eol buf = buf := by
    simpa only [hbuf, List.flatten_nil, List.nil_append] using
      flatten_lines_append_remainder eol buf
  refine ⟨hout, hkept.symm.trans (hrem ?_)⟩
  rw [hout, hopen]

/-- A reader that reads on arrival. -/
def eager : Machine (σ × List α) (List α) (List α) where
  step st piece :=
    if piece = [] then (st, [])
    else readLines eol keep c (st.2 ++ piece).length st.1 (st.2 ++ piece)

/-- Reading with as many rounds as there are symbols leaves no line. -/
theorem lines_readLines_length (s : σ) (buf : List α) :
    lines eol (readLines eol keep c buf.length s buf).1.2 = [] := by
  rw [readLines_eq, List.drop_eq_nil_of_le (length_lines_le eol buf)]
  split
  · rfl
  · exact lines_remainder eol buf

/-- The eager reader hands over the lines of the stream, and keeps its
    remainder. -/
theorem eager_run (s₀ : σ) (pieces : List (List α)) :
    c.untilClosed s₀ ((eager eol keep c).run (s₀, []) pieces).2
        = c.untilClosed s₀ ((lines eol pieces.flatten).filter keep) ∧
      ((c.feed s₀ ((lines eol pieces.flatten).filter keep)).2 = false →
        ((eager eol keep c).run (s₀, []) pieces).2 = (lines eol pieces.flatten).filter keep ∧
        ((eager eol keep c).run (s₀, []) pieces).1.2 = remainder eol pieces.flatten) := by
  have hinv := (eager eol keep c).run_history
    (fun pieces st out =>
      Buffered eol keep c s₀ pieces.flatten st.1 st.2 out ∧ lines eol st.2 = []) (s₀, [])
    ⟨buffered_start eol keep c s₀, rfl⟩ ?_ pieces
  · exact buffered_done eol keep c hinv.1 hinv.2
  · rintro pieces ⟨s, buf⟩ out piece ⟨hbuffered, hlines⟩
    rw [List.flatten_append, List.flatten_singleton]
    by_cases hpiece : piece = []
    · simp only [eager, hpiece, if_true, List.append_nil]
      exact ⟨hbuffered, hlines⟩
    · simp only [eager, hpiece]
      exact ⟨buffered_read eol keep c (buffered_arrive eol keep c hbuffered piece) _,
        lines_readLines_length eol keep c s _⟩

/-- A reader that reads at most one line more than its limit, and schedules
    another read if it stops there. Each piece that arrives schedules a read. -/
def paced (first : ℕ) (next : ℕ → ℕ) : Machine (Paced σ α) (PacedEvent α) (List α) where
  step r
    | .arrive piece =>
      ({ r with buffer := r.buffer ++ piece, scheduled := r.scheduled ++ [first] }, [])
    | .read i =>
      match r.scheduled[i]? with
      | none => (r, [])
      | some limit =>
        let result := readLines eol (fun _ => true) c (limit + 1) r.consumer r.buffer
        let scheduled := r.scheduled.eraseIdx i
        ({ consumer := result.1.1, buffer := result.1.2,
           scheduled := if limit < result.2.length then scheduled ++ [next result.2.length]
             else scheduled }, result.2)

/-- Where lines are left, as many have been handed over as are allowed. -/
theorem length_readLines_of_left {n : ℕ} {s : σ} {buf : List α}
    (h : lines eol (readLines eol (fun _ => true) c n s buf).1.2 ≠ []) :
    (readLines eol (fun _ => true) c n s buf).2.length = n := by
  rw [readLines_eq] at h ⊢
  split at h
  · exact absurd rfl h
  · rename_i hopen
    rw [(lines_drop eol n buf).1, ne_eq, List.drop_eq_nil_iff] at h
    rw [c.untilClosed_of_open (Bool.eq_false_iff.mpr hopen), List.filter_true, List.length_take]
    omega

variable (first : ℕ) (next : ℕ → ℕ)

/-- While a line waits, a read is scheduled. -/
theorem paced_scheduled (s₀ : σ) (events : List (PacedEvent α)) :
    let r := (paced eol c first next).run ⟨s₀, [], []⟩ events
    Buffered eol (fun _ => true) c s₀ (arrived events) r.1.consumer r.1.buffer r.2 ∧
      (lines eol r.1.buffer ≠ [] → r.1.scheduled ≠ []) := by
  refine (paced eol c first next).run_history
    (fun events r out =>
      Buffered eol (fun _ => true) c s₀ (arrived events) r.consumer r.buffer out ∧
        (lines eol r.buffer ≠ [] → r.scheduled ≠ [])) ⟨s₀, [], []⟩
    ⟨buffered_start eol _ c s₀, fun h => absurd rfl h⟩ ?_ events
  rintro events r out event ⟨hbuffered, hscheduled⟩
  cases event with
  -- An arrival schedules a read itself.
  | arrive piece =>
      rw [arrived_append]
      simp only [paced, arrived, List.append_nil]
      exact ⟨buffered_arrive eol _ c hbuffered piece, fun _ => by simp⟩
  | read i =>
      rw [arrived_append]
      simp only [paced, arrived, List.append_nil]
      cases hi : r.scheduled[i]? with
      | none =>
          rw [List.append_nil]
          exact ⟨hbuffered, hscheduled⟩
      -- A read that leaves lines has come to its limit, and schedules the next one.
      | some limit =>
          refine ⟨buffered_read eol _ c hbuffered _, fun hleft => ?_⟩
          have hlen := length_readLines_of_left eol c hleft
          dsimp only
          rw [if_pos (by omega)]
          exact List.append_ne_nil_of_right_ne_nil _ (List.cons_ne_nil _ _)

/-- The lines in a buffer before a read are those left and those handed over, or more. -/
theorem length_readLines_le (n : ℕ) (s : σ) (buf : List α) :
    (lines eol (readLines eol (fun _ => true) c n s buf).1.2).length
      + (readLines eol (fun _ => true) c n s buf).2.length ≤ (lines eol buf).length := by
  have hout := c.length_untilClosed_le s ((lines eol buf).take n)
  rw [List.length_take] at hout
  rw [readLines_eq, List.filter_true]
  dsimp only
  split
  · rw [lines, List.length_nil]
    omega
  · rw [(lines_drop eol n buf).1, List.length_drop]
    omega

/-- What a paced reader still has to do: its scheduled reads, and the lines in its
    buffer. -/
def Paced.pending (r : Paced σ α) : ℕ := r.scheduled.length + (lines eol r.buffer).length

/-- A read runs that is scheduled, if there is one. -/
def Paced.Runs (r : Paced σ α) : PacedEvent α → Prop
  | .arrive _ => False
  | .read i => r.scheduled ≠ [] → i < r.scheduled.length

/-- A read that runs leaves less to do: it is not scheduled again unless it has handed
    over a line. -/
theorem paced_read_lt {r : Paced σ α} {i : ℕ} (hi : i < r.scheduled.length) :
    ((paced eol c first next).step r (.read i)).1.pending eol < r.pending eol := by
  have hlines := length_readLines_le eol c (r.scheduled[i] + 1) r.consumer r.buffer
  have herase := List.length_eraseIdx_add_one hi
  simp only [paced, List.getElem?_eq_getElem hi, Paced.pending]
  split
  · rw [List.length_append, List.length_singleton]
    omega
  · omega

/-- The scheduled reads come to an end, in whatever order they run. -/
theorem paced_drains {r : Paced σ α} {reads : List (PacedEvent α)}
    (hruns : (paced eol c first next).AllSteps Paced.Runs r reads)
    (hlength : r.scheduled = [] ∨ r.pending eol ≤ reads.length) :
    ((paced eol c first next).run r reads).1.scheduled = [] := by
  induction reads generalizing r with
  | nil =>
      rcases hlength with hr | hle
      · exact hr
      · exact List.length_eq_zero_iff.mp (Nat.le_zero.mp (Nat.le_trans (Nat.le_add_right _ _) hle))
  | cons event reads ih =>
      rcases hruns with ⟨hrun, hruns⟩
      cases event with
      | arrive piece => exact hrun.elim
      | read i =>
          refine ih hruns ?_
          by_cases hr : r.scheduled = []
          -- Where nothing is scheduled, nothing happens.
          · refine Or.inl ?_
            simp [paced, hr]
          · have hlt := paced_read_lt eol c first next (hrun hr)
            have hle := hlength.resolve_left hr
            rw [List.length_cons] at hle
            exact Or.inr (by omega)

/-- The reads may run in the order in which they were scheduled. -/
theorem runs_first (r : Paced σ α) (n : ℕ) :
    (paced eol c first next).AllSteps Paced.Runs r (List.replicate n (.read 0)) := by
  induction n generalizing r with
  | zero => trivial
  | succ n ih => exact ⟨List.length_pos_of_ne_nil, ih _⟩

theorem arrived_of_runs {r : Paced σ α} {reads : List (PacedEvent α)}
    (hruns : (paced eol c first next).AllSteps Paced.Runs r reads) : arrived reads = [] := by
  induction reads generalizing r with
  | nil => rfl
  | cons event reads ih =>
      cases event with
      | arrive piece => exact hruns.1.elim
      | read i => exact ih hruns.2

/-- At any time, a paced reader has handed over the beginning of the lines of the
    stream. -/
theorem paced_prefix (s₀ : σ) (events : List (PacedEvent α)) :
    c.untilClosed s₀ ((paced eol c first next).run ⟨s₀, [], []⟩ events).2
      <+: c.untilClosed s₀ (lines eol (arrived events)) := by
  have hreading := (paced_scheduled eol c first next s₀ events).1.reading
  rw [List.filter_true] at hreading
  exact reading_prefix c hreading

/-- The paced reader hands over the lines of the stream: when its scheduled reads have
    run, whatever else they did in between, nothing is left to do. -/
theorem paced_run (s₀ : σ) (events reads : List (PacedEvent α))
    (hruns : (paced eol c first next).AllSteps Paced.Runs
      ((paced eol c first next).run ⟨s₀, [], []⟩ events).1 reads)
    (hlength : ((paced eol c first next).run ⟨s₀, [], []⟩ events).1.pending eol
      ≤ reads.length) :
    let r := (paced eol c first next).run ⟨s₀, [], []⟩ (events ++ reads)
    r.1.scheduled = [] ∧
      c.untilClosed s₀ r.2 = c.untilClosed s₀ (lines eol (arrived events)) ∧
      ((c.feed s₀ (lines eol (arrived events))).2 = false →
        r.2 = lines eol (arrived events) ∧ r.1.buffer = remainder eol (arrived events)) := by
  intro r
  have hdrained : r.1.scheduled = [] := by
    simpa only [r, Machine.run_append] using
      paced_drains eol c first next hruns (Or.inr hlength)
  rcases paced_scheduled eol c first next s₀ (events ++ reads) with ⟨hbuffered, hscheduled⟩
  have hdone := buffered_done eol _ c hbuffered (by
    by_contra hlines
    exact hscheduled hlines hdrained)
  rw [List.filter_true, arrived_append, arrived_of_runs eol c first next hruns,
    List.append_nil] at hdone
  exact ⟨hdrained, hdone⟩

end Readers

end NeoSwift.LineFraming
