import Mathlib.Data.List.Basic

/-!
# Block framing

Blocks of one size cut from a stream that arrives in pieces. The last block is kept back until
more of the stream is there, so what is kept is empty only as long as the stream is.

That makes the framing a matter of the stream: there is at most one, in whatever pieces the
stream came. `IsFraming.append` frames a stream piece by piece.

## Main definitions

* `IsFraming`: A stream as blocks and what is kept of it.

## Theorems

* `IsFraming.append`: What is kept, framed with the next piece.
* `IsFraming.unique`: A stream has one framing.
-/

namespace NeoSwift.BlockFraming

variable {α : Type*} {n : ℕ}

/-- The stream in blocks of `n`, and up to `n` of it that are kept. -/
structure IsFraming (n : ℕ) (stream : List α) (blocks : List (List α)) (rest : List α) : Prop where
  length_block : ∀ block ∈ blocks, block.length = n
  stream_eq : blocks.flatten ++ rest = stream
  length_rest : rest.length ≤ n
  eq_nil : rest = [] → stream = []

/-- A stream that is kept as it is. -/
theorem IsFraming.of_length_le {stream : List α} (h : stream.length ≤ n) :
    IsFraming n stream [] stream where
  length_block := by simp
  stream_eq := by rw [List.flatten_nil, List.nil_append]
  length_rest := h
  eq_nil := id

/-- One block in front. -/
theorem IsFraming.cons {stream block rest : List α} {blocks : List (List α)}
    (h : IsFraming n stream blocks rest) (hblock : block.length = n) (hne : stream ≠ []) :
    IsFraming n (block ++ stream) (block :: blocks) rest where
  length_block := by
    intro b hb
    rcases List.mem_cons.mp hb with rfl | hb
    · exact hblock
    · exact h.length_block b hb
  stream_eq := by rw [List.flatten_cons, List.append_assoc, h.stream_eq]
  length_rest := h.length_rest
  eq_nil hrest := absurd (h.eq_nil hrest) hne

theorem IsFraming.append {stream piece rest rest' : List α} {blocks more : List (List α)}
    (h : IsFraming n stream blocks rest) (hmore : IsFraming n (rest ++ piece) more rest') :
    IsFraming n (stream ++ piece) (blocks ++ more) rest' where
  length_block := by
    intro b hb
    rcases List.mem_append.mp hb with hb | hb
    · exact h.length_block b hb
    · exact hmore.length_block b hb
  stream_eq := by
    rw [List.flatten_append, List.append_assoc, hmore.stream_eq, ← List.append_assoc, h.stream_eq]
  length_rest := hmore.length_rest
  eq_nil hrest := by
    rcases List.append_eq_nil_iff.mp (hmore.eq_nil hrest) with ⟨hnil, hpiece⟩
    rw [h.eq_nil hnil, hpiece, List.append_nil]

/-- Behind the first block there is something left. -/
theorem IsFraming.tail {stream block rest : List α} {blocks : List (List α)} (hn : 0 < n)
    (h : IsFraming n stream (block :: blocks) rest) :
    IsFraming n (blocks.flatten ++ rest) blocks rest ∧ rest ≠ [] := by
  have hblock := h.length_block block List.mem_cons_self
  have hne : rest ≠ [] := by
    intro hrest
    -- A stream with a block in it is not empty.
    have hnil := h.stream_eq.trans (h.eq_nil hrest)
    simp only [List.flatten_cons, List.append_eq_nil_iff] at hnil
    rw [hnil.1.1, List.length_nil] at hblock
    omega
  refine ⟨⟨?_, rfl, h.length_rest, fun hrest => absurd hrest hne⟩, hne⟩
  intro b hb
  exact h.length_block b (List.mem_cons_of_mem _ hb)

/-- A stream that fits into a block is not cut. -/
theorem IsFraming.lt_length {stream block rest : List α} {blocks : List (List α)} (hn : 0 < n)
    (h : IsFraming n stream (block :: blocks) rest) : n < stream.length := by
  have hrest := List.length_pos_iff.mpr (h.tail hn).2
  have hblock := h.length_block block List.mem_cons_self
  rw [← h.stream_eq, List.flatten_cons]
  simp only [List.length_append]
  omega

theorem IsFraming.unique {rest rest' : List α} (hn : 0 < n) (blocks : List (List α)) :
    ∀ {stream : List α} {blocks' : List (List α)}, IsFraming n stream blocks rest →
      IsFraming n stream blocks' rest' → blocks = blocks' ∧ rest = rest' := by
  induction blocks with
  | nil =>
      intro stream blocks' h h'
      have hrest : rest = stream := by simpa using h.stream_eq
      cases blocks' with
      | nil => exact ⟨rfl, hrest.trans (by simpa using h'.stream_eq.symm)⟩
      | cons block blocks' =>
          have hlong := h'.lt_length hn
          have hshort := h.length_rest
          rw [hrest] at hshort
          omega
  | cons block blocks ih =>
      intro stream blocks' h h'
      cases blocks' with
      | nil =>
          have hlong := h.lt_length hn
          have hrest : rest' = stream := by simpa using h'.stream_eq
          have hshort := h'.length_rest
          rw [hrest] at hshort
          omega
      | cons block' blocks' =>
          -- The first blocks take up the same part of the stream.
          have heq := h.stream_eq.trans h'.stream_eq.symm
          simp only [List.flatten_cons, List.append_assoc] at heq
          have hlength : block.length = block'.length :=
            (h.length_block block List.mem_cons_self).trans
              (h'.length_block block' List.mem_cons_self).symm
          rcases List.append_inj heq hlength with ⟨hblock, htail⟩
          have h₂ := (h'.tail hn).1
          rw [← htail] at h₂
          rcases ih (h.tail hn).1 h₂ with ⟨hblocks, hrest⟩
          exact ⟨by rw [hblock, hblocks], hrest⟩

end NeoSwift.BlockFraming
