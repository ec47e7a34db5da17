import Mathlib.Data.List.TakeWhile

/-!
# Sections of a list

A list in which some elements are headers falls into what is in front of the first header and
the sections, which are a header and the elements up to the next one. Nothing is lost and nothing
is in two sections, so that a loop over the list is a loop over the sections.

## Main definitions

* `front`: What is in front of the first header.
* `sections`: The headers, each with what belongs to it.

## Theorems

* `front_append_sections`: The list is its sections.
* `not_header_of_mem_front`, `of_mem_sections`: Where the headers are.
* `foldl_sections`: A loop over the list.
-/

namespace NeoSwift.Sections

variable {α β : Type*} (header : α → Bool)

/-- What is in front of the first header. -/
def front (l : List α) : List α := l.takeWhile fun x => !header x

def sections : List α → List (α × List α)
  | [] => []
  | x :: l => if header x then (x, front header l) :: sections l else sections l

variable {header}

theorem front_cons_header {x : α} (h : header x = true) (l : List α) : front header (x :: l) = [] :=
  List.takeWhile_cons_of_neg (by rw [h]; exact Bool.false_ne_true)

theorem front_cons_body {x : α} (h : header x = false) (l : List α) :
    front header (x :: l) = x :: front header l :=
  List.takeWhile_cons_of_pos (by rw [h]; rfl)

variable (header) in
/-- The list is what its sections are. -/
theorem front_append_sections (l : List α) :
    front header l ++ (sections header l).flatMap (fun s => s.1 :: s.2) = l := by
  induction l with
  | nil => rfl
  | cons x l ih =>
    cases hx : header x with
    | true =>
      rw [front_cons_header hx, sections, if_pos hx, List.flatMap_cons, List.nil_append,
        List.cons_append, ih]
    | false =>
      rw [front_cons_body hx, sections, if_neg (by rw [hx]; exact Bool.false_ne_true),
        List.cons_append, ih]

theorem not_header_of_mem_front {l : List α} {x : α} (h : x ∈ front header l) :
    header x = false := by
  have := List.mem_takeWhile_imp h
  rwa [Bool.not_eq_true'] at this

/-- A section begins with a header and has no other one. -/
theorem of_mem_sections {l : List α} {s : α × List α} (h : s ∈ sections header l) :
    header s.1 = true ∧ ∀ x ∈ s.2, header x = false := by
  induction l with
  | nil => cases h
  | cons x l ih =>
    rw [sections] at h
    by_cases hx : header x = true
    · rw [if_pos hx] at h
      rcases List.mem_cons.mp h with rfl | h
      · exact ⟨hx, fun y hy => not_header_of_mem_front hy⟩
      · exact ih h
    · rw [if_neg hx] at h
      exact ih h

variable (header) in
/-- A loop over the list is one over the sections. -/
theorem foldl_sections (f : β → α → β) (b : β) (l : List α) :
    l.foldl f b = (sections header l).foldl (fun b s => s.2.foldl f (f b s.1))
        ((front header l).foldl f b) := by
  calc l.foldl f b
      = (front header l ++ (sections header l).flatMap fun s => s.1 :: s.2).foldl f b := by
        rw [front_append_sections]
    _ = (sections header l).foldl (fun b s => s.2.foldl f (f b s.1))
          ((front header l).foldl f b) := by
        rw [List.foldl_append, List.foldl_flatMap]
        rfl

end NeoSwift.Sections
