import Mathlib.Data.Finset.Max
import Mathlib.Tactic.Common
import NeoSwift.Lib.Machine

/-!
# Replay Windows

A replay window remembers a bounded number of the values it has accepted and
refuses a value it remembers. Once it is full, accepting a value costs it the
smallest one it remembers, so it must also refuse everything at or below that:
a value it has forgotten is indistinguishable from one it has never seen.

The window is stated over any linear order. What makes it safe is the relation
between the values it has forgotten and those it still remembers, which is
`Sound`: every forgotten value is below every remembered one, and nothing is
forgotten before the window is full. Both refusals follow from it.

## Main definitions

* `ReplayWindow`: A bounded set of remembered values.
* `ReplayWindow.Accepts`: The values the window lets through.
* `ReplayWindow.offer`: One value offered to the window.
* `ReplayWindow.Sound`: The window against the values it has accepted.

## Theorems

* `card_aboveMin`: Forgetting the minimum frees one place.
* `sound_offer`: Offering a value keeps the window sound.
* `accepts_of_forall_lt`: A value above all accepted ones is accepted.
-/

namespace NeoSwift

variable {α : Type*} [LinearOrder α]

/-- The elements of a finite set that are not its minimum. -/
def aboveMin (s : Finset α) : Finset α :=
  s.filter (fun y => ∃ z ∈ s, z < y)

theorem mem_aboveMin {s : Finset α} {y : α} : y ∈ aboveMin s ↔ y ∈ s ∧ ∃ z ∈ s, z < y := by
  simp [aboveMin]

/-- Forgetting the minimum of a set that has one frees exactly one place. -/
theorem card_aboveMin {s : Finset α} (hs : s.Nonempty) : (aboveMin s).card + 1 = s.card := by
  have herase : aboveMin s = s.erase (s.min' hs) := by
    ext y
    simp only [mem_aboveMin, Finset.mem_erase]
    constructor
    · rintro ⟨hy, z, hz, hzy⟩
      exact ⟨fun hc => absurd (Finset.min'_le s z hz) (by rw [← hc]; exact not_le.mpr hzy), hy⟩
    · rintro ⟨hne, hy⟩
      exact ⟨hy, s.min' hs, s.min'_mem hs, lt_of_le_of_ne (s.min'_le y hy) (Ne.symm hne)⟩
  rw [herase, Finset.card_erase_add_one (s.min'_mem hs)]

/-- A set of remembered values that fits its capacity. -/
structure ReplayWindow (α : Type*) [LinearOrder α] where
  capacity : ℕ
  remembered : Finset α
  card_le : remembered.card ≤ capacity

namespace ReplayWindow

/-- A value is let through if it is not remembered and there is either room for
    it or a smaller value to forget. -/
def Accepts (w : ReplayWindow α) (x : α) : Prop :=
  x ∉ w.remembered ∧ (w.remembered.card < w.capacity ∨ ∃ y ∈ w.remembered, y < x)

instance (w : ReplayWindow α) (x : α) : Decidable (w.Accepts x) :=
  inferInstanceAs (Decidable (_ ∧ _))

/-- The values remembered once `x` has been let in. -/
def admitted (w : ReplayWindow α) (x : α) : Finset α :=
  if w.remembered.card < w.capacity then insert x w.remembered
  else insert x (aboveMin w.remembered)

variable {w : ReplayWindow α}

theorem card_admitted {x : α} (h : w.Accepts x) : (w.admitted x).card ≤ w.capacity := by
  rcases h with ⟨hx, hroom⟩
  by_cases hlt : w.remembered.card < w.capacity
  · rw [admitted, if_pos hlt, Finset.card_insert_of_notMem hx]
    omega
  · rcases hroom.resolve_left hlt with ⟨y, hy, _⟩
    have hcard := card_aboveMin ⟨y, hy⟩
    have hle := Finset.card_insert_le x (aboveMin w.remembered)
    rw [admitted, if_neg hlt]
    have := w.card_le
    omega

/-- Offer `x` to the window: the window afterwards, and `x` if it was let
    through. -/
def offer (w : ReplayWindow α) (x : α) : ReplayWindow α × List α :=
  if h : w.Accepts x then
    ({ w with remembered := w.admitted x, card_le := card_admitted h }, [x])
  else (w, [])

theorem offer_of_accepts {x : α} (h : w.Accepts x) :
    w.offer x = ({ w with remembered := w.admitted x, card_le := card_admitted h }, [x]) :=
  dif_pos h

theorem offer_of_not_accepts {x : α} (h : ¬w.Accepts x) : w.offer x = (w, []) :=
  dif_neg h

theorem capacity_offer (w : ReplayWindow α) (x : α) : (w.offer x).1.capacity = w.capacity := by
  rw [offer]
  split <;> rfl

/-- The window against the values `acc` it has let through so far. -/
structure Sound (w : ReplayWindow α) (acc : List α) : Prop where
  nodup : acc.Nodup
  remembered_mem : ∀ y ∈ w.remembered, y ∈ acc
  forgotten_lt : ∀ a ∈ acc, a ∉ w.remembered → ∀ y ∈ w.remembered, a < y
  forgotten_full : ∀ a ∈ acc, a ∉ w.remembered → w.remembered.card = w.capacity

/-- A value the window lets through is new: one it has accepted before is
    remembered, or it was forgotten and lies below everything remembered. -/
theorem Sound.not_mem_of_accepts {acc : List α} (hs : w.Sound acc) {x : α}
    (h : w.Accepts x) : x ∉ acc := by
  intro hmem
  rcases h with ⟨hx, hroom | ⟨y, hy, hyx⟩⟩
  · have := hs.forgotten_full x hmem hx
    omega
  · exact absurd (hs.forgotten_lt x hmem hx y hy) (not_lt.mpr hyx.le)

theorem sound_admitted {acc : List α} (hs : w.Sound acc) {x : α}
    (h : w.Accepts x) :
    Sound { w with remembered := w.admitted x, card_le := card_admitted h } (acc ++ [x]) := by
  have hnew := hs.not_mem_of_accepts h
  have hnodup : (acc ++ [x]).Nodup := by
    simpa only [List.nodup_append, List.nodup_cons, List.not_mem_nil, not_false_eq_true,
      List.nodup_nil, true_and, List.mem_singleton, forall_eq] using
      ⟨hs.nodup, fun a ha hc => hnew (hc ▸ ha)⟩
  by_cases hlt : w.remembered.card < w.capacity
  · -- With room left nothing has been forgotten yet, and nothing is now.
    have hall : ∀ a ∈ acc, a ∈ w.remembered := by
      intro a ha
      by_contra hc
      have := hs.forgotten_full a ha hc
      omega
    have hadm : w.admitted x = insert x w.remembered := if_pos hlt
    have hkept : ∀ a ∈ acc ++ [x], a ∈ w.admitted x := by
      intro a ha
      rw [hadm, Finset.mem_insert]
      rcases List.mem_append.mp ha with ha | ha
      · exact Or.inr (hall a ha)
      · exact Or.inl (List.mem_singleton.mp ha)
    refine ⟨hnodup, ?_, fun a ha hc => absurd (hkept a ha) hc,
      fun a ha hc => absurd (hkept a ha) hc⟩
    intro y hy
    change y ∈ w.admitted x at hy
    rw [hadm, Finset.mem_insert] at hy
    rcases hy with rfl | hy
    · exact List.mem_append_right _ (List.mem_singleton_self _)
    · exact List.mem_append_left _ (hs.remembered_mem y hy)
  · -- The window is full: its minimum gives way to `x`, which lies above it.
    rcases h.2.resolve_left hlt with ⟨y₀, hy₀, hy₀x⟩
    have hfull : w.remembered.card = w.capacity := Nat.le_antisymm w.card_le (not_lt.mp hlt)
    have hadm : w.admitted x = insert x (aboveMin w.remembered) := if_neg hlt
    have hcard : (w.admitted x).card = w.capacity := by
      have hx : x ∉ aboveMin w.remembered := fun hc => h.1 (mem_aboveMin.mp hc).1
      rw [hadm, Finset.card_insert_of_notMem hx, card_aboveMin ⟨y₀, hy₀⟩, hfull]
    -- Whatever is forgotten lies below some value that was remembered before.
    have hbelow : ∀ a ∈ acc ++ [x], a ∉ w.admitted x → ∀ y ∈ w.remembered, a ≤ y := by
      intro a ha hna y hy
      rw [hadm, Finset.mem_insert, not_or, mem_aboveMin] at hna
      rcases List.mem_append.mp ha with ha | ha
      · by_cases hmem : a ∈ w.remembered
        · by_contra hc
          exact hna.2 ⟨hmem, y, hy, not_le.mp hc⟩
        · exact (hs.forgotten_lt a ha hmem y hy).le
      · exact absurd (List.mem_singleton.mp ha) hna.1
    refine ⟨hnodup, ?_, ?_, fun _ _ _ => hcard⟩
    · intro y hy
      change y ∈ w.admitted x at hy
      rw [hadm, Finset.mem_insert, mem_aboveMin] at hy
      rcases hy with rfl | ⟨hy, _⟩
      · exact List.mem_append_right _ (List.mem_singleton_self _)
      · exact List.mem_append_left _ (hs.remembered_mem y hy)
    · intro a ha hna y hy
      change y ∈ w.admitted x at hy
      rw [hadm, Finset.mem_insert, mem_aboveMin] at hy
      rcases hy with rfl | ⟨_, z, hz, hzy⟩
      · exact lt_of_le_of_lt (hbelow a ha hna y₀ hy₀) hy₀x
      · exact lt_of_le_of_lt (hbelow a ha hna z hz) hzy

/-- Offering a value keeps the window sound. -/
theorem sound_offer (w : ReplayWindow α) (acc : List α) (x : α) (hs : w.Sound acc) :
    (w.offer x).1.Sound (acc ++ (w.offer x).2) := by
  by_cases h : w.Accepts x
  · rw [offer_of_accepts h]
    exact sound_admitted hs h
  · rw [offer_of_not_accepts h, List.append_nil]
    exact hs

/-- A value above everything accepted so far is let through, as long as the
    window can hold anything at all. -/
theorem Sound.accepts_of_forall_lt {acc : List α} (hs : w.Sound acc)
    (hpos : 0 < w.capacity) {x : α} (hx : ∀ a ∈ acc, a < x) : w.Accepts x := by
  refine ⟨fun hmem => lt_irrefl x (hx x (hs.remembered_mem x hmem)), ?_⟩
  rcases w.remembered.eq_empty_or_nonempty with hempty | ⟨y, hy⟩
  · left
    rw [hempty]
    exact hpos
  · exact Or.inr ⟨y, hy, hx y (hs.remembered_mem y hy)⟩

end ReplayWindow

end NeoSwift
