import Mathlib.Data.List.AList
import Mathlib.Tactic.Common

/-!
# Finite Maps

The finite maps of a program that keeps values by key, as association lists
without duplicate keys. Mathlib has insertion, removal and union; here are the
operations that look at the entries of a whole map. Each comes with what a lookup
finds afterwards, and nothing else about the entries is used.

## Main definitions

* `AssocMap`: A map whose values do not depend on the key.
* `AssocMap.mapValues`: The entries with their values replaced.
* `AssocMap.filterEntries`: The entries that pass a test.
* `AssocMap.overlay`: One map with the entries of another put over it.

## Theorems

* `lookup_mapValues`, `lookup_filterEntries`, `lookup_overlay`: What they hold.
* `isEmpty_iff_lookup`: An empty map holds nothing.
-/

namespace NeoSwift

/-- A finite map. -/
abbrev AssocMap (κ β : Type*) := AList (fun _ : κ => β)

namespace AssocMap

variable {κ β γ : Type*}

/-- The map with a function applied to every entry. -/
def mapValues (f : κ → β → γ) (m : AssocMap κ β) : AssocMap κ γ :=
  ⟨m.entries.map (.map id f), by
    have hkeys := m.nodupKeys
    rw [List.NodupKeys, List.keys] at hkeys ⊢
    rw [List.map_map]
    exact hkeys⟩

/-- The entries that pass a test. -/
def filterEntries (p : κ → β → Bool) (m : AssocMap κ β) : AssocMap κ β :=
  ⟨m.entries.filter (fun e => p e.1 e.2), m.nodupKeys.sublist List.filter_sublist⟩

/-- The map has no entries. -/
def isEmpty (m : AssocMap κ β) : Bool := m.entries.isEmpty

variable [DecidableEq κ]

/-- The entries of the second map over those of the first. -/
def overlay (m n : AssocMap κ β) : AssocMap κ β := n ∪ m

@[simp] theorem lookup_mapValues (f : κ → β → γ) (m : AssocMap κ β) (k : κ) :
    (m.mapValues f).lookup k = (m.lookup k).map (f k) :=
  @List.dlookup_map₂ κ _ (fun _ => β) (fun _ => γ) m.entries f k

@[simp] theorem lookup_filterEntries (p : κ → β → Bool) (m : AssocMap κ β) (k : κ) :
    (m.filterEntries p).lookup k = (m.lookup k).filter (p k) := by
  have hkeys := m.nodupKeys
  unfold filterEntries AList.lookup
  dsimp only
  generalize m.entries = entries at hkeys
  induction entries with
  | nil => rfl
  | cons e es ih =>
      rcases List.nodupKeys_cons.mp hkeys with ⟨hnot, hrest⟩
      rw [List.filter_cons]
      by_cases heq : e.1 = k
      · subst heq
        have hnone : List.dlookup e.1 es = none := List.dlookup_eq_none.mpr hnot
        by_cases hp : p e.1 e.2 = true
        · rw [if_pos hp, List.dlookup_cons_eq, List.dlookup_cons_eq, Option.filter_some, if_pos hp]
        · rw [if_neg hp, ih hrest, hnone, List.dlookup_cons_eq, Option.filter_some, if_neg hp,
            Option.filter_none]
      · rw [List.dlookup_cons_ne es e (Ne.symm heq)]
        split
        · rw [List.dlookup_cons_ne _ e (Ne.symm heq), ih hrest]
        · exact ih hrest

@[simp] theorem lookup_overlay (m n : AssocMap κ β) (k : κ) :
    (m.overlay n).lookup k = (n.lookup k).or (m.lookup k) := by
  unfold overlay
  rcases hn : n.lookup k with _ | b
  · rw [AList.lookup_union_right (AList.lookup_eq_none.mp hn), Option.none_or]
  · have hmem : k ∈ n := by rw [← AList.lookup_isSome, hn]; rfl
    rw [AList.lookup_union_left hmem, hn, Option.some_or]

theorem isEmpty_iff_lookup (m : AssocMap κ β) : m.isEmpty = true ↔ ∀ k, m.lookup k = none := by
  unfold isEmpty AList.lookup
  rw [List.isEmpty_iff]
  constructor
  · intro h k
    rw [h, List.dlookup_nil]
  · intro h
    rcases hentries : m.entries with _ | ⟨e, es⟩
    · rfl
    · have hk := h e.1
      rw [hentries, List.dlookup_cons_eq] at hk
      cases hk

end AssocMap

end NeoSwift
