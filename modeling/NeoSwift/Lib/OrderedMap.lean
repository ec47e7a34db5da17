import Mathlib.Data.List.Sort
import Mathlib.Order.Basic
import Mathlib.Tactic.Common

/-!
# Ordered Maps

The finite maps a program goes through in the order of their keys, as lists of
entries sorted by key. That they are sorted is part of the type, so a key is there
once and two maps with the same lookups are equal.

What a loop over a map collects depends on each entry on its own. `collect_insert`
and `collect_erase` say what becomes of it when one entry changes: the parts in front
of the key and behind it stay.

## Main definitions

* `OrderedMap`: Entries sorted by key.
* `lookup`, `insert`, `erase`: The operations.
* `OrderedMap.collect`: What a loop over the map collects.

## Theorems

* `lookup_insert`, `lookup_erase`: What is found afterwards.
* `mem_entries`: The entries are what is found.
* `ext_lookup`: Maps with the same lookups are equal.
* `collect_insert`, `collect_erase`: What a loop collects afterwards.
* `mem_collect`, `nodup_collect`: What a loop collects.
-/

namespace NeoSwift

/-- A finite map with its entries in the order of the keys. -/
@[ext] structure OrderedMap (κ β : Type*) [LinearOrder κ] where
  entries : List (κ × β)
  sorted : entries.Pairwise (fun e e' => e.1 < e'.1)

namespace OrderedMap

variable {κ β γ : Type*} [LinearOrder κ]

def empty : OrderedMap κ β := ⟨[], List.Pairwise.nil⟩

instance : EmptyCollection (OrderedMap κ β) := ⟨empty⟩

/-- The entries in front of a key. -/
def before (m : OrderedMap κ β) (k : κ) : List (κ × β) := m.entries.filter (fun e => e.1 < k)

/-- The entries behind a key. -/
def behind (m : OrderedMap κ β) (k : κ) : List (κ × β) := m.entries.filter (fun e => k < e.1)

def lookup (m : OrderedMap κ β) (k : κ) : Option β :=
  (m.entries.find? (fun e => e.1 = k)).map Prod.snd

variable {m : OrderedMap κ β}

theorem lt_of_mem_before {k : κ} {e : κ × β} (h : e ∈ m.before k) :
    e.1 < k := of_decide_eq_true (List.mem_filter.mp h).2

theorem lt_of_mem_behind {k : κ} {e : κ × β} (h : e ∈ m.behind k) :
    k < e.1 := of_decide_eq_true (List.mem_filter.mp h).2

theorem sorted_insert (m : OrderedMap κ β) (k : κ) (b : β) :
    (m.before k ++ (k, b) :: m.behind k).Pairwise (fun e e' => e.1 < e'.1) := by
  refine List.pairwise_append.mpr ⟨m.sorted.filter _, ?_, fun e he e' he' => ?_⟩
  · exact List.pairwise_cons.mpr ⟨fun e he => lt_of_mem_behind he, m.sorted.filter _⟩
  · rcases List.mem_cons.mp he' with rfl | hbehind
    · exact lt_of_mem_before he
    · exact (lt_of_mem_before he).trans (lt_of_mem_behind hbehind)

theorem sorted_erase (m : OrderedMap κ β) (k : κ) :
    (m.before k ++ m.behind k).Pairwise (fun e e' => e.1 < e'.1) :=
  List.pairwise_append.mpr ⟨m.sorted.filter _, m.sorted.filter _, fun _ he _ he' =>
    (lt_of_mem_before he).trans (lt_of_mem_behind he')⟩

def insert (m : OrderedMap κ β) (k : κ) (b : β) : OrderedMap κ β :=
  ⟨m.before k ++ (k, b) :: m.behind k, m.sorted_insert k b⟩

def erase (m : OrderedMap κ β) (k : κ) : OrderedMap κ β :=
  ⟨m.before k ++ m.behind k, m.sorted_erase k⟩

def keys (m : OrderedMap κ β) : List κ := m.entries.map Prod.fst

def contains (m : OrderedMap κ β) (k : κ) : Bool := (m.lookup k).isSome

/-- What a loop over the entries collects. -/
def collect (m : OrderedMap κ β) (f : κ → β → List γ) : List γ :=
  m.entries.flatMap (fun e => f e.1 e.2)

/-! ## Lookups -/

theorem nodup_keys (m : OrderedMap κ β) : m.keys.Nodup :=
  List.Pairwise.map _ (fun _ _ => ne_of_lt) m.sorted

/-- A key is there once. -/
theorem eq_of_mem {k : κ} {b b' : β} (h : (k, b) ∈ m.entries) (h' : (k, b') ∈ m.entries) : b = b' :=
  congrArg Prod.snd (List.inj_on_of_nodup_map m.nodup_keys h h' rfl)

/-- The entries are what is found. -/
theorem mem_entries {k : κ} {b : β} : (k, b) ∈ m.entries ↔ m.lookup k = some b := by
  unfold lookup
  rw [Option.map_eq_some_iff]
  constructor
  · intro hmem
    cases hfind : m.entries.find? (fun e => e.1 = k) with
    | none => exact absurd (List.find?_eq_none.mp hfind _ hmem) (by simp)
    | some e =>
        have hkey : e.1 = k := by simpa using List.find?_some hfind
        have hfound : (k, e.2) ∈ m.entries := hkey ▸ List.mem_of_find?_eq_some hfind
        exact ⟨e, rfl, eq_of_mem hfound hmem⟩
  · rintro ⟨e, hfind, rfl⟩
    have hkey : e.1 = k := by simpa using List.find?_some hfind
    exact hkey ▸ List.mem_of_find?_eq_some hfind

theorem mem_keys {k : κ} : k ∈ m.keys ↔ m.lookup k ≠ none := by
  rw [Option.ne_none_iff_exists', keys, List.mem_map]
  constructor
  · rintro ⟨e, he, rfl⟩
    exact ⟨e.2, mem_entries.mp he⟩
  · rintro ⟨b, hb⟩
    exact ⟨(k, b), mem_entries.mpr hb, rfl⟩

theorem lookup_eq_none {k : κ} (h : k ∉ m.keys) : m.lookup k = none := by
  by_contra hlookup
  exact h (mem_keys.mpr hlookup)

/-- Maps with the same lookups are equal. -/
theorem ext_lookup {m n : OrderedMap κ β} (h : ∀ k, m.lookup k = n.lookup k) : m = n := by
  refine OrderedMap.ext (List.Perm.eq_of_pairwise ?_ m.sorted n.sorted ?_)
  · exact fun e e' _ _ hlt hlt' => absurd hlt (lt_asymm hlt')
  · refine (List.perm_ext_iff_of_nodup m.nodup_keys.of_map n.nodup_keys.of_map).mpr ?_
    rintro ⟨k, b⟩
    rw [mem_entries, mem_entries, h k]

@[simp] theorem lookup_empty (k : κ) : (∅ : OrderedMap κ β).lookup k = none := rfl

theorem lookup_insert (m : OrderedMap κ β) (k k' : κ) (b : β) :
    (m.insert k b).lookup k' = if k' = k then some b else m.lookup k' := by
  ext b'
  rw [← mem_entries]
  simp only [insert, before, behind, List.mem_append, List.mem_cons, List.mem_filter,
    decide_eq_true_eq, Prod.mk.injEq, mem_entries]
  by_cases hk : k' = k
  · subst hk
    simp [eq_comm]
  · rw [if_neg hk]
    have hlt : k' < k ∨ k < k' := lt_or_gt_of_ne hk
    constructor
    · rintro (h | h | h)
      · exact h.1
      · exact absurd h.1 hk
      · exact h.1
    · intro h
      rcases hlt with hlt | hlt
      · exact .inl ⟨h, hlt⟩
      · exact .inr (.inr ⟨h, hlt⟩)

theorem lookup_erase (m : OrderedMap κ β) (k k' : κ) :
    (m.erase k).lookup k' = if k' = k then none else m.lookup k' := by
  ext b'
  rw [← mem_entries]
  simp only [erase, before, behind, List.mem_append, List.mem_filter, decide_eq_true_eq,
    mem_entries]
  by_cases hk : k' = k
  · subst hk
    simp
  · rw [if_neg hk]
    have hlt : k' < k ∨ k < k' := lt_or_gt_of_ne hk
    constructor
    · rintro (h | h)
      · exact h.1
      · exact h.1
    · intro h
      rcases hlt with hlt | hlt
      · exact .inl ⟨h, hlt⟩
      · exact .inr ⟨h, hlt⟩

/-! ## Loops -/

theorem mem_collect {f : κ → β → List γ} {x : γ} :
    x ∈ m.collect f ↔ ∃ k b, m.lookup k = some b ∧ x ∈ f k b := by
  unfold collect
  rw [List.mem_flatMap]
  constructor
  · rintro ⟨e, he, hx⟩
    exact ⟨e.1, e.2, mem_entries.mp he, hx⟩
  · rintro ⟨k, b, hb, hx⟩
    exact ⟨(k, b), mem_entries.mpr hb, hx⟩

/-- A loop that collects no value twice at one entry or at two. -/
theorem nodup_collect {f : κ → β → List γ} (hone : ∀ k b, m.lookup k = some b → (f k b).Nodup)
    (htwo : ∀ k k' b b', k ≠ k' → List.Disjoint (f k b) (f k' b')) : (m.collect f).Nodup := by
  refine List.nodup_flatMap.mpr ⟨fun e he => hone e.1 e.2 (mem_entries.mp he), ?_⟩
  exact m.sorted.imp (fun hlt => htwo _ _ _ _ (ne_of_lt hlt))

/-- The entries around a key. -/
theorem entries_eq (m : OrderedMap κ β) (k : κ) :
    m.entries = m.before k ++ m.entries.filter (fun e => e.1 = k) ++ m.behind k := by
  rcases m with ⟨entries, sorted⟩
  unfold before behind
  induction entries with
  | nil => rfl
  | cons e entries ih =>
      rcases List.pairwise_cons.mp sorted with ⟨hhead, htail⟩
      rcases lt_trichotomy e.1 k with hlt | heq | hgt
      · -- The key is further behind.
        simp only [List.filter_cons, hlt, ne_of_lt hlt, lt_asymm hlt]
        exact congrArg _ (ih htail)
      -- The key is here or before, so all other entries are behind it.
      all_goals
        have hbehind : ∀ e' ∈ entries, k < e'.1 := fun e' he' =>
          lt_of_le_of_lt (by first | exact heq.ge | exact hgt.le) (hhead e' he')
        have hbefore : entries.filter (fun e => e.1 < k) = [] :=
          List.filter_eq_nil_iff.mpr (fun e' he' => by simpa using (hbehind e' he').le)
        have hat : entries.filter (fun e => e.1 = k) = [] :=
          List.filter_eq_nil_iff.mpr (fun e' he' => by simpa using (hbehind e' he').ne')
        have hrest : entries.filter (fun e => k < e.1) = entries :=
          List.filter_eq_self.mpr (fun e' he' => by simpa using hbehind e' he')
      · simp only [List.filter_cons, heq, lt_irrefl, hbefore, hat, hrest]
        rfl
      · simp only [List.filter_cons, hgt, ne_of_gt hgt, lt_asymm hgt, hbefore, hat, hrest]
        rfl

theorem filter_key (m : OrderedMap κ β) (k : κ) :
    m.entries.filter (fun e => e.1 = k) = ((m.lookup k).map (Prod.mk k)).toList := by
  have hnodup : (m.entries.filter (fun e => e.1 = k)).Nodup := m.nodup_keys.of_map.filter _
  -- A key has at most one entry, as the keys are without duplicates.
  have hmem : ∀ e, e ∈ m.entries.filter (fun e => e.1 = k) ↔
      ∃ b, m.lookup k = some b ∧ e = (k, b) := by
    rintro ⟨k', b⟩
    rw [List.mem_filter, decide_eq_true_eq]
    constructor
    · rintro ⟨hentry, rfl⟩
      exact ⟨b, mem_entries.mp hentry, rfl⟩
    · rintro ⟨b', hb, heq⟩
      rcases Prod.mk.inj heq with ⟨rfl, rfl⟩
      exact ⟨mem_entries.mpr hb, rfl⟩
  cases hb : m.lookup k with
  | none =>
      refine List.eq_nil_iff_forall_not_mem.mpr (fun e he => ?_)
      rcases (hmem e).mp he with ⟨b, hb', -⟩
      exact absurd (hb.symm.trans hb') (by simp)
  | some b =>
      refine List.perm_singleton.mp ((List.perm_ext_iff_of_nodup hnodup (by simp)).mpr ?_)
      intro e
      rw [hmem e, hb]
      simp

/-- What a loop collects, around a key. -/
theorem collect_eq (m : OrderedMap κ β) (f : κ → β → List γ) (k : κ) :
    m.collect f = (m.before k).flatMap (fun e => f e.1 e.2)
      ++ ((m.lookup k).map (f k)).getD [] ++ (m.behind k).flatMap (fun e => f e.1 e.2) := by
  rw [collect, m.entries_eq k, List.flatMap_append, List.flatMap_append, filter_key]
  cases m.lookup k with
  | none => rfl
  | some b => simp

/-- What is collected, when the new entry collects what the key collected before. -/
theorem collect_insert (m : OrderedMap κ β) (f : κ → β → List γ) {k : κ} {b : β}
    (h : f k b = ((m.lookup k).map (f k)).getD []) : (m.insert k b).collect f = m.collect f := by
  rw [m.collect_eq f k, ← h, collect, insert]
  simp

/-- What is collected, when the key collected nothing. -/
theorem collect_erase (m : OrderedMap κ β) (f : κ → β → List γ) {k : κ}
    (h : ((m.lookup k).map (f k)).getD [] = []) : (m.erase k).collect f = m.collect f := by
  rw [m.collect_eq f k, h, collect, erase]
  simp

end OrderedMap

end NeoSwift
