import NeoSwift.Lib.OrderedMap

/-!
# Iterators of ordered maps

An iterator stands at a key of a map or behind the last one. What can be done with it from there
depends on the keys that follow, so these are the iterator: the first one is the key it stands
at, and the others are where it goes. Two iterators of a map are the same if and only if the
same keys follow.

What is inserted in front of an iterator leaves it as it is. Bounds are searched for in the
sorted keys, which makes them the keys from some key on.

## Main definitions

* `OrderedMap.lowerBound`, `OrderedMap.upperBound`: The iterators at a key and behind it.

## Theorems

* `lowerBound_eq`, `upperBound_eq`: The keys from a key on, and those behind it.
* `exists_first_last`: The keys a map begins and ends with.
* `exists_range`: Between two bounds are the keys between two keys.
* `keys_insert`: The keys around one that is inserted.
* `lowerBound_insert_of_lt`: What is inserted in front of a bound.
-/

namespace NeoSwift.OrderedMap

variable {κ β : Type*} [LinearOrder κ] (m : OrderedMap κ β)

/-- The first key that is not less. -/
def lowerBound (k : κ) : List κ := m.keys.dropWhile (· < k)

/-- The first key that is greater. -/
def upperBound (k : κ) : List κ := m.keys.dropWhile (· ≤ k)

theorem sorted_keys : m.keys.Pairwise (· < ·) :=
  List.Pairwise.map _ (fun _ _ => id) m.sorted

/-- What holds up to some key of a sorted list is dropped up to there. -/
theorem dropWhile_eq_filter {l : List κ} {p : κ → Bool} (hl : l.Pairwise (· < ·))
    (hp : ∀ a b, a < b → p b = true → p a = true) : l.dropWhile p = l.filter (fun k => !p k) := by
  induction l with
  | nil => rfl
  | cons a l ih =>
      rcases List.pairwise_cons.mp hl with ⟨hhead, htail⟩
      by_cases ha : p a = true
      · rw [List.dropWhile_cons_of_pos ha, List.filter_cons_of_neg (by simp [ha])]
        exact ih htail
      · -- From the first one on nothing is dropped.
        have hrest : ∀ b ∈ l, (!p b) = true := by
          intro b hb
          by_contra hb'
          exact ha (hp a b (hhead b hb) (by simpa using hb'))
        rw [List.dropWhile_cons_of_neg ha, List.filter_cons_of_pos (by simpa using ha),
          List.filter_eq_self.mpr hrest]

omit [LinearOrder κ] in
/-- Of what meets a weaker test, that which meets the stronger one. -/
theorem filter_filter_of_imp {p q : κ → Bool} (h : ∀ k, p k = true → q k = true) (l : List κ) :
    (l.filter q).filter p = l.filter p := by
  rw [List.filter_filter]
  refine List.filter_congr fun k _ => ?_
  rw [Bool.and_eq_left_iff_imp]
  exact h k

theorem filter_le_eq_self {l : List κ} {k : κ} (h : ∀ a ∈ l, k < a) : l.filter (k ≤ ·) = l :=
  List.filter_eq_self.mpr fun a ha => decide_eq_true (h a ha).le

theorem dropWhile_lt_eq_filter {l : List κ} (hl : l.Pairwise (· < ·)) (k : κ) :
    l.dropWhile (· < k) = l.filter (k ≤ ·) := by
  rw [dropWhile_eq_filter hl fun a b hab hb => by simpa using hab.trans (by simpa using hb)]
  exact List.filter_congr fun b _ => by rw [← decide_not, decide_eq_decide, not_lt]

theorem dropWhile_le_eq_filter {l : List κ} (hl : l.Pairwise (· < ·)) (k : κ) :
    l.dropWhile (· ≤ k) = l.filter (k < ·) := by
  rw [dropWhile_eq_filter hl fun a b hab hb => by simpa using hab.le.trans (by simpa using hb)]
  exact List.filter_congr fun b _ => by rw [← decide_not, decide_eq_decide, not_le]

/-- The keys from a key on. -/
theorem lowerBound_eq (k : κ) : m.lowerBound k = m.keys.filter (k ≤ ·) :=
  dropWhile_lt_eq_filter m.sorted_keys k

/-- The keys behind a key. -/
theorem upperBound_eq (k : κ) : m.upperBound k = m.keys.filter (k < ·) :=
  dropWhile_le_eq_filter m.sorted_keys k

/-- The keys from a greater key on, among those from a key on. -/
theorem filter_lowerBound {k k' : κ} (h : k ≤ k') :
    (m.lowerBound k).filter (k' ≤ ·) = m.lowerBound k' := by
  rw [lowerBound_eq, lowerBound_eq]
  refine filter_filter_of_imp (fun a ha => ?_) m.keys
  exact decide_eq_true (h.trans (of_decide_eq_true ha))

theorem mem_lowerBound {m : OrderedMap κ β} {k k' : κ} :
    k' ∈ m.lowerBound k ↔ k' ∈ m.keys ∧ k ≤ k' := by
  rw [lowerBound_eq, List.mem_filter, decide_eq_true_eq]

theorem mem_upperBound {m : OrderedMap κ β} {k k' : κ} :
    k' ∈ m.upperBound k ↔ k' ∈ m.keys ∧ k < k' := by
  rw [upperBound_eq, List.mem_filter, decide_eq_true_eq]

theorem sorted_lowerBound (k : κ) : (m.lowerBound k).Pairwise (· < ·) :=
  m.sorted_keys.sublist (List.dropWhile_sublist _)

/-- The first and the last key of a map that is not empty. -/
theorem exists_first_last {m : OrderedMap κ β} (h : m.keys ≠ []) :
    ∃ first last, m.keys.head? = some first ∧ m.keys.getLast? = some last ∧
      ∀ k ∈ m.keys, first ≤ k ∧ k ≤ last := by
  refine ⟨m.keys.head h, m.keys.getLast h, List.head?_eq_some_head h,
    List.getLast?_eq_some_getLast h, fun k hk => ⟨?_, ?_⟩⟩
  · have hsplit := List.cons_head_tail h
    rw [← hsplit] at hk
    rcases List.mem_cons.mp hk with rfl | hk
    · exact le_rfl
    · have hsorted := m.sorted_keys
      rw [← hsplit] at hsorted
      exact ((List.pairwise_cons.mp hsorted).1 k hk).le
  · have hsplit := List.dropLast_append_getLast h
    rw [← hsplit] at hk
    rcases List.mem_append.mp hk with hk | hk
    · have hsorted := m.sorted_keys
      rw [← hsplit] at hsorted
      exact ((List.pairwise_append.mp hsorted).2.2 k hk _ (List.mem_singleton_self _)).le
    · exact (List.mem_singleton.mp hk).le

/-- From one bound to another are the keys between two keys. -/
theorem exists_range {a b : κ} (h : a ≤ b) :
    ∃ range, m.lowerBound a = range ++ m.upperBound b ∧
      ∀ k, k ∈ range ↔ k ∈ m.keys ∧ a ≤ k ∧ k ≤ b := by
  -- The keys are sorted, so those up to the second bound are in front.
  have hupper : (m.lowerBound a).dropWhile (· ≤ b) = m.upperBound b := by
    rw [dropWhile_le_eq_filter (m.sorted_lowerBound a), lowerBound_eq, upperBound_eq]
    refine filter_filter_of_imp (fun k hk => ?_) m.keys
    exact decide_eq_true (h.trans (of_decide_eq_true hk).le)
  have hsplit := List.takeWhile_append_dropWhile (p := fun k => decide (k ≤ b))
    (l := m.lowerBound a)
  rw [hupper] at hsplit
  refine ⟨_, hsplit.symm, fun k => ?_⟩
  constructor
  · intro hk
    have hle := List.all_eq_true.mp List.all_takeWhile k hk
    rcases mem_lowerBound.mp (hsplit ▸ List.mem_append_left _ hk) with ⟨hkeys, hlow⟩
    exact ⟨hkeys, hlow, of_decide_eq_true hle⟩
  · rintro ⟨hkeys, hlow, hhigh⟩
    have hk : k ∈ m.lowerBound a := mem_lowerBound.mpr ⟨hkeys, hlow⟩
    rw [← hsplit] at hk
    rcases List.mem_append.mp hk with hk | hk
    · exact hk
    · exact absurd (mem_upperBound.mp hk).2 (not_lt.mpr hhigh)

/-! ## Insertions -/

theorem keys_insert (k : κ) (b : β) :
    (m.insert k b).keys = m.keys.filter (· < k) ++ k :: m.keys.filter (k < ·) := by
  unfold insert keys before behind
  rw [List.map_append, List.filter_map, List.filter_map]
  rfl

/-- Behind what is inserted a bound stays as it is. -/
theorem lowerBound_insert_of_lt {k k' : κ} (b : β) (h : k < k') :
    (m.insert k b).lowerBound k' = m.lowerBound k' := by
  have hfront : (m.keys.filter (· < k)).filter (k' ≤ ·) = [] := by
    refine List.filter_eq_nil_iff.mpr fun a ha => ?_
    have hlt : a < k := of_decide_eq_true (List.mem_filter.mp ha).2
    simpa using hlt.trans h
  have hbehind : (m.keys.filter (k < ·)).filter (k' ≤ ·) = m.keys.filter (k' ≤ ·) := by
    refine filter_filter_of_imp (fun a ha => ?_) m.keys
    exact decide_eq_true (h.trans_le (of_decide_eq_true ha))
  rw [lowerBound_eq, lowerBound_eq, keys_insert, List.filter_append, hfront, List.nil_append,
    List.filter_cons_of_neg (by simpa using h), hbehind]

end NeoSwift.OrderedMap
