import NeoSwift.Lib.MapIterator

/-!
# Intersections of dictionaries

`forEachIntersection` of `misc/dictionary.h`. Two iterators go through the part of each map that
is within the keys of the other one, and the one that is behind goes on. Where they meet, the
functor is called.

The functor may do anything with the state it is called on. A key behind the end of a map cannot
be read, and no value is there for it, so the function might not return; it always does.

## Main definitions

* `intersectionWalk`, `forEachIntersection`: The loop and the function.
* `commonEntry`: A key with its values in both maps.

## Theorems

* `intersectionWalk_eq`: The loop makes a call for every key of both ranges.
* `forEachIntersection_eq`: The calls, one for each key of both maps.
* `commonEntries_sorted`, `mem_commonEntries`: Their order, and which they are.
-/

namespace NeoSwift.Misc

variable {κ β γ σ : Type} [LinearOrder κ]

/-- The loop of `forEachIntersection`, from two iterators up to two others. -/
def intersectionWalk (map1 : OrderedMap κ β) (map2 : OrderedMap κ γ)
    (functor : κ → β → γ → σ → σ) (end1 end2 : List κ) : List κ → List κ → σ → Option σ
  | key1 :: next1, key2 :: next2, state =>
      if key1 :: next1 = end1 ∨ key2 :: next2 = end2 then some state
      else if key1 < key2 then
        intersectionWalk map1 map2 functor end1 end2 next1 (key2 :: next2) state
      else if key2 < key1 then
        intersectionWalk map1 map2 functor end1 end2 (key1 :: next1) next2 state
      else do
        let value1 ← map1.lookup key1
        let value2 ← map2.lookup key2
        intersectionWalk map1 map2 functor end1 end2 next1 next2
          (functor key1 value1 value2 state)
  -- There is no key at the end of a map.
  | it1, it2, state => if it1 = end1 ∨ it2 = end2 then some state else none
  termination_by it1 it2 => it1.length + it2.length

def forEachIntersection (map1 : OrderedMap κ β) (map2 : OrderedMap κ γ)
    (functor : κ → β → γ → σ → σ) (state : σ) : Option σ :=
  if map1.keys.isEmpty || map2.keys.isEmpty then some state
  else do
    let it1 := map1.lowerBound (← map2.keys.head?)
    let end1 := map1.upperBound (← map2.keys.getLast?)
    let it2 := map2.lowerBound (← map1.keys.head?)
    let end2 := map2.upperBound (← map1.keys.getLast?)
    intersectionWalk map1 map2 functor end1 end2 it1 it2 state

/-- A key with its values in both maps. -/
def commonEntry (map1 : OrderedMap κ β) (map2 : OrderedMap κ γ) (key : κ) : Option (κ × β × γ) := do
  let value1 ← map1.lookup key
  let value2 ← map2.lookup key
  some (key, value1, value2)

/-- The keys of both maps with their values, in the order of the keys. -/
def commonEntries (map1 : OrderedMap κ β) (map2 : OrderedMap κ γ) : List (κ × β × γ) :=
  map1.keys.filterMap (commonEntry map1 map2)

/-- The calls for some entries, one after the other. -/
def callAll (functor : κ → β → γ → σ → σ) (entries : List (κ × β × γ)) (state : σ) : σ :=
  entries.foldl (fun state entry => functor entry.1 entry.2.1 entry.2.2 state) state

/-! ## Common entries -/

section

variable {map1 : OrderedMap κ β} {map2 : OrderedMap κ γ}

theorem commonEntry_eq_some {key : κ} {entry : κ × β × γ} :
    commonEntry map1 map2 key = some entry ↔
      entry.1 = key ∧ map1.lookup key = some entry.2.1 ∧ map2.lookup key = some entry.2.2 := by
  rcases entry with ⟨k, b, c⟩
  unfold commonEntry
  cases h1 : map1.lookup key with
  | none => simp
  | some b' =>
      cases h2 : map2.lookup key with
      | none => simp
      | some c' => simp [eq_comm]

theorem commonEntry_ne_none {key : κ} :
    commonEntry map1 map2 key ≠ none ↔ key ∈ map1.keys ∧ key ∈ map2.keys := by
  rw [OrderedMap.mem_keys, OrderedMap.mem_keys]
  unfold commonEntry
  cases h1 : map1.lookup key with
  | none => simp
  | some b =>
      cases h2 : map2.lookup key with
      | none => simp
      | some c => simp

theorem mem_commonEntries {key : κ} {value1 : β} {value2 : γ} :
    (key, value1, value2) ∈ commonEntries map1 map2 ↔
      map1.lookup key = some value1 ∧ map2.lookup key = some value2 := by
  rw [commonEntries, List.mem_filterMap]
  constructor
  · rintro ⟨k, -, hentry⟩
    rcases commonEntry_eq_some.mp hentry with ⟨rfl, hvalues⟩
    exact hvalues
  · intro hvalues
    have hkey : key ∈ map1.keys := by
      rw [OrderedMap.mem_keys, hvalues.1]
      exact Option.some_ne_none value1
    exact ⟨key, hkey, commonEntry_eq_some.mpr ⟨rfl, hvalues⟩⟩

/-- Keys ascend, so no key is there twice. -/
theorem commonEntries_sorted :
    (commonEntries map1 map2).Pairwise (fun entry entry' => entry.1 < entry'.1) := by
  refine List.Pairwise.filterMap _ ?_ map1.sorted_keys
  intro key key' hlt entry hentry entry' hentry'
  rw [(commonEntry_eq_some.mp hentry).1, (commonEntry_eq_some.mp hentry').1]
  exact hlt

/-- Sorted keys that are those of both maps have their entries. -/
theorem filterMap_commonEntry {range : List κ} (hsorted : range.Pairwise (· < ·))
    (hrange : ∀ key, key ∈ range ↔ key ∈ map1.keys ∧ key ∈ map2.keys) :
    range.filterMap (commonEntry map1 map2) = commonEntries map1 map2 := by
  have hcommon : range = map1.keys.filter (· ∈ map2.keys) := by
    have hnodup : range.Nodup := hsorted.imp ne_of_lt
    refine List.Perm.eq_of_pairwise (fun a b _ _ hlt hlt' => absurd hlt (lt_asymm hlt')) hsorted
      (map1.sorted_keys.filter _) ?_
    refine (List.perm_ext_iff_of_nodup hnodup (map1.nodup_keys.filter _)).mpr fun key => ?_
    rw [hrange, List.mem_filter, decide_eq_true_eq]
  rw [hcommon, List.filterMap_filter]
  refine List.filterMap_congr fun key hkey => ?_
  split_ifs with hboth
  · rfl
  · -- A key of one map only has no entry.
    symm
    by_contra hentry
    exact hboth (decide_eq_true (commonEntry_ne_none.mp hentry).2)

end

/-! ## The loop -/

section

variable (map1 : OrderedMap κ β) (map2 : OrderedMap κ γ) (functor : κ → β → γ → σ → σ)

theorem intersectionWalk_stop {end1 end2 it1 it2 : List κ} (h : it1 = end1 ∨ it2 = end2)
    (state : σ) : intersectionWalk map1 map2 functor end1 end2 it1 it2 state = some state := by
  cases it1 with
  | nil => rw [intersectionWalk, if_pos h]; simp
  | cons key1 next1 =>
      cases it2 with
      | nil => rw [intersectionWalk, if_pos h]; simp
      | cons key2 next2 => rw [intersectionWalk, if_pos h]

/-- A key in front of others is not one of them. -/
theorem filter_mem_cons_of_lt {key : κ} {range1 : List κ} (range2 : List κ)
    (h : ∀ key1 ∈ range1, key < key1) :
    range1.filter (· ∈ key :: range2) = range1.filter (· ∈ range2) := by
  refine List.filter_congr fun key1 hkey1 => ?_
  have hne : key1 ≠ key := (h key1 hkey1).ne'
  rw [decide_eq_decide, List.mem_cons, or_iff_right hne]

/-- A key that both ranges have is met once, and no other key is. -/
theorem intersectionWalk_eq (end1 end2 : List κ) {range1 range2 : List κ}
    (hsorted1 : range1.Pairwise (· < ·)) (hsorted2 : range2.Pairwise (· < ·))
    (hkeys1 : ∀ key ∈ range1, key ∈ map1.keys) (hkeys2 : ∀ key ∈ range2, key ∈ map2.keys)
    (state : σ) :
    intersectionWalk map1 map2 functor end1 end2 (range1 ++ end1) (range2 ++ end2) state
      = some (callAll functor
        ((range1.filter (· ∈ range2)).filterMap (commonEntry map1 map2)) state) := by
  induction range1 generalizing range2 state with
  | nil => exact intersectionWalk_stop map1 map2 functor (.inl rfl) state
  | cons key1 rest1 ih1 =>
      rcases List.pairwise_cons.mp hsorted1 with ⟨hhead1, htail1⟩
      have hrest1 : ∀ key ∈ rest1, key ∈ map1.keys := fun key hkey =>
        hkeys1 key (List.mem_cons_of_mem _ hkey)
      induction range2 generalizing state with
      | nil =>
          have hnone : (key1 :: rest1).filter (· ∈ ([] : List κ)) = [] :=
            List.filter_eq_nil_iff.mpr fun key _ => by simp
          rw [hnone]
          exact intersectionWalk_stop map1 map2 functor (.inr rfl) state
      | cons key2 rest2 ih2 =>
          rcases List.pairwise_cons.mp hsorted2 with ⟨hhead2, htail2⟩
          have hrest2 : ∀ key ∈ rest2, key ∈ map2.keys := fun key hkey =>
            hkeys2 key (List.mem_cons_of_mem _ hkey)
          -- Neither iterator is at its end, as there are keys in front of it.
          have hgoes : ¬(key1 :: (rest1 ++ end1) = end1 ∨ key2 :: (rest2 ++ end2) = end2) := by
            rintro (h | h)
            · exact absurd (congrArg List.length h) (by simp; omega)
            · exact absurd (congrArg List.length h) (by simp; omega)
          rw [List.cons_append, List.cons_append, intersectionWalk, if_neg hgoes]
          rcases lt_trichotomy key1 key2 with hlt | rfl | hgt
          · -- All keys of the second range are greater.
            have hnot : key1 ∉ key2 :: rest2 := by
              intro hmem
              rcases List.mem_cons.mp hmem with rfl | hmem
              · exact lt_irrefl _ hlt
              · exact lt_asymm hlt (hhead2 key1 hmem)
            rw [if_pos hlt, List.filter_cons_of_neg (by simpa using hnot)]
            exact ih1 htail1 hsorted2 hrest1 hkeys2 state
          · rcases Option.ne_none_iff_exists'.mp
              (OrderedMap.mem_keys.mp (hkeys1 key1 List.mem_cons_self)) with ⟨value1, hvalue1⟩
            rcases Option.ne_none_iff_exists'.mp
              (OrderedMap.mem_keys.mp (hkeys2 key1 List.mem_cons_self)) with ⟨value2, hvalue2⟩
            have hentry : commonEntry map1 map2 key1 = some (key1, value1, value2) :=
              commonEntry_eq_some.mpr ⟨rfl, hvalue1, hvalue2⟩
            rw [if_neg (lt_irrefl key1), if_neg (lt_irrefl key1), hvalue1, hvalue2,
              List.filter_cons_of_pos (by simp), filter_mem_cons_of_lt rest2 hhead1,
              List.filterMap_cons_some hentry]
            exact ih1 htail1 htail2 hrest1 hrest2 (functor key1 value1 value2 state)
          · -- All keys of the first range are greater.
            have hgreater : ∀ key ∈ key1 :: rest1, key2 < key := by
              intro key hkey
              rcases List.mem_cons.mp hkey with rfl | hkey
              · exact hgt
              · exact hgt.trans (hhead1 key hkey)
            rw [if_neg (lt_asymm hgt), if_pos hgt, filter_mem_cons_of_lt rest2 hgreater]
            exact ih2 htail2 hrest2 state

/-- The functor is called for all entries of both maps. -/
theorem forEachIntersection_eq (state : σ) :
    forEachIntersection map1 map2 functor state
      = some (callAll functor (commonEntries map1 map2) state) := by
  unfold forEachIntersection
  by_cases hempty : map1.keys = [] ∨ map2.keys = []
  · have hnone : commonEntries map1 map2 = [] := by
      refine (filterMap_commonEntry List.Pairwise.nil fun key => ?_).symm
      rcases hempty with h | h
      · simp [h]
      · simp [h]
    rw [if_pos (by simpa using hempty), hnone]
    rfl
  · rcases not_or.mp hempty with ⟨hne1, hne2⟩
    rw [if_neg (by simpa using hempty)]
    rcases OrderedMap.exists_first_last hne1 with ⟨first1, last1, hfirst1, hlast1, hwithin1⟩
    rcases OrderedMap.exists_first_last hne2 with ⟨first2, last2, hfirst2, hlast2, hwithin2⟩
    have hle1 : first1 ≤ last1 := (hwithin1 first1 (List.mem_of_mem_head? hfirst1)).2
    have hle2 : first2 ≤ last2 := (hwithin2 first2 (List.mem_of_mem_head? hfirst2)).2
    rcases map1.exists_range hle2 with ⟨range1, hrange1, hmem1⟩
    rcases map2.exists_range hle1 with ⟨range2, hrange2, hmem2⟩
    have hsorted1 := map1.sorted_lowerBound first2
    have hsorted2 := map2.sorted_lowerBound first1
    rw [hrange1] at hsorted1
    rw [hrange2] at hsorted2
    -- A key of both maps is within the keys of either, so that no jump goes beyond it.
    have hboth : ∀ key, key ∈ range1.filter (· ∈ range2) ↔ key ∈ map1.keys ∧ key ∈ map2.keys := by
      intro key
      rw [List.mem_filter, decide_eq_true_eq, hmem1, hmem2]
      constructor
      · exact fun h => ⟨h.1.1, h.2.1⟩
      · exact fun h => ⟨⟨h.1, hwithin2 key h.2⟩, h.2, hwithin1 key h.1⟩
    have hwalk := intersectionWalk_eq map1 map2 functor (map1.upperBound last2)
      (map2.upperBound last1) (List.pairwise_append.mp hsorted1).1
      (List.pairwise_append.mp hsorted2).1 (fun key hkey => ((hmem1 key).mp hkey).1)
      (fun key hkey => ((hmem2 key).mp hkey).1) state
    rw [filterMap_commonEntry ((List.pairwise_append.mp hsorted1).1.filter _) hboth, ← hrange1,
      ← hrange2] at hwalk
    rw [hfirst1, hlast1, hfirst2, hlast2]
    exact hwalk

end

end NeoSwift.Misc
