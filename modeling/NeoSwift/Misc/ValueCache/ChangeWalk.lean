import NeoSwift.Misc.Dictionary
import NeoSwift.Misc.ValueCache.Cache

/-!
# How changes find their elements

The loops of `CValueCache::changeValues` and `CValueCache::changeValuesFromRemote`. Elements are
in a map in the order of their keys, and so are the changed values. One iterator goes through the
changed values, and another one follows it through the elements. Where no element is found a new
one is inserted in front of the iterator, which asserts that it belongs there.

The iterator does not go beyond where it was to end when the loop began. Whatever is inserted on
the way is in front of it, so at every key it is the lower bound in the map as it is by then.

## Main definitions

* `getElement`: The element at an iterator, or a new one.
* `changeLoop`, `changeElements`: The loop, and what is in front of it.
* `localChange`, `remoteChange`: What becomes of an element.
* `Following`: The iterator is the lower bound of all keys to come.

## Theorems

* `changeLoop_eq`: Every assertion holds, and all elements are visited.
* `changeElements_eq`: The elements afterwards.
* `change_loops_refine`: The loops do what the cache does, in every run.
* `intersection_and_change_walks`: Both walks through two maps.
-/

namespace NeoSwift.Misc

namespace ValueCache

variable {K V : Type} [LinearOrder K]

/-- `getElement` at an iterator: the elements, and the key of the one that is returned. -/
def getElement (elements : OrderedMap K (CacheElement V)) (key : K) (pos : List K) :
    Option (OrderedMap K (CacheElement V) × K) :=
  if pos.head? = some key then some (elements, key)
  else if pos = elements.lowerBound key then some (elements.insert key {}, key)
  else none

/-- `while (out != end && out.key() < in.key()) { ++out; }` -/
def forward (stop : List K) (key : K) : List K → Option (List K)
  | [] => if [] = stop then some [] else none
  | node :: next =>
      if node :: next ≠ stop ∧ node < key then forward stop key next else some (node :: next)

/-- The loop over the changed values, with the keys of the elements that are changed. -/
def changeLoop (change : Option V × ℤ → CacheElement V → CacheElement V) (stop : List K) :
    OrderedMap K (CacheElement V) → List K → List (K × Option V × ℤ) →
      Option (OrderedMap K (CacheElement V) × List K)
  | elements, _, [] => some (elements, [])
  | elements, out, (key, entry) :: rest => do
      let out ← forward stop key out
      let (elements, node) ← getElement elements key out
      let element ← elements.lookup node
      let (elements, visited) ←
        changeLoop change stop (elements.insert node (change entry element)) out rest
      some (elements, node :: visited)

def changeElements (change : Option V × ℤ → CacheElement V → CacheElement V)
    (elements : OrderedMap K (CacheElement V)) (values : OrderedMap K (Option V × ℤ)) :
    Option (OrderedMap K (CacheElement V) × List K) :=
  if values.keys.isEmpty then some (elements, [])
  else do
    let out := elements.lowerBound (← values.keys.head?)
    let stop := elements.upperBound (← values.keys.getLast?)
    changeLoop change stop elements out values.entries

/-- What `changeValues` does to an element. -/
def localChange (saved valuesChanged : Bool) (entry : Option V × ℤ) (element : CacheElement V) :
    CacheElement V :=
  let element :=
    if valuesChanged then
      { element with
        pendingChanges := element.pendingChanges + 1, value := entry.1, timestamp := entry.2 }
    else element
  { element with saved := saved }

/-- What `changeValuesFromRemote` does to an element. -/
def remoteChange (roundTrip saved : Bool) (entry : Option V × ℤ) (element : CacheElement V) :
    CacheElement V :=
  if roundTrip then { element with pendingChanges := element.pendingChanges - 1 }
  else if element.pendingChanges = 0 then
    -- ratify a change only if own change is not pending, to ensure consistency
    { element with value := entry.1, timestamp := entry.2, saved := saved }
  else element

/-! ## Iterators -/

/-- The iterator stops at the first key that is not less, before it is to end. -/
theorem forward_eq {stop out : List K} {key : K} (hsuffix : stop <:+ out)
    (hsorted : out.Pairwise (· < ·)) (hstop : ∀ node ∈ stop, key < node) :
    forward stop key out = some (out.filter (key ≤ ·)) := by
  rcases hsuffix with ⟨passed, rfl⟩
  have hrest := OrderedMap.filter_le_eq_self hstop
  induction passed with
  | nil =>
      rw [List.nil_append, hrest]
      cases stop with
      | nil => rfl
      -- It is where it is to end, whatever key is there.
      | cons node next => rw [forward, if_neg fun h => h.1 rfl]
  | cons node passed ih =>
      rcases List.pairwise_cons.mp hsorted with ⟨hhead, htail⟩
      rw [List.cons_append] at hsorted ⊢
      have hne : node :: (passed ++ stop) ≠ stop := by
        intro h
        exact absurd (congrArg List.length h) (by simp; omega)
      by_cases hlt : node < key
      · rw [forward, if_pos ⟨hne, hlt⟩, List.filter_cons_of_neg (by simpa using hlt)]
        exact ih htail
      · -- All keys that follow are greater still.
        have hall : (node :: (passed ++ stop)).filter (key ≤ ·) = node :: (passed ++ stop) := by
          refine List.filter_eq_self.mpr fun node' hnode' => decide_eq_true ?_
          rcases List.mem_cons.mp hnode' with rfl | hnode'
          · exact not_lt.mp hlt
          · exact (not_lt.mp hlt).trans (hhead node' hnode').le
        rw [forward, if_neg fun h => hlt h.2, hall]

variable {elements : OrderedMap K (CacheElement V)}

theorem head?_lowerBound {key : K} :
    (elements.lowerBound key).head? = some key ↔ key ∈ elements.keys := by
  constructor
  · intro hhead
    exact (OrderedMap.mem_lowerBound.mp (List.mem_of_mem_head? hhead)).1
  · intro hkey
    have hmem : key ∈ elements.lowerBound key := OrderedMap.mem_lowerBound.mpr ⟨hkey, le_rfl⟩
    have hsorted := elements.sorted_lowerBound key
    cases hbound : elements.lowerBound key with
    | nil =>
        rw [hbound] at hmem
        cases hmem
    -- The key is there, so nothing in front of it is not less.
    | cons node next =>
        rw [hbound] at hmem hsorted
        have hle : key ≤ node := by
          have hnode : node ∈ elements.lowerBound key := by
            rw [hbound]
            exact List.mem_cons_self
          exact (OrderedMap.mem_lowerBound.mp hnode).2
        rcases List.mem_cons.mp hmem with rfl | hnext
        · rfl
        · exact absurd ((List.pairwise_cons.mp hsorted).1 key hnext) (not_lt.mpr hle)

/-- At the lower bound the assertion holds, and the element is the one of the key. -/
theorem getElement_lowerBound (elements : OrderedMap K (CacheElement V)) (key : K) :
    ∃ found, getElement elements key (elements.lowerBound key) = some (found, key) ∧
      found.lookup key = some ((elements.lookup key).getD {}) ∧
      ∀ element, found.insert key element = elements.insert key element := by
  by_cases hkey : key ∈ elements.keys
  · -- The key is at its lower bound, so nothing is asserted.
    rcases Option.ne_none_iff_exists'.mp (OrderedMap.mem_keys.mp hkey) with ⟨element, helement⟩
    refine ⟨elements, ?_, ?_, fun _ => rfl⟩
    · rw [getElement, if_pos (head?_lowerBound.mpr hkey)]
    · rw [helement, Option.getD_some]
  · refine ⟨elements.insert key {}, ?_, ?_, fun element => ?_⟩
    · rw [getElement, if_neg fun h => hkey (head?_lowerBound.mp h), if_pos rfl]
    · rw [OrderedMap.lookup_insert, if_pos rfl, OrderedMap.lookup_eq_none hkey, Option.getD_none]
    · refine OrderedMap.ext_lookup fun k => ?_
      simp only [OrderedMap.lookup_insert]
      by_cases hk : k = key <;> simp [hk]

/-! ## The loop -/

/-- For all keys to come, the iterator is in front of their lower bounds and of where it is to
    end, and they are in front of that. -/
structure Following (stop out : List K) (elements : OrderedMap K (CacheElement V))
    (keys : List K) : Prop where
  suffix : stop <:+ out
  sorted : out.Pairwise (· < ·)
  lt_stop : ∀ key ∈ keys, ∀ node ∈ stop, key < node
  lowerBound_eq : ∀ key ∈ keys, elements.lowerBound key = out.filter (key ≤ ·)

/-- The elements after changes of some of them. -/
def changeAll (change : Option V × ℤ → CacheElement V → CacheElement V)
    (elements : OrderedMap K (CacheElement V)) (ins : List (K × Option V × ℤ)) :
    OrderedMap K (CacheElement V) :=
  ins.foldl (fun elements e =>
    elements.insert e.1 (change e.2 ((elements.lookup e.1).getD {}))) elements

/-- At a key the iterator becomes its lower bound, and follows the greater keys from there. -/
theorem Following.next {stop out : List K} {key : K}
    {keys : List K} (h : Following stop out elements (key :: keys)) (hkeys : ∀ k ∈ keys, key < k)
    (element : CacheElement V) :
    forward stop key out = some (elements.lowerBound key) ∧
      Following stop (elements.lowerBound key) (elements.insert key element) keys := by
  have hstop := h.lt_stop key List.mem_cons_self
  have hbound := h.lowerBound_eq key List.mem_cons_self
  refine ⟨hbound ▸ forward_eq h.suffix h.sorted hstop, ?_, elements.sorted_lowerBound key,
    fun k hk => h.lt_stop k (List.mem_cons_of_mem _ hk), fun k hk => ?_⟩
  · rcases h.suffix with ⟨passed, rfl⟩
    rw [hbound, List.filter_append, OrderedMap.filter_le_eq_self hstop]
    exact List.suffix_append _ _
  · rw [OrderedMap.lowerBound_insert_of_lt elements element (hkeys k hk),
      OrderedMap.filter_lowerBound elements (hkeys k hk).le]

/-- Every assertion holds, and all elements are visited in the order of their keys. -/
theorem changeLoop_eq (change : Option V × ℤ → CacheElement V → CacheElement V)
    {stop out : List K} {ins : List (K × Option V × ℤ)}
    (h : Following stop out elements (ins.map Prod.fst))
    (hins : ins.Pairwise (fun e e' => e.1 < e'.1)) :
    changeLoop change stop elements out ins
      = some (changeAll change elements ins, ins.map Prod.fst) := by
  induction ins generalizing out elements with
  | nil => rfl
  | cons e ins ih =>
      rcases e with ⟨key, entry⟩
      rcases List.pairwise_cons.mp hins with ⟨hhead, htail⟩
      have hkeys : ∀ k ∈ ins.map Prod.fst, key < k := by
        intro k hk
        rcases List.mem_map.mp hk with ⟨e', he', rfl⟩
        exact hhead e' he'
      -- What is inserted or changed is in front of the greater keys, so the iterator follows them.
      rcases h.next hkeys (change entry ((elements.lookup key).getD {})) with ⟨hforward, hnext⟩
      rcases getElement_lowerBound elements key with ⟨found, hfound, hlookup, hinsert⟩
      rw [changeLoop, hforward]
      simp only [Option.bind_eq_bind, Option.bind_some, hfound, hlookup, hinsert, ih hnext htail]
      rfl

/-- What is found after changes is changed once at most. -/
theorem lookup_changeAll (change : Option V × ℤ → CacheElement V → CacheElement V)
    (elements : OrderedMap K (CacheElement V)) {ins : List (K × Option V × ℤ)}
    (hins : ins.Pairwise (fun e e' => e.1 < e'.1)) (key : K) :
    (changeAll change elements ins).lookup key
      = (((ins.find? (fun e => e.1 = key)).map Prod.snd).map
          (fun entry => change entry ((elements.lookup key).getD {}))).or
        (elements.lookup key) := by
  induction ins generalizing elements with
  | nil => rfl
  | cons e ins ih =>
      rcases List.pairwise_cons.mp hins with ⟨hhead, htail⟩
      have hstep := ih (elements.insert e.1 (change e.2 ((elements.lookup e.1).getD {}))) htail
      rw [OrderedMap.lookup_insert] at hstep
      refine hstep.trans ?_
      by_cases hkey : e.1 = key
      · -- No key that follows is the same.
        have hnone : ins.find? (fun e' => e'.1 = key) = none := by
          refine List.find?_eq_none.mpr fun e' he' => ?_
          simpa [← hkey] using (hhead e' he').ne'
        rw [hnone, List.find?_cons_of_pos (by simpa using hkey), if_pos hkey.symm, hkey]
        rfl
      · rw [if_neg (Ne.symm hkey), List.find?_cons_of_neg (by simpa using hkey)]

/-- The loop begins in front of all changed values, and is to end behind them. -/
theorem changeElements_eq (change : Option V × ℤ → CacheElement V → CacheElement V)
    (elements : OrderedMap K (CacheElement V)) (values : OrderedMap K (Option V × ℤ)) :
    changeElements change elements values
      = some (changeAll change elements values.entries, values.keys) := by
  unfold changeElements
  by_cases hempty : values.keys = []
  · have hentries : values.entries = [] := List.map_eq_nil_iff.mp hempty
    rw [hentries, hempty]
    rfl
  · rw [if_neg (by simpa using hempty)]
    rcases OrderedMap.exists_first_last hempty with ⟨first, last, hfirst, hlast, hwithin⟩
    have hle : first ≤ last := (hwithin first (List.mem_of_mem_head? hfirst)).2
    rcases elements.exists_range hle with ⟨range, hrange, -⟩
    -- The walk is over the keys between the first and the last changed one.
    have hstart : Following (elements.upperBound last) (elements.lowerBound first) elements
        values.keys := by
      refine ⟨⟨range, hrange.symm⟩, elements.sorted_lowerBound first, ?_, ?_⟩
      · intro key hkey node hnode
        exact lt_of_le_of_lt (hwithin key hkey).2 (OrderedMap.mem_upperBound.mp hnode).2
      · intro key hkey
        exact (OrderedMap.filter_lowerBound elements (hwithin key hkey).1).symm
    rw [hfirst, hlast]
    exact changeLoop_eq change hstart values.sorted

theorem lookup_changeElements (change : Option V × ℤ → CacheElement V → CacheElement V)
    (elements : OrderedMap K (CacheElement V)) (values : OrderedMap K (Option V × ℤ)) (key : K) :
    (changeAll change elements values.entries).lookup key
      = ((values.lookup key).map (fun entry => change entry ((elements.lookup key).getD {}))).or
        (elements.lookup key) :=
  lookup_changeAll change elements values.sorted key

/-! ## The cache -/

/-- The cache of a map of elements; one that is not there is as it would be inserted. -/
def toCache (elements : OrderedMap K (CacheElement V)) : CValueCache K V where
  elements key := (elements.lookup key).getD {}

/-- The packet of some values. -/
def toPacket (values : OrderedMap K (Option V × ℤ)) (saved valuesChanged : Bool) :
    CValueCachePacket K V where
  values :=
    ⟨values.entries.map (fun e => ⟨e.1, e.2⟩), by
      have hkeys := values.nodup_keys
      rw [List.NodupKeys, List.keys, List.map_map]
      exact hkeys⟩
  saved := saved
  valuesChanged := valuesChanged

theorem dlookup_map (entries : List (K × Option V × ℤ)) (key : K) :
    List.dlookup key (entries.map (fun e => (⟨e.1, e.2⟩ : (_ : K) × (Option V × ℤ))))
      = (entries.find? (fun e => e.1 = key)).map Prod.snd := by
  induction entries with
  | nil => rfl
  | cons e entries ih =>
      rcases e with ⟨k, entry⟩
      rw [List.map_cons]
      by_cases hk : k = key
      · subst hk
        rw [List.dlookup_cons_eq, List.find?_cons_of_pos (by simp)]
        rfl
      · rw [List.dlookup_cons_ne _ _ (Ne.symm hk), List.find?_cons_of_neg (by simpa using hk), ih]

theorem lookup_toPacket (values : OrderedMap K (Option V × ℤ)) (saved valuesChanged : Bool)
    (key : K) : (toPacket values saved valuesChanged).values.lookup key = values.lookup key :=
  dlookup_map values.entries key

theorem isEmpty_toPacket (values : OrderedMap K (Option V × ℤ)) (saved valuesChanged : Bool) :
    (toPacket values saved valuesChanged).isEmpty = values.keys.isEmpty := by
  unfold CValueCachePacket.isEmpty toPacket OrderedMap.keys
  rw [List.isEmpty_map, List.isEmpty_map]

/-- The elements of the cache after the loop. -/
theorem toCache_changeAll (change : Option V × ℤ → CacheElement V → CacheElement V)
    (elements : OrderedMap K (CacheElement V)) (values : OrderedMap K (Option V × ℤ)) (key : K) :
    (toCache (changeAll change elements values.entries)).elements key
      = ((values.lookup key).map (fun entry => change entry ((toCache elements).elements key))).getD
        ((toCache elements).elements key) := by
  unfold toCache
  dsimp only
  rw [lookup_changeElements]
  cases values.lookup key with
  | none => rfl
  | some entry => rfl

omit [LinearOrder K] in
theorem eq_of_elements {cache other : CValueCache K V}
    (h : ∀ key, cache.elements key = other.elements key) : cache = other := by
  rcases cache with ⟨elements⟩
  rcases other with ⟨others⟩
  rw [CValueCache.mk.injEq]
  exact funext h

theorem lookup_of_keys_isEmpty {values : OrderedMap K (Option V × ℤ)}
    (h : values.keys.isEmpty = true) (key : K) : values.lookup key = none := by
  refine OrderedMap.lookup_eq_none ?_
  rw [List.isEmpty_iff.mp h]
  exact List.not_mem_nil

/-- The loop of `changeValues` does what the cache does. -/
theorem toCache_changeValues {P : Type} (elements : OrderedMap K (CacheElement V))
    (values : OrderedMap K (Option V × ℤ)) (saved valuesChanged : Bool) (sender : Option P) :
    toCache (changeAll (localChange saved valuesChanged) elements values.entries)
      = ((toCache elements).changeValues true (toPacket values saved valuesChanged) sender).1 := by
  refine eq_of_elements fun key => ?_
  rw [toCache_changeAll, CValueCache.changeValues, isEmpty_toPacket]
  by_cases hempty : values.keys.isEmpty = true
  · rw [if_pos hempty, lookup_of_keys_isEmpty hempty]
    rfl
  · rw [if_neg hempty, if_pos rfl]
    dsimp only
    rw [lookup_toPacket]
    cases values.lookup key with
    | none => rfl
    | some entry => cases valuesChanged <;> rfl

/-- The loop of `changeValuesFromRemote`, which there is for changed values only. -/
theorem toCache_changeValuesFromRemote {P : Type} (elements : OrderedMap K (CacheElement V))
    (values : OrderedMap K (Option V × ℤ)) (saved roundTrip : Bool) :
    toCache (changeAll (remoteChange roundTrip saved) elements values.entries)
      = ((toCache elements).changeValuesFromRemote (P := P) (toPacket values saved true)
        roundTrip).1 := by
  refine eq_of_elements fun key => ?_
  rw [toCache_changeAll, CValueCache.changeValuesFromRemote, isEmpty_toPacket]
  by_cases hempty : values.keys.isEmpty = true
  · rw [if_pos hempty, lookup_of_keys_isEmpty hempty]
    rfl
  · have hchanged : (!(toPacket values saved true).valuesChanged) = false := rfl
    rw [if_neg hempty, if_neg (by rw [hchanged]; exact Bool.false_ne_true)]
    dsimp only
    rw [lookup_toPacket]
    -- Key by key: a value that is pending keeps its own change.
    cases values.lookup key with
    | none => rfl
    | some entry =>
        cases roundTrip with
        | true => rfl
        | false =>
            by_cases hpending : ((toCache elements).elements key).pendingChanges = 0
            · simp [remoteChange, toPacket]
            · simp [remoteChange, hpending]

/-- Changes from here, with the page that makes them, or from elsewhere. -/
inductive Change (P K V : Type) [LinearOrder K] where
  | here (values : OrderedMap K (Option V × ℤ)) (saved valuesChanged : Bool) (sender : Option P)
  | elsewhere (values : OrderedMap K (Option V × ℤ)) (saved roundTrip : Bool)

namespace Change

variable {P : Type}

/-- The loop, with the keys it visits. -/
def loop (elements : OrderedMap K (CacheElement V)) :
    Change P K V → Option (OrderedMap K (CacheElement V) × List K)
  | .here values saved valuesChanged _ =>
      changeElements (localChange saved valuesChanged) elements values
  | .elsewhere values saved roundTrip =>
      changeElements (remoteChange roundTrip saved) elements values

/-- What the cache does. -/
def onCache (cache : CValueCache K V) : Change P K V → CValueCache K V
  | .here values saved valuesChanged sender =>
      (cache.changeValues true (toPacket values saved valuesChanged) sender).1
  | .elsewhere values saved roundTrip =>
      (cache.changeValuesFromRemote (P := P) (toPacket values saved true) roundTrip).1

theorem loop_refines (elements : OrderedMap K (CacheElement V)) (change : Change P K V) :
    ∃ changed visited, change.loop elements = some (changed, visited) ∧
      toCache changed = change.onCache (toCache elements) := by
  cases change with
  | here values saved valuesChanged sender =>
      exact ⟨_, _, changeElements_eq _ elements values, toCache_changeValues elements values _ _ _⟩
  | elsewhere values saved roundTrip =>
      exact ⟨_, _, changeElements_eq _ elements values,
        toCache_changeValuesFromRemote elements values _ _⟩

end Change

/-- The loops refine the cache: whatever changes are made one after the other, every assertion
    holds, and the cache of the elements is what the changes make of the one before. -/
theorem change_loops_refine {P : Type} (changes : List (Change P K V))
    (elements : OrderedMap K (CacheElement V)) :
    ∃ changed, changes.foldlM (fun elements change => (change.loop elements).map Prod.fst) elements
        = some changed ∧ toCache changed = changes.foldl Change.onCache (toCache elements) := by
  induction changes generalizing elements with
  | nil => exact ⟨elements, rfl, rfl⟩
  | cons change changes ih =>
      rcases change.loop_refines elements with ⟨changed, visited, hloop, hcache⟩
      rcases ih changed with ⟨last, hlast, hcaches⟩
      refine ⟨last, ?_, ?_⟩
      · rw [List.foldlM_cons, hloop]
        exact hlast
      · rw [List.foldl_cons, ← hcache, hcaches]

/-- Each common key of two maps is visited once and in order, and so is each changed element, with
    every assertion true. -/
theorem intersection_and_change_walks {β γ : Type} (map1 : OrderedMap K β) (map2 : OrderedMap K γ)
    (elements : OrderedMap K (CacheElement V)) (values : OrderedMap K (Option V × ℤ))
    (saved valuesChanged : Bool) :
    (∃ calls : List (K × β × γ), (∀ (σ : Type) (functor : K → β → γ → σ → σ) (state : σ),
        forEachIntersection map1 map2 functor state = some (callAll functor calls state)) ∧
      calls.Pairwise (fun call call' => call.1 < call'.1) ∧
      ∀ key value1 value2, (key, value1, value2) ∈ calls ↔
        map1.lookup key = some value1 ∧ map2.lookup key = some value2) ∧
    ∃ changed, changeElements (localChange saved valuesChanged) elements values
        = some (changed, values.keys) ∧
      ∀ key, changed.lookup key = ((values.lookup key).map (fun entry =>
        localChange saved valuesChanged entry ((elements.lookup key).getD {}))).or
          (elements.lookup key) :=
  ⟨⟨commonEntries map1 map2, fun _ functor state => forEachIntersection_eq map1 map2 functor state,
      commonEntries_sorted, fun _ _ _ => mem_commonEntries⟩,
    ⟨_, changeElements_eq _ elements values, lookup_changeElements _ elements values⟩⟩

end ValueCache

end NeoSwift.Misc
