import Mathlib.Data.Finset.Dedup
import Mathlib.Data.Finset.Image
import Mathlib.Data.List.Nodup
import NeoSwift.Misc.Simulation.MemoizedModels

/-!
# Lists of Database Objects

`IDatastoreObjectList`: objects with a database key, which may be invalid, and a timestamp.
The keys are numbers or texts, and all that matters about them is which are valid.

Merging a second list replaces the objects with its keys. Objects without a valid key are in
no key set, so that they stay.

The oldest timestamp of the objects with a key is looked for by the function that looks for
it, in a copy that is the same once the objects without a key are gone. It runs on fuel.

## Main definitions

* `DatastoreObject`: The key and the timestamp of an object.
* `removeObjectsWithKeys`, `replaceOrAddObjectsByKey`: The updates.
* `latestDbTimestamp`, `oldestDbTimestamp`, `countWithValidDbKey`: Timestamps and counts.
* `keyMap`: What is found by the valid keys.

## Theorems

* `merges_by_key`: What a merge leaves behind.
* `latestDbTimestamp_eq`: The latest timestamp is the greatest one.
* `oldestDbTimestamp_isSome_iff`: When the oldest timestamp is found.
* `tells_timestamps_and_counts_iff`: When timestamps and counts are what they are to be.
-/

namespace NeoSwift.Misc

namespace Db

/-- `IDatastoreObjectWithIntegerKey` or `IDatastoreObjectWithStringKey`, with the timestamp of
    `ITimestampBased`. -/
class DatastoreObject (OBJ : Type*) (KEYTYPE : outParam Type*) where
  getDbKey : OBJ → KEYTYPE
  isValidKey : KEYTYPE → Bool
  getMSecsSinceEpoch : OBJ → ℤ

export DatastoreObject (getDbKey getMSecsSinceEpoch)

/-- Objects with an integer key. -/
instance : DatastoreObject Memoized.CAircraftModel Int32 where
  getDbKey := Memoized.CAircraftModel.dbKey
  isValidKey key := decide (0 ≤ key)
  getMSecsSinceEpoch model := model.timestampMSecsSinceEpoch.toInt

/-- Objects with a string key. -/
instance : DatastoreObject Memoized.CDistributor QString where
  getDbKey := Memoized.CDistributor.dbKey
  isValidKey key := !key.isEmpty
  getMSecsSinceEpoch distributor := distributor.timestampMSecsSinceEpoch.toInt

section ObjectList

variable {OBJ KEYTYPE : Type*} [DatastoreObject OBJ KEYTYPE]

def hasValidDbKey (object : OBJ) : Bool := DatastoreObject.isValidKey OBJ (getDbKey object)

/-- `getUtcTimestamp`, where an invalid one is none. -/
def getUtcTimestamp (object : OBJ) : Option ℤ :=
  if getMSecsSinceEpoch object < 0 then none else some (getMSecsSinceEpoch object)

variable (container : List OBJ)

def findObjectsWithDbKey : List OBJ := container.filter hasValidDbKey

def findObjectsWithoutDbKey : List OBJ := container.filter (fun object => !hasValidDbKey object)

/-- The list and how many objects were removed. -/
def removeObjectsWithoutDbKey : List OBJ × ℤ :=
  if container.isEmpty then (container, 0)
  else (container.filter hasValidDbKey, container.length - (container.filter hasValidDbKey).length)

section Merge

variable [DecidableEq KEYTYPE]

def toDbKeySet : Finset KEYTYPE :=
  ((container.filter hasValidDbKey).map getDbKey).toFinset

/-- The list and how many objects were removed. -/
def removeObjectsWithKeys (keys : Finset KEYTYPE) : List OBJ × ℤ :=
  if keys = ∅ then (container, 0)
  else if container.isEmpty then (container, 0)
  else
    let newValues := container.filter (fun object => getDbKey object ∉ keys)
    let delta : ℤ := container.length - newValues.length
    (if 0 < delta then newValues else container, delta)

/-- The list and how many objects were added. -/
def replaceOrAddObjectsByKey (other : List OBJ) : List OBJ × ℤ :=
  if other.isEmpty then (container, 0)
  else if container.isEmpty then (other, other.length)
  else
    let newValues := (removeObjectsWithKeys container (toDbKeySet other)).1
    let removeSize := newValues.length
    let newValues := newValues ++ other
    (newValues, newValues.length - removeSize)

end Merge

/-! ## Timestamps and counts -/

/-- `std::max_element`, the first of the greatest. -/
def maxElement (key : OBJ → ℤ) (first : OBJ) (objects : List OBJ) : OBJ :=
  objects.foldl (fun best object => if key best < key object then object else best) first

/-- The timestamp of the first object with the greatest one. -/
def latestTimestamp : Option ℤ :=
  match container with
  | [] => none
  | first :: objects => getUtcTimestamp (maxElement getMSecsSinceEpoch first objects)

/-- That of the objects with a key. -/
def latestDbTimestamp : Option ℤ :=
  let objs := (removeObjectsWithoutDbKey container).1
  if objs.isEmpty then none else latestTimestamp objs

/-- The oldest timestamp of the objects is asked for in the same way. -/
def oldestDbTimestamp : ℕ → List OBJ → Option (Option ℤ)
  | 0, _ => none
  | fuel + 1, container =>
    let objs := (removeObjectsWithoutDbKey container).1
    if objs.isEmpty then some none else oldestDbTimestamp fuel objs

/-- Counts nothing unless `withKey` is set. -/
def countWithValidDbKey (withKey : Bool) : ℕ :=
  container.countP (fun object => hasValidDbKey object && withKey)

variable {container}

theorem removeObjectsWithoutDbKey_fst :
    (removeObjectsWithoutDbKey container).1 = findObjectsWithDbKey container := by
  unfold removeObjectsWithoutDbKey findObjectsWithDbKey
  split_ifs with hempty
  · rw [List.isEmpty_iff.mp hempty]
    rfl
  · rfl

/-! ## What a merge leaves behind -/

section Merge

variable [DecidableEq KEYTYPE] {other : List OBJ}

/-- What is found by the valid keys. -/
def keyMap (container : List OBJ) (key : KEYTYPE) : Option OBJ :=
  (findObjectsWithDbKey container).find? (fun object => getDbKey object = key)

/-- No two objects of the list have the same key. -/
def UniqueKeys (container : List OBJ) : Prop :=
  ((findObjectsWithDbKey container).map getDbKey).Nodup

/-- What merging by keys should give. -/
structure MergesByKey (container other : List OBJ) (merged : List OBJ × ℤ) : Prop where
  keys : ∀ key, keyMap merged.1 key = (keyMap other key).or (keyMap container key)
  keyless : findObjectsWithoutDbKey merged.1 =
    findObjectsWithoutDbKey container ++ findObjectsWithoutDbKey other
  unique : UniqueKeys merged.1
  count : merged.2 = other.length

theorem mem_toDbKeySet {key : KEYTYPE} :
    key ∈ toDbKeySet container ↔ key ∈ (findObjectsWithDbKey container).map getDbKey :=
  List.mem_toFinset

/-- Only objects with a valid key have a key of the set. -/
theorem not_mem_toDbKeySet_of_keyless {object : OBJ} (h : hasValidDbKey object = false) :
    getDbKey object ∉ toDbKeySet other := by
  rw [mem_toDbKeySet, List.mem_map]
  rintro ⟨keyed, hkeyed, hkey⟩
  have hvalid := (List.mem_filter.mp hkeyed).2
  unfold hasValidDbKey at h hvalid
  rw [hkey, h] at hvalid
  exact Bool.false_ne_true hvalid

theorem removeObjectsWithKeys_fst (keys : Finset KEYTYPE) :
    (removeObjectsWithKeys container keys).1 =
      container.filter (fun object => getDbKey object ∉ keys) := by
  unfold removeObjectsWithKeys
  split_ifs with hkeys hempty
  · rw [hkeys]
    refine (List.filter_eq_self.mpr fun object _ => ?_).symm
    exact decide_eq_true (Finset.notMem_empty _)
  · rw [List.isEmpty_iff.mp hempty]
    rfl
  · dsimp only
    split_ifs with hdelta
    · rfl
    · -- Nothing was removed.
      have hle := List.length_filter_le (fun object => decide (getDbKey object ∉ keys)) container
      exact (List.filter_sublist.eq_of_length (by omega)).symm

/-- The objects that are not replaced, and those of the other list. -/
theorem replaceOrAddObjectsByKey_eq :
    replaceOrAddObjectsByKey container other =
      (container.filter (fun object => getDbKey object ∉ toDbKeySet other) ++ other,
        (other.length : ℤ)) := by
  unfold replaceOrAddObjectsByKey
  split_ifs with hother hcontainer
  · rw [List.isEmpty_iff.mp hother, List.append_nil]
    congr 1
    exact (List.filter_eq_self.mpr fun object _ => decide_eq_true (Finset.notMem_empty _)).symm
  · rw [List.isEmpty_iff.mp hcontainer]
    rfl
  · dsimp only
    rw [removeObjectsWithKeys_fst, List.length_append]
    congr 1
    omega

/-- The keys are those of the set. -/
theorem keyMap_eq_none_iff {key : KEYTYPE} :
    keyMap container key = none ↔ key ∉ toDbKeySet container := by
  unfold keyMap
  rw [List.find?_eq_none, mem_toDbKeySet, List.mem_map]
  constructor
  · rintro h ⟨object, hobject, hkey⟩
    exact h object hobject (decide_eq_true hkey)
  · intro h object hobject hkey
    exact h ⟨object, hobject, of_decide_eq_true hkey⟩

/-- What is found by a key in a list that other objects were added to. -/
theorem keyMap_merge (key : KEYTYPE) :
    keyMap (container.filter (fun object => getDbKey object ∉ toDbKeySet other) ++ other) key =
      (keyMap other key).or (keyMap container key) := by
  have hsplit : keyMap (container.filter (fun object => getDbKey object ∉ toDbKeySet other) ++
      other) key = (keyMap (container.filter (fun object => getDbKey object ∉ toDbKeySet other))
        key).or (keyMap other key) := by
    unfold keyMap findObjectsWithDbKey
    rw [List.filter_append, List.find?_append]
  rw [hsplit]
  -- If the key is in the other list, all of this list with that key are filtered out.
  cases hother : keyMap other key with
  | none =>
    rw [Option.or_none]
    unfold keyMap findObjectsWithDbKey
    rw [← List.head?_filter, ← List.head?_filter, List.filter_filter, List.filter_filter,
      List.filter_filter]
    congr 1
    -- The filter keeps all objects that have the key, as the other list has none.
    refine List.filter_congr fun object _ => ?_
    by_cases hkey : getDbKey object = key
    · have hnot : getDbKey object ∉ toDbKeySet other := hkey ▸ keyMap_eq_none_iff.mp hother
      rw [decide_eq_true hnot, Bool.and_true]
    · rw [decide_eq_false hkey, Bool.false_and, Bool.false_and]
  | some object =>
    have hmem : key ∈ toDbKeySet other := by
      by_contra hnot
      exact Option.some_ne_none object (hother.symm.trans (keyMap_eq_none_iff.mpr hnot))
    have hnone : keyMap (container.filter (fun object => getDbKey object ∉ toDbKeySet other)) key =
        none := by
      rw [keyMap_eq_none_iff, mem_toDbKeySet, List.mem_map]
      rintro ⟨object, hobject, hkey⟩
      have hnot := (List.mem_filter.mp (List.mem_of_mem_filter hobject)).2
      exact of_decide_eq_true hnot (hkey ▸ hmem)
    rw [hnone]
    rfl

/-- A merge keeps valid keys unique. -/
theorem uniqueKeys_merge (hcontainer : UniqueKeys container) (hother : UniqueKeys other) :
    UniqueKeys (container.filter (fun object => getDbKey object ∉ toDbKeySet other) ++ other) := by
  unfold UniqueKeys findObjectsWithDbKey at *
  rw [List.filter_append, List.map_append, List.nodup_append']
  refine ⟨?_, hother, ?_⟩
  · exact hcontainer.sublist ((List.filter_sublist.filter _).map _)
  · intro key hkey hkey'
    rcases List.mem_map.mp hkey with ⟨object, hobject, rfl⟩
    have hnot := (List.mem_filter.mp (List.mem_of_mem_filter hobject)).2
    exact of_decide_eq_true hnot (mem_toDbKeySet.mpr hkey')

/-- A merge overrides what is found by the keys of the other list and keeps the objects without
    a key. -/
theorem merges_by_key (hcontainer : UniqueKeys container) (hother : UniqueKeys other) :
    MergesByKey container other (replaceOrAddObjectsByKey container other) ∧
      ((∀ object ∈ other, hasValidDbKey object = true) → ∀ key,
        keyMap (replaceOrAddObjectsByKey (replaceOrAddObjectsByKey container other).1 other).1 key =
          keyMap (replaceOrAddObjectsByKey container other).1 key) := by
  constructor
  · rw [replaceOrAddObjectsByKey_eq]
    refine ⟨keyMap_merge, ?_, uniqueKeys_merge hcontainer hother, rfl⟩
    -- An object without a key is not replaced.
    unfold findObjectsWithoutDbKey
    rw [List.filter_append, List.filter_filter]
    congr 1
    refine List.filter_congr fun object _ => ?_
    cases hvalid : hasValidDbKey object with
    | true => rfl
    | false => rw [decide_eq_true (not_mem_toDbKeySet_of_keyless hvalid)]; rfl
  · intro _ key
    rw [replaceOrAddObjectsByKey_eq, replaceOrAddObjectsByKey_eq, keyMap_merge, keyMap_merge,
      ← Option.or_assoc, Option.or_self]

/-- Two distributors without a key, and two of the same key, of which one is replaced. -/
theorem merges_by_key_distributors :
    let keyless : Memoized.CDistributor := { description := "unknown" }
    let old : Memoized.CDistributor := { dbKey := "IVAO" }
    let new : Memoized.CDistributor := { old with description := "IVAO MTL" }
    MergesByKey [old, keyless] [keyless, new]
        (replaceOrAddObjectsByKey [old, keyless] [keyless, new]) ∧
      ∀ key, keyMap (replaceOrAddObjectsByKey
            (replaceOrAddObjectsByKey [old, keyless] [new]).1 [new]).1 key =
          keyMap (replaceOrAddObjectsByKey [old, keyless] [new]).1 key :=
  ⟨(merges_by_key (by unfold UniqueKeys; decide) (by unfold UniqueKeys; decide)).1,
    (merges_by_key (by unfold UniqueKeys; decide) (by unfold UniqueKeys; decide)).2 (by decide)⟩

end Merge

/-! ## Timestamps -/

/-- The first of the greatest is an element that none exceeds. -/
theorem maxElement_spec (key : OBJ → ℤ) (first : OBJ) (objects : List OBJ) :
    maxElement key first objects ∈ first :: objects ∧
      ∀ object ∈ first :: objects, key object ≤ key (maxElement key first objects) := by
  induction objects generalizing first with
  | nil => exact ⟨List.mem_singleton_self _, fun object h => by rw [List.mem_singleton.mp h]; rfl⟩
  | cons object objects ih =>
    have hstep : maxElement key first (object :: objects) =
        maxElement key (if key first < key object then object else first) objects := rfl
    rw [hstep]
    rcases ih (if key first < key object then object else first) with ⟨hmem, hmax⟩
    have hbest := hmax _ List.mem_cons_self
    -- The best so far is replaced only by an object that is greater.
    split_ifs at * with hless
    · refine ⟨List.mem_cons_of_mem _ hmem, fun other hother => ?_⟩
      rcases List.mem_cons.mp hother with rfl | hother
      · omega
      · exact hmax other hother
    · constructor
      · rcases List.mem_cons.mp hmem with heq | hmem
        · rw [heq]
          exact List.mem_cons_self
        · exact List.mem_cons_of_mem _ (List.mem_cons_of_mem _ hmem)
      · intro other hother
        rcases List.mem_cons.mp hother with rfl | hother
        · exact hbest
        · rcases List.mem_cons.mp hother with rfl | hother
          · omega
          · exact hmax other (List.mem_cons_of_mem _ hother)

/-- A timestamp in milliseconds, which is invalid if it is negative. -/
def utcOfMSecs (msecs : ℤ) : Option ℤ := if msecs < 0 then none else some msecs

/-- What the timestamps and counts should say. -/
structure TellsTimestampsAndCounts (container : List OBJ) : Prop where
  latest : latestDbTimestamp container =
    ((findObjectsWithDbKey container).map getMSecsSinceEpoch).max?.bind utcOfMSecs
  oldest : ∃ fuel, oldestDbTimestamp fuel container =
    some (((findObjectsWithDbKey container).map getMSecsSinceEpoch).min?.bind utcOfMSecs)
  counts : countWithValidDbKey container true + countWithValidDbKey container false =
    container.length

theorem latestDbTimestamp_eq :
    latestDbTimestamp container =
      ((findObjectsWithDbKey container).map getMSecsSinceEpoch).max?.bind utcOfMSecs := by
  unfold latestDbTimestamp
  rw [removeObjectsWithoutDbKey_fst]
  cases findObjectsWithDbKey container with
  | nil => rfl
  | cons first objects =>
    rcases maxElement_spec getMSecsSinceEpoch first objects with ⟨hmem, hmax⟩
    have hgreatest : ((first :: objects).map getMSecsSinceEpoch).max? =
        some (getMSecsSinceEpoch (maxElement getMSecsSinceEpoch first objects)) := by
      refine List.max?_eq_some_iff.mpr ⟨List.mem_map_of_mem hmem, fun msecs hmsecs => ?_⟩
      rcases List.mem_map.mp hmsecs with ⟨object, hobject, rfl⟩
      exact hmax object hobject
    rw [hgreatest]
    rfl

/-- A copy with a key in each object is asked for its oldest timestamp again and again. -/
theorem oldestDbTimestamp_eq_none (fuel : ℕ) (h : findObjectsWithDbKey container ≠ []) :
    oldestDbTimestamp fuel container = none := by
  induction fuel generalizing container with
  | zero => rfl
  | succ fuel ih =>
    rw [oldestDbTimestamp, removeObjectsWithoutDbKey_fst, if_neg (mt List.isEmpty_iff.mp h)]
    apply ih
    have hagain : findObjectsWithDbKey (findObjectsWithDbKey container) =
        findObjectsWithDbKey container := by
      unfold findObjectsWithDbKey
      rw [List.filter_filter, funext fun object => Bool.and_self (hasValidDbKey object)]
    rwa [hagain]

/-- The oldest timestamp is found only where there is none. -/
theorem oldestDbTimestamp_isSome_iff :
    (∃ fuel, (oldestDbTimestamp fuel container).isSome = true) ↔
      findObjectsWithDbKey container = [] := by
  constructor
  · rintro ⟨fuel, hfuel⟩
    by_contra hne
    rw [oldestDbTimestamp_eq_none fuel hne] at hfuel
    exact Bool.false_ne_true hfuel
  · intro hnone
    refine ⟨1, ?_⟩
    rw [oldestDbTimestamp, removeObjectsWithoutDbKey_fst, hnone]
    rfl

/-- All objects are counted only where all have a key. -/
theorem countWithValidDbKey_eq_length_iff :
    countWithValidDbKey container true + countWithValidDbKey container false = container.length ↔
      ∀ object ∈ container, hasValidDbKey object = true := by
  unfold countWithValidDbKey
  simp only [Bool.and_true, Bool.and_false, List.countP_false]
  exact List.countP_eq_length

/-- Objects with a key have no oldest timestamp, and those without are not counted. -/
theorem tells_timestamps_and_counts_iff : TellsTimestampsAndCounts container ↔ container = [] := by
  constructor
  · intro h
    have hkeyless : findObjectsWithDbKey container = [] := by
      rcases h.oldest with ⟨fuel, hfuel⟩
      exact oldestDbTimestamp_isSome_iff.mp ⟨fuel, Option.isSome_of_eq_some hfuel⟩
    have hkeyed := countWithValidDbKey_eq_length_iff.mp h.counts
    rw [← List.filter_eq_self.mpr hkeyed]
    exact hkeyless
  · rintro rfl
    exact ⟨latestDbTimestamp_eq, ⟨1, rfl⟩, rfl⟩

end ObjectList

/-- The oldest timestamp of a list of one model with a key is not found. -/
theorem oldest_not_found :
    ¬TellsTimestampsAndCounts
      [({ dbKey := 1, timestampMSecsSinceEpoch := 1000 } : Memoized.CAircraftModel)] := by
  intro h
  rcases h.oldest with ⟨fuel, hfuel⟩
  have hkeyed : findObjectsWithDbKey
      [({ dbKey := 1, timestampMSecsSinceEpoch := 1000 } : Memoized.CAircraftModel)] ≠ [] :=
    List.ne_nil_of_mem (List.mem_filter.mpr ⟨List.mem_singleton_self _, by decide⟩)
  rw [oldestDbTimestamp_eq_none fuel hkeyed] at hfuel
  exact Option.some_ne_none _ hfuel.symm

end Db

end NeoSwift.Misc
