import NeoSwift.Qt.Json

/-!
# Incremental JSON Objects

`misc/json.cpp` and `misc/mixin/mixinjson.h`: the difference of two objects, the
merging of a difference into an object, and the conversion of values member by
member.

An object is looked at through its leaves, the values at its paths that are no
objects themselves. Where objects agree on which paths lead to objects, the leaves
of a difference are those of the current object that differ from the previous one,
and merging lets the leaves of the difference hide those of the object. Nothing in
a difference says that a leaf is gone, so merging never takes one away.

The loops go over the keys from the last one on. The keys of an object are
different, and a step of a loop reads and writes its own key only.

## Main definitions

* `getIncrementalObject`, `applyIncrementalObject`: The difference and the merging.
* `valueAt`, `leafAt`: The value and the leaf at a path.
* `HasKinds`: Which paths lead to objects.
* `JsonMember`: A member of a class with its name in JSON.

## Theorems

* `leafAt_getIncrementalObject`: The leaves of a difference.
* `leafAt_applyIncrementalObject`: The leaves after merging.
* `leafAt_merged`: The leaves after merging a difference.
* `value_toJson`: The fields of a value with members.
-/

namespace NeoSwift.Misc

mutual

/-- The difference at one key of the previous object. -/
def incrementalValue (key : QString) (currentObject incrementalObject : QJsonObject) :
    QJsonValue → QJsonObject
  | .object fields =>
      let child := incrementalFields (currentObject.child key) fields
      if child.isEmpty then incrementalObject.remove key
      else incrementalObject.insert key (.object child)
  | v =>
      if (currentObject.value key).any (fun w => w.equals v) then incrementalObject.remove key
      else incrementalObject

def incrementalField (currentObject incrementalObject : QJsonObject) :
    QString × QJsonValue → QJsonObject
  | (key, v) => incrementalValue key currentObject incrementalObject v

def incrementalFields (currentObject : QJsonObject) : List (QString × QJsonValue) → QJsonObject
  | [] => currentObject
  | field :: fields =>
      incrementalField currentObject (incrementalFields currentObject fields) field

end

def getIncrementalObject (previousObject currentObject : QJsonObject) : QJsonObject :=
  incrementalFields currentObject previousObject

mutual

/-- The value merged into an object at its key. -/
def applyValue (key : QString) (previousObject : QJsonObject) : QJsonValue → QJsonValue
  | .object fields => .object (applyFields (previousObject.child key) fields)
  | v => v

def applyField (previousObject currentObject : QJsonObject) : QString × QJsonValue → QJsonObject
  | (key, v) => currentObject.insert key (applyValue key previousObject v)

def applyFields (previousObject : QJsonObject) : List (QString × QJsonValue) → QJsonObject
  | [] => previousObject
  | field :: fields => applyField previousObject (applyFields previousObject fields) field

end

def applyIncrementalObject (previousObject incrementalObject : QJsonObject) : QJsonObject :=
  applyFields previousObject incrementalObject

/-! ## Fields -/

theorem getIncrementalObject_nil (currentObject : QJsonObject) :
    getIncrementalObject [] currentObject = currentObject := by
  rw [getIncrementalObject, incrementalFields]

theorem getIncrementalObject_cons (key : QString) (v : QJsonValue) (fields currentObject :
    QJsonObject) :
    getIncrementalObject ((key, v) :: fields) currentObject
      = incrementalValue key currentObject (getIncrementalObject fields currentObject) v := by
  rw [getIncrementalObject, incrementalFields, incrementalField, getIncrementalObject]

theorem incrementalValue_object (key : QString) (currentObject incrementalObject fields :
    QJsonObject) :
    incrementalValue key currentObject incrementalObject (.object fields)
      = if (getIncrementalObject fields (currentObject.child key)).isEmpty then
          incrementalObject.remove key
        else
          incrementalObject.insert key
            (.object (getIncrementalObject fields (currentObject.child key))) := by
  rw [incrementalValue, getIncrementalObject]

variable {v : QJsonValue}

theorem incrementalValue_leaf (key : QString) (currentObject incrementalObject : QJsonObject)
    (h : v.isObject = false) :
    incrementalValue key currentObject incrementalObject v
      = if (currentObject.value key).any (fun w => w.equals v) then incrementalObject.remove key
        else incrementalObject := by
  cases v with
  | object fields => exact absurd h (by simp [QJsonValue.isObject])
  | _ => rw [incrementalValue]; exact fun fields heq => by cases heq

/-- A step of the loop leaves the other keys alone. -/
theorem value_incrementalValue_of_ne {key key' : QString} (h : key' ≠ key)
    (currentObject incrementalObject : QJsonObject) (v : QJsonValue) :
    (incrementalValue key currentObject incrementalObject v).value key'
      = incrementalObject.value key' := by
  by_cases hv : v.isObject = true
  · cases v with
    | object fields =>
        rw [incrementalValue_object]
        split
        · rw [QJsonObject.value_remove, if_neg h]
        · rw [QJsonObject.value_insert, if_neg h]
    | _ => cases hv
  · rw [incrementalValue_leaf key currentObject incrementalObject (by simpa using hv)]
    split
    · rw [QJsonObject.value_remove, if_neg h]
    · rfl

variable {previousObject : QJsonObject} {key : QString}

/-- A key that is not in the previous object is new. -/
theorem value_getIncrementalObject_none (currentObject : QJsonObject)
    (h : previousObject.value key = none) :
    (getIncrementalObject previousObject currentObject).value key = currentObject.value key := by
  induction previousObject with
  | nil => rw [getIncrementalObject_nil]
  | cons field fields ih =>
      rcases field with ⟨name, v⟩
      rw [QJsonObject.value_cons] at h
      by_cases hname : key = name
      · rw [if_pos hname] at h
        cases h
      · rw [if_neg hname] at h
        rw [getIncrementalObject_cons, value_incrementalValue_of_ne hname, ih h]

/-- The part of the loop that concerns a key is one step. -/
theorem value_getIncrementalObject_some (currentObject : QJsonObject)
    (hkeys : previousObject.keys.Nodup) (hv : previousObject.value key = some v) :
    ∃ incrementalObject, incrementalObject.value key = currentObject.value key ∧
      (getIncrementalObject previousObject currentObject).value key
        = (incrementalValue key currentObject incrementalObject v).value key := by
  induction previousObject with
  | nil => exact absurd hv (by simp [QJsonObject.value_nil])
  | cons field fields ih =>
      rcases field with ⟨name, w⟩
      rw [QJsonObject.keys, List.map_cons, List.nodup_cons] at hkeys
      rw [QJsonObject.value_cons] at hv
      by_cases hname : key = name
      · -- The rest of the loop has not touched this key.
        subst hname
        rw [if_pos rfl, Option.some.injEq] at hv
        dsimp only at hv
        refine ⟨getIncrementalObject fields currentObject,
          value_getIncrementalObject_none _ (QJsonObject.value_eq_none.mpr hkeys.1), ?_⟩
        rw [getIncrementalObject_cons, hv]
      · rw [if_neg hname] at hv
        rcases ih hkeys.2 hv with ⟨incrementalObject, hkept, hstep⟩
        refine ⟨incrementalObject, hkept, ?_⟩
        rw [getIncrementalObject_cons, value_incrementalValue_of_ne hname, hstep]

theorem value_getIncrementalObject_object
    (currentObject : QJsonObject) (hkeys : previousObject.keys.Nodup)
    {fields : QJsonObject} (h : previousObject.value key = some (.object fields)) :
    (getIncrementalObject previousObject currentObject).value key
      = if (getIncrementalObject fields (currentObject.child key)).isEmpty then none
        else some (.object (getIncrementalObject fields (currentObject.child key))) := by
  rcases value_getIncrementalObject_some currentObject hkeys h with ⟨incrementalObject, -, hstep⟩
  rw [hstep, incrementalValue_object]
  split
  · rw [QJsonObject.value_remove, if_pos rfl]
  · rw [QJsonObject.value_insert, if_pos rfl]

theorem value_getIncrementalObject_leaf
    (currentObject : QJsonObject) (hkeys : previousObject.keys.Nodup)
    (h : previousObject.value key = some v) (hleaf : v.isObject = false) :
    (getIncrementalObject previousObject currentObject).value key
      = if (currentObject.value key).any (fun w => w.equals v) then none
        else currentObject.value key := by
  rcases value_getIncrementalObject_some currentObject hkeys h
    with ⟨incrementalObject, hkept, hstep⟩
  rw [hstep, incrementalValue_leaf key currentObject incrementalObject hleaf]
  split
  · rw [QJsonObject.value_remove, if_pos rfl]
  · exact hkept

theorem applyIncrementalObject_cons (key : QString) (v : QJsonValue)
    (fields previousObject : QJsonObject) :
    applyIncrementalObject previousObject ((key, v) :: fields)
      = (applyIncrementalObject previousObject fields).insert key
          (applyValue key previousObject v) := by
  rw [applyIncrementalObject, applyFields, applyField, applyIncrementalObject]

theorem nodup_keys_applyIncrementalObject
    (h : previousObject.keys.Nodup) (incrementalObject : QJsonObject) :
    (applyIncrementalObject previousObject incrementalObject).keys.Nodup := by
  induction incrementalObject with
  | nil =>
      rw [applyIncrementalObject, applyFields]
      exact h
  | cons field fields ih =>
      rw [applyIncrementalObject_cons]
      exact QJsonObject.nodup_keys_insert _ _ ih

/-- What is merged into a key. -/
theorem value_applyIncrementalObject (previousObject incrementalObject : QJsonObject)
    (key : QString) :
    (applyIncrementalObject previousObject incrementalObject).value key
      = ((incrementalObject.value key).map (applyValue key previousObject)).or
          (previousObject.value key) := by
  induction incrementalObject with
  | nil =>
      rw [applyIncrementalObject, applyFields, QJsonObject.value_nil, Option.map_none,
        Option.none_or]
  | cons field fields ih =>
      rcases field with ⟨name, v⟩
      rw [applyIncrementalObject_cons, QJsonObject.value_insert, QJsonObject.value_cons]
      by_cases hname : key = name
      · subst hname
        rw [if_pos rfl, if_pos rfl]
        rfl
      · rw [if_neg hname, if_neg hname]
        exact ih

theorem applyValue_object (key : QString) (previousObject fields : QJsonObject) :
    applyValue key previousObject (.object fields)
      = .object (applyIncrementalObject (previousObject.child key) fields) := by
  rw [applyValue, applyIncrementalObject]

theorem applyValue_leaf (key : QString) (previousObject : QJsonObject)
    (h : v.isObject = false) : applyValue key previousObject v = v := by
  cases v with
  | object fields => exact absurd h (by simp [QJsonValue.isObject])
  | _ => rw [applyValue]; exact fun fields heq => by cases heq

/-! ## Leaves -/

/-- The value at a path, which is a key and the keys below it. -/
def valueAt (o : QJsonObject) (key : QString) : QStringList → Option QJsonValue
  | [] => o.value key
  | key' :: path => valueAt (o.child key) key' path

/-- The value at a path, if it is no object. -/
def leafAt (o : QJsonObject) (key : QString) (path : QStringList) : Option QJsonValue :=
  (valueAt o key path).filter (fun v => !v.isObject)

/-- The paths of the object lead to objects where `kinds` says so and to leaves
    elsewhere. -/
def HasKinds (kinds : QString → QStringList → Bool) (o : QJsonObject) : Prop :=
  ∀ key path, ∀ v ∈ valueAt o key path, v.isObject = kinds key path

/-- No object at any depth has a key twice. -/
def DistinctKeys (o : QJsonObject) : Prop :=
  o.keys.Nodup ∧ ∀ key path, ∀ v ∈ valueAt o key path, v.toObject.keys.Nodup

theorem valueAt_nil (key : QString) (path : QStringList) : valueAt [] key path = none := by
  induction path generalizing key with
  | nil => rfl
  | cons key' path ih => exact ih key'

theorem leafAt_cons (o : QJsonObject) (key key' : QString) (path : QStringList) :
    leafAt o key (key' :: path) = leafAt (o.child key) key' path := rfl

variable {kinds : QString → QStringList → Bool} {o : QJsonObject}

theorem HasKinds.child
    (h : HasKinds kinds o) (key : QString) :
    HasKinds (fun key' path => kinds key (key' :: path)) (o.child key) :=
  fun key' path v hv => h key (key' :: path) v hv

theorem child_eq_nil (h : ∀ v ∈ o.value key, v.isObject = false) : o.child key = [] := by
  unfold QJsonObject.child
  cases hv : o.value key with
  | none => rfl
  | some v =>
      have hleaf := h v hv
      cases v with
      | object fields => exact absurd hleaf (by simp [QJsonValue.isObject])
      | _ => rfl

theorem DistinctKeys.child (h : DistinctKeys o) (key : QString) : DistinctKeys (o.child key) := by
  refine ⟨?_, fun key' path v hv => h.2 key (key' :: path) v hv⟩
  unfold QJsonObject.child
  cases hv : o.value key with
  | none => exact List.nodup_nil
  | some v => exact h.2 key [] v hv

theorem child_of_leaf
    (h : o.value key = some v) (hleaf : v.isObject = false) : o.child key = [] := by
  refine child_eq_nil (fun w hw => ?_)
  rw [h, Option.mem_def, Option.some.injEq] at hw
  rw [← hw]
  exact hleaf

theorem child_of_none (h : o.value key = none) : o.child key = [] := by
  rw [QJsonObject.child, h]
  rfl

theorem child_congr {o o' : QJsonObject} (h : o.value key = o'.value key) :
    o.child key = o'.child key := by
  rw [QJsonObject.child, QJsonObject.child, h]

/-- What is below a key is nothing, or what the value there is. -/
theorem child_cases (o : QJsonObject) (key : QString) :
    o.child key = [] ∨ ∃ v, o.value key = some v ∧ o.child key = v.toObject := by
  unfold QJsonObject.child
  cases hv : o.value key with
  | none => exact .inl rfl
  | some v => exact .inr ⟨v, rfl, rfl⟩

theorem hasKinds_nil (kinds : QString → QStringList → Bool) : HasKinds kinds [] := by
  intro key path v hv
  rw [valueAt_nil] at hv
  cases hv

/-- The kinds of an object are those of its values and of what is below them. -/
theorem hasKinds_of_child (hvalue : ∀ key v, o.value key = some v → v.isObject = kinds key [])
    (hchild : ∀ key, HasKinds (fun key' path => kinds key (key' :: path)) (o.child key)) :
    HasKinds kinds o := by
  intro key path
  cases path with
  | nil => exact hvalue key
  | cons key' path => exact hchild key key' path

theorem hasKinds_of_leaves
    (h : ∀ key v, o.value key = some v → v.isObject = false) : HasKinds (fun _ _ => false) o := by
  refine hasKinds_of_child h (fun key => ?_)
  rw [child_eq_nil (h key)]
  exact hasKinds_nil _

theorem distinctKeys_nil : DistinctKeys [] := by
  refine ⟨List.nodup_nil, fun key path v hv => ?_⟩
  rw [valueAt_nil] at hv
  cases hv

theorem distinctKeys_of_child (hkeys : o.keys.Nodup)
    (hchild : ∀ key, DistinctKeys (o.child key)) : DistinctKeys o := by
  refine ⟨hkeys, fun key path v hv => ?_⟩
  cases path with
  | nil =>
      have hnodup := (hchild key).1
      rw [QJsonObject.child, show o.value key = some v from hv] at hnodup
      exact hnodup
  | cons key' path => exact (hchild key).2 key' path v hv

theorem distinctKeys_of_leaves (hkeys : o.keys.Nodup)
    (h : ∀ key v, o.value key = some v → v.isObject = false) : DistinctKeys o := by
  refine distinctKeys_of_child hkeys (fun key => ?_)
  rw [child_eq_nil (h key)]
  exact distinctKeys_nil

variable {currentObject : QJsonObject}

/-- What is below a key of a difference: a difference of what is below it, or what
    the current object has there. -/
theorem child_getIncrementalObject (hprevious : HasKinds kinds previousObject)
    (hcurrent : HasKinds kinds currentObject) (hkeys : DistinctKeys previousObject)
    (key : QString) :
    (getIncrementalObject previousObject currentObject).child key
      = getIncrementalObject (previousObject.child key) (currentObject.child key) := by
  cases hp : previousObject.value key with
  | none =>
      rw [child_congr (value_getIncrementalObject_none currentObject hp), child_of_none hp,
        getIncrementalObject_nil]
  | some v =>
      by_cases hobject : v.isObject = true
      · rcases QJsonValue.isObject_iff.mp hobject with ⟨fields, rfl⟩
        have hvalue := value_getIncrementalObject_object currentObject hkeys.1 hp
        rw [QJsonObject.child_of_object hp]
        split at hvalue
        · rename_i hempty
          rw [child_of_none hvalue, List.isEmpty_iff.mp hempty]
        · rw [QJsonObject.child_of_object hvalue]
      · have hleaf : v.isObject = false := by simpa only [Bool.not_eq_true] using hobject
        have hvalue := value_getIncrementalObject_leaf currentObject hkeys.1 hp hleaf
        rw [child_of_leaf hp hleaf, getIncrementalObject_nil]
        split at hvalue
        · -- The kinds agree, so there is no object in the current object either.
          rw [child_of_none hvalue]
          refine (child_eq_nil (fun w hw => ?_)).symm
          exact (hcurrent key [] w hw).trans ((hprevious key [] v hp).symm.trans hleaf)
        · exact child_congr hvalue

/-- The difference has objects where the two objects have. -/
theorem HasKinds.getIncrementalObject (hprevious : HasKinds kinds previousObject)
    (hcurrent : HasKinds kinds currentObject) (hkeys : DistinctKeys previousObject) :
    HasKinds kinds (getIncrementalObject previousObject currentObject) := by
  intro key path
  -- The induction is on the path; objects are compared in turn.
  induction path generalizing kinds previousObject currentObject key with
  | nil =>
      intro v hv
      unfold valueAt at hv
      cases hp : previousObject.value key with
      | none =>
          rw [value_getIncrementalObject_none currentObject hp] at hv
          exact hcurrent key [] v hv
      | some w =>
          -- A member that is an object has a difference that is an object, or is left out.
          by_cases hobject : w.isObject = true
          · rcases QJsonValue.isObject_iff.mp hobject with ⟨fields, rfl⟩
            rw [value_getIncrementalObject_object currentObject hkeys.1 hp] at hv
            split at hv
            · cases hv
            · rw [← Option.some.inj hv, ← hprevious key [] _ hp]
              rfl
          · have hleaf : w.isObject = false := by simpa only [Bool.not_eq_true] using hobject
            rw [value_getIncrementalObject_leaf currentObject hkeys.1 hp hleaf] at hv
            split at hv
            · cases hv
            · exact hcurrent key [] v hv
  | cons key' path ih =>
      intro v hv
      rw [valueAt, child_getIncrementalObject hprevious hcurrent hkeys] at hv
      exact ih (hprevious.child key) (hcurrent.child key) (hkeys.child key) key' v hv

/-- Where an object is, there is no leaf. -/
theorem leafAt_of_isObject (h : HasKinds kinds o) (hobject : kinds key [] = true) :
    leafAt o key [] = none := by
  unfold leafAt
  rw [Option.filter_eq_none_iff]
  intro v hv
  rw [h key [] v hv, hobject]
  exact Bool.false_ne_true

/-- Where no object is, the value is the leaf. -/
theorem leafAt_of_not_isObject (h : HasKinds kinds o) (hobject : kinds key [] = false) :
    leafAt o key [] = o.value key := by
  unfold leafAt
  have hleaf := h key []
  unfold valueAt at hleaf ⊢
  cases hv : o.value key with
  | none => rfl
  | some v => rw [Option.filter_some, hleaf v hv, hobject, Bool.not_false, if_pos rfl]

/-- The leaves of a difference are those of the current object that are not those
    of the previous one. -/
theorem leafAt_getIncrementalObject (hprevious : HasKinds kinds previousObject)
    (hcurrent : HasKinds kinds currentObject) (hkeys : DistinctKeys previousObject)
    (key : QString) (path : QStringList) :
    leafAt (getIncrementalObject previousObject currentObject) key path
      = (leafAt currentObject key path).filter (fun w =>
          !(leafAt previousObject key path).any (fun v => w.equals v)) := by
  -- The induction is on the path, as both objects and their difference are descended together.
  induction path generalizing kinds previousObject currentObject key with
  | nil =>
      have hincremental := hprevious.getIncrementalObject hcurrent hkeys
      -- An object has no leaf here, and of leaves only those that differ are kept.
      cases hkind : kinds key [] with
      | true =>
          rw [leafAt_of_isObject hincremental hkind, leafAt_of_isObject hcurrent hkind,
            Option.filter_none]
      | false =>
          rw [leafAt_of_not_isObject hincremental hkind, leafAt_of_not_isObject hcurrent hkind,
            leafAt_of_not_isObject hprevious hkind]
          cases hp : previousObject.value key with
          | none =>
              rw [value_getIncrementalObject_none currentObject hp]
              cases currentObject.value key <;> rfl
          | some v =>
              rw [value_getIncrementalObject_leaf currentObject hkeys.1 hp
                ((hprevious key [] v hp).trans hkind)]
              cases currentObject.value key with
              | none => rfl
              | some w => cases hsame : w.equals v <;>
                  simp [Option.filter_some, hsame]
  | cons key' path ih =>
      rw [leafAt_cons, child_getIncrementalObject hprevious hcurrent hkeys]
      exact ih (hprevious.child key) (hcurrent.child key) (hkeys.child key) key'

variable {incrementalObject : QJsonObject}

/-- What is below a key after merging. -/
theorem child_applyIncrementalObject (hprevious : HasKinds kinds previousObject)
    (hincremental : HasKinds kinds incrementalObject) (key : QString) :
    (applyIncrementalObject previousObject incrementalObject).child key
      = applyIncrementalObject (previousObject.child key) (incrementalObject.child key) := by
  have hvalue := value_applyIncrementalObject previousObject incrementalObject key
  cases hi : incrementalObject.value key with
  | none =>
      rw [hi, Option.map_none, Option.none_or] at hvalue
      rw [child_congr hvalue, child_of_none hi, applyIncrementalObject, applyFields]
  | some v =>
      rw [hi, Option.map_some, Option.some_or] at hvalue
      by_cases hobject : v.isObject = true
      · rcases QJsonValue.isObject_iff.mp hobject with ⟨fields, rfl⟩
        rw [applyValue_object] at hvalue
        rw [QJsonObject.child_of_object hvalue, QJsonObject.child_of_object hi]
      · -- A leaf comes in, so there was no object before.
        have hleaf : v.isObject = false := by simpa only [Bool.not_eq_true] using hobject
        rw [applyValue_leaf key previousObject hleaf] at hvalue
        have hnothing : previousObject.child key = [] := by
          refine child_eq_nil (fun w hw => ?_)
          exact (hprevious key [] w hw).trans ((hincremental key [] v hi).symm.trans hleaf)
        rw [child_of_leaf hvalue hleaf, child_of_leaf hi hleaf, hnothing, applyIncrementalObject,
          applyFields]

theorem HasKinds.applyIncrementalObject (hprevious : HasKinds kinds previousObject)
    (hincremental : HasKinds kinds incrementalObject) :
    HasKinds kinds (applyIncrementalObject previousObject incrementalObject) := by
  intro key path
  induction path generalizing kinds previousObject incrementalObject key with
  | nil =>
      intro v hv
      unfold valueAt at hv
      rw [value_applyIncrementalObject] at hv
      -- A value that is not changed is the previous one.
      cases hi : incrementalObject.value key with
      | none =>
          rw [hi] at hv
          exact hprevious key [] v hv
      | some w =>
          rw [hi, Option.map_some, Option.some_or, Option.mem_def, Option.some.injEq] at hv
          have hkind : w.isObject = kinds key [] := hincremental key [] w hi
          rw [← hv, ← hkind]
          cases w <;> rw [applyValue] <;> first | rfl | exact nofun
  | cons key' path ih =>
      intro v hv
      rw [valueAt, child_applyIncrementalObject hprevious hincremental] at hv
      exact ih (hprevious.child key) (hincremental.child key) key' v hv

/-- A key of a difference is one of the two objects. -/
theorem value_of_getIncrementalObject
    (h : (getIncrementalObject previousObject currentObject).value key ≠ none) :
    previousObject.value key ≠ none ∨ currentObject.value key ≠ none := by
  by_cases hp : previousObject.value key = none
  · rw [value_getIncrementalObject_none currentObject hp] at h
    exact .inr h
  · exact .inl hp

/-- The leaves that are merged in hide those of the object, and all others stay. -/
theorem leafAt_applyIncrementalObject (hprevious : HasKinds kinds previousObject)
    (hincremental : HasKinds kinds incrementalObject) (key : QString) (path : QStringList) :
    leafAt (applyIncrementalObject previousObject incrementalObject) key path
      = (leafAt incrementalObject key path).or (leafAt previousObject key path) := by
  induction path generalizing kinds previousObject incrementalObject key with
  | nil =>
      have hvalue := value_applyIncrementalObject previousObject incrementalObject key
      unfold leafAt valueAt
      rw [hvalue]
      cases hi : incrementalObject.value key with
      | none => rfl
      | some v =>
          -- An object hides no leaf, and a leaf hides what was there.
          by_cases hobject : v.isObject = true
          · rcases QJsonValue.isObject_iff.mp hobject with ⟨fields, rfl⟩
            have hkind : kinds key [] = true := (hincremental key [] _ hi).symm
            have hnone := leafAt_of_isObject hprevious hkind
            unfold leafAt valueAt at hnone
            rw [hnone, Option.map_some, applyValue_object]
            rfl
          · have hleaf : v.isObject = false := by simpa only [Bool.not_eq_true] using hobject
            rw [Option.map_some, applyValue_leaf key previousObject hleaf, Option.some_or,
              Option.filter_some, hleaf]
            rfl
  | cons key' path ih =>
      rw [leafAt_cons, child_applyIncrementalObject hprevious hincremental]
      exact ih (hprevious.child key) (hincremental.child key) key'

/-- Merging a difference into an object that has the leaves of the previous one, and
    perhaps more, lets the leaves of the current object hide those it has. -/
theorem leafAt_merged {previousObject currentObject receivedObject : QJsonObject}
    (hprevious : HasKinds kinds previousObject) (hcurrent : HasKinds kinds currentObject)
    (hreceived : HasKinds kinds receivedObject) (hkeys : DistinctKeys previousObject)
    {path : QStringList}
    (hplain : ∀ v ∈ leafAt previousObject key path, ∀ w, QJsonValue.equals w v = true → w = v)
    (hleaf : ∀ v ∈ leafAt previousObject key path, leafAt receivedObject key path = some v) :
    leafAt (applyIncrementalObject receivedObject
        (getIncrementalObject previousObject currentObject)) key path
      = (leafAt currentObject key path).or (leafAt receivedObject key path) := by
  rw [leafAt_applyIncrementalObject hreceived (hprevious.getIncrementalObject hcurrent hkeys),
    leafAt_getIncrementalObject hprevious hcurrent hkeys]
  cases hc : leafAt currentObject key path with
  | none => rfl
  | some w =>
      cases hp : leafAt previousObject key path with
      | none => rfl
      | some v =>
          rw [Option.filter_some, Option.any_some]
          by_cases hsame : w.equals v = true
          · -- What has not changed is not sent, and the receiver has it.
            rw [hsame, Bool.not_true, if_neg Bool.false_ne_true, Option.none_or, Option.some_or,
              hleaf v hp, hplain v hp w hsame]
          · rw [if_pos (by simpa only [Bool.not_eq_true', Bool.not_eq_true] using hsame)]

/-! ## Members -/

/-- The object with the given fields, inserted one after the other. -/
def ofFields (fields : List (QString × QJsonValue)) : QJsonObject :=
  fields.foldl (fun json field => json.insert field.1 field.2) []

theorem mem_of_value (h : o.value key = some v) : (key, v) ∈ o := by
  induction o with
  | nil => exact absurd h (by simp [QJsonObject.value_nil])
  | cons field o ih =>
      rw [QJsonObject.value_cons] at h
      by_cases hkey : key = field.1
      · rw [if_pos hkey, Option.some.injEq] at h
        rw [hkey, ← h]
        exact List.mem_cons_self ..
      · rw [if_neg hkey] at h
        exact List.mem_cons_of_mem _ (ih h)

/-- A member with its name, how it is written and how it is read. -/
structure JsonMember (α : Type) where
  name : QString
  write : α → QJsonValue
  read : QJsonValue → α → α

/-- `JsonByMetaClass::toJson`. -/
def toJson {α : Type} (members : List (JsonMember α)) (a : α) : QJsonObject :=
  ofFields (members.map (fun member => (member.name, member.write a)))

/-- `JsonByMetaClass::convertFromJson`, where no member is required: what is not there
    stays as it is. -/
def convertFromJson {α : Type} (members : List (JsonMember α)) (json : QJsonObject) (a : α) : α :=
  members.foldl
    (fun a member => ((json.value member.name).map (fun v => member.read v a)).getD a) a

theorem ofFields_append_singleton (fields : List (QString × QJsonValue)) (key : QString)
    (v : QJsonValue) : ofFields (fields ++ [(key, v)]) = (ofFields fields).insert key v := by
  unfold ofFields
  rw [List.foldl_append]
  rfl

/-- The last field with a key is the one that stays. -/
theorem value_ofFields (fields : List (QString × QJsonValue)) (key : QString) :
    (ofFields fields).value key = QJsonObject.value fields.reverse key := by
  induction fields using List.reverseRecOn with
  | nil => rfl
  | append_singleton fields field ih =>
      rw [ofFields_append_singleton, QJsonObject.value_insert, List.reverse_append,
        List.reverse_singleton, List.singleton_append, QJsonObject.value_cons, ih]

theorem nodup_keys_ofFields (fields : List (QString × QJsonValue)) :
    (ofFields fields).keys.Nodup := by
  induction fields using List.reverseRecOn with
  | nil => exact List.nodup_nil
  | append_singleton fields field ih =>
      rw [ofFields_append_singleton]
      exact QJsonObject.nodup_keys_insert _ _ ih

theorem value_toJson {α : Type} (members : List (JsonMember α)) (a : α) (key : QString) :
    (toJson members a).value key
      = QJsonObject.value (members.map (fun member => (member.name, member.write a))).reverse key :=
  value_ofFields _ key

/-- Reading an object that has all members of a value. -/
theorem convertFromJson_of_value {α : Type} {members : List (JsonMember α)} {json : QJsonObject}
    {b : α} (h : ∀ member ∈ members, json.value member.name = some (member.write b)) (a : α) :
    convertFromJson members json a
      = members.foldl (fun a member => member.read (member.write b) a) a := by
  refine List.foldl_ext _ _ _ (fun a member hmember => ?_)
  rw [h member hmember]
  rfl

theorem nodup_keys_toJson {α : Type} (members : List (JsonMember α)) (a : α) :
    (toJson members a).keys.Nodup := nodup_keys_ofFields _

end NeoSwift.Misc
