import NeoSwift.Qt.Text

/-!
# JSON

`QJsonValue` and `QJsonObject`. An object is a list of its fields in the order of
their keys, without one key twice; a value that is not there is undefined, which
is none here. Numbers are exact.

## Main definitions

* `QJsonValue`, `QJsonObject`: Values and objects.
* `QJsonValue.equals`: The comparison of values.
* `QJsonObject.value`, `QJsonObject.insert`, `QJsonObject.remove`: Fields.
* `QJsonValue.toBool`, `QJsonValue.toInt`: Values of a type, with its default.

## Theorems

* `value_insert`, `value_remove`: What the fields are afterwards.
* `nodup_keys_insert`: A key is inserted once.
* `equals_bool`, `equals_double`: Equal plain values are the same.
-/

namespace NeoSwift

/-- A JSON value. A number is a rational. -/
inductive QJsonValue where
  | null
  | bool (b : Bool)
  | double (x : ℚ)
  | string (s : QString)
  | array (values : List QJsonValue)
  | object (fields : List (QString × QJsonValue))

/-- The fields of an object. -/
abbrev QJsonObject := List (QString × QJsonValue)

namespace QJsonValue

mutual

/-- `operator==`. -/
def equals : QJsonValue → QJsonValue → Bool
  | .null, .null => true
  | .bool a, .bool b => a == b
  | .double x, .double y => x == y
  | .string s, .string t => s == t
  | .array values, .array values' => equalsValues values values'
  | .object fields, .object fields' => equalsFields fields fields'
  | _, _ => false

def equalsValues : List QJsonValue → List QJsonValue → Bool
  | [], [] => true
  | v :: values, v' :: values' => equals v v' && equalsValues values values'
  | _, _ => false

def equalsFields : List (QString × QJsonValue) → List (QString × QJsonValue) → Bool
  | [], [] => true
  | field :: fields, field' :: fields' => equalsField field field' && equalsFields fields fields'
  | _, _ => false

def equalsField : QString × QJsonValue → QString × QJsonValue → Bool
  | (key, v), (key', v') => key == key' && equals v v'

end

def isObject : QJsonValue → Bool
  | .object _ => true
  | _ => false

/-- The object, or an empty one. -/
def toObject : QJsonValue → QJsonObject
  | .object fields => fields
  | _ => []

def toBool : QJsonValue → Bool
  | .bool b => b
  | _ => false

/-- A number that is an `int`, or zero. -/
def toInt : QJsonValue → Int32
  | .double x => if x.den = 1 ∧ -2147483648 ≤ x.num ∧ x.num ≤
    2147483647 then Int32.ofInt x.num else 0
  | _ => 0

theorem isObject_iff {v : QJsonValue} : v.isObject = true ↔ ∃ fields, v = .object fields := by
  cases v <;> simp [isObject]

@[simp] theorem toObject_object (fields : QJsonObject) : (object fields).toObject = fields := rfl

theorem equals_bool (v : QJsonValue) (b : Bool) : v.equals (.bool b) = true ↔ v = .bool b := by
  cases v <;> simp [equals]

theorem equals_double (v : QJsonValue) (x : ℚ) : v.equals (.double x) = true ↔ v = .double x := by
  cases v <;> simp [equals]

@[simp] theorem toInt_double (n : Int32) : (QJsonValue.double (n.toInt : ℚ)).toInt = n := by
  have hlo := n.le_toInt
  have hhi := n.toInt_lt
  simp only [toInt, Rat.den_intCast, Rat.num_intCast, true_and]
  rw [if_pos (by omega), Int32.ofInt_toInt]

end QJsonValue

namespace QJsonObject

def keys (o : QJsonObject) : QStringList := o.map Prod.fst

/-- The value of a key, where there is one. -/
def value (o : QJsonObject) (key : QString) : Option QJsonValue := o.lookup key

/-- The object of a key, or an empty one. -/
def child (o : QJsonObject) (key : QString) : QJsonObject :=
  ((o.value key).map QJsonValue.toObject).getD []

/-- Before the first field with a larger key. -/
def insertNew (key : QString) (v : QJsonValue) : QJsonObject → QJsonObject
  | [] => [(key, v)]
  | field :: fields =>
      if key < field.1 then (key, v) :: field :: fields else field :: insertNew key v fields

/-- The value takes the place of the one the key has. -/
def insert (o : QJsonObject) (key : QString) (v : QJsonValue) : QJsonObject :=
  if o.keys.contains key then o.map (fun field => if field.1 = key then (key, v) else field)
  else insertNew key v o

/-- The object without the key. -/
def remove (o : QJsonObject) (key : QString) : QJsonObject := o.filter (fun field => field.1 ≠ key)

theorem value_nil (key : QString) : value [] key = none := rfl

theorem value_cons (field : QString × QJsonValue) (o : QJsonObject) (key : QString) :
    value (field :: o) key = if key = field.1 then some field.2 else value o key := by
  unfold value
  rw [List.lookup_cons]
  by_cases h : key = field.1
  · simp [h]
  · simp [h, beq_eq_false_iff_ne.mpr h]

theorem value_eq_none {o : QJsonObject} {key : QString} : o.value key = none ↔ key ∉ o.keys := by
  induction o with
  | nil => simp [value_nil, keys]
  | cons field o ih =>
      rw [value_cons, keys, List.map_cons, List.mem_cons]
      by_cases h : key = field.1
      · simp [h]
      · simp only [h, false_or]
        exact ih

theorem child_of_object {o : QJsonObject} {key : QString} {fields : QJsonObject}
    (h : o.value key = some (.object fields)) : o.child key = fields := by
  rw [child, h]
  rfl

theorem value_insertNew (o : QJsonObject) (key key' : QString) (v : QJsonValue) (h : key ∉ o.keys) :
    (insertNew key v o).value key' = if key' = key then some v else o.value key' := by
  induction o with
  | nil => rw [insertNew, value_cons]
  | cons field o ih =>
      rw [keys, List.map_cons, List.mem_cons, not_or] at h
      unfold insertNew
      split
      · rw [value_cons]
      · rw [value_cons, ih h.2, value_cons]
        -- The key is not the one of the field in front.
        by_cases hkey : key' = field.1
        · have hne : key' ≠ key := fun heq => h.1 (heq.symm.trans hkey)
          simp only [hkey, if_true]
          rw [if_neg (hkey ▸ hne)]
        · simp [hkey]

theorem value_insert (o : QJsonObject) (key key' : QString) (v : QJsonValue) :
    (o.insert key v).value key' = if key' = key then some v else o.value key' := by
  simp only [insert, List.contains_iff_mem]
  by_cases h : key ∈ o.keys
  · rw [if_pos h]
    induction o with
    | nil => cases h
    | cons field o ih =>
        rw [List.map_cons, value_cons, value_cons]
        by_cases hfield : field.1 = key
        · rw [if_pos hfield]
          by_cases hkey : key' = key
          · simp [hkey]
          · -- A field of the name gets the value, and those behind it are looked at too.
            have hne : key' ≠ field.1 := fun heq => hkey (heq.trans hfield)
            simp only [hne, if_false]
            by_cases hrest : key ∈ keys o
            · rw [ih hrest, if_neg hkey]
            · -- Nothing is replaced in the rest.
              have hsame : o.map (fun field => if field.1 = key then (key, v) else field) = o := by
                refine (List.map_congr_left (fun f hf => if_neg ?_)).trans (List.map_id o)
                exact fun heq => hrest (heq ▸ List.mem_map_of_mem hf)
              rw [hsame]
        · rw [if_neg hfield]
          have hrest : key ∈ keys o := by
            rcases List.mem_cons.mp h with heq | hmem
            · exact absurd heq.symm hfield
            · exact hmem
          by_cases hkey : key' = field.1
          · have hne : key' ≠ key := fun heq => hfield (hkey.symm.trans heq)
            rw [if_pos hkey, if_neg hne, if_pos hkey]
          · rw [if_neg hkey, if_neg hkey, ih hrest]
  · rw [if_neg h, value_insertNew o key key' v h]

theorem value_remove (o : QJsonObject) (key key' : QString) :
    (o.remove key).value key' = if key' = key then none else o.value key' := by
  unfold remove
  induction o with
  | nil => rw [List.filter_nil, value_nil, ite_self]
  | cons field o ih =>
      by_cases hfield : field.1 = key
      · rw [List.filter_cons_of_neg (by simpa using hfield), ih, value_cons]
        by_cases hkey : key' = key
        · simp [hkey]
        · have hne : key' ≠ field.1 := fun heq => hkey (heq.trans hfield)
          simp [hne]
      · rw [List.filter_cons_of_pos (by simpa using hfield), value_cons, value_cons, ih]
        by_cases hkey : key' = field.1
        · have hne : key' ≠ key := fun heq => hfield (hkey.symm.trans heq)
          rw [if_pos hkey, if_neg hne, if_pos hkey]
        · rw [if_neg hkey, if_neg hkey]

theorem keys_insertNew (o : QJsonObject) (key : QString) (v : QJsonValue) :
    (keys (insertNew key v o)).Perm (key :: o.keys) := by
  induction o with
  | nil => exact List.Perm.refl _
  | cons field o ih =>
      unfold insertNew
      split
      · exact List.Perm.refl _
      · exact (ih.cons field.1).trans (List.Perm.swap key field.1 _)

theorem keys_insert (o : QJsonObject) (key : QString) (v : QJsonValue) :
    (o.insert key v).keys.Perm (if key ∈ o.keys then o.keys else key :: o.keys) := by
  simp only [insert, List.contains_iff_mem]
  by_cases h : key ∈ o.keys
  · rw [if_pos h, if_pos h]
    have hsame : keys (o.map (fun field => if field.1 = key then (key, v) else field)) =
      o.keys := by
      unfold keys
      rw [List.map_map]
      refine List.map_congr_left (fun field _ => ?_)
      by_cases hfield : field.1 = key
      · simp [hfield]
      · simp [hfield]
    rw [hsame]
  · rw [if_neg h, if_neg h]
    exact keys_insertNew o key v

/-- A key is inserted once. -/
theorem nodup_keys_insert {o : QJsonObject} (key : QString) (v : QJsonValue) (h : o.keys.Nodup) :
    (o.insert key v).keys.Nodup := by
  rw [(keys_insert o key v).nodup_iff]
  split
  · exact h
  · rename_i hkey
    exact List.nodup_cons.mpr ⟨hkey, h⟩

end QJsonObject

end NeoSwift
