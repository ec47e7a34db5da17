import NeoSwift.Misc.Mixin.LessThan

/-!
# Memo Tables

`CMemoTable`: values are replaced by their index in a table, in which a value is only once. What
is once is told by the less-than of the values, as the indices are found in an ordered map. So a
value comes back as the first one that is alike.

## Main definitions

* `CMemoTable`: The table, with the indices by the values.
* `CMemoTable.getIndex`: The index of a value, which is inserted if it is not there.
* `memoize`: The indices of all values of a list.
* `firstAlike`: The first value that is alike.
* `Faithful`: Values that are alike are the same.

## Theorems

* `getIndex_spec`: What is at the index.
* `memoize_spec`: What the indices of a list lead to.
* `forall_firstAlike_eq_iff`: When that are the values themselves.
-/

namespace NeoSwift.Misc

variable {T : Type} (o : LessOperator T)

/-- The indices in the map count from one, as zero is that of a value that is not there. -/
structure CMemoTable (T : Type) where
  list : List T := []
  dict : List (T × ℕ) := []

namespace CMemoTable

/-- `m_dict[value]`, zero for a new entry. -/
def find (dict : List (T × ℕ)) (value : T) : ℕ :=
  ((dict.find? fun entry => o.alike value entry.1).map Prod.snd).getD 0

def getIndex (table : CMemoTable T) (value : T) : ℕ × CMemoTable T :=
  let index := find o table.dict value
  if index = 0 then
    let list := table.list ++ [value]
    (list.length - 1, ⟨list, table.dict ++ [(value, list.length)]⟩)
  else (index - 1, table)

end CMemoTable

/-- The indices of the values, one after the other. -/
def memoize (table : CMemoTable T) : List T → List ℕ × CMemoTable T
  | [] => ([], table)
  | value :: values =>
    let (index, table) := table.getIndex o value
    let (indices, table) := memoize table values
    (index :: indices, table)

/-- The first value that is alike. -/
def firstAlike (values : List T) (value : T) : Option T := values.find? fun v => o.alike value v

/-- Values that are alike are the same. -/
def Faithful (values : List T) : Prop := ∀ a ∈ values, ∀ b ∈ values, o.alike a b = true → a = b

/-- The table of values that have been seen: the indices are those of the list, and a value is
    found in it as in what has been seen. -/
structure CMemoTable.Holds (table : CMemoTable T) (seen : List T) : Prop where
  dict : table.dict = table.list.zipIdx 1
  find : ∀ value, firstAlike o table.list value = firstAlike o seen value

variable {o}

theorem firstAlike_append (l l' : List T) (value : T) :
    firstAlike o (l ++ l') value = (firstAlike o l value).or (firstAlike o l' value) :=
  List.find?_append

theorem firstAlike_singleton (v value : T) :
    firstAlike o [v] value = if o.alike value v then some v else none := by
  unfold firstAlike
  rw [List.find?_singleton]

theorem alike_of_firstAlike {l : List T} {value v : T} (h : firstAlike o l value = some v) :
    o.alike value v = true := List.find?_some h

namespace CMemoTable

theorem holds_empty : CMemoTable.Holds o ({} : CMemoTable T) [] := ⟨rfl, fun _ => rfl⟩

/-- The entry of a value in the map is that of the first value that is alike. -/
theorem find?_zipIdx (l : List T) (k : ℕ) (value : T) :
    (firstAlike o l value = none ∧
        (l.zipIdx k).find? (fun entry => o.alike value entry.1) = none) ∨
      ∃ v i, firstAlike o l value = some v ∧ l[i]? = some v ∧
        (l.zipIdx k).find? (fun entry => o.alike value entry.1) = some (v, k + i) := by
  unfold firstAlike
  induction l generalizing k with
  | nil => exact Or.inl ⟨rfl, rfl⟩
  | cons w l ih =>
    rw [List.zipIdx_cons, List.find?_cons, List.find?_cons]
    cases halike : o.alike value w with
    | true => exact Or.inr ⟨w, 0, rfl, rfl, rfl⟩
    | false =>
      rcases ih (k + 1) with hnone | ⟨v, i, hfirst, hi, hentry⟩
      · exact Or.inl hnone
      · refine Or.inr ⟨v, i + 1, hfirst, hi, hentry.trans ?_⟩
        rw [show k + (i + 1) = k + 1 + i by omega]

variable {table : CMemoTable T} {seen : List T}

/-- A value that is not in the table is inserted, and another one is found. -/
theorem getIndex_cases (h : table.Holds o seen) (value : T) :
    (firstAlike o seen value = none ∧ (table.getIndex o value).1 = table.list.length ∧
        (table.getIndex o value).2.list = table.list ++ [value] ∧
        (table.getIndex o value).2.Holds o (seen ++ [value])) ∨
      ∃ v, firstAlike o seen value = some v ∧ table.list[(table.getIndex o value).1]? = some v ∧
        (table.getIndex o value).2 = table := by
  rw [← h.find value]
  rcases find?_zipIdx (o := o) table.list 1 value with ⟨hfirst, hnone⟩ | ⟨v, i, hfirst, hi, hentry⟩
  · refine Or.inl ⟨hfirst, ?_⟩
    -- The number 0 is for a value that is not in the dictionary.
    have hindex : find o table.dict value = 0 := by
      rw [find, h.dict, hnone]
      rfl
    unfold getIndex
    rw [hindex]
    dsimp only
    rw [if_pos rfl]
    refine ⟨?_, rfl, ?_, fun w => ?_⟩
    · rw [List.length_append, List.length_singleton, Nat.add_sub_cancel]
    · rw [h.dict, List.zipIdx_append, List.length_append, Nat.add_comm 1]
      rfl
    · rw [firstAlike_append, firstAlike_append, h.find]
  · refine Or.inr ⟨v, hfirst, ?_⟩
    -- The dictionary has indices counted from one.
    have hindex : find o table.dict value = i + 1 := by
      rw [find, h.dict, hentry]
      exact Nat.add_comm 1 i
    unfold getIndex
    rw [hindex]
    exact ⟨hi, rfl⟩

/-- A value that is alike to one that has been seen adds nothing to what is found. -/
theorem Holds.append_alike (h : table.Holds o seen) {value v : T}
    (hfirst : firstAlike o seen value = some v) : table.Holds o (seen ++ [value]) := by
  refine ⟨h.dict, fun w => ?_⟩
  rw [firstAlike_append, h.find, firstAlike_singleton]
  cases hw : firstAlike o seen w with
  | some _ => rfl
  | none =>
    rw [if_neg, Option.none_or]
    intro halike
    have hmem := List.mem_of_find?_eq_some hfirst
    exact List.find?_eq_none.mp hw v hmem
      (LessOperator.alike_trans halike (alike_of_firstAlike hfirst))

/-- At the index of a value is the first one that is alike, among those seen and itself. -/
theorem getIndex_spec (h : table.Holds o seen) (value : T) :
    (table.getIndex o value).2.list[(table.getIndex o value).1]?
        = firstAlike o (seen ++ [value]) value ∧ table.list <+: (table.getIndex o value).2.list ∧
      (table.getIndex o value).2.Holds o (seen ++ [value]) := by
  rw [firstAlike_append, firstAlike_singleton, if_pos (LessOperator.alike_refl value)]
  rcases getIndex_cases h value with ⟨hfirst, hindex, hlist, hholds⟩ | ⟨v, hfirst, hindex, htable⟩
  · refine ⟨?_, ?_, hholds⟩
    · rw [hfirst, hlist, hindex, List.getElem?_concat_length]
      rfl
    · rw [hlist]
      exact List.prefix_append _ _
  · refine ⟨?_, ?_, ?_⟩
    · rw [htable, hindex, hfirst]
      rfl
    · simp [htable]
    · rw [htable]
      exact h.append_alike hfirst

end CMemoTable

/-- What is first among some values is so among more. -/
theorem firstAlike_append_of_some {l l' : List T} {value v : T}
    (h : firstAlike o l value = some v) : firstAlike o (l ++ l') value = some v := by
  rw [firstAlike_append, h]
  rfl

/-- The indices lead to the first values that are alike, in the table at the end. -/
theorem memoize_spec {table : CMemoTable T} {seen : List T} (h : table.Holds o seen)
    (values : List T) :
    (memoize o table values).1.map (fun i => (memoize o table values).2.list[i]?)
        = values.map (firstAlike o (seen ++ values)) ∧
      table.list <+: (memoize o table values).2.list := by
  induction values generalizing table seen with
  | nil => exact ⟨rfl, List.prefix_rfl⟩
  | cons value values ih =>
    rcases CMemoTable.getIndex_spec h value with ⟨hindex, hfront, hholds⟩
    rcases ih hholds with ⟨hrest, hfront'⟩
    have hstep : memoize o table (value :: values)
        = ((table.getIndex o value).1 :: (memoize o (table.getIndex o value).2 values).1,
          (memoize o (table.getIndex o value).2 values).2) := rfl
    -- The value is in the table now, so there is a first one that is alike.
    obtain ⟨v, hv⟩ : ∃ v, firstAlike o (seen ++ [value]) value = some v := by
      rw [firstAlike_append, firstAlike_singleton, if_pos (LessOperator.alike_refl value)]
      cases firstAlike o seen value with
      | none => exact ⟨value, rfl⟩
      | some v => exact ⟨v, rfl⟩
    have hall : seen ++ value :: values = seen ++ [value] ++ values := by
      rw [List.append_assoc, List.singleton_append]
    rw [hstep, List.map_cons, hall]
    refine ⟨List.cons_eq_cons.mpr ⟨?_, hrest⟩, hfront.trans hfront'⟩
    rw [firstAlike_append_of_some hv]
    -- What is behind in the table does not change the place of what was found.
    rcases hfront' with ⟨rest, hrest⟩
    have hfound := hindex.trans hv
    rw [← hrest, List.getElem?_append_left (List.getElem?_eq_some_iff.mp hfound).1, hfound]

/-- The table holds values of the list. -/
theorem list_memoize (table : CMemoTable T) (values : List T) :
    ∃ added, added.Sublist values ∧ (memoize o table values).2.list = table.list ++ added := by
  induction values generalizing table with
  | nil => exact ⟨[], List.Sublist.refl _, (List.append_nil _).symm⟩
  | cons value values ih =>
    rcases ih (table.getIndex o value).2 with ⟨added, hadded, hlist⟩
    have hstep : (memoize o table (value :: values)).2
        = (memoize o (table.getIndex o value).2 values).2 := rfl
    rw [hstep, hlist]
    unfold CMemoTable.getIndex
    dsimp only
    split_ifs with hzero
    · refine ⟨value :: added, hadded.cons_cons value, ?_⟩
      rw [List.append_assoc, List.singleton_append]
    · exact ⟨added, hadded.cons value, rfl⟩

/-- All values are the first ones that are alike if those that are alike are the same. -/
theorem forall_firstAlike_eq_iff (values : List T) :
    (∀ v ∈ values, firstAlike o values v = some v) ↔ Faithful o values := by
  constructor
  · intro h a ha b hb halike
    -- Both have the same first one.
    have hsame : firstAlike o values a = firstAlike o values b := by
      have hcongr : (fun v => o.alike a v) = fun v => o.alike b v := by
        funext v
        rw [Bool.eq_iff_iff]
        exact ⟨fun hav => LessOperator.alike_trans (LessOperator.alike_symm halike) hav,
          fun hbv => LessOperator.alike_trans halike hbv⟩
      unfold firstAlike
      rw [hcongr]
    rw [h a ha, h b hb] at hsame
    exact Option.some.inj hsame
  · intro h v hv
    cases hfirst : firstAlike o values v with
    | none => exact absurd (LessOperator.alike_refl v) (List.find?_eq_none.mp hfirst v hv)
    | some w =>
      rw [h v hv w (List.mem_of_find?_eq_some hfirst) (alike_of_firstAlike hfirst)]

end NeoSwift.Misc
