import NeoSwift.Misc.Simulation.MemoizedModels

/-!
# Hostile Imports

Which JSON objects end the program when they are read as a memoized list of models or as a
quantity. An index is used as it is read, so one that is behind the end of its table is not
defined, and a unit is looked up strictly, so a symbol that is unknown ends the program. Any other
object is read to a value, or an exception is thrown.

The models are read in their order. The first one that throws is the last one whose indices are
used.

## Main definitions

* `Safe`: An import that does not end the program.
* `KnownSymbol`: A quantity whose unit is found.
* `InTable`: An index that is in its table.
* `EntriesSafe`: The same for models in their order.
* `ImportSafe`: The same for a list.

## Theorems

* `safe_quantity_iff`: Which objects may be read as a quantity.
* `safe_memoized_iff`: Which objects may be read as a memoized model.
* `safe_imports_iff`: Which objects may be read.
* `index_behind_the_table`: An object that may not.
-/

namespace NeoSwift.Misc

namespace Memoized

open Pq (CPhysicalQuantity PqClass)

variable (foldCase : CaseFolding)

/-- It ends with a value or with an exception. -/
def Safe {α : Type} (result : Import α) : Prop :=
  (∃ a, result = .ok a) ∨ ∃ ex, result = .error (.exception ex)

/-- No unit, or a unit that is found. -/
def KnownSymbol (c : PqClass) (json : QJsonObject) : Prop :=
  ∀ unit ∈ json.value "unit", (json.value "value").isSome → unit.toString ≠ [] →
    ∃ known ∈ c.unitClass.allUnits, known.symbol.map foldCase.fold = unit.toString.map foldCase.fold

def InTable (entry : QJsonObject) (name : String) (size : ℕ) : Prop :=
  ∀ v ∈ entry.value name.toList, v.toInt.toInt < size

def CgKnown (entry : QJsonObject) : Prop :=
  ∀ v ∈ entry.value "cg", KnownSymbol foldCase .length v.toObject

/-- A center of gravity without its unit or its value. -/
def CgThrows (entry : QJsonObject) : Prop :=
  ∃ v ∈ entry.value "cg", v.toObject.value "unit" = none ∨ v.toObject.value "value" = none

/-- The entries may be read up to the first one that throws. -/
def EntriesSafe (entrySafe : QJsonObject → Prop) : List QJsonValue → Prop
  | [] => True
  | v :: vs => entrySafe v.toObject ∧ (CgThrows v.toObject ∨ EntriesSafe entrySafe vs)

/-- How many values a table has, if it is there. -/
def tableSize (json : QJsonObject) (name : String) : Option ℕ := do
  let table ← json.value name.toList
  let values ← table.toObject.value "containerbase"
  some values.toArray.length

/-- The indices of an entry are in the tables, and the unit is found. -/
def EntrySafe (icaos liveries distributors : ℕ) (entry : QJsonObject) : Prop :=
  InTable entry "aircraftIcao" icaos ∧ InTable entry "livery" liveries ∧
    InTable entry "distributor" distributors ∧ CgKnown foldCase entry

/-- With the fallback there may be no tables. -/
def ImportSafe (json : QJsonObject) (fallbackToConvertToJson : Bool) : Prop :=
  ∀ value ∈ json.value "containerbase",
    if fallbackToConvertToJson && ((json.value "aircraftIcaos").isNone &&
      (json.value "distributors").isNone && (json.value "liveries").isNone) then
      EntriesSafe (CgKnown foldCase) value.toArray
    else
      ∀ icaos ∈ tableSize json "aircraftIcaos", ∀ liveries ∈ tableSize json "liveries",
        ∀ distributors ∈ tableSize json "distributors",
          EntriesSafe (EntrySafe foldCase icaos liveries distributors) value.toArray

/-! ## One after the other -/

theorem safe_ok {α : Type} (a : α) : Safe (.ok a : Import α) := Or.inl ⟨a, rfl⟩

theorem safe_exception {α : Type} (ex : CJsonException) :
    Safe (.error (.exception ex) : Import α) := Or.inr ⟨ex, rfl⟩

theorem not_safe_terminated {α : Type} : ¬Safe (.error .terminated : Import α) := by
  rintro (⟨a, h⟩ | ⟨ex, h⟩)
  · cases h
  · cases h

theorem safe_iff {α : Type} {result : Import α} : Safe result ↔ result ≠ .error .terminated := by
  cases result with
  | ok a => exact iff_of_true (safe_ok a) nofun
  | error e =>
    cases e with
    | exception ex => exact iff_of_true (safe_exception ex) nofun
    | terminated => exact iff_of_false not_safe_terminated fun h => h rfl

/-- What comes after another import. -/
theorem safe_bind_iff {α β : Type} {first : Import α} {next : α → Import β} :
    Safe (first >>= next) ↔ Safe first ∧ ∀ a, first = .ok a → Safe (next a) := by
  cases first with
  | ok a =>
    exact ⟨fun h => ⟨safe_ok a, fun b hb => Except.ok.inj hb ▸ h⟩, fun h => h.2 a rfl⟩
  | error e =>
    rw [safe_iff, safe_iff]
    exact ⟨fun h => ⟨fun he => h (congrArg _ (Except.error.inj he)), nofun⟩,
      fun h he => h.1 (congrArg _ (Except.error.inj he))⟩

/-- How an import ends: whether it is safe, and whether it throws if it is. -/
structure Outcome {α : Type} (safe throws : Prop) (result : Import α) : Prop where
  safe_iff : Safe result ↔ safe
  ok : safe → ¬throws → ∃ a, result = .ok a
  exception : safe → throws → ∃ ex, result = .error (.exception ex)

section Outcome

variable {α β : Type} {safe throws safe' : Prop} {result : Import α}

theorem Outcome.of_ok (a : α) (hsafe : safe) (hthrows : ¬throws) :
    Outcome safe throws (.ok a : Import α) :=
  ⟨iff_of_true (safe_ok a) hsafe, fun _ _ => ⟨a, rfl⟩, fun _ h => absurd h hthrows⟩

theorem Outcome.of_exception (ex : CJsonException) (hsafe : safe) (hthrows : throws) :
    Outcome safe throws (.error (.exception ex) : Import α) :=
  ⟨iff_of_true (safe_exception ex) hsafe, fun _ h => absurd hthrows h, fun _ _ => ⟨ex, rfl⟩⟩

theorem Outcome.of_terminated (h : ¬safe) : Outcome safe throws (.error .terminated : Import α) :=
  ⟨iff_of_false not_safe_terminated h, fun hs => absurd hs h, fun hs => absurd hs h⟩

/-- What is made of the value changes nothing. -/
theorem Outcome.of_map {f : α → β} (h : Outcome safe throws (result.map f)) :
    Outcome safe throws result := by
  rcases h with ⟨hsafe, hok, hexception⟩
  cases result with
  | ok a =>
    have hs : safe := hsafe.mp (safe_ok _)
    refine ⟨iff_of_true (safe_ok a) hs, fun _ _ => ⟨a, rfl⟩, fun _ ht => ?_⟩
    rcases hexception hs ht with ⟨ex, hex⟩
    cases hex
  | error e =>
    cases e with
    | exception ex =>
      have hs : safe := hsafe.mp (safe_exception ex)
      refine ⟨iff_of_true (safe_exception ex) hs, fun _ ht => ?_, fun _ _ => ⟨ex, rfl⟩⟩
      rcases hok hs ht with ⟨b, hb⟩
      cases hb
    | terminated => exact .of_terminated fun hs => not_safe_terminated (hsafe.mpr hs)

/-- What does not throw is followed by another import. -/
theorem Outcome.bind {next : α → Import β} (h : Outcome safe False result)
    (hnext : ∀ a, Outcome safe' throws (next a)) :
    Outcome (safe ∧ safe') throws (result >>= next) := by
  by_cases hs : safe
  · rcases h.ok hs not_false with ⟨a, ha⟩
    rw [ha]
    rcases hnext a with ⟨hsafe, hok, hexception⟩
    exact ⟨hsafe.trans (and_iff_right hs).symm, fun h => hok h.2, fun h => hexception h.2⟩
  · have hterminated : result = .error .terminated := by
      by_contra hne
      exact hs (h.safe_iff.mp (Misc.Memoized.safe_iff.mpr hne))
    rw [hterminated]
    exact .of_terminated fun h => hs h.1

end Outcome

/-! ## Quantities -/

theorem safe_quantity_iff (c : PqClass) (json : QJsonObject) (scopes : QStringList) :
    Safe (CPhysicalQuantity.convertFromJson foldCase json scopes : Import (CPhysicalQuantity c)) ↔
      KnownSymbol foldCase c json := by
  rw [safe_iff, Ne, CPhysicalQuantity.convertFromJson_terminated_iff foldCase]
  push Not
  exact Iff.rfl

theorem outcome_quantity (c : PqClass) (json : QJsonObject) (scopes : QStringList) :
    Outcome (KnownSymbol foldCase c json) (json.value "unit" = none ∨ json.value "value" = none)
      (CPhysicalQuantity.convertFromJson foldCase json scopes : Import (CPhysicalQuantity c)) := by
  refine ⟨safe_quantity_iff foldCase c json scopes, fun hsafe hfields => ?_, fun _ hfields => ?_⟩
  · rcases (safe_quantity_iff foldCase c json scopes).mpr hsafe with hok | hexception
    · exact hok
    · exact absurd ((CPhysicalQuantity.convertFromJson_exception_iff foldCase json scopes).mp
        hexception) hfields
  · exact (CPhysicalQuantity.convertFromJson_exception_iff foldCase json scopes).mpr hfields

/-! ## Models -/

theorem outcome_readMemo {T : Type} (entry : QJsonObject) (name : String) (list : List T)
    (member : T) : Outcome (InTable entry name list.length) False
      (readMemo entry name list member) := by
  unfold InTable readMemo
  cases entry.value name.toList with
  | none => exact .of_ok _ (nofun) not_false
  | some v =>
    simp only [Option.mem_some_iff, forall_eq']
    split_ifs with hnegative
    · exact .of_ok _ (by omega) not_false
    · cases hindex : list[v.toInt.toInt.toNat]? with
      | none =>
        have hle := List.getElem?_eq_none_iff.mp hindex
        exact .of_terminated (by omega)
      | some value =>
        have hlt := (List.getElem?_eq_some_iff.mp hindex).1
        exact .of_ok _ (by omega) not_false

theorem outcome_readCg (entry : QJsonObject) (scopes : QStringList)
    (cg : CPhysicalQuantity .length) :
    Outcome (CgKnown foldCase entry) (CgThrows entry) (readCg foldCase entry scopes cg) := by
  unfold CgKnown CgThrows readCg
  cases entry.value "cg" with
  | none => exact .of_ok _ (nofun) fun ⟨_, h, _⟩ => nomatch h
  | some v =>
    simp only [Option.mem_some_iff, forall_eq', exists_eq_left']
    exact outcome_quantity foldCase .length v.toObject scopes

/-- The center of gravity is what is read last of what may fail. -/
theorem outcome_andThen_ok {α β : Type} {safe throws : Prop} {result : Import α} {f : α → β}
    (h : Outcome safe throws result) :
    Outcome safe throws (do let a ← result; .ok (f a)) := by
  rcases h with ⟨hsafe, hok, hexception⟩
  cases result with
  | ok a =>
    have hs := hsafe.mp (safe_ok a)
    refine .of_ok _ hs fun ht => ?_
    rcases hexception hs ht with ⟨ex, hex⟩
    cases hex
  | error e =>
    cases e with
    | exception ex =>
      have hs := hsafe.mp (safe_exception ex)
      refine .of_exception ex hs ?_
      by_contra hnot
      rcases hok hs hnot with ⟨a, ha⟩
      cases ha
    | terminated => exact .of_terminated fun hs => not_safe_terminated (hsafe.mpr hs)

theorem outcome_memoized (entry : QJsonObject) (helper : CUnmemoizer) (scopes : QStringList) :
    Outcome (EntrySafe foldCase helper.aircraftIcaos.length helper.liveries.length
      helper.distributors.length entry) (CgThrows entry)
      (CAircraftModel.convertFromMemoizedJson foldCase entry helper scopes) := by
  refine .of_map (f := CAircraftModel.members) ?_
  rw [CAircraftModel.members_convertFromMemoizedJson]
  refine (outcome_readMemo entry "aircraftIcao" _ _).bind fun aircraftIcao => ?_
  refine (outcome_readMemo entry "livery" _ _).bind fun livery => ?_
  refine (outcome_readMemo entry "distributor" _ _).bind fun distributor => ?_
  exact outcome_andThen_ok (outcome_readCg foldCase entry scopes nullLength)

theorem outcome_plain (entry : QJsonObject) (scopes : QStringList) :
    Outcome (CgKnown foldCase entry) (CgThrows entry)
      (CAircraftModel.convertFromJson foldCase entry scopes) := by
  refine .of_map (f := CAircraftModel.members) ?_
  rw [CAircraftModel.members_convertFromJson]
  exact outcome_andThen_ok (outcome_readCg foldCase entry _ nullLength)

/-! ## Lists -/

/-- The first entry that throws is the last one that is read. -/
theorem safe_convertModels_iff {convert : QJsonObject → QStringList → Import CAircraftModel}
    {entrySafe : QJsonObject → Prop}
    (h : ∀ entry scopes, Outcome (entrySafe entry) (CgThrows entry) (convert entry scopes))
    (scopes : QStringList) (index : ℕ) (values : List QJsonValue) :
    Safe (convertModels convert scopes index values) ↔ EntriesSafe entrySafe values := by
  induction values generalizing index with
  | nil => exact iff_of_true (safe_ok _) trivial
  | cons v vs ih =>
    rcases h v.toObject (scopes ++ [indexScope "containerbase" index]) with ⟨hsafe, hok, hexception⟩
    rw [convertModels, safe_bind_iff, hsafe]
    refine and_congr_right fun hs => ?_
    by_cases hthrows : CgThrows v.toObject
    · rcases hexception hs hthrows with ⟨ex, hex⟩
      rw [hex]
      exact iff_of_true (fun a ha => nomatch ha) (Or.inl hthrows)
    · rcases hok hs hthrows with ⟨a, ha⟩
      rw [ha, or_iff_right hthrows, ← ih (index + 1)]
      simp only [Except.ok.injEq, forall_eq']
      rw [safe_bind_iff]
      exact and_iff_left fun models _ => safe_ok _

theorem safe_convertFromJson_iff (json : QJsonObject) (scopes : QStringList) :
    Safe (convertFromJson foldCase json scopes) ↔
      ∀ value ∈ json.value "containerbase", EntriesSafe (CgKnown foldCase) value.toArray := by
  unfold convertFromJson required
  cases json.value "containerbase" with
  | none => exact iff_of_true (safe_exception _) nofun
  | some value =>
    simp only [Option.mem_some_iff, forall_eq']
    exact safe_convertModels_iff (outcome_plain foldCase) scopes 0 value.toArray

/-- A field that is needed is there, or an exception is thrown. -/
theorem safe_required_iff {α : Type} {v : Option QJsonValue} {name : String}
    {scopes : QStringList} {next : QJsonValue → Import α} :
    Safe (required v name scopes >>= next) ↔ ∀ value ∈ v, Safe (next value) := by
  cases v with
  | none => exact iff_of_true (safe_exception _) nofun
  | some value =>
    simp only [Option.mem_some_iff, forall_eq']
    exact Iff.rfl

/-- A table is read, or an exception is thrown. -/
theorem safe_sequence_iff {T α : Type} (c : ValueClass T) {json : QJsonObject}
    {scopes : QStringList} {next : List T → Import α} :
    Safe (c.sequenceFromJson json scopes >>= next) ↔
      ∀ values ∈ json.value "containerbase", Safe (next (values.toArray.map c.fromJson)) := by
  unfold ValueClass.sequenceFromJson
  cases json.value "containerbase" with
  | none => exact iff_of_true (safe_exception _) nofun
  | some values =>
    simp only [Option.mem_some_iff, forall_eq']
    exact Iff.rfl

theorem mem_tableSize_iff {json : QJsonObject} {name : String} {p : ℕ → Prop} :
    (∀ size ∈ tableSize json name, p size) ↔ ∀ table ∈ json.value name.toList,
      ∀ values ∈ table.toObject.value "containerbase", p values.toArray.length := by
  unfold tableSize
  cases json.value name.toList with
  | none => exact iff_of_true (nofun) nofun
  | some table =>
    simp only [Option.bind_eq_bind, Option.bind_some, Option.mem_some_iff, forall_eq']
    cases table.toObject.value "containerbase" with
    | none => exact iff_of_true (nofun) nofun
    | some values =>
      simp

/-- A list is imported without ending the program if and only if the indices and the units of its
    models are right, up to the first model that throws. -/
theorem safe_memoized_iff (json : QJsonObject) (fallback : Bool) (scopes : QStringList) :
    Safe (convertFromMemoizedJson foldCase json fallback scopes) ↔
      ImportSafe foldCase json fallback := by
  unfold convertFromMemoizedJson ImportSafe
  rw [safe_required_iff]
  refine forall₂_congr fun value hvalue => ?_
  dsimp only
  split_ifs with hfallback
  · rw [safe_convertFromJson_iff]
    exact ⟨fun h => h value hvalue, fun h v hv => Option.some.inj (hvalue.symm.trans hv) ▸ h⟩
  · simp only [safe_required_iff, safe_sequence_iff, mem_tableSize_iff]
    -- The tables are all there before the first one is read.
    constructor
    · intro h icaos hicaos icaoValues hicaoValues liveries hliveries liveryValues hliveryValues
        distributors hdistributors distributorValues hdistributorValues
      have hsafe := h icaos hicaos liveries hliveries distributors hdistributors icaoValues
        hicaoValues liveryValues hliveryValues distributorValues hdistributorValues
      rw [safe_convertModels_iff fun entry scopes =>
        outcome_memoized foldCase entry _ scopes] at hsafe
      simpa only [List.length_map] using hsafe
    · intro h icaos hicaos liveries hliveries distributors hdistributors icaoValues hicaoValues
        liveryValues hliveryValues distributorValues hdistributorValues
      have hsafe := h icaos hicaos icaoValues hicaoValues liveries hliveries liveryValues
        hliveryValues distributors hdistributors distributorValues hdistributorValues
      rw [safe_convertModels_iff fun entry scopes => outcome_memoized foldCase entry _ scopes]
      simpa only [List.length_map] using hsafe

/-- Which objects are read to a value or to an exception, as a list of models and as a quantity. -/
theorem safe_imports_iff (json : QJsonObject) (fallback : Bool) (scopes : QStringList)
    (c : PqClass) :
    (Safe (convertFromMemoizedJson foldCase json fallback scopes) ↔
      ImportSafe foldCase json fallback) ∧
      (Safe (CPhysicalQuantity.convertFromJson foldCase json scopes :
        Import (CPhysicalQuantity c)) ↔ KnownSymbol foldCase c json) :=
  ⟨safe_memoized_iff foldCase json fallback scopes, safe_quantity_iff foldCase c json scopes⟩

/-- A model with the first livery of a table that is empty. -/
def modelWithoutTable : QJsonObject :=
  [("containerbase", .array [.object [("livery", .double 0)]]),
    ("aircraftIcaos", .object [("containerbase", .array [])]),
    ("liveries", .object [("containerbase", .array [])]),
    ("distributors", .object [("containerbase", .array [])])]

def lengthInParsecs : QJsonObject :=
  [("unit", .string "pc"), ("value", .double 1)]

/-- Neither is read to a value, and no exception is thrown. -/
theorem hostile_imports :
    ¬Safe (convertFromMemoizedJson .ascii modelWithoutTable false []) ∧
      ¬Safe (CPhysicalQuantity.convertFromJson .ascii lengthInParsecs [] :
        Import (CPhysicalQuantity .length)) := by
  constructor
  · rw [safe_memoized_iff]
    intro h
    have hentries := h _ rfl 0 rfl 0 rfl 0 rfl
    have hindex : (0 : ℤ) < (0 : ℕ) := hentries.1.2.1 _ rfl
    omega
  · rw [safe_quantity_iff]
    intro h
    rcases h _ rfl rfl (by decide) with ⟨known, hknown, hsymbol⟩
    have hall : ∀ known ∈ PqClass.length.unitClass.allUnits,
        known.symbol.map Char.toLower ≠ "pc".toList.map Char.toLower := by decide +kernel
    exact hall known hknown hsymbol

end Memoized

end NeoSwift.Misc
