import NeoSwift.Pq.MeasurementUnit
import NeoSwift.Misc.JsonConversion
import NeoSwift.Misc.Variant

/-!
# Quantities in JSON

`CPhysicalQuantity::toJson` and `convertFromJson`, for all classes of quantities. A unit is
written as its symbol, and looked up by it in the list of all units of its class. A symbol that
is not found ends the program, as the check is strict.

Values are finite doubles. The symbols of the units are of ASCII, and what is looked up is compared
without regard to case.

## Main definitions

* `CPhysicalQuantity`: A quantity in a unit of its class.
* `ImportFailure`, `Import`: An exception, and the end of the program.
* `unitFromSymbol`: A unit from its symbol.
* `CPhysicalQuantity.toJson`, `CPhysicalQuantity.convertFromJson`: The conversions.

## Theorems

* `unitFromSymbol_symbol`, `unitFromSymbol_eq_none_iff`: What is looked up.
* `restores_toJson_iff`: Which quantities come back.
* `convertFromJson_terminated_iff`, `convertFromJson_exception_iff`: Which objects end the program,
  and for which an exception is thrown.
* `pascal_ends_the_program`: A quantity that does not come back.
-/

namespace NeoSwift

namespace Misc

/-- What may come of an import instead of a value. -/
inductive ImportFailure where
  | exception (ex : CJsonException)
  /-- `qFatal`, or what is not defined. -/
  | terminated
  deriving DecidableEq

abbrev Import (α : Type) : Type := Except ImportFailure α

end Misc

namespace Pq

open Misc

/-- A quantity with a unit that its class offers. -/
@[ext] structure CPhysicalQuantity (c : PqClass) where
  m_value : Double
  m_unit : CMeasurementUnit
  offered : m_unit ∈ c.unitClass.offered

namespace UnitClass

variable (foldCase : CaseFolding) (c : UnitClass)

def allSymbols : QStringList := c.allUnits.map CMeasurementUnit.symbol

/-- Without those that are there twice. -/
def allSymbolsLowerCase : QStringList := (c.allSymbols.map fun s => s.map Char.toLower).dedup

def hasCaseSensitiveSymbols : Bool := c.allSymbolsLowerCase.length ≠ c.allSymbols.length

/-- `none` where the program terminates. -/
def unitFromSymbol (symbol : QString) (strict : Bool) : Option CMeasurementUnit :=
  if symbol = [] then some c.defaultUnit
  else
    let found := c.allUnits.find? fun unit =>
      if strict && c.hasCaseSensitiveSymbols then unit.symbol = symbol
      else unit.symbol.map foldCase.fold = symbol.map foldCase.fold
    if found.isSome then found else if strict then none else some c.defaultUnit

end UnitClass

/-! ## Units by their symbols -/

variable (foldCase : CaseFolding)

theorem symbol_foldCase (c : PqClass) {unit : CMeasurementUnit} (h : unit ∈ c.unitClass.offered) :
    unit.symbol.map foldCase.fold = unit.symbol.map Char.toLower := by
  have hall : ∀ unit ∈ c.unitClass.offered, unit.symbol.all fun ch => ch.toNat < 128 := by
    cases c <;> decide
  refine foldCase.map_of_ascii fun ch hch => ?_
  exact of_decide_eq_true (List.all_eq_true.mp (hall unit h) ch hch)

/-- The symbols of a class differ in more than case. -/
theorem nodup_foldCase (c : PqClass) :
    (c.unitClass.allUnits.map fun unit => unit.symbol.map foldCase.fold).Nodup := by
  have hnodup : (c.unitClass.allUnits.map fun unit => unit.symbol.map Char.toLower).Nodup := by
    cases c <;> decide
  rwa [List.map_congr_left fun unit h => symbol_foldCase foldCase c (allUnits_offered c h)]

theorem hasCaseSensitiveSymbols_eq (c : PqClass) : c.unitClass.hasCaseSensitiveSymbols = false := by
  cases c <;> decide

/-- The entry with a key is found where the keys differ. -/
theorem find?_of_nodup {α κ : Type} [DecidableEq κ] {l : List α} {key : α → κ}
    (h : (l.map key).Nodup) {a : α} (ha : a ∈ l) : l.find? (fun b => key b = key a) = some a := by
  induction l with
  | nil => cases ha
  | cons b l ih =>
    rw [List.map_cons, List.nodup_cons] at h
    rcases List.mem_cons.mp ha with rfl | hmem
    · exact List.find?_cons_of_pos (by simp)
    · have hne : key b ≠ key a := fun heq => h.1 (heq ▸ List.mem_map_of_mem hmem)
      rw [List.find?_cons_of_neg (by simpa using hne)]
      exact ih h.2 hmem

theorem unitFromSymbol_of_ne (c : PqClass) {symbol : QString} (h : symbol ≠ []) :
    c.unitClass.unitFromSymbol foldCase symbol true
      = c.unitClass.allUnits.find? fun unit => unit.symbol.map foldCase.fold =
        symbol.map foldCase.fold := by
  unfold UnitClass.unitFromSymbol
  rw [if_neg h, hasCaseSensitiveSymbols_eq]
  simp only [Bool.and_false, Bool.false_eq_true, if_false]
  split_ifs with hfound
  · rfl
  · exact (Option.not_isSome_iff_eq_none.mp hfound).symm

theorem symbol_ne_nil (c : PqClass) {unit : CMeasurementUnit} (h : unit ∈ c.unitClass.offered) :
    unit.symbol ≠ [] := by
  have hall : ∀ unit ∈ c.unitClass.offered, unit.symbol ≠ [] := by cases c <;> decide
  exact hall unit h

/-- A unit that is looked up is found. -/
theorem unitFromSymbol_symbol (c : PqClass) {unit : CMeasurementUnit}
    (h : unit ∈ c.unitClass.allUnits) :
    c.unitClass.unitFromSymbol foldCase unit.symbol true = some unit := by
  rw [unitFromSymbol_of_ne foldCase c (symbol_ne_nil c (allUnits_offered c h))]
  exact find?_of_nodup (nodup_foldCase foldCase c) h

theorem unitFromSymbol_offered (c : PqClass) {symbol : QString} {unit : CMeasurementUnit}
    (h : c.unitClass.unitFromSymbol foldCase symbol true = some unit) :
      unit ∈ c.unitClass.offered := by
  by_cases hsymbol : symbol = []
  · rw [UnitClass.unitFromSymbol, if_pos hsymbol] at h
    exact Option.some.inj h ▸ defaultUnit_offered c
  · rw [unitFromSymbol_of_ne foldCase c hsymbol] at h
    exact allUnits_offered c (List.mem_of_find?_eq_some h)

theorem unitFromSymbol_eq_none_iff (c : PqClass) (symbol : QString) :
    c.unitClass.unitFromSymbol foldCase symbol true = none ↔
      symbol ≠ [] ∧ ∀ unit ∈ c.unitClass.allUnits,
        unit.symbol.map foldCase.fold ≠ symbol.map foldCase.fold := by
  by_cases hsymbol : symbol = []
  · rw [UnitClass.unitFromSymbol, if_pos hsymbol]
    exact iff_of_false nofun fun h => h.1 hsymbol
  · rw [unitFromSymbol_of_ne foldCase c hsymbol]
    simp [hsymbol]

/-! ## Quantities in JSON -/

namespace CPhysicalQuantity

variable {c : PqClass}

def toJson (q : CPhysicalQuantity c) : QJsonObject :=
  QJsonObject.insert (QJsonObject.insert [] "value" (.double q.m_value.value)) "unit"
    (.string q.m_unit.symbol)

/-- The unit is set by its symbol, and the value is read. -/
def convertFromJson (json : QJsonObject) (scopes : QStringList) : Import (CPhysicalQuantity c) :=
  match json.value "unit", json.value "value" with
  | none, _ => .error (.exception ⟨"Missing 'unit'", stackString scopes⟩)
  | some _, none => .error (.exception ⟨"Missing 'value'", stackString scopes⟩)
  | some unit, some value =>
    match h : c.unitClass.unitFromSymbol foldCase unit.toString true with
    | none => .error .terminated
    | some unit => .ok ⟨value.toDouble, unit, unitFromSymbol_offered foldCase c h⟩

theorem toDouble_double (d : Double) : (QJsonValue.double d.value).toDouble = d := by
  rcases d with ⟨value, exact'⟩
  simp [QJsonValue.toDouble, exact']

theorem value_toJson (q : CPhysicalQuantity c) :
    q.toJson.value "unit" = some (.string q.m_unit.symbol) ∧
      q.toJson.value "value" = some (.double q.m_value.value) := by
  unfold toJson
  refine ⟨?_, ?_⟩
  · rw [QJsonObject.value_insert, if_pos rfl]
  · rw [QJsonObject.value_insert, if_neg (by decide), QJsonObject.value_insert, if_pos rfl]

theorem convertFromJson_eq_ok_iff {json : QJsonObject} {scopes : QStringList}
    {unit value : QJsonValue}
    (hunit : json.value "unit" = some unit) (hvalue : json.value "value" = some value)
    (q : CPhysicalQuantity c) :
    convertFromJson foldCase json scopes = .ok q ↔
      c.unitClass.unitFromSymbol foldCase unit.toString true = some q.m_unit ∧
        value.toDouble = q.m_value := by
  unfold convertFromJson
  simp only [hunit, hvalue]
  split
  · next hnone =>
    rw [hnone]
    exact iff_of_false nofun fun h => nomatch h.1
  · next unit' hsome =>
    rw [Except.ok.injEq, CPhysicalQuantity.ext_iff]
    constructor
    · rintro ⟨hv, hu⟩
      exact ⟨hsome.trans (congrArg some hu), hv⟩
    · rintro ⟨hu, hv⟩
      exact ⟨hv, Option.some.inj (hsome.symm.trans hu)⟩

/-- Units that are not in the list of all units of their class. -/
theorem mem_allUnits_iff {unit : CMeasurementUnit} (h : unit ∈ c.unitClass.offered) :
    unit ∈ c.unitClass.allUnits ↔ unit ≠ CPressureUnit.Units.Pa ∧
      unit ≠ CTimeUnit.Units.minsec := by
  have hall : ∀ unit ∈ c.unitClass.offered, unit ∈ c.unitClass.allUnits ↔
      unit ≠ CPressureUnit.Units.Pa ∧ unit ≠ CTimeUnit.Units.minsec := by
    cases c <;> decide +kernel
  exact hall unit h

/-- The symbols of these units are no symbols of others. -/
theorem unitFromSymbol_eq_none_of_notMem {unit : CMeasurementUnit}
    (hoffered : unit ∈ c.unitClass.offered) (h : unit ∉ c.unitClass.allUnits) :
    c.unitClass.unitFromSymbol foldCase unit.symbol true = none := by
  have hall : ∀ unit ∈ c.unitClass.offered, unit ∉ c.unitClass.allUnits →
      ∀ other ∈ c.unitClass.allUnits,
        other.symbol.map Char.toLower ≠ unit.symbol.map Char.toLower := by
    cases c <;> decide +kernel
  refine (unitFromSymbol_eq_none_iff foldCase c unit.symbol).mpr
    ⟨symbol_ne_nil c hoffered, fun other hother => ?_⟩
  rw [symbol_foldCase foldCase c (allUnits_offered c hother), symbol_foldCase foldCase c hoffered]
  exact hall unit hoffered h other hother

/-- A quantity in a unit of the list comes back. -/
theorem convertFromJson_toJson_of_mem {q : CPhysicalQuantity c}
    (h : q.m_unit ∈ c.unitClass.allUnits)
    (scopes : QStringList) : convertFromJson foldCase q.toJson scopes = .ok q := by
  rcases q.value_toJson with ⟨hunit, hvalue⟩
  rw [convertFromJson_eq_ok_iff foldCase hunit hvalue]
  exact ⟨unitFromSymbol_symbol foldCase c h, toDouble_double q.m_value⟩

/-- A quantity comes back from JSON unless it is in pascals, or in minutes and seconds. -/
theorem restores_toJson_iff (q : CPhysicalQuantity c) (scopes : QStringList) :
    convertFromJson foldCase q.toJson scopes = .ok q ↔
      q.m_unit ≠ CPressureUnit.Units.Pa ∧ q.m_unit ≠ CTimeUnit.Units.minsec := by
  rw [← mem_allUnits_iff q.offered]
  constructor
  · intro h
    rcases q.value_toJson with ⟨hunit, hvalue⟩
    have hfound := ((convertFromJson_eq_ok_iff foldCase hunit hvalue q).mp h).1
    by_contra hmissing
    have hnone := unitFromSymbol_eq_none_of_notMem foldCase q.offered hmissing
    exact nomatch hnone.symm.trans hfound
  · intro hmem
    exact convertFromJson_toJson_of_mem foldCase hmem scopes

/-- What ends the program is a symbol that no unit of the list has. -/
theorem convertFromJson_terminated_iff (json : QJsonObject) (scopes : QStringList) :
    (convertFromJson foldCase json scopes : Import (CPhysicalQuantity c)) = .error .terminated ↔
      ∃ unit ∈ json.value "unit", (json.value "value").isSome ∧
        unit.toString ≠ [] ∧ ∀ known ∈ c.unitClass.allUnits,
          known.symbol.map foldCase.fold ≠ unit.toString.map foldCase.fold := by
  simp only [← unitFromSymbol_eq_none_iff]
  unfold convertFromJson
  cases hunit : json.value "unit" with
  | none => exact iff_of_false nofun nofun
  | some unit =>
    simp only [Option.mem_some_iff, exists_eq_left']
    cases hvalue : json.value "value" with
    | none => exact iff_of_false nofun nofun
    | some value =>
      simp only [Option.isSome_some, true_and]
      split
      · next hnone => exact iff_of_true rfl hnone
      · next found hsome => exact iff_of_false nofun fun hnone => nomatch hsome.symm.trans hnone

/-- An exception is thrown for a field that is missing. -/
theorem convertFromJson_exception_iff (json : QJsonObject) (scopes : QStringList) :
    (∃ ex, (convertFromJson foldCase json scopes : Import (CPhysicalQuantity c)) =
      .error (.exception ex)) ↔ json.value "unit" = none ∨ json.value "value" = none := by
  unfold convertFromJson
  cases hunit : json.value "unit" with
  | none => exact iff_of_true ⟨_, rfl⟩ (Or.inl rfl)
  | some unit =>
    cases hvalue : json.value "value" with
    | none => exact iff_of_true ⟨_, rfl⟩ (Or.inr rfl)
    | some value =>
      simp only [reduceCtorEq, or_self, iff_false, not_exists]
      intro ex
      split
      · nofun
      · nofun

theorem pascal_offered : CPressureUnit.Units.Pa ∈ PqClass.pressure.unitClass.offered := by
  decide +kernel

/-- A pascal is written and then ends the program. -/
theorem pascal_ends_the_program :
    convertFromJson .ascii (CPhysicalQuantity.mk ⟨1, by decide +kernel⟩ _ pascal_offered).toJson []
      = (.error .terminated : Import (CPhysicalQuantity .pressure)) := by
  rcases value_toJson (CPhysicalQuantity.mk ⟨1, by decide +kernel⟩ _ pascal_offered) with
      ⟨hunit, hvalue⟩
  rw [convertFromJson_terminated_iff]
  refine ⟨_, hunit, Option.isSome_of_mem hvalue, ?_⟩
  have hsymbol : CPressureUnit.Units.Pa.symbol ≠ [] ∧
      ∀ known ∈ PqClass.pressure.unitClass.allUnits,
        known.symbol.map Char.toLower ≠ CPressureUnit.Units.Pa.symbol.map Char.toLower := by
    decide +kernel
  exact hsymbol

end CPhysicalQuantity

end Pq

end NeoSwift
