import NeoSwift.Aviation.Callsign
import NeoSwift.Lib.AssocMap
import NeoSwift.Pq.Length

/-!
# Centers of Gravity

The CGs that `ISimulationEnvironmentProvider` keeps by callsign and by model string, with
values that override them. A setting says whether the simulator's CG or that of the database
is used, and which of them first.

There is one function for callsigns and one for model strings. That for callsigns asks the
setting first and finds an override where it asks the simulator. That for model strings takes
an override before it asks anything, even while the CGs are disabled. It also has the test of
the simulator's CG the wrong way round, so that a CG which is known there is passed over. And
where the database comes first, neither of them asks the simulator for what the database does
not have.

Model strings are looked up in upper case.

## Main definitions

* `CgProvider`: The CGs.
* `getSimulatorOrDbCG`, `getSimulatorOrDbCGPerModelString`: The two functions.
* `SamePolicy`: What is expected of the two.
* `PolicyKept`: Where they do it.

## Theorems

* `same_policy_iff`: They do it nowhere else.
* `simulator_cg_is_passed_over`: A model whose CG is known to the simulator.
-/

namespace NeoSwift.Misc.Simulation

open Aviation Pq

/-- `CSimulatorSettings::CGSource`. -/
inductive CGSource where
  | cgFromSimulatorFirst | cgFromDBFirst | cgFromSimulatorOnly | cgFromDBOnly
  deriving DecidableEq

/-- The members for CGs, by the unified texts of callsigns and by model strings in upper case. -/
structure CgProvider where
  m_cgsPerCallsign : AssocMap QString CLength := ∅
  m_cgsPerCallsignOverridden : AssocMap QString CLength := ∅
  m_cgsPerModel : AssocMap QString CLength := ∅
  m_cgsPerModelOverridden : AssocMap QString CLength := ∅
  m_enableCG : Bool := true
  m_cgSource : CGSource := .cgFromSimulatorFirst

namespace CgProvider

variable (u : Unicode) (p : CgProvider)

/-! ## Writing -/

/-- `insertCG` for a callsign. -/
def insertCG (cg : CLength) (cs : Callsign) : CgProvider × Bool :=
  if cs.isEmpty then (p, false)
  else if cg.isNull then
    ({ p with m_cgsPerCallsign := p.m_cgsPerCallsign.erase cs.callsign }, true)
  else ({ p with m_cgsPerCallsign := p.m_cgsPerCallsign.insert cs.callsign cg }, true)

/-- The part for the callsign, with whether the value is stored. -/
def insertForCallsign (cg : CLength) (cs : Callsign) : CgProvider × Bool :=
  if cs.isEmpty then (p, false)
  else if (p.m_cgsPerCallsignOverridden.lookup cs.callsign).isSome then
    ({ p with m_cgsPerCallsignOverridden :=
        p.m_cgsPerCallsignOverridden.insert cs.callsign cg }, false)
  else ({ p with m_cgsPerCallsign := p.m_cgsPerCallsign.insert cs.callsign cg }, true)

/-- The part for the model string. -/
def insertForModel (cg : CLength) (modelString : QString) : CgProvider × Bool :=
  let ms := u.toUpper modelString
  if modelString.isEmpty then (p, false)
  else if (p.m_cgsPerModelOverridden.lookup ms).isSome then
    ({ p with m_cgsPerModelOverridden := p.m_cgsPerModelOverridden.insert ms cg }, false)
  else ({ p with m_cgsPerModel := p.m_cgsPerModel.insert ms cg }, true)

/-- `insertCG` for a model string and a callsign. -/
def insertCGWithModel (cg : CLength) (modelString : QString) (cs : Callsign) :
    CgProvider × Bool :=
  if !p.m_enableCG then (p, false)
  else
    let forCallsign := p.insertForCallsign cg cs
    let forModel := forCallsign.1.insertForModel u cg modelString
    (forModel.1, forCallsign.2 || forModel.2)

def insertCGOverridden (cg : CLength) (cs : Callsign) : CgProvider × Bool :=
  if cs.isEmpty || !p.m_enableCG then (p, false)
  else if cg.isNull then
    ({ p with m_cgsPerCallsignOverridden := p.m_cgsPerCallsignOverridden.erase cs.callsign },
      false)
  else
    ({ p with m_cgsPerCallsignOverridden := p.m_cgsPerCallsignOverridden.insert cs.callsign cg },
      true)

def insertCGForModelString (cg : CLength) (modelString : QString) : CgProvider × Bool :=
  let ms := u.toUpper modelString
  if modelString.isEmpty || !p.m_enableCG then (p, false)
  else if cg.isNull then ({ p with m_cgsPerModel := p.m_cgsPerModel.erase ms }, false)
  else ({ p with m_cgsPerModel := p.m_cgsPerModel.insert ms cg }, true)

def insertCGForModelStringOverridden (cg : CLength) (modelString : QString) : CgProvider × Bool :=
  let ms := u.toUpper modelString
  if modelString.isEmpty then (p, false)
  else if cg.isNull then
    ({ p with m_cgsPerModelOverridden := p.m_cgsPerModelOverridden.erase ms }, false)
  else ({ p with m_cgsPerModelOverridden := p.m_cgsPerModelOverridden.insert ms cg }, true)

/-! ## Reading -/

def getSimulatorCG (callsign : Callsign) : CLength :=
  if callsign.isEmpty then .null
  else if !p.m_enableCG then .null
  else match p.m_cgsPerCallsignOverridden.lookup callsign.callsign with
    | some cg => cg
    | none => (p.m_cgsPerCallsign.lookup callsign.callsign).getD .null

def getSimulatorOrDbCG (callsign : Callsign) (dbCG : CLength) : CLength :=
  let source := p.m_cgSource
  if callsign.isEmpty then .null
  else if source = .cgFromDBOnly ∨ (source = .cgFromDBFirst ∧ !dbCG.isNull) then dbCG
  else
    let simCG := p.getSimulatorCG callsign
    if source = .cgFromSimulatorOnly ∨ (source = .cgFromSimulatorFirst ∧ !simCG.isNull) then simCG
    else dbCG

def getSimulatorCGPerModelString (modelString : QString) : CLength :=
  let ms := u.toUpper modelString
  if modelString.isEmpty then .null
  else if !p.m_enableCG then .null
  else match p.m_cgsPerModelOverridden.lookup ms with
    | some cg => cg
    | none => (p.m_cgsPerModel.lookup ms).getD .null

/-- An override comes first here, and what is tested is that the CG is null. -/
def getSimulatorOrDbCGPerModelString (modelString : QString) (dbCG : CLength) : CLength :=
  let source := p.m_cgSource
  let ms := u.toUpper modelString
  if modelString.isEmpty then .null
  else match p.m_cgsPerModelOverridden.lookup ms with
    | some cg => cg
    | none =>
      if source = .cgFromDBOnly ∨ (!dbCG.isNull ∧ source = .cgFromDBFirst) then dbCG
      else
        let simCG := p.getSimulatorCGPerModelString u modelString
        if source = .cgFromSimulatorOnly ∨ (source = .cgFromSimulatorFirst ∧ simCG.isNull) then
          simCG
        else dbCG

end CgProvider

/-! ## What is expected -/

/-- The same value, where null is one. -/
def SameCG (a b : CLength) : Prop := a = b ∨ (a.isNull = true ∧ b.isNull = true)

/-- Whether the policy has a CG in one of its sources. -/
def CGSource.Known (source : CGSource) (simCG dbCG : CLength) : Prop :=
  match source with
  | .cgFromSimulatorOnly => simCG.isNull = false
  | .cgFromDBOnly => dbCG.isNull = false
  | .cgFromSimulatorFirst | .cgFromDBFirst => simCG.isNull = false ∨ dbCG.isNull = false

namespace CgProvider

variable (u : Unicode) (p : CgProvider)

/-- The same is kept for a callsign and for a model string. -/
structure SameCGs (cs : Callsign) (modelString : QString) : Prop where
  stored : p.m_cgsPerCallsign.lookup cs.callsign = p.m_cgsPerModel.lookup (u.toUpper modelString)
  overridden : p.m_cgsPerCallsignOverridden.lookup cs.callsign
    = p.m_cgsPerModelOverridden.lookup (u.toUpper modelString)

/-- What is expected of the two functions. -/
structure SamePolicy (cs : Callsign) (modelString : QString) (dbCG : CLength) : Prop where
  same : SameCG (p.getSimulatorOrDbCG cs dbCG)
    (p.getSimulatorOrDbCGPerModelString u modelString dbCG)
  callsign_known : p.m_cgSource.Known (p.getSimulatorCG cs) dbCG →
    (p.getSimulatorOrDbCG cs dbCG).isNull = false
  model_known : p.m_cgSource.Known (p.getSimulatorCGPerModelString u modelString) dbCG →
    (p.getSimulatorOrDbCGPerModelString u modelString dbCG).isNull = false

/-- Where it is done, by the setting, the value kept for the callsign and the one that
    overrides it. -/
def PolicyKept (cs : Callsign) (dbCG : CLength) : Prop :=
  match p.m_cgsPerCallsignOverridden.lookup cs.callsign, p.m_cgSource with
  | none, .cgFromSimulatorOnly | none, .cgFromDBOnly => True
  | none, .cgFromDBFirst => dbCG.isNull = true →
      p.m_enableCG = true → ((p.m_cgsPerCallsign.lookup cs.callsign).getD .null).isNull = true
  | none, .cgFromSimulatorFirst =>
      SameCG (if p.m_enableCG then (p.m_cgsPerCallsign.lookup cs.callsign).getD .null else .null)
        dbCG
  | some cg, .cgFromDBOnly | some cg, .cgFromDBFirst => SameCG dbCG cg
  | some cg, .cgFromSimulatorOnly => p.m_enableCG = true ∨ cg.isNull = true
  | some cg, .cgFromSimulatorFirst =>
      (p.m_enableCG = true ∧ cg.isNull = false) ∨ SameCG dbCG cg

end CgProvider

/-! ## The two functions without the lookups -/

/-- The function for callsigns, on what the simulator has. -/
def CGSource.forCallsign (source : CGSource) (simCG dbCG : CLength) : CLength :=
  match source with
  | .cgFromDBOnly | .cgFromDBFirst => dbCG
  | .cgFromSimulatorOnly => simCG
  | .cgFromSimulatorFirst => if simCG.isNull then dbCG else simCG

/-- That for model strings, where nothing overrides the CG. -/
def CGSource.forModel (source : CGSource) (simCG dbCG : CLength) : CLength :=
  match source with
  | .cgFromDBOnly | .cgFromDBFirst => dbCG
  | .cgFromSimulatorOnly => simCG
  | .cgFromSimulatorFirst => if simCG.isNull then simCG else dbCG

/-- Two values of a policy are the same, and none of them is null without need. -/
def CGSource.Kept (source : CGSource) (simCG dbCG a b : CLength) : Prop :=
  SameCG a b ∧ (source.Known simCG dbCG → a.isNull = false ∧ b.isNull = false)

theorem SameCG.isNull_eq {a b : CLength} (h : SameCG a b) : a.isNull = b.isNull := by
  rcases h with rfl | ⟨ha, hb⟩
  · rfl
  · rw [ha, hb]

theorem sameCG_of_isNull {a b : CLength} (ha : a.isNull = true) (hb : b.isNull = true) :
    SameCG a b := Or.inr ⟨ha, hb⟩

theorem sameCG_comm {a b : CLength} : SameCG a b ↔ SameCG b a :=
  or_congr eq_comm and_comm

/-- Where one of the values is not null whenever there is one, only their being the same
    is in question. -/
theorem kept_iff_sameCG {source : CGSource} {simCG dbCG a b : CLength}
    (h : SameCG a b → source.Known simCG dbCG → a.isNull = false) :
    source.Kept simCG dbCG a b ↔ SameCG a b :=
  ⟨fun hkept => hkept.1, fun hsame => ⟨hsame, fun hknown =>
    ⟨h hsame hknown, hsame.isNull_eq.symm.trans (h hsame hknown)⟩⟩⟩

/-- Without an override. -/
theorem kept_iff_of_none (source : CGSource) (simCG dbCG : CLength) :
    source.Kept simCG dbCG (source.forCallsign simCG dbCG) (source.forModel simCG dbCG) ↔
      match source with
      | .cgFromSimulatorOnly | .cgFromDBOnly => True
      | .cgFromDBFirst => dbCG.isNull = true → simCG.isNull = true
      | .cgFromSimulatorFirst => SameCG simCG dbCG := by
  cases source with
  | cgFromSimulatorOnly => exact iff_of_true ⟨Or.inl rfl, fun h => ⟨h, h⟩⟩ trivial
  | cgFromDBOnly => exact iff_of_true ⟨Or.inl rfl, fun h => ⟨h, h⟩⟩ trivial
  | cgFromDBFirst =>
    refine ⟨fun h hdb => ?_, fun h => ⟨Or.inl rfl, fun hknown => ?_⟩⟩
    · by_contra hsim
      have hnull := (h.2 (Or.inl (Bool.eq_false_of_not_eq_true hsim))).1
      exact Bool.false_ne_true (hnull.symm.trans hdb)
    · have hdb : dbCG.isNull = false := by
        refine hknown.elim (fun hsim => Bool.eq_false_of_not_eq_true fun hdb => ?_) id
        exact Bool.false_ne_true (hsim.symm.trans (h hdb))
      exact ⟨hdb, hdb⟩
  -- The test is the wrong way round in one of the two.
  | cgFromSimulatorFirst =>
    unfold CGSource.forCallsign CGSource.forModel
    by_cases hsim : simCG.isNull = true
    · rw [if_pos hsim, if_pos hsim, sameCG_comm]
      refine kept_iff_sameCG fun hsame hknown => ?_
      rcases hknown with hfalse | hdb
      · exact absurd (hfalse.symm.trans hsim) Bool.false_ne_true
      · exact hdb
    · rw [if_neg hsim, if_neg hsim]
      exact kept_iff_sameCG fun _ _ => Bool.eq_false_of_not_eq_true hsim

/-- With an override, which the simulator has if its CGs are enabled. -/
theorem kept_iff_of_some (source : CGSource) (enabled : Bool) (cg dbCG : CLength) :
    source.Kept (if enabled then cg else .null) dbCG
        (source.forCallsign (if enabled then cg else .null) dbCG) cg ↔
      match source with
      | .cgFromDBOnly | .cgFromDBFirst => SameCG dbCG cg
      | .cgFromSimulatorOnly => enabled = true ∨ cg.isNull = true
      | .cgFromSimulatorFirst => (enabled = true ∧ cg.isNull = false) ∨ SameCG dbCG cg := by
  cases source with
  -- The first two sources ask the database, whatever the simulator has.
  | cgFromDBOnly =>
    refine kept_iff_sameCG fun _ hknown => ?_
    exact hknown
  | cgFromDBFirst =>
    refine kept_iff_sameCG fun hsame hknown => ?_
    rcases hknown with hsim | hdb
    · cases enabled with
      | false => cases hsim
      | true => exact hsame.isNull_eq.trans hsim
    · exact hdb
  | cgFromSimulatorOnly =>
    refine Iff.trans (kept_iff_sameCG fun _ hknown => ?_) ?_
    · exact hknown
    -- Without the simulator's CGs the override counts as null.
    cases enabled with
    | false =>
      refine ⟨fun h => Or.inr h.isNull_eq.symm, fun h => ?_⟩
      rcases h with hfalse | hcg
      · cases hfalse
      · exact sameCG_of_isNull rfl hcg
    | true => exact iff_of_true (Or.inl rfl) (Or.inl rfl)
  | cgFromSimulatorFirst =>
    cases enabled with
    | false =>
      refine (kept_iff_sameCG fun _ hknown => ?_).trans ⟨Or.inr, fun h => ?_⟩
      · rcases hknown with hfalse | hdb
        · cases hfalse
        · exact hdb
      · exact h.elim (fun hfalse => absurd hfalse.1 Bool.false_ne_true) id
    | true =>
      unfold CGSource.forCallsign
      rw [if_pos rfl]
      -- A simulator that is asked first has the last word unless its CG is null.
      by_cases hcg : cg.isNull = true
      · rw [if_pos hcg]
        refine (kept_iff_sameCG fun _ hknown => ?_).trans ⟨Or.inr, fun h => ?_⟩
        · rcases hknown with hfalse | hdb
          · exact absurd (hfalse.symm.trans hcg) Bool.false_ne_true
          · exact hdb
        · exact h.elim (fun hfalse => absurd (hfalse.2.symm.trans hcg) Bool.false_ne_true) id
      · rw [if_neg hcg]
        have hfalse := Bool.eq_false_of_not_eq_true hcg
        exact iff_of_true ⟨Or.inl rfl, fun _ => ⟨hfalse, hfalse⟩⟩ (Or.inl ⟨rfl, hfalse⟩)

/-! ## The two functions -/

namespace CgProvider

variable {u : Unicode} {p : CgProvider} {cs : Callsign} {modelString : QString}

theorem getSimulatorOrDbCG_eq (hcs : cs.isEmpty = false) (dbCG : CLength) :
    p.getSimulatorOrDbCG cs dbCG = p.m_cgSource.forCallsign (p.getSimulatorCG cs) dbCG := by
  unfold getSimulatorOrDbCG CGSource.forCallsign
  rw [hcs]
  generalize p.getSimulatorCG cs = simCG
  cases p.m_cgSource <;> cases hsim : simCG.isNull <;> simp [hsim]

theorem getSimulatorOrDbCGPerModelString_of_none (hms : modelString.isEmpty = false)
    (h : p.m_cgsPerModelOverridden.lookup (u.toUpper modelString) = none) (dbCG : CLength) :
    p.getSimulatorOrDbCGPerModelString u modelString dbCG
      = p.m_cgSource.forModel (p.getSimulatorCGPerModelString u modelString) dbCG := by
  unfold getSimulatorOrDbCGPerModelString CGSource.forModel
  rw [hms]
  dsimp only
  rw [h]
  cases p.m_cgSource <;> simp

theorem getSimulatorOrDbCGPerModelString_of_some (hms : modelString.isEmpty = false)
    {cg : CLength} (h : p.m_cgsPerModelOverridden.lookup (u.toUpper modelString) = some cg)
    (dbCG : CLength) : p.getSimulatorOrDbCGPerModelString u modelString dbCG = cg := by
  unfold getSimulatorOrDbCGPerModelString
  rw [hms]
  dsimp only
  rw [h]
  rfl

/-- What the simulator has for a callsign. -/
theorem getSimulatorCG_eq (hcs : cs.isEmpty = false) :
    p.getSimulatorCG cs = if p.m_enableCG then
      ((p.m_cgsPerCallsignOverridden.lookup cs.callsign).or
        (p.m_cgsPerCallsign.lookup cs.callsign)).getD .null else .null := by
  unfold getSimulatorCG
  rw [hcs]
  cases p.m_enableCG with
  | false => rfl
  | true => cases p.m_cgsPerCallsignOverridden.lookup cs.callsign <;> rfl

theorem getSimulatorCGPerModelString_eq (hms : modelString.isEmpty = false) :
    p.getSimulatorCGPerModelString u modelString = if p.m_enableCG then
      ((p.m_cgsPerModelOverridden.lookup (u.toUpper modelString)).or
        (p.m_cgsPerModel.lookup (u.toUpper modelString))).getD .null else .null := by
  unfold getSimulatorCGPerModelString
  rw [hms]
  dsimp only
  cases p.m_enableCG with
  | false => rfl
  | true => cases p.m_cgsPerModelOverridden.lookup (u.toUpper modelString) <;> rfl

/-- The two functions do what is expected if and only if the policy is kept. -/
theorem same_policy_iff (u : Unicode) (p : CgProvider) (cs : Callsign) (modelString : QString)
    (dbCG : CLength) (hcs : cs.isEmpty = false) (hms : modelString.isEmpty = false)
    (h : p.SameCGs u cs modelString) :
    p.SamePolicy u cs modelString dbCG ↔ p.PolicyKept cs dbCG := by
  -- Both functions look up the same entries, by assumption.
  have hsim : p.getSimulatorCGPerModelString u modelString = p.getSimulatorCG cs := by
    rw [getSimulatorCGPerModelString_eq hms, getSimulatorCG_eq hcs, h.stored, h.overridden]
  have hkept : p.SamePolicy u cs modelString dbCG
      ↔ p.m_cgSource.Kept (p.getSimulatorCG cs) dbCG (p.getSimulatorOrDbCG cs dbCG)
        (p.getSimulatorOrDbCGPerModelString u modelString dbCG) := by
    refine ⟨fun hp => ⟨hp.same, fun hk => ⟨hp.callsign_known hk, hp.model_known ?_⟩⟩,
      fun hp => ⟨hp.1, fun hk => (hp.2 hk).1, fun hk => (hp.2 ?_).2⟩⟩
    · rwa [hsim]
    · rwa [hsim] at hk
  rw [hkept, getSimulatorOrDbCG_eq hcs]
  unfold PolicyKept
  -- The override decides which of the two functions reads it.
  cases hover : p.m_cgsPerCallsignOverridden.lookup cs.callsign with
  | none =>
    rw [getSimulatorOrDbCGPerModelString_of_none hms (h.overridden.symm.trans hover), hsim,
      kept_iff_of_none, getSimulatorCG_eq hcs, hover]
    cases p.m_cgSource with
    | cgFromDBFirst => cases p.m_enableCG <;> simp [CLength.null, CLength.isNull, CLength.create]
    | _ => exact Iff.rfl
  | some cg =>
    rw [getSimulatorOrDbCGPerModelString_of_some hms (h.overridden.symm.trans hover),
      getSimulatorCG_eq hcs, hover, Option.some_or, Option.getD_some, kept_iff_of_some]
    cases p.m_cgSource <;> exact Iff.rfl

/-- A callsign and a model whose CG is the one of the database. -/
theorem same_policy_sample :
    let p := (insertCGWithModel .ascii {} (.create 6 .ft) "b738"
      (.create .ascii "DLH123" .aircraft)).1
    p.SamePolicy .ascii (.create .ascii "DLH123" .aircraft) "B738" (.create 6 .ft) :=
  (same_policy_iff .ascii _ _ _ _ (by rfl) (by rfl) ⟨by rfl, by rfl⟩).mpr (Or.inl rfl)

/-- A CG that is inserted for a callsign and its model is found for the callsign. For the
    model, the one of the database is used, or none if it has none. -/
theorem simulator_cg_is_passed_over :
    let cs := Callsign.create .ascii "DLH123" .aircraft
    let p := (insertCGWithModel .ascii {} (.create 6 .ft) "b738" cs).1
    p.getSimulatorOrDbCG cs (.create 7 .ft) = .create 6 .ft
      ∧ p.getSimulatorOrDbCGPerModelString .ascii "B738" (.create 7 .ft) = .create 7 .ft
      ∧ p.getSimulatorOrDbCGPerModelString .ascii "B738" .null = .null
      ∧ ¬ ∀ (p : CgProvider) (cs : Callsign) (modelString : QString) (dbCG : CLength),
        cs.isEmpty = false → modelString.isEmpty = false → p.SameCGs .ascii cs modelString →
          p.SamePolicy .ascii cs modelString dbCG := by
  refine ⟨by rfl, by rfl, by rfl, fun h => ?_⟩
  have hsame := (h (insertCGWithModel .ascii {} (.create 6 .ft) "b738"
    (.create .ascii "DLH123" .aircraft)).1 (.create .ascii "DLH123" .aircraft)
    "B738" (.create 7 .ft) (by rfl) (by rfl) ⟨by rfl, by rfl⟩).same
  rcases hsame with heq | ⟨hnull, -⟩
  · exact absurd (congrArg CLength.m_value heq) (by decide)
  · cases hnull

end CgProvider

end NeoSwift.Misc.Simulation
