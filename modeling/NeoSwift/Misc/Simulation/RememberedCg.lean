import NeoSwift.Misc.Simulation.RemoteAircraftProvider

/-!
# Centers of gravity of the database

The CGs that `CRemoteAircraftProvider` remembers, by callsign and by model string. They are
remembered in two maps, and there is a function to read them for either.

The one for model strings reads the map by callsign, with the callsign that the model string
makes. What it returns is right where both were remembered with the same CG, or neither.

## Main definitions

* `getCGFromDB`, `getCGFromDBForModel`: The two functions.
* `RememberCG`, `cgMemory`: Runs of what is remembered.
* `CgQuery.ReturnsLast`: What the functions are to return.
* `CgQuery.RememberedAlike`: Where they do.

## Theorems

* `dbCGPerCallsign_run`: The map by callsign after a run.
* `returnsLast_iff`: When a function returns what was remembered last.
-/

namespace NeoSwift.Misc

namespace Simulation

open Aviation Pq RemoteAircraftProvider

variable {S C : Type}

/-- `getCGFromDB` for a callsign. -/
def RemoteAircraftProvider.getCGFromDB (p : RemoteAircraftProvider S C) (callsign : Callsign) :
    CLength :=
  (p.dbCGPerCallsign (key callsign)).getD CLength.null

/-- `getCGFromDB` for a model string, from which a callsign is made. -/
def RemoteAircraftProvider.getCGFromDBForModel (u : Unicode) (p : RemoteAircraftProvider S C)
    (modelString : QString) : CLength :=
  (p.dbCGPerCallsign (key (Callsign.create u modelString .noHint))).getD CLength.null

/-- The two functions that remember a CG. -/
inductive RememberCG
  | forCallsign (cgFromDB : CLength) (callsign : Callsign)
  | forModel (cgFromDB : CLength) (modelString : QString)

/-- Runs of them. -/
def cgMemory : Machine (RemoteAircraftProvider S C) RememberCG Empty where
  step
    | p, .forCallsign cgFromDB callsign => (p.rememberCGFromDB cgFromDB callsign, [])
    | p, .forModel cgFromDB modelString => (p.rememberCGFromDBForModel cgFromDB modelString, [])

/-- The CG, if it is remembered for the callsign. -/
def RememberCG.cgOfCallsign (callsign : Callsign) : RememberCG → Option CLength
  | .forCallsign cgFromDB cs => if cs.equals callsign then some cgFromDB else none
  | .forModel _ _ => none

/-- The CG, if it is remembered for the model string. -/
def RememberCG.cgOfModel (modelString : QString) : RememberCG → Option CLength
  | .forCallsign _ _ => none
  | .forModel cgFromDB ms => if ms = modelString then some cgFromDB else none

/-- The last CG of a run. -/
def lastCG (cgOf : RememberCG → Option CLength) (calls : List RememberCG) : CLength :=
  (calls.filterMap cgOf).getLast?.getD CLength.null

/-- What is asked for. -/
inductive CgQuery
  | ofCallsign (callsign : Callsign)
  | ofModel (modelString : QString)

/-- After the calls, the function returns the CG that was remembered last, or null. -/
def CgQuery.ReturnsLast (u : Unicode) (p : RemoteAircraftProvider S C) (calls : List RememberCG) :
    CgQuery → Prop
  | .ofCallsign callsign =>
    (cgMemory.run p calls).1.getCGFromDB callsign = lastCG (RememberCG.cgOfCallsign callsign) calls
  | .ofModel modelString =>
    (cgMemory.run p calls).1.getCGFromDBForModel u modelString
      = lastCG (RememberCG.cgOfModel modelString) calls

/-- For a model string and the callsign that it makes, the same was remembered last. -/
def CgQuery.RememberedAlike (u : Unicode) (calls : List RememberCG) : CgQuery → Prop
  | .ofCallsign _ => True
  | .ofModel modelString =>
    lastCG (RememberCG.cgOfCallsign (Callsign.create u modelString .noHint)) calls
      = lastCG (RememberCG.cgOfModel modelString) calls

theorem dbCGPerCallsign_step (p : RemoteAircraftProvider S C) (call : RememberCG)
    (callsign : Callsign) :
    (cgMemory.step p call).1.dbCGPerCallsign (key callsign)
      = (call.cgOfCallsign callsign).or (p.dbCGPerCallsign (key callsign)) := by
  cases call with
  | forCallsign cgFromDB cs =>
      simp only [cgMemory, RemoteAircraftProvider.rememberCGFromDB, RememberCG.cgOfCallsign,
        Callsign.equals, beq_iff_eq]
      by_cases h : cs.callsign = callsign.callsign
      · have hkey : key cs = key callsign := h
        rw [if_pos h, hkey, Fsd.CallsignMap.insert_self]
        rfl
      · have hkey : key callsign ≠ key cs := Ne.symm h
        rw [if_neg h, Fsd.CallsignMap.insert_of_ne _ _ _ hkey]
        rfl
  | forModel cgFromDB modelString => rfl

/-- The map by callsign has the CG that was remembered last. -/
theorem dbCGPerCallsign_run (p : RemoteAircraftProvider S C) (calls : List RememberCG)
    (callsign : Callsign) :
    (cgMemory.run p calls).1.dbCGPerCallsign (key callsign)
      = (calls.filterMap (RememberCG.cgOfCallsign callsign)).getLast?.or
          (p.dbCGPerCallsign (key callsign)) := by
  induction calls using List.reverseRecOn with
  | nil => rfl
  | append_singleton calls call ih =>
      simp only [Machine.run_append, Machine.run_cons, Machine.run_nil, dbCGPerCallsign_step, ih]
      cases hcall : call.cgOfCallsign callsign with
      | none => simp [hcall]
      | some cg => simp [hcall]

/-- From a provider without CGs, the functions return what was remembered last if and only if it
    is asked for a callsign, or for a model string with a callsign that has the same CG. -/
theorem returnsLast_iff (u : Unicode) (calls : List RememberCG) (query : CgQuery) :
    query.ReturnsLast u ({} : RemoteAircraftProvider S C) calls ↔
      query.RememberedAlike u calls := by
  have hrun : ∀ callsign : Callsign,
      ((cgMemory.run ({} : RemoteAircraftProvider S C) calls).1.dbCGPerCallsign
          (key callsign)).getD CLength.null
        = lastCG (RememberCG.cgOfCallsign callsign) calls := by
    intro callsign
    have hempty : ({} : RemoteAircraftProvider S C).dbCGPerCallsign (key callsign) = none := rfl
    rw [dbCGPerCallsign_run, hempty, Option.or_none, lastCG]
  cases query with
  | ofCallsign callsign => exact iff_of_true (hrun callsign) trivial
  | ofModel modelString =>
      rw [CgQuery.ReturnsLast, CgQuery.RememberedAlike, RemoteAircraftProvider.getCGFromDBForModel,
        hrun]

/-- The CG of a model string, which was the only one that was remembered. -/
theorem cg_of_model_is_not_found :
    ¬(CgQuery.ofModel "B738").ReturnsLast Unicode.ascii ({} : RemoteAircraftProvider Unit Unit)
      [.forModel (CLength.create 3 .m) "B738"] := by
  rw [CgQuery.ReturnsLast]
  decide

end Simulation

end NeoSwift.Misc
