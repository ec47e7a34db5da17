import Mathlib.Data.List.Induction
import Mathlib.Tactic.Common

/-!
# Machines

A component that reacts to inputs one at a time: a state, and a step function
that takes an input to the next state and the outputs it emits on the way.
Every run of such a component is a fold over its inputs, so what a run
guarantees follows from what one step guarantees, and the rules below are that
argument stated once.

`run_invariant` carries a property of the state together with everything
emitted so far. `run_invariant_of` is the same for runs whose steps all meet a
condition. `run_simulates` relates the runs of two machines with the same
outputs, and `run_agree` those of two whose outputs look the same to an
observer. A cascade feeds the outputs of one machine to another.

## Main definitions

* `Machine`: A step function with outputs.
* `Machine.run`: A run over a list of inputs.
* `Machine.AllSteps`: Every step of a run meets a condition.
* `Machine.trace`: The inputs of a run with what each of them makes it emit.
* `Machine.steps`: The inputs of a run with the state each of them comes in.
* `Machine.cascade`: One machine behind another.

## Theorems

* `run_append`: A run over two lists is one run after the other.
* `run_invariant`: What every step keeps, every run keeps.
* `run_invariant_of`: The same for runs whose steps all meet a condition.
* `run_history_of`: The same where the inputs so far matter.
* `run_trace_of`: The same where what each of them emitted matters, too.
* `allSteps_append`: The steps of a composed run are the steps of its parts.
* `allSteps_of_forall_mem`: A condition on the inputs is one on the steps.
* `allSteps_of_invariant`: From one condition on the steps to another.
* `run_simulates`: Two machines in step stay in step.
* `run_simulates_of`: The same for runs whose steps all meet a condition.
* `run_agree`: Two machines an observer cannot tell apart stay so.
* `cascade_run`: A cascade runs the second machine on what the first emits.
-/

namespace NeoSwift

/-- A machine with states `σ`, inputs `ι` and outputs `ο`. -/
structure Machine (σ ι ο : Type*) where
  step : σ → ι → σ × List ο

namespace Machine

variable {σ ι ο τ κ : Type*}

/-- The state a run ends in and everything it emits, in order. -/
def run (m : Machine σ ι ο) : σ → List ι → σ × List ο
  | s, [] => (s, [])
  | s, i :: is => ((m.run (m.step s i).1 is).1, (m.step s i).2 ++ (m.run (m.step s i).1 is).2)

/-- Every step of the run from `s` over the inputs is taken in a state and on
    an input that meet `C`. -/
def AllSteps (m : Machine σ ι ο) (C : σ → ι → Prop) : σ → List ι → Prop
  | _, [] => True
  | s, i :: is => C s i ∧ m.AllSteps C (m.step s i).1 is

instance decidableAllSteps (m : Machine σ ι ο) (C : σ → ι → Prop) [∀ s i, Decidable (C s i)] :
    ∀ s is, Decidable (m.AllSteps C s is)
  | _, [] => inferInstanceAs (Decidable True)
  | s, i :: is =>
      have := decidableAllSteps m C (m.step s i).1 is
      inferInstanceAs (Decidable (C s i ∧ m.AllSteps C (m.step s i).1 is))

@[simp] theorem run_nil (m : Machine σ ι ο) (s : σ) : m.run s [] = (s, []) := rfl

@[simp] theorem run_cons (m : Machine σ ι ο) (s : σ) (i : ι) (is : List ι) :
    m.run s (i :: is)
      = ((m.run (m.step s i).1 is).1, (m.step s i).2 ++ (m.run (m.step s i).1 is).2) := rfl

theorem run_append (m : Machine σ ι ο) (s : σ) (is js : List ι) :
    m.run s (is ++ js)
      = ((m.run (m.run s is).1 js).1, (m.run s is).2 ++ (m.run (m.run s is).1 js).2) := by
  induction is generalizing s with
  | nil => simp
  | cons i is ih => simp [ih]

theorem allSteps_append (m : Machine σ ι ο) (C : σ → ι → Prop) (s : σ) (is js : List ι) :
    m.AllSteps C s (is ++ js) ↔ m.AllSteps C s is ∧ m.AllSteps C (m.run s is).1 js := by
  induction is generalizing s with
  | nil => simp [AllSteps]
  | cons i is ih => simp [AllSteps, ih, and_assoc]

theorem allSteps_true (m : Machine σ ι ο) (s : σ) (is : List ι) :
    m.AllSteps (fun _ _ => True) s is := by
  induction is generalizing s with
  | nil => trivial
  | cons i is ih => exact ⟨trivial, ih _⟩

theorem allSteps_mono (m : Machine σ ι ο) {C D : σ → ι → Prop} (h : ∀ s i, C s i → D s i)
    (is : List ι) (s : σ) (hall : m.AllSteps C s is) : m.AllSteps D s is := by
  induction is generalizing s with
  | nil => trivial
  | cons i is ih => exact ⟨h s i hall.1, ih _ hall.2⟩

/-- A condition on the inputs alone. -/
theorem allSteps_of_forall_mem (m : Machine σ ι ο) {C : ι → Prop} (is : List ι) (s : σ)
    (h : ∀ i ∈ is, C i) : m.AllSteps (fun _ i => C i) s is := by
  induction is generalizing s with
  | nil => trivial
  | cons i is ih =>
      exact ⟨h i List.mem_cons_self, ih _ fun j hj => h j (List.mem_cons_of_mem _ hj)⟩

/-- Steps that meet `C` meet `D` where an invariant holds, which they keep. -/
theorem allSteps_of_invariant (m : Machine σ ι ο) {C D : σ → ι → Prop} {P : σ → Prop}
    (h : ∀ s i, P s → C s i → D s i ∧ P (m.step s i).1) (is : List ι) (s : σ) (hs : P s)
    (hall : m.AllSteps C s is) : m.AllSteps D s is := by
  induction is generalizing s with
  | nil => trivial
  | cons i is ih =>
      rcases h s i hs hall.1 with ⟨hD, hP⟩
      exact ⟨hD, ih _ hP hall.2⟩

/-- What every step keeps, of the state and of everything emitted so far,
    every run keeps, provided its steps all meet `C`. -/
theorem run_invariant_of (m : Machine σ ι ο) (C : σ → ι → Prop) (P : σ → List ο → Prop)
    (hstep : ∀ s out i, C s i → P s out → P (m.step s i).1 (out ++ (m.step s i).2))
    (is : List ι) (s : σ) (out : List ο) (hall : m.AllSteps C s is) (h : P s out) :
    P (m.run s is).1 (out ++ (m.run s is).2) := by
  induction is generalizing s out with
  | nil => simpa only [run_nil, List.append_nil] using h
  | cons i is ih =>
      have hnext := ih (m.step s i).1 (out ++ (m.step s i).2) hall.2 (hstep s out i hall.1 h)
      simpa only [run_cons, List.append_assoc] using hnext

/-- What every step keeps, every run keeps. -/
theorem run_invariant (m : Machine σ ι ο) (P : σ → List ο → Prop)
    (hstep : ∀ s out i, P s out → P (m.step s i).1 (out ++ (m.step s i).2))
    (is : List ι) (s : σ) (out : List ο) (h : P s out) : P (m.run s is).1 (out ++ (m.run s is).2) :=
  run_invariant_of m (fun _ _ => True) P (fun s out i _ => hstep s out i) is s out
    (allSteps_true m s is) h

/-- What every step that meets `C` keeps, of the inputs so far, the state and
    everything emitted so far, a run of such steps keeps. -/
theorem run_history_of (m : Machine σ ι ο) (C : σ → ι → Prop) (P : List ι → σ → List ο → Prop)
    (s : σ) (hstart : P [] s []) (hstep : ∀ is t out i, C t i → P is t out →
      P (is ++ [i]) (m.step t i).1 (out ++ (m.step t i).2))
    (is : List ι) (hall : m.AllSteps C s is) : P is (m.run s is).1 (m.run s is).2 := by
  induction is using List.reverseRecOn with
  | nil => exact hstart
  | append_singleton is i ih =>
      rcases (m.allSteps_append C s is [i]).mp hall with ⟨hinit, hlast⟩
      have hnext := hstep is _ _ i hlast.1 (ih hinit)
      simpa only [run_append, run_cons, run_nil, List.append_nil] using hnext

/-- The same for every step. -/
theorem run_history (m : Machine σ ι ο) (P : List ι → σ → List ο → Prop) (s : σ)
    (hstart : P [] s [])
    (hstep : ∀ is t out i, P is t out → P (is ++ [i]) (m.step t i).1 (out ++ (m.step t i).2))
    (is : List ι) : P is (m.run s is).1 (m.run s is).2 :=
  run_history_of m (fun _ _ => True) P s hstart (fun is t out i _ => hstep is t out i) is
    (allSteps_true m s is)

/-- Every input of a run together with what its step emits. -/
def trace (m : Machine σ ι ο) : σ → List ι → List (ι × List ο)
  | _, [] => []
  | s, i :: is => (i, (m.step s i).2) :: m.trace (m.step s i).1 is

theorem trace_append (m : Machine σ ι ο) (s : σ) (is js : List ι) :
    m.trace s (is ++ js) = m.trace s is ++ m.trace (m.run s is).1 js := by
  induction is generalizing s with
  | nil => rfl
  | cons i is ih => simp [trace, ih]

/-- Every input of a run together with the state it comes in. -/
def steps (m : Machine σ ι ο) : σ → List ι → List (σ × ι)
  | _, [] => []
  | s, i :: is => (s, i) :: m.steps (m.step s i).1 is

theorem steps_append (m : Machine σ ι ο) (s : σ) (is js : List ι) :
    m.steps s (is ++ js) = m.steps s is ++ m.steps (m.run s is).1 js := by
  induction is generalizing s with
  | nil => rfl
  | cons i is ih => simp [steps, ih]

/-- What every step that meets `C` keeps, of the trace so far and the state, a run
    of such steps keeps. -/
theorem run_trace_of (m : Machine σ ι ο) (C : σ → ι → Prop) (P : List (ι × List ο) → σ → Prop)
    (s : σ) (hstart : P [] s)
    (hstep : ∀ tr t i, C t i → P tr t → P (tr ++ [(i, (m.step t i).2)]) (m.step t i).1)
    (is : List ι) (hall : m.AllSteps C s is) : P (m.trace s is) (m.run s is).1 := by
  induction is using List.reverseRecOn with
  | nil => exact hstart
  | append_singleton is i ih =>
      rcases (m.allSteps_append C s is [i]).mp hall with ⟨hinit, hlast⟩
      have hnext := hstep _ _ i hlast.1 (ih hinit)
      simpa only [trace_append, trace, run_append, run_cons, run_nil] using hnext

/-- Two machines whose steps keep a relation between their states, with outputs
    that match under `f`, keep it over runs on matching inputs. -/
theorem run_simulates (m : Machine σ ι ο) (n : Machine τ κ ο) (R : σ → τ → Prop) (f : ι → κ)
    (hstep : ∀ s t i, R s t →
      R (m.step s i).1 (n.step t (f i)).1 ∧ (m.step s i).2 = (n.step t (f i)).2)
    (is : List ι) (s : σ) (t : τ) (h : R s t) :
    R (m.run s is).1 (n.run t (is.map f)).1 ∧ (m.run s is).2 = (n.run t (is.map f)).2 := by
  induction is generalizing s t with
  | nil => exact ⟨h, rfl⟩
  | cons i is ih =>
      rcases hstep s t i h with ⟨hR, hout⟩
      rcases ih (m.step s i).1 (n.step t (f i)).1 hR with ⟨hR', hout'⟩
      simp only [List.map_cons, run_cons]
      exact ⟨hR', by rw [hout, hout']⟩

/-- The same for runs of the first machine whose steps all meet `C`. -/
theorem run_simulates_of (m : Machine σ ι ο) (n : Machine τ κ ο) (C : σ → ι → Prop)
    (R : σ → τ → Prop) (f : ι → κ) (hstep : ∀ s t i, C s i → R s t →
      R (m.step s i).1 (n.step t (f i)).1 ∧ (m.step s i).2 = (n.step t (f i)).2)
    (is : List ι) (s : σ) (t : τ) (hall : m.AllSteps C s is) (h : R s t) :
    R (m.run s is).1 (n.run t (is.map f)).1 ∧ (m.run s is).2 = (n.run t (is.map f)).2 := by
  induction is generalizing s t with
  | nil => exact ⟨h, rfl⟩
  | cons i is ih =>
      rcases hstep s t i hall.1 h with ⟨hR, hout⟩
      rcases ih (m.step s i).1 (n.step t (f i)).1 hall.2 hR with ⟨hR', hout'⟩
      simp only [List.map_cons, run_cons]
      exact ⟨hR', by rw [hout, hout']⟩

/-- Two machines on the same inputs, with outputs that look the same under
    `view` wherever the steps of the first meet `C`, look the same over such
    runs. -/
theorem run_agree {ν : Type*} (m : Machine σ ι ο) (n : Machine τ ι ο) (view : ο → Option ν)
    (C : σ → ι → Prop) (R : σ → τ → Prop)
    (hstep : ∀ s t i, C s i → R s t → R (m.step s i).1 (n.step t i).1 ∧
      (m.step s i).2.filterMap view = (n.step t i).2.filterMap view)
    (is : List ι) (s : σ) (t : τ) (hall : m.AllSteps C s is) (h : R s t) :
    R (m.run s is).1 (n.run t is).1 ∧
      (m.run s is).2.filterMap view = (n.run t is).2.filterMap view := by
  induction is generalizing s t with
  | nil => exact ⟨h, rfl⟩
  | cons i is ih =>
      rcases hstep s t i hall.1 h with ⟨hR, hout⟩
      rcases ih (m.step s i).1 (n.step t i).1 hall.2 hR with ⟨hR', hout'⟩
      simp only [run_cons, List.filterMap_append]
      exact ⟨hR', by rw [hout, hout']⟩

/-- The second machine runs on what the first one emits. -/
def cascade (m : Machine σ ι ο) (n : Machine τ ο κ) : Machine (σ × τ) ι κ where
  step s i := (((m.step s.1 i).1, (n.run s.2 (m.step s.1 i).2).1), (n.run s.2 (m.step s.1 i).2).2)

@[simp] theorem cascade_step (m : Machine σ ι ο) (n : Machine τ ο κ) (s : σ) (t : τ) (i : ι) :
    (m.cascade n).step (s, t) i
      = (((m.step s i).1, (n.run t (m.step s i).2).1), (n.run t (m.step s i).2).2) := rfl

theorem cascade_run (m : Machine σ ι ο) (n : Machine τ ο κ) (s : σ) (t : τ) (is : List ι) :
    (m.cascade n).run (s, t) is
      = (((m.run s is).1, (n.run t (m.run s is).2).1), (n.run t (m.run s is).2).2) := by
  induction is generalizing s t with
  | nil => rfl
  | cons i is ih => simp [ih, run_append]

end Machine

end NeoSwift
