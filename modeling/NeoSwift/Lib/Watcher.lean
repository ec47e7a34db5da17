import NeoSwift.Lib.Machine

/-!
# Watchers

A watcher of a machine holds what it has read of its state. It reads again only when the
machine emits something, so what it holds is what it would read now as long as every step
that emits nothing leaves the reading as it was.

The rule is for runs of which each step meets a condition, as a machine may announce most of
its changes and not all of them.

## Main definitions

* `Machine.Announces`: A step that emits nothing leaves the reading as it was.
* `Machine.watched`: The machine with its watcher.

## Theorems

* `watched_current`: What it holds is what it would read.
-/

namespace NeoSwift.Machine

variable {σ ι ο ν : Type*}

/-- A step that emits nothing leaves the reading as it was. -/
def Announces (m : Machine σ ι ο) (read : σ → ν) (s : σ) (i : ι) : Prop :=
  (m.step s i).2 = [] → read (m.step s i).1 = read s

/-- The machine, and what its watcher holds. -/
def watched (m : Machine σ ι ο) (read : σ → ν) : Machine (σ × ν) ι ο where
  step w i :=
    let next := m.step w.1 i
    ((next.1, if next.2.isEmpty then w.2 else read next.1), next.2)

/-- A watcher that is up to date stays so in a run of which every step announces what it
    changes. -/
theorem watched_current (m : Machine σ ι ο) (read : σ → ν) (is : List ι) (s : σ)
    (hall : m.AllSteps (m.Announces read) s is) :
    ((m.watched read).run (s, read s) is).1.2 = read (m.run s is).1 := by
  induction is generalizing s with
  | nil => rfl
  | cons i is ih =>
    rcases hall with ⟨hstep, hrest⟩
    -- What it holds after the first step is what it would read then.
    have hheld : ((m.watched read).step (s, read s) i).1
        = ((m.step s i).1, read (m.step s i).1) := by
      refine Prod.ext rfl ?_
      by_cases hout : (m.step s i).2 = []
      · exact (if_pos (List.isEmpty_iff.mpr hout)).trans (hstep hout).symm
      · exact if_neg fun hempty => hout (List.isEmpty_iff.mp hempty)
    rw [run_cons, hheld]
    exact ih _ hrest

end NeoSwift.Machine
