import Mathlib.Data.Fintype.Basic
import NeoSwift.Lib.VersionedCell

/-!
# Lock-free objects

An object that threads read and write without a lock. The value is never
changed in place: it sits in memory of its own behind a shared pointer, and a
write puts another pointer there. A reader keeps the value alive it has loaded.
A writer loads the pointer, copies the value, hands the copy to a mutator, and
exchanges the pointers if the one it has loaded is still there. A shared writer
does that again until it succeeds, a unique writer does it once.

What the exchange compares are addresses, and memory is used again. The pointers
that a writer keeps to what it has loaded are what makes this right: an address
comes back only when nobody holds it. So the addresses are as good as a count of
the writes, and the object behaves as the versioned cell does, in every
interleaving of any number of clients.

## Main definitions

* `LockFree.Client`: Where a reader or a writer stands, with the pointers it holds.
* `LockFree.State`: The memory, the pointer and the clients.
* `LockFree.lockFree`: The machine, one atomic operation or one access to memory
  of a client's own at a time.
* `LockFree.Allocates`: `make_shared` returns memory that nobody holds.

## Theorems

* `lockFree_refines`: The object behaves as a versioned cell.
* `sharedWrite_no_lost_update`: The value is that of all writes in their order,
  each made once.
* `lockFree_snapshots`: Readers see the value as it was when they loaded it, and an
  attempt to write fails exactly if another one came in between.
-/

namespace NeoSwift.Misc

namespace LockFree

open VersionedCell (Request Event Action Phase)

/-- A reader or a writer at work. `m_old` and `m_ptr` are the pointers it holds; a
    writer that `finished` still has some of them until its destructor has run. -/
inductive Client (A α : Type*) where
  | idle
  | reading (m_ptr : A)
  | loaded (retry : Bool) (mutator : α → α) (m_old : A)
  | copied (retry : Bool) (mutator : α → α) (m_old m_ptr : A)
  | mutated (retry : Bool) (mutator : α → α) (m_old m_ptr : A)
  | failed (mutator : α → α) (m_old m_ptr : A)
  | reloaded (mutator : α → α) (m_old m_ptr : A)
  | finished (held : List A)

variable {τ A α : Type*}

/-- The addresses a client keeps alive. -/
def Client.holds : Client A α → List A
  | .idle => []
  | .reading m_ptr => [m_ptr]
  | .loaded _ _ m_old => [m_old]
  | .copied _ _ m_old m_ptr | .mutated _ _ m_old m_ptr => [m_old, m_ptr]
  | .failed _ m_old m_ptr | .reloaded _ m_old m_ptr => [m_old, m_ptr]
  | .finished held => held

/-- The address of the copy that a client is still to change or to publish. -/
def Client.copy : Client A α → Option A
  | .copied _ _ _ m_ptr | .mutated _ _ _ m_ptr => some m_ptr
  | _ => none

variable {c : Client A α}

theorem Client.copy_mem_holds {a : A} (h : c.copy = some a) : a ∈ c.holds := by
  cases c with
  | copied retry f old p | mutated retry f old p =>
      injection h with h
      exact h ▸ List.mem_cons_of_mem _ List.mem_cons_self
  | _ => cases h

/-- A client that is about to make a copy. -/
def Client.copies : Client A α → Bool
  | .loaded _ _ _ | .reloaded _ _ _ => true
  | _ => false

/-- The memory, the pointer to the value, and who is at work. -/
structure State (τ A α : Type*) where
  heap : A → α
  m_ptr : A
  client : τ → Client A α

/-- An address that a shared pointer still points to. -/
def State.Held (s : State τ A α) (a : A) : Prop :=
  a = s.m_ptr ∨ ∃ t, a ∈ (s.client t).holds

/-- The next step of a client, with the memory `make_shared` returns if it needs any. -/
abbrev Input (τ A α : Type*) := Action τ α × A

/-- `make_shared` returns memory that nobody holds. -/
def Allocates (s : State τ A α) : Input τ A α → Prop
  | (.advance t, a) => (s.client t).copies = true → ¬s.Held a
  | (.call _ _, _) => True

/-- An object with the value `v`, in the memory `a`. -/
def initial (a : A) (v : α) : State τ A α where
  heap := fun _ => v
  m_ptr := a
  client := fun _ => .idle

variable [DecidableEq τ]

/-- The client `t` goes on as `c`. -/
def State.enter (s : State τ A α) (t : τ) (c : Client A α) : State τ A α :=
  { s with client := Function.update s.client t c }

@[simp] theorem enter_client_self (s : State τ A α) (t : τ) (c : Client A α) :
    (s.enter t c).client t = c := by simp [State.enter]

theorem enter_client_of_ne (s : State τ A α) {t u : τ} (c : Client A α) (h : u ≠ t) :
    (s.enter t c).client u = s.client u := by
  simp [State.enter, h]

variable [DecidableEq A]

/-- The object at `a` becomes `v`. -/
def State.store (s : State τ A α) (a : A) (v : α) : State τ A α :=
  { s with heap := Function.update s.heap a v }

omit [DecidableEq τ] in
@[simp] theorem store_heap_self (s : State τ A α) (a : A) (v : α) : (s.store a v).heap a = v := by
  simp [State.store]

omit [DecidableEq τ] in
theorem store_heap_of_ne (s : State τ A α) {a b : A} (v : α) (h : b ≠ a) :
    (s.store a v).heap b = s.heap b := by
  simp [State.store, h]

/-- `read`, `uniqueWrite` and `sharedWrite` up to their `atomic_load`. -/
def call (s : State τ A α) (t : τ) (r : Request α) : State τ A α × List (Event τ α) :=
  match s.client t with
  | .idle =>
      match r with
      | .read => (s.enter t (.reading s.m_ptr), [.called t r])
      | .write retry mutator => (s.enter t (.loaded retry mutator s.m_ptr), [.called t r])
  | _ => (s, [])

/-- `atomic_compare_exchange_strong`, by a shared writer that is to `retry` or in the
    destructor of a unique one. It writes what is there to `m_old` when it fails. -/
def atomicCompareExchange (s : State τ A α) (t : τ) (retry : Bool) (mutator : α → α)
    (m_old m_ptr : A) : State τ A α × List (Event τ α) :=
  if m_old = s.m_ptr then
    ({ s with m_ptr := m_ptr }.enter t (.finished (if retry then [m_old] else [m_old, m_ptr])),
      [.committed t retry mutator])
  else if retry then (s.enter t (.failed mutator s.m_ptr m_ptr), [.failed t])
  else (s.enter t (.finished [s.m_ptr, m_ptr]), [.lost t mutator])

/-- The next step of a client. `a` is the memory for the copy it makes, if any. -/
def advance (s : State τ A α) (t : τ) (a : A) : State τ A α × List (Event τ α) :=
  match s.client t with
  | .idle => (s, [])
  | .reading m_ptr => (s.enter t (.finished [m_ptr]), [.inspected t (s.heap m_ptr)])
  | .loaded retry mutator m_old =>
      ((s.store a (s.heap m_old)).enter t (.copied retry mutator m_old a), [])
  | .copied retry mutator m_old m_ptr =>
      ((s.store m_ptr (mutator (s.heap m_ptr))).enter t (.mutated retry mutator m_old m_ptr), [])
  | .mutated retry mutator m_old m_ptr => atomicCompareExchange s t retry mutator m_old m_ptr
  | .failed mutator _ m_ptr => (s.enter t (.reloaded mutator s.m_ptr m_ptr), [.reloaded t])
  | .reloaded mutator m_old _ =>
      ((s.store a (s.heap m_old)).enter t (.copied true mutator m_old a), [])
  | .finished _ => (s.enter t .idle, [.returned t])

/-- The object with its clients. -/
def lockFree : Machine (State τ A α) (Input τ A α) (Event τ α) where
  step s
    | (.call t r, _) => call s t r
    | (.advance t, a) => advance s t a

/-- The address in place of the value is as good as the version: it is the one a client
    has loaded exactly if the version is. -/
structure Loaded (s : State τ A α) (v : VersionedCell.State τ α) (m_old : A) (n : ℕ) :
    Prop where
  le : n ≤ v.version
  iff : m_old = s.m_ptr ↔ n = v.version

/-- A client of the object stands where one of the versioned cell does. -/
inductive Matches (s : State τ A α) (v : VersionedCell.State τ α) :
    Client A α → Phase α → Prop where
  | idle : Matches s v .idle .idle
  | reading (p : A) : Matches s v (.reading p) (.reading (s.heap p))
  | loaded (retry : Bool) (f : α → α) (old : A) (n : ℕ) (h : Loaded s v old n) :
      Matches s v (.loaded retry f old) (.loaded retry f n (s.heap old))
  | copied (retry : Bool) (f : α → α) (old p : A) (n : ℕ) (h : Loaded s v old n) :
      Matches s v (.copied retry f old p) (.copied retry f n (s.heap p))
  | mutated (retry : Bool) (f : α → α) (old p : A) (n : ℕ) (h : Loaded s v old n) :
      Matches s v (.mutated retry f old p) (.edited retry f n (s.heap p))
  | failed (f : α → α) (old p : A) : Matches s v (.failed f old p) (.failed f)
  | reloaded (f : α → α) (old p : A) (n : ℕ) (h : Loaded s v old n) :
      Matches s v (.reloaded f old p) (.loaded true f n (s.heap old))
  | finished (held : List A) : Matches s v (.finished held) .finished

/-- The object refines the versioned cell: same value, clients in step, and the copy a
    client works on is known to nobody else. -/
structure Refines (s : State τ A α) (v : VersionedCell.State τ α) : Prop where
  value : s.heap s.m_ptr = v.value
  client : ∀ t, Matches s v (s.client t) (v.phase t)
  unshared : ∀ t p, (s.client t).copy = some p → p ≠ s.m_ptr ∧ ∀ u ≠ t, p ∉ (s.client u).holds

omit [DecidableEq τ] [DecidableEq A] in
/-- A client does not notice what happens to memory it does not hold. -/
theorem Matches.frame {s s' : State τ A α} {v v' : VersionedCell.State τ α}
    {p : Phase α} (h : Matches s v c p) (hheap : ∀ a ∈ c.holds, s'.heap a = s.heap a)
    (hloaded : ∀ a ∈ c.holds, ∀ n, Loaded s v a n → Loaded s' v' a n) : Matches s' v' c p := by
  -- Whatever a client goes on with is among what it holds.
  cases h with
  | idle => exact .idle
  | reading a =>
      rw [← hheap a List.mem_cons_self]
      exact .reading a
  | loaded retry f old n h =>
      rw [← hheap old List.mem_cons_self]
      exact .loaded retry f old n (hloaded old List.mem_cons_self n h)
  | copied retry f old a n h =>
      rw [← hheap a (List.mem_cons_of_mem _ List.mem_cons_self)]
      exact .copied retry f old a n (hloaded old List.mem_cons_self n h)
  | mutated retry f old a n h =>
      rw [← hheap a (List.mem_cons_of_mem _ List.mem_cons_self)]
      exact .mutated retry f old a n (hloaded old List.mem_cons_self n h)
  | failed f old a => exact .failed f old a
  | reloaded f old a n h =>
      rw [← hheap old List.mem_cons_self]
      exact .reloaded f old a n (hloaded old List.mem_cons_self n h)
  | finished held => exact .finished held

variable {s : State τ A α}

omit [DecidableEq A] in
/-- What nobody else holds is held by nobody else after a step with which `t` does not
    come to hold it. -/
theorem unshared_enter {t u : τ} {q : A}
    (hothers : ∀ w ≠ u, q ∉ (s.client w).holds) (hc : t ≠ u → q ∉ c.holds) :
    ∀ w ≠ u, q ∉ ((s.enter t c).client w).holds := by
  intro w hw
  by_cases hwt : w = t
  · subst hwt
    rw [enter_client_self]
    exact hc hw
  · rw [enter_client_of_ne _ _ hwt]
    exact hothers w hw

variable {v : VersionedCell.State τ α}

omit [DecidableEq A] in
/-- A step of `t` that leaves the memory, the pointer and the cell alone. -/
theorem refines_enter {t : τ} {p : Phase α} (h : Refines s v) (hc : Matches s v c p)
    (hcopy : c.copy = none ∨ c.copy = (s.client t).copy)
    (hholds : ∀ a ∈ c.holds, a = s.m_ptr ∨ a ∈ (s.client t).holds) :
    Refines (s.enter t c) (v.enter t p) where
  value := h.value
  client u := by
    by_cases hu : u = t
    · subst hu
      rw [enter_client_self, VersionedCell.enter_phase_self]
      exact hc.frame (fun a _ => rfl) fun a _ n hn => ⟨hn.le, hn.iff⟩
    · rw [enter_client_of_ne _ _ hu, VersionedCell.enter_phase_of_ne _ _ hu]
      exact (h.client u).frame (fun a _ => rfl) fun a _ n hn => ⟨hn.le, hn.iff⟩
  unshared u q hq := by
    by_cases hu : u = t
    · subst hu
      rw [enter_client_self] at hq
      rcases hcopy with hnone | hsame
      · exact nomatch hnone.symm.trans hq
      · rcases h.unshared u q (hsame.symm.trans hq) with ⟨hne, hothers⟩
        exact ⟨hne, unshared_enter hothers fun ht => absurd rfl ht⟩
    · rw [enter_client_of_ne _ _ hu] at hq
      rcases h.unshared u q hq with ⟨hne, hothers⟩
      exact ⟨hne, unshared_enter hothers fun ht hmem => (hholds q hmem).elim hne (hothers t ht)⟩

/-- A step of `t` that writes to memory which is its own, for the copy it goes on with. -/
theorem refines_store_enter {t : τ} {a : A}
    {w : α} {p : Phase α} (h : Refines s v) (ha : a ≠ s.m_ptr)
    (hother : ∀ u ≠ t, a ∉ (s.client u).holds) (hc : Matches (s.store a w) v c p)
    (hcopy : c.copy = some a) (hholds : ∀ b ∈ c.holds, b = a ∨ b ∈ (s.client t).holds) :
    Refines ((s.store a w).enter t c) (v.enter t p) where
  value := (store_heap_of_ne s w ha.symm).trans h.value
  client u := by
    by_cases hu : u = t
    · subst hu
      rw [enter_client_self, VersionedCell.enter_phase_self]
      exact hc.frame (fun b _ => rfl) fun b _ n hn => ⟨hn.le, hn.iff⟩
    · rw [enter_client_of_ne _ _ hu, VersionedCell.enter_phase_of_ne _ _ hu]
      refine (h.client u).frame (fun b hb => store_heap_of_ne s w ?_)
        fun b _ n hn => ⟨hn.le, hn.iff⟩
      intro hba
      rw [hba] at hb
      exact hother u hu hb
  unshared u q hq := by
    by_cases hu : u = t
    · subst hu
      rw [enter_client_self, hcopy] at hq
      injection hq with hq
      rw [← hq]
      exact ⟨ha, unshared_enter (s := s.store a w) hother fun ht => absurd rfl ht⟩
    · rw [enter_client_of_ne _ _ hu] at hq
      rcases h.unshared u q hq with ⟨hne, hothers⟩
      refine ⟨hne, unshared_enter (s := s.store a w) hothers fun ht hmem => ?_⟩
      rcases hholds q hmem with hqa | hold
      · -- The copy of `u` is held by `u`, which does not hold the new one.
        exact hother u hu (hqa ▸ Client.copy_mem_holds hq)
      · exact hothers t ht hold

omit [DecidableEq A] in
/-- An exchange that succeeds. The copy was known to its writer only, so nobody else has
    loaded the address that is now the value's. -/
theorem refines_commit {t : τ} (h : Refines s v)
    (a : A) (held : List A) (hcopy : (s.client t).copy = some a)
    (hholds : ∀ b ∈ held, b ∈ (s.client t).holds) :
    Refines ({ s with m_ptr := a }.enter t (.finished held))
      ({ v with version := v.version + 1, value := s.heap a }.enter t .finished) where
  value := rfl
  client u := by
    by_cases hu : u = t
    · subst hu
      rw [enter_client_self, VersionedCell.enter_phase_self]
      exact .finished held
    · rw [enter_client_of_ne _ _ hu, VersionedCell.enter_phase_of_ne _ _ hu]
      -- Nobody else holds the address of the copy, and none has loaded the new version.
      refine (h.client u).frame (fun b _ => rfl) fun b hb n hn =>
        ⟨Nat.le_succ_of_le hn.le, ⟨fun (hba : b = a) => ?_, fun (hnv : n = v.version + 1) => ?_⟩⟩
      · rw [hba] at hb
        exact absurd hb ((h.unshared t a hcopy).2 u hu)
      · exact absurd hn.le (by omega)
  unshared u q hq := by
    by_cases hu : u = t
    · subst hu
      rw [enter_client_self] at hq
      cases hq
    · rw [enter_client_of_ne _ _ hu] at hq
      rcases h.unshared u q hq with ⟨hne, hothers⟩
      refine ⟨fun (hqa : q = a) => ?_, unshared_enter (s := { s with m_ptr := a }) hothers
        fun ht hmem => hothers t ht (hholds q hmem)⟩
      rw [hqa] at hq
      exact (h.unshared t a hcopy).2 u hu (Client.copy_mem_holds hq)

omit [DecidableEq A] in
theorem refines_call (h : Refines s v) (t : τ)
    (r : Request α) : Refines (call s t r).1 (VersionedCell.call v t r).1 ∧
      (call s t r).2 = (VersionedCell.call v t r).2 := by
  have hc := h.client t
  unfold call VersionedCell.call
  generalize hp : v.phase t = p at hc
  cases hs : s.client t with
  | idle =>
      rw [hs] at hc
      cases hc
      cases r with
      -- A reader takes the address of the value, a writer the version too.
      | read =>
          rw [← h.value]
          refine ⟨refines_enter h (.reading s.m_ptr) (.inl rfl) fun a ha => .inl ?_, rfl⟩
          exact List.mem_singleton.mp ha
      | write retry f =>
          rw [← h.value]
          refine ⟨refines_enter h (.loaded retry f s.m_ptr v.version ⟨le_refl _, ?_⟩) (.inl rfl)
            fun a ha => .inl (List.mem_singleton.mp ha), rfl⟩
          exact ⟨fun _ => rfl, fun _ => rfl⟩
  -- A thread that is busy is not asked anything else.
  | _ =>
      rw [hs] at hc
      cases hc
      exact ⟨h, rfl⟩

/-- A copy of what a client has loaded, in memory that nobody holds. -/
theorem refines_copies (h : Refines s v) (t : τ)
    (a old : A) (n : ℕ) (retry : Bool) (f : α → α) (hfree : ¬s.Held a)
    (hold : old ∈ (s.client t).holds) (hn : Loaded s v old n) :
    Refines ((s.store a (s.heap old)).enter t (.copied retry f old a))
      (v.enter t (.copied retry f n (s.heap old))) := by
  refine refines_store_enter h (fun ha => hfree (.inl ha))
    (fun u _ hu => hfree (.inr ⟨u, hu⟩)) ?_ rfl fun b hb => ?_
  · have hc := Matches.copied (s := s.store a (s.heap old)) (v := v) retry f old a n ⟨hn.le, hn.iff⟩
    rwa [store_heap_self] at hc
  · rcases List.mem_cons.mp hb with hb | hb
    · exact .inr (hb ▸ hold)
    · exact .inl (List.mem_singleton.mp hb)

theorem refines_advance (h : Refines s v)
    (t : τ) (a : A) (ha : (s.client t).copies = true → ¬s.Held a) :
    Refines (advance s t a).1 (VersionedCell.advance v t).1 ∧
      (advance s t a).2 = (VersionedCell.advance v t).2 := by
  have hc := h.client t
  have hshare := h.unshared t
  have hcopies := refines_copies h t a
  have hcommit := refines_commit h (t := t)
  have hkeep := fun c p => refines_enter h (t := t) (c := c) (p := p)
  unfold advance VersionedCell.advance
  generalize hp : v.phase t = p at hc
  generalize hs : s.client t = c at hc ha hshare hcopies hcommit hkeep
  cases hc with
  | idle => exact ⟨h, rfl⟩
  | reading p =>
      exact ⟨hkeep _ _ (.finished [p]) (.inl rfl) fun b hb => .inr hb, rfl⟩
  | loaded retry f old n hn =>
      exact ⟨hcopies old n retry f (ha rfl) List.mem_cons_self hn, rfl⟩
  -- The copy is the thread's own, so nobody sees that it is mutated.
  | copied retry f old p n hn =>
      rcases hshare p rfl with ⟨hne, hothers⟩
      refine ⟨refines_store_enter h hne hothers ?_ rfl fun b hb => ?_, rfl⟩
      · have hc := Matches.mutated (s := s.store p (f (s.heap p))) (v := v) retry f old p n
          ⟨hn.le, hn.iff⟩
        rwa [store_heap_self] at hc
      · rw [hs]
        exact .inr hb
  | mutated retry f old p n hn =>
      simp only [atomicCompareExchange, VersionedCell.compareExchange, hn.iff]
      -- The pointers agree exactly where the versions do, so both exchanges go the same way.
      by_cases hver : n = v.version
      · rw [if_pos hver, if_pos hver]
        refine ⟨hcommit p _ rfl fun b hb => ?_, rfl⟩
        cases retry with
        | true => exact List.mem_cons.mpr (.inl (List.mem_singleton.mp hb))
        | false => exact hb
      · rw [if_neg hver, if_neg hver]
        cases retry with
        | true =>
            refine ⟨hkeep _ _ (.failed f s.m_ptr p) (.inl rfl) fun b hb => ?_, rfl⟩
            exact (List.mem_cons.mp hb).imp id (List.mem_cons_of_mem _)
        | false =>
            refine ⟨hkeep _ _ (.finished [s.m_ptr, p]) (.inl rfl) fun b hb => ?_, rfl⟩
            exact (List.mem_cons.mp hb).imp id (List.mem_cons_of_mem _)
  | failed f old p =>
      rw [← h.value]
      refine ⟨hkeep _ _ (.reloaded f s.m_ptr p v.version ⟨le_refl _, ?_⟩) (.inl rfl)
        fun b hb => ?_, rfl⟩
      · exact ⟨fun _ => rfl, fun _ => rfl⟩
      · exact (List.mem_cons.mp hb).imp id (List.mem_cons_of_mem _)
  | reloaded f old p n hn =>
      exact ⟨hcopies old n true f (ha rfl) List.mem_cons_self hn, rfl⟩
  | finished held =>
      exact ⟨hkeep _ _ .idle (.inl rfl) fun b hb => absurd hb List.not_mem_nil, rfl⟩

omit [DecidableEq τ] [DecidableEq A] in
theorem refines_initial (a : A) (v : α) :
    Refines (initial a v : State τ A α) (VersionedCell.initial v) where
  value := rfl
  client _ := .idle
  unshared _ _ hp := nomatch hp

instance [Fintype τ] (s : State τ A α) (a : A) : Decidable (s.Held a) :=
  inferInstanceAs (Decidable (a = s.m_ptr ∨ ∃ t, a ∈ (s.client t).holds))

instance [Fintype τ] (s : State τ A α) : ∀ i, Decidable (Allocates s i)
  | (.advance t, a) => inferInstanceAs (Decidable ((s.client t).copies = true → ¬s.Held a))
  | (.call _ _, _) => inferInstanceAs (Decidable True)

theorem refines_run (a : A) (v : α) (inputs : List (Input τ A α))
    (halloc : lockFree.AllSteps Allocates (initial a v) inputs) :
    Refines (lockFree.run (initial a v) inputs).1
        (VersionedCell.cell.run (VersionedCell.initial v) (inputs.map Prod.fst)).1 ∧
      (lockFree.run (initial a v) inputs).2
        = (VersionedCell.cell.run (VersionedCell.initial v) (inputs.map Prod.fst)).2 := by
  refine lockFree.run_simulates_of VersionedCell.cell Allocates Refines Prod.fst ?_ inputs
    (initial a v) (VersionedCell.initial v) halloc (refines_initial a v)
  rintro s w ⟨act, b⟩ hC hR
  cases act with
  | call t r => exact refines_call hR t r
  | advance t => exact refines_advance hR t b hC

/-- In every interleaving of its clients, the object does what a versioned cell does,
    however often memory is used again, and has the value of the cell. -/
theorem lockFree_refines (a : A) (v : α) (inputs : List (Input τ A α))
    (halloc : lockFree.AllSteps Allocates (initial a v) inputs) :
    let (s, out) := lockFree.run (initial a v) inputs
    let (w, out') := VersionedCell.cell.run (VersionedCell.initial v) (inputs.map Prod.fst)
    out = out' ∧ s.heap s.m_ptr = w.value := by
  rcases refines_run a v inputs halloc with ⟨hR, hout⟩
  exact ⟨hout, hR.value⟩

/-- Two clients write at once. The second comes too late, and uses memory again for its
    next copy. -/
def overtaken : List (Input Bool ℕ ℕ) :=
  [(.call true (.write true (· + 1)), 0), (.call false (.write true (· * 2)), 0),
    (.advance true, 1), (.advance false, 2), (.advance true, 0), (.advance true, 0),
    (.advance true, 0), (.advance false, 0), (.advance false, 0), (.advance false, 0),
    (.advance false, 0), (.advance false, 0), (.advance false, 0)]

theorem lockFree_refines_overtaken :
    let (s, out) := lockFree.run (initial 0 5) overtaken
    let (w, out') := VersionedCell.cell.run (VersionedCell.initial 5) (overtaken.map Prod.fst)
    out = out' ∧ s.heap s.m_ptr = w.value :=
  lockFree_refines 0 5 overtaken (by decide)

/-- The writes of a client that are not done yet. -/
def Client.pending : Client A α → List (Bool × (α → α))
  | .loaded retry f _ | .copied retry f _ _ | .mutated retry f _ _ => [(retry, f)]
  | .failed f _ _ | .reloaded f _ _ => [(true, f)]
  | _ => []

omit [DecidableEq τ] [DecidableEq A] in
theorem Matches.pending {p : Phase α} (h : Matches s v c p) : c.pending = p.pending := by
  cases h <;> rfl

/-- No write is lost or made twice: the value is what the writes that went through
    make of the first one, one after the other, and those of each client are the ones
    it asked for, in its order. -/
theorem sharedWrite_no_lost_update (a : A) (v : α) (inputs : List (Input τ A α))
    (halloc : lockFree.AllSteps Allocates (initial a v) inputs) :
    let (s, out) := lockFree.run (initial a v) inputs
    s.heap s.m_ptr = VersionedCell.replay v out ∧
      ∀ t, VersionedCell.asked t out = VersionedCell.settled t out ++ (s.client t).pending := by
  rcases refines_run a v inputs halloc with ⟨hR, hout⟩
  dsimp only
  rw [hR.value, hout]
  refine ⟨VersionedCell.run_value v _, fun t => ?_⟩
  rw [(hR.client t).pending]
  exact VersionedCell.run_settled v _ t

theorem sharedWrite_no_lost_update_overtaken :
    let (s, out) := lockFree.run (initial 0 5) overtaken
    s.heap s.m_ptr = VersionedCell.replay 5 out ∧
      ∀ t, VersionedCell.asked t out = VersionedCell.settled t out ++ (s.client t).pending :=
  sharedWrite_no_lost_update 0 5 overtaken (by decide)

/-- A reader sees the value as it was when it loaded it, whatever is written meanwhile,
    and an attempt to write goes through exactly if no other write did since its load:
    a unique writer loses its write, or a shared one tries again, only then. -/
theorem lockFree_snapshots (a : A) (v : α) (inputs : List (Input τ A α))
    (halloc : lockFree.AllSteps Allocates (initial a v) inputs) (pre post : List (Event τ α))
    (e : Event τ α) (hout : (lockFree.run (initial a v) inputs).2 = pre ++ e :: post) :
    (∀ t w, e = .inspected t w → ∃ before between,
        VersionedCell.AskedAfter t pre before between ∧ w = VersionedCell.replay v before) ∧
      ∀ t ok, e.attempt = some (t, ok) → ∃ before between,
        VersionedCell.LoadedAfter t pre before between ∧
          (ok = true ↔ VersionedCell.changes between = 0) := by
  rw [(refines_run a v inputs halloc).2] at hout
  refine ⟨fun t w he => ?_, fun t ok he => ?_⟩
  · exact (VersionedCell.run_explained v _ pre e post hout).inspected t w he
  · exact (VersionedCell.run_explained v _ pre e post hout).attempted t ok he

theorem lockFree_snapshots_overtaken : ∃ before between, VersionedCell.LoadedAfter false
        [.called true (.write true (· + 1)), .called false (.write true (· * 2)),
          .committed true true (· + 1), .returned true] before between ∧
      (false = true ↔ VersionedCell.changes between = 0) :=
  (lockFree_snapshots 0 5 overtaken (by decide)
    [.called true (.write true (· + 1)), .called false (.write true (· * 2)),
      .committed true true (· + 1), .returned true]
    [.reloaded false, .committed false true (· * 2)] (.failed false) rfl).2 false false rfl

end LockFree

end NeoSwift.Misc
