import Mathlib.Logic.Function.Basic
import Mathlib.Algebra.Order.Ring.Int
import NeoSwift.Lib.Machine

/-!
# Versioned cells

One value that several clients read and change without a lock. A client that
changes it works on a copy of its own: it loads the value, edits the copy, and
puts it back if nobody else has put one back since. A client that lost this race
either loads the value again and edits anew, or gives up. Here the cell counts
the changes made to it, and what is compared is that count.

## Main definitions

* `VersionedCell.Request`: What a client asks of the cell.
* `VersionedCell.Phase`: Where a client stands.
* `VersionedCell.cell`: The machine.
* `VersionedCell.replay`: The changes in a history made on a value.
* `VersionedCell.Phase.pending`: What a client is not through with.
* `VersionedCell.Explained`: What is behind a look and behind an attempt.

## Theorems

* `run_value`: The value is what the committed changes make of the first one.
* `run_settled`: What a client asked for is what came of it and what is pending.
* `run_explained`: What a client reads is the value when it asked for it, and an attempt
  fails exactly if it was overtaken.
-/

namespace NeoSwift.VersionedCell

/-- What a client asks of the cell: to look at the value, or to change it, with
    further attempts if the first one comes too late or without. -/
inductive Request (α : Type*) where
  | read
  | write (retry : Bool) (f : α → α)

/-- Where a client stands. The versions are those of the value it has loaded. -/
inductive Phase (α : Type*) where
  | idle
  | reading (v : α)
  | loaded (retry : Bool) (f : α → α) (version : ℕ) (v : α)
  | copied (retry : Bool) (f : α → α) (version : ℕ) (copy : α)
  | edited (retry : Bool) (f : α → α) (version : ℕ) (copy : α)
  | failed (f : α → α)
  | finished

/-- What happens: a client asks for something, or takes its next step. -/
inductive Action (τ α : Type*) where
  | call (t : τ) (r : Request α)
  | advance (t : τ)

/-- What can be seen from outside. -/
inductive Event (τ α : Type*) where
  | called (t : τ) (r : Request α)
  | inspected (t : τ) (v : α)
  | committed (t : τ) (retry : Bool) (f : α → α)
  | failed (t : τ)
  | reloaded (t : τ)
  | lost (t : τ) (f : α → α)
  | returned (t : τ)

/-- The value, how often it was changed, and the clients. -/
structure State (τ α : Type*) where
  version : ℕ
  value : α
  phase : τ → Phase α

variable {τ α : Type*}

/-- A value nobody has asked for yet. -/
def initial (v : α) : State τ α where
  version := 0
  value := v
  phase := fun _ => .idle

/-- The client an action is of. -/
def Action.client : Action τ α → τ
  | .call t _ => t
  | .advance t => t

/-- The client an event is of. -/
def Event.client : Event τ α → τ
  | .called t _ => t
  | .inspected t _ => t
  | .committed t _ _ => t
  | .failed t => t
  | .reloaded t => t
  | .lost t _ => t
  | .returned t => t

/-- The change an event makes. -/
def Event.change : Event τ α → Option (α → α)
  | .committed _ _ f => some f
  | _ => none

/-- The changes a history makes on a value, one after the other. -/
def replay (v : α) (out : List (Event τ α)) : α :=
  (out.filterMap Event.change).foldl (fun v f => f v) v

/-- How many changes a history makes. -/
def changes (out : List (Event τ α)) : ℕ := out.countP fun e => e.change.isSome

theorem replay_append (v : α) (out es : List (Event τ α)) :
    replay v (out ++ es) = replay (replay v out) es := by
  simp [replay]

theorem changes_append (out es : List (Event τ α)) :
    changes (out ++ es) = changes out + changes es := List.countP_append

variable [DecidableEq τ]

/-- The client `t` moves to the phase `p`. -/
def State.enter (s : State τ α) (t : τ) (p : Phase α) : State τ α :=
  { s with phase := Function.update s.phase t p }

@[simp] theorem enter_value (s : State τ α) (t : τ) (p : Phase α) :
    (s.enter t p).value = s.value := rfl

@[simp] theorem enter_phase_self (s : State τ α) (t : τ) (p : Phase α) :
    (s.enter t p).phase t = p := by simp [State.enter]

theorem enter_phase_of_ne (s : State τ α) {t u : τ} (p : Phase α) (h : u ≠ t) :
    (s.enter t p).phase u = s.phase u := by
  simp [State.enter, h]

/-- A client that is not busy asks for something. Both requests load the value. -/
def call (s : State τ α) (t : τ) (r : Request α) : State τ α × List (Event τ α) :=
  match s.phase t with
  | .idle =>
      match r with
      | .read => (s.enter t (.reading s.value), [.called t r])
      | .write retry f => (s.enter t (.loaded retry f s.version s.value), [.called t r])
  | _ => (s, [])

/-- The edited copy replaces the value, if that is still the one it was copied
    from. -/
def compareExchange (s : State τ α) (t : τ) (retry : Bool) (f : α → α) (version : ℕ)
    (copy : α) : State τ α × List (Event τ α) :=
  if version = s.version then
    ({ s with version := s.version + 1, value := copy }.enter t .finished, [.committed t retry f])
  else if retry then (s.enter t (.failed f), [.failed t])
  else (s.enter t .finished, [.lost t f])

/-- The next step of a client. -/
def advance (s : State τ α) (t : τ) : State τ α × List (Event τ α) :=
  match s.phase t with
  | .idle => (s, [])
  | .reading v => (s.enter t .finished, [.inspected t v])
  | .loaded retry f version v => (s.enter t (.copied retry f version v), [])
  | .copied retry f version copy => (s.enter t (.edited retry f version (f copy)), [])
  | .edited retry f version copy => compareExchange s t retry f version copy
  | .failed f => (s.enter t (.loaded true f s.version s.value), [.reloaded t])
  | .finished => (s.enter t .idle, [.returned t])

/-- The cell with its clients. -/
def cell : Machine (State τ α) (Action τ α) (Event τ α) where
  step s
    | .call t r => call s t r
    | .advance t => advance s t

/-- What the client `t` can do in the state `s`, with everything its step needs. -/
inductive Moves (s : State τ α) (t : τ) : State τ α → List (Event τ α) → Prop where
  | ignored : Moves s t s []
  | asksRead (h : s.phase t = .idle) :
      Moves s t (s.enter t (.reading s.value)) [.called t .read]
  | asksWrite (retry : Bool) (f : α → α) (h : s.phase t = .idle) :
      Moves s t (s.enter t (.loaded retry f s.version s.value)) [.called t (.write retry f)]
  | inspects (v : α) (h : s.phase t = .reading v) :
      Moves s t (s.enter t .finished) [.inspected t v]
  | copies (retry : Bool) (f : α → α) (n : ℕ) (v : α) (h : s.phase t = .loaded retry f n v) :
      Moves s t (s.enter t (.copied retry f n v)) []
  | edits (retry : Bool) (f : α → α) (n : ℕ) (v : α) (h : s.phase t = .copied retry f n v) :
      Moves s t (s.enter t (.edited retry f n (f v))) []
  | commits (retry : Bool) (f : α → α) (n : ℕ) (v : α) (h : s.phase t = .edited retry f n v)
      (hn : n = s.version) :
      Moves s t ({ s with version := s.version + 1, value := v }.enter t .finished)
        [.committed t retry f]
  | fails (f : α → α) (n : ℕ) (v : α) (h : s.phase t = .edited true f n v)
      (hn : n ≠ s.version) :
      Moves s t (s.enter t (.failed f)) [.failed t]
  | loses (f : α → α) (n : ℕ) (v : α) (h : s.phase t = .edited false f n v)
      (hn : n ≠ s.version) :
      Moves s t (s.enter t .finished) [.lost t f]
  | reloads (f : α → α) (h : s.phase t = .failed f) :
      Moves s t (s.enter t (.loaded true f s.version s.value)) [.reloaded t]
  | returns (h : s.phase t = .finished) : Moves s t (s.enter t .idle) [.returned t]

theorem moves_call (s : State τ α) (t : τ) (r : Request α) :
    Moves s t (call s t r).1 (call s t r).2 := by
  unfold call
  cases h : s.phase t with
  | idle =>
      cases r with
      | read => exact .asksRead h
      | write retry f => exact .asksWrite retry f h
  | _ => exact .ignored

theorem moves_advance (s : State τ α) (t : τ) : Moves s t (advance s t).1 (advance s t).2 := by
  unfold advance
  cases h : s.phase t with
  | idle => exact .ignored
  | reading v => exact .inspects v h
  | loaded retry f n v => exact .copies retry f n v h
  | copied retry f n v => exact .edits retry f n v h
  | edited retry f n v =>
      simp only [compareExchange]
      by_cases hn : n = s.version
      · rw [if_pos hn]
        exact .commits retry f n v h hn
      · rw [if_neg hn]
        cases retry with
        | true => exact .fails f n v h hn
        | false => exact .loses f n v h hn
  | failed f => exact .reloads f h
  | finished => exact .returns h

/-- What a step of the cell is. -/
theorem moves_step (s : State τ α) (a : Action τ α) :
    Moves s a.client (cell.step s a).1 (cell.step s a).2 := by
  cases a with
  | call t r => exact moves_call s t r
  | advance t => exact moves_advance s t

variable {s s' : State τ α} {es : List (Event τ α)}

/-- The other clients stay where they are. -/
theorem Moves.phase_of_ne {t u : τ}
    (h : Moves s t s' es) (hu : u ≠ t) : s'.phase u = s.phase u := by
  cases h with
  | ignored => rfl
  | _ => exact enter_phase_of_ne _ _ hu

variable {t : τ}

/-- A step emits what its client does. -/
theorem Moves.client_eq (h : Moves s t s' es) : ∀ e ∈ es, e.client = t := by
  cases h with
  | ignored | copies | edits => exact nofun
  | _ => exact fun e he => by rw [List.mem_singleton.mp he]; rfl

/-- The version counts the changes. -/
theorem Moves.version_eq (h : Moves s t s' es) : s'.version = s.version + changes es := by
  cases h <;> rfl

/-- What a client has loaded is the value, and its edited copy what it makes of the
    value, unless the cell has moved on. -/
def UpToDate (s : State τ α) : Phase α → Prop
  | .loaded _ _ n v => n ≤ s.version ∧ (n = s.version → v = s.value)
  | .copied _ _ n v => n ≤ s.version ∧ (n = s.version → v = s.value)
  | .edited _ f n v => n ≤ s.version ∧ (n = s.version → v = f s.value)
  | _ => True

/-- Whoever makes a step, nobody else's copy gets out of date unnoticed: the version
    moves with the value. -/
theorem UpToDate.moves {p : Phase α} (hp : UpToDate s p) (h : Moves s t s' es) : UpToDate s' p := by
  cases h with
  | commits retry f n v h hn =>
      cases p with
      | loaded retry' g m w | copied retry' g m w | edited retry' g m w =>
          exact ⟨Nat.le_succ_of_le hp.1, fun (hm : m = s.version + 1) => absurd hp.1 (by omega)⟩
      | _ => trivial
  | _ => cases p <;> exact hp

theorem upToDate_moves (hs : ∀ u, UpToDate s (s.phase u)) (h : Moves s t s' es) (u : τ) :
    UpToDate s' (s'.phase u) := by
  by_cases hu : u = t
  · subst hu
    cases h with
    | ignored => exact hs u
    | asksWrite retry f h =>
        rw [enter_phase_self]
        exact ⟨le_refl _, fun _ => rfl⟩
    | copies retry f n v h =>
        have hold := hs u
        rw [h] at hold
        rw [enter_phase_self]
        exact hold
    -- The copy is edited as the value would be, while the version is still the same.
    | edits retry f n v h =>
        have hold := hs u
        rw [h] at hold
        rw [enter_phase_self]
        exact ⟨hold.1, fun hn => by rw [hold.2 hn, enter_value]⟩
    | reloads f h =>
        rw [enter_phase_self]
        exact ⟨le_refl _, fun _ => rfl⟩
    | _ =>
        rw [enter_phase_self]
        trivial
  · rw [h.phase_of_ne hu]
    exact (hs u).moves h

/-- A step makes the change it reports on the value. -/
theorem Moves.value_eq
    (hs : UpToDate s (s.phase t)) (h : Moves s t s' es) : s'.value = replay s.value es := by
  cases h with
  | commits retry f n v h hn =>
      rw [h] at hs
      exact hs.2 hn
  | _ => rfl

/-- What is known of a cell whose history on the first value `v` is `out`. -/
structure Tracks (v : α) (s : State τ α) (out : List (Event τ α)) : Prop where
  version : s.version = changes out
  value : s.value = replay v out
  upToDate : ∀ t, UpToDate s (s.phase t)

theorem tracks_moves {v : α} {es out : List (Event τ α)}
    (hs : Tracks v s out) (h : Moves s t s' es) : Tracks v s' (out ++ es) where
  version := by rw [h.version_eq, changes_append, hs.version]
  value := by rw [h.value_eq (hs.upToDate t), replay_append, hs.value]
  upToDate := upToDate_moves hs.upToDate h

omit [DecidableEq τ] in
theorem tracks_initial (v : α) : Tracks v (initial v : State τ α) [] :=
  ⟨rfl, rfl, fun _ => trivial⟩

theorem run_tracks (v : α) (acts : List (Action τ α)) :
    Tracks v (cell.run (initial v) acts).1 (cell.run (initial v) acts).2 := by
  have h := cell.run_invariant (Tracks v)
    (fun s out a hs => tracks_moves hs (moves_step s a)) acts (initial v) [] (tracks_initial v)
  simpa only [List.nil_append] using h

/-- The value is what the committed changes make of the first one, in the order
    they were committed in. -/
theorem run_value (v : α) (acts : List (Action τ α)) :
    (cell.run (initial v) acts).1.value = replay v (cell.run (initial v) acts).2 :=
  (run_tracks v acts).value

/-- The changes `t` has asked for, with whether it would retry. -/
def asked (t : τ) (out : List (Event τ α)) : List (Bool × (α → α)) :=
  out.filterMap fun
    | .called u (.write retry f) => if u = t then some (retry, f) else none
    | _ => none

/-- The changes of `t` that are settled: made, or given up after one attempt. -/
def settled (t : τ) (out : List (Event τ α)) : List (Bool × (α → α)) :=
  out.filterMap fun
    | .committed u retry f => if u = t then some (retry, f) else none
    | .lost u f => if u = t then some (false, f) else none
    | _ => none

/-- The change a client in this phase still wants to make. -/
def Phase.pending : Phase α → List (Bool × (α → α))
  | .loaded retry f _ _ | .copied retry f _ _ | .edited retry f _ _ => [(retry, f)]
  | .failed f => [(true, f)]
  | _ => []

theorem Moves.settles (h : Moves s t s' es)
    (u : τ) : (s.phase u).pending ++ asked u es = settled u es ++ (s'.phase u).pending := by
  by_cases hu : u = t
  · subst hu
    cases h with
    | ignored => exact List.append_nil _
    | _ => simp [*, asked, settled, Phase.pending]
  · rw [h.phase_of_ne hu]
    have hne := Ne.symm hu
    cases h <;> simp [asked, settled, hne]

/-- Every change a client has asked for is settled once, in the order it asked in,
    but for the one it is working on. -/
theorem run_settled (v : α) (acts : List (Action τ α)) (t : τ) :
    asked t (cell.run (initial v) acts).2
      = settled t (cell.run (initial v) acts).2
        ++ ((cell.run (initial v) acts).1.phase t).pending := by
  have h := cell.run_invariant
    (fun s out => asked t out = settled t out ++ (s.phase t).pending) ?_ acts (initial v) [] rfl
  · simpa only [List.nil_append] using h
  · intro s out a h
    simp only [asked, settled, List.filterMap_append] at h ⊢
    rw [h, List.append_assoc, List.append_assoc]
    exact congrArg _ ((moves_step s a).settles t)

/-- The attempt an event decides: whose it is, and whether it came in time. -/
def Event.attempt : Event τ α → Option (τ × Bool)
  | .committed t _ _ => some (t, true)
  | .failed t | .lost t _ => some (t, false)
  | _ => none

/-- The version a client has loaded. -/
def Phase.version : Phase α → Option ℕ
  | .loaded _ _ n _ | .copied _ _ n _ | .edited _ _ n _ => some n
  | _ => none

/-- The client `t` does nothing that can be seen in a history. -/
def Quiet (t : τ) (es : List (Event τ α)) : Prop := ∀ e ∈ es, e.client ≠ t

/-- An event with which `t` loads the value to change it. -/
inductive Event.Loads : Event τ α → τ → Prop where
  | called (t : τ) (retry : Bool) (f : α → α) : Loads (.called t (.write retry f)) t
  | reloaded (t : τ) : Loads (.reloaded t) t

/-- The last thing `t` did was to load the value, after `before`. -/
def LoadedAfter (t : τ) (out before between : List (Event τ α)) : Prop :=
  ∃ load : Event τ α, out = before ++ load :: between ∧ load.Loads t ∧ Quiet t between

/-- The last thing `t` did was to ask for a look at the value, after `before`. -/
def AskedAfter (t : τ) (out before between : List (Event τ α)) : Prop :=
  out = before ++ .called t .read :: between ∧ Quiet t between

/-- Where the phase of a client comes from. -/
def Origin (v : α) (t : τ) (out : List (Event τ α)) (p : Phase α) : Prop :=
  (∀ w, p = .reading w → ∃ before between, AskedAfter t out before between ∧ w = replay v before) ∧
  ∀ n, p.version = some n → ∃ before between, LoadedAfter t out before between ∧ n = changes before

omit [DecidableEq τ] in
theorem Quiet.append {es fs : List (Event τ α)} (he : Quiet t es) (hf : Quiet t fs) :
    Quiet t (es ++ fs) := fun e h => (List.mem_append.mp h).elim (he e) (hf e)

omit [DecidableEq τ] in
/-- What others do is added behind. -/
theorem Origin.append {v : α} {out es : List (Event τ α)} {p : Phase α}
    (h : Origin v t out p) (hes : Quiet t es) : Origin v t (out ++ es) p := by
  refine ⟨fun w hw => ?_, fun n hn => ?_⟩
  · rcases h.1 w hw with ⟨before, between, ⟨hout, hq⟩, hval⟩
    refine ⟨before, between ++ es, ⟨?_, hq.append hes⟩, hval⟩
    rw [hout, List.append_assoc, List.cons_append]
  · rcases h.2 n hn with ⟨before, between, ⟨load, hout, hload, hq⟩, hver⟩
    refine ⟨before, between ++ es, ⟨load, ?_, hload, hq.append hes⟩, hver⟩
    rw [hout, List.append_assoc, List.cons_append]

theorem origin_moves {v : α} {es out : List (Event τ α)}
    (htracks : Tracks v s out) (hs : ∀ u, Origin v u out (s.phase u)) (h : Moves s t s' es)
    (u : τ) : Origin v u (out ++ es) (s'.phase u) := by
  by_cases hu : u = t
  · subst hu
    cases h with
    | ignored => exact (List.append_nil out).symm ▸ hs u
    -- What is read is the value as of now, and nothing has happened since.
    | asksRead h =>
        rw [enter_phase_self]
        refine ⟨fun w hw => ⟨out, [], ⟨rfl, nofun⟩, ?_⟩, nofun⟩
        injection hw with hw
        rw [← hw, htracks.value]
    | asksWrite retry f h =>
        rw [enter_phase_self]
        refine ⟨nofun, fun n hn => ⟨out, [], ⟨_, rfl, .called u retry f, nofun⟩, ?_⟩⟩
        injection hn with hn
        rw [← hn, htracks.version]
    -- Copying and editing keep the version the client began with.
    | copies retry f n w h =>
        rw [enter_phase_self, List.append_nil]
        refine ⟨nofun, fun m hm => (hs u).2 m ?_⟩
        rw [h]
        exact hm
    | edits retry f n w h =>
        rw [enter_phase_self, List.append_nil]
        refine ⟨nofun, fun m hm => (hs u).2 m ?_⟩
        rw [h]
        exact hm
    | reloads f h =>
        rw [enter_phase_self]
        refine ⟨nofun, fun n hn => ⟨out, [], ⟨_, rfl, .reloaded u, nofun⟩, ?_⟩⟩
        injection hn with hn
        rw [← hn, htracks.version]
    | _ =>
        rw [enter_phase_self]
        exact ⟨nofun, nofun⟩
  · rw [h.phase_of_ne hu]
    exact (hs u).append fun e he => by rw [h.client_eq e he]; exact Ne.symm hu

/-- What is behind a look at the value, and behind an attempt to change it. -/
structure Explained (v : α) (pre : List (Event τ α)) (e : Event τ α) : Prop where
  inspected : ∀ t w, e = .inspected t w →
    ∃ before between, AskedAfter t pre before between ∧ w = replay v before
  attempted : ∀ t ok, e.attempt = some (t, ok) →
    ∃ before between, LoadedAfter t pre before between ∧ (ok = true ↔ changes between = 0)

omit [DecidableEq τ] in
theorem Explained.of_attempt {v : α} {pre : List (Event τ α)} {e : Event τ α} {ok : Bool}
    (he : e.attempt = some (t, ok)) (hread : ∀ u w, e ≠ .inspected u w)
    (h : ∃ before between, LoadedAfter t pre before between ∧
      (ok = true ↔ changes between = 0)) : Explained v pre e where
  inspected u w hw := absurd hw (hread u w)
  attempted u ok' hok := by
    rw [he] at hok
    injection hok with hok
    injection hok with hu hok
    rw [← hu, ← hok]
    exact h

omit [DecidableEq τ] in
theorem changes_loadedAfter {out before between : List (Event τ α)}
    (h : LoadedAfter t out before between) : changes out = changes before + changes between := by
  rcases h with ⟨load, hout, hload, _⟩
  rw [hout, changes_append, ← List.singleton_append, changes_append]
  have hzero : changes [load] = 0 := by
    cases hload <;> simp [changes, Event.change]
  omega

theorem explained_moves {v : α} {es out : List (Event τ α)}
    (htracks : Tracks v s out) (hs : ∀ u, Origin v u out (s.phase u)) (h : Moves s t s' es) :
    ∀ e ∈ es, Explained v out e := by
  -- In time is the client that has loaded the version the cell still has.
  have htime : ∀ n ok, (s.phase t).version = some n → (ok = true ↔ n = s.version) →
      ∃ before between, LoadedAfter t out before between ∧ (ok = true ↔ changes between = 0) := by
    intro n ok hn hok
    rcases (hs t).2 n hn with ⟨before, between, hload, hbefore⟩
    refine ⟨before, between, hload, hok.trans ?_⟩
    rw [htracks.version, changes_loadedAfter hload]
    omega
  cases h with
  | ignored | copies | edits => exact nofun
  | inspects w h =>
      intro e he
      rw [List.mem_singleton.mp he]
      refine ⟨fun u w' hw => ?_, nofun⟩
      injection hw with hu hw
      rw [← hu, ← hw]
      exact (hs t).1 w h
  | commits retry f n w h hn =>
      intro e he
      rw [List.mem_singleton.mp he]
      exact .of_attempt rfl (by simp) (htime n true (by rw [h]; rfl) (by simp [hn]))
  | fails f n w h hn =>
      intro e he
      rw [List.mem_singleton.mp he]
      exact .of_attempt rfl (by simp) (htime n false (by rw [h]; rfl) (by simp [hn]))
  | loses f n w h hn =>
      intro e he
      rw [List.mem_singleton.mp he]
      exact .of_attempt rfl (by simp) (htime n false (by rw [h]; rfl) (by simp [hn]))
  | _ =>
      intro e he
      rw [List.mem_singleton.mp he]
      exact ⟨nofun, nofun⟩

/-- What holds at every place of a history holds at every place of a longer one, if it
    holds of what is new. -/
theorem forall_split_append {ε : Type*} {E : List ε → ε → Prop} {out es : List ε}
    (hlen : es.length ≤ 1) (h : ∀ pre e post, out = pre ++ e :: post → E pre e)
    (hes : ∀ e ∈ es, E out e) (pre : List ε) (e : ε) (post : List ε)
    (heq : out ++ es = pre ++ e :: post) : E pre e := by
  match es, hlen with
  | [], _ => exact h pre e post (by rwa [List.append_nil] at heq)
  | [x], _ =>
      rcases List.eq_nil_or_concat post with hpost | ⟨post', y, hpost⟩
      · rw [hpost] at heq
        rcases List.append_inj' heq rfl with ⟨hout, hx⟩
        injection hx with hx
        rw [← hout, ← hx]
        exact hes x List.mem_cons_self
      · rw [hpost, List.concat_eq_append, ← List.cons_append, ← List.append_assoc] at heq
        exact h pre e post' (List.append_inj' heq rfl).1

theorem Moves.length_le (h : Moves s t s' es) : es.length ≤ 1 := by
  cases h <;> simp

/-- Every event of a run is explained by what was before it. -/
theorem run_explained (v : α) (acts : List (Action τ α)) (pre : List (Event τ α))
    (e : Event τ α) (post : List (Event τ α))
    (hout : (cell.run (initial v) acts).2 = pre ++ e :: post) : Explained v pre e := by
  have h := cell.run_invariant
    (fun s out => Tracks v s out ∧ (∀ t, Origin v t out (s.phase t)) ∧
      ∀ pre e post, out = pre ++ e :: post → Explained v pre e) ?_ acts (initial v) []
    ⟨tracks_initial v, fun t => ⟨fun w hw => ?_, fun n hn => ?_⟩,
      fun pre e post h => absurd h (by simp)⟩
  · exact h.2.2 pre e post hout
  · rintro s out a ⟨htracks, horigin, hall⟩
    have hmove := moves_step s a
    exact ⟨tracks_moves htracks hmove, origin_moves htracks horigin hmove,
      forall_split_append hmove.length_le hall (explained_moves htracks horigin hmove)⟩
  · cases hw
  · cases hn

end NeoSwift.VersionedCell
