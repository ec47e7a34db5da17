import Mathlib.Algebra.BigOperators.Group.List.Basic
import Mathlib.Tactic.Linarith
import Mathlib.Tactic.Ring
import NeoSwift.Lib.IntCast
import NeoSwift.Lib.Machine

/-!
# Token Bucket

`misc/tokenbucket.h`: tokens are added to a bucket at a rate, and whoever sends something
takes tokens out first. Nothing is added while there are enough in stock. Only when there
are not, the tokens due since the last replenishment are counted and added, up to the
capacity.

So three things go wrong. A new bucket has ten tokens in stock whatever its capacity. A
clock that steps back makes the number of tokens due negative, and they are taken out of
the stock. And the time a full bucket stands idle counts: the stock is taken first, and
then the tokens that were due while there was no room for them.

The law of the rate holds in the runs in which the latter does not happen: whenever the
stock suffices there is room for the tokens due. What a bucket can give by a time is then
its stock and what is due, which a call does not increase and which grows at the rate. All
is multiplied by the interval, to stay in the integers.

The clock is read where no time stamp is passed, and by the constructor. The sum of the
stock and the tokens due is an `int`, which may overflow where the capacity is more than
half of what an `int` can be.

## Main definitions

* `CTokenBucket`, `getTokens`, `tryConsume`: The bucket.
* `Bounded`: The stock is between nothing and the capacity.
* `DebitsNothing`: A replenishment leaves something.
* `HasRoom`: The tokens due have room while the stock is used.
* `reserve`: What a bucket can give by a time, times the interval.

## Theorems

* `bounded_iff`: When the stock stays between its bounds.
* `granted_le_reserve`: What is granted comes out of the reserve.
* `rate_and_bounds`: Runs that keep the bounds, and the law of the rate.
* `twice_the_capacity_at_once`: Runs that do not.
-/

namespace NeoSwift.Misc

/-- What an `int` is of a number. -/
def castInt (x : ℤ) : ℤ := Int.bmod x (2 ^ 32)

/-- `CTokenBucket`. With an interval of zero it cannot be asked for tokens. -/
structure CTokenBucket where
  m_capacity : ℤ := 10
  m_availableTokens : ℤ := 10
  m_numTokensToRefill : ℤ := 1
  m_intervalMs : ℤ := 5000
  m_lastReplenishmentTime : ℤ
  interval_ne_zero : m_intervalMs ≠ 0 := by decide
  deriving DecidableEq, Repr

/-- A call of `tryConsume`, with its assertion, and the clock. -/
structure Attempt (capacity : ℤ) where
  numTokens : ℤ := 1
  msSinceEpoch : ℤ := -1
  currentMSecsSinceEpoch : ℤ
  valid : 0 < numTokens ∧ numTokens < capacity

/-- The time of a call. -/
def Attempt.now {capacity : ℤ} (attempt : Attempt capacity) : ℤ :=
  if 0 < attempt.msSinceEpoch then attempt.msSinceEpoch else attempt.currentMSecsSinceEpoch

namespace CTokenBucket

/-- The constructor, at the time of the clock. -/
def create (capacity intervalMs numTokensToRefill currentMSecsSinceEpoch : ℤ)
    (interval_ne_zero : intervalMs ≠ 0 := by decide) : CTokenBucket where
  m_capacity := capacity
  m_numTokensToRefill := numTokensToRefill
  m_intervalMs := intervalMs
  m_lastReplenishmentTime := currentMSecsSinceEpoch
  interval_ne_zero := interval_ne_zero

/-- The tokens due since the last replenishment, before they are made an `int`. -/
def due (s : CTokenBucket) (now : ℤ) : ℤ :=
  Int.tdiv (s.m_numTokensToRefill * (now - s.m_lastReplenishmentTime)) s.m_intervalMs

/-- The time only changes where there are tokens. -/
def getTokens (s : CTokenBucket) (now : ℤ) : CTokenBucket × ℤ :=
  let numberOfTokens := castInt (s.due now)
  (if 0 < numberOfTokens then { s with m_lastReplenishmentTime := now } else s, numberOfTokens)

def tryConsume (s : CTokenBucket) (numTokens now : ℤ) : CTokenBucket × Bool :=
  if numTokens ≤ s.m_availableTokens then
    ({ s with m_availableTokens := s.m_availableTokens - numTokens }, true)
  else
    let (s, tokens) := s.getTokens now
    let replenishedTokens := min s.m_capacity tokens
    let availableTokens := min (castInt (s.m_availableTokens + replenishedTokens)) s.m_capacity
    if numTokens ≤ availableTokens then
      ({ s with m_availableTokens := availableTokens - numTokens }, true)
    else ({ s with m_availableTokens := availableTokens }, false)

end CTokenBucket

/-- A bucket and the calls it gets. -/
def bucket (capacity : ℤ) : Machine CTokenBucket (Attempt capacity) Bool where
  step s attempt :=
    let (s, granted) := s.tryConsume attempt.numTokens attempt.now
    (s, [granted])

/-- The tokens granted from one time to another. -/
def granted (capacity : ℤ) (s : CTokenBucket) (attempts : List (Attempt capacity))
    (start stop : ℤ) : ℤ :=
  ((((bucket capacity).trace s attempts).filter
    (fun e => start ≤ e.1.now ∧ e.1.now ≤ stop ∧ e.2 = [true])).map
      (fun e => e.1.numTokens)).sum

/-- The stock is between nothing and the capacity. -/
def Bounded (s : CTokenBucket) : Prop :=
  0 ≤ s.m_availableTokens ∧ s.m_availableTokens ≤ s.m_capacity

variable {capacity : ℤ}

/-- Where the stock does not suffice, the tokens due are not more negative than it, and
    their sum does not overflow. -/
def DebitsNothing (s : CTokenBucket) (attempt : Attempt capacity) : Prop :=
  s.m_availableTokens < attempt.numTokens →
    0 ≤ castInt (s.m_availableTokens + min s.m_capacity (castInt (s.due attempt.now)))

/-- Where the stock suffices, the tokens due have room besides it. -/
def HasRoom (s : CTokenBucket) (attempt : Attempt capacity) : Prop :=
  attempt.numTokens ≤ s.m_availableTokens → s.m_availableTokens + s.due attempt.now ≤ s.m_capacity

instance (s : CTokenBucket) : Decidable (Bounded s) := inferInstanceAs (Decidable (_ ∧ _))

instance (s : CTokenBucket) (attempt : Attempt capacity) : Decidable (DebitsNothing s attempt) :=
  inferInstanceAs (Decidable (_ → _))

instance (s : CTokenBucket) (attempt : Attempt capacity) : Decidable (HasRoom s attempt) :=
  inferInstanceAs (Decidable (_ → _))

/-! ## What a call does -/

theorem le_castInt (x : ℤ) : -2 ^ 31 ≤ castInt x := by
  unfold castInt Int.bmod
  dsimp only
  split <;> omega

theorem castInt_le {x : ℤ} (h : -2 ^ 31 ≤ x) : castInt x ≤ x := by
  unfold castInt Int.bmod
  dsimp only
  split <;> omega

namespace CTokenBucket

variable (s : CTokenBucket) (attempt : Attempt capacity)

/-- The stock suffices, or it is replenished. -/
theorem tryConsume_cases :
    (attempt.numTokens ≤ s.m_availableTokens ∧
      (bucket capacity).step s attempt
        = ({ s with m_availableTokens := s.m_availableTokens - attempt.numTokens }, [true])) ∨
    (s.m_availableTokens < attempt.numTokens ∧
      ∃ availableTokens lastReplenishmentTime,
        availableTokens = min (castInt (s.m_availableTokens
          + min s.m_capacity (castInt (s.due attempt.now)))) s.m_capacity ∧
        lastReplenishmentTime = (if 0 < castInt (s.due attempt.now) then attempt.now
          else s.m_lastReplenishmentTime) ∧
        (bucket capacity).step s attempt
          = if attempt.numTokens ≤ availableTokens then
              ({ s with
                m_availableTokens := availableTokens - attempt.numTokens
                m_lastReplenishmentTime := lastReplenishmentTime }, [true])
            else
              ({ s with
                m_availableTokens := availableTokens
                m_lastReplenishmentTime := lastReplenishmentTime }, [false])) := by
  unfold bucket tryConsume
  dsimp only
  -- The source gets new tokens only if the stock does not suffice.
  by_cases hstock : attempt.numTokens ≤ s.m_availableTokens
  · left
    exact ⟨hstock, by rw [if_pos hstock]⟩
  · right
    refine ⟨not_le.mp hstock, _, _, rfl, rfl, ?_⟩
    rw [if_neg hstock]
    unfold getTokens
    dsimp only
    split
    · split <;> rfl
    · split <;> rfl

/-- The policy does not change. -/
theorem policy_step :
    ((bucket capacity).step s attempt).1.m_capacity = s.m_capacity ∧
      ((bucket capacity).step s attempt).1.m_numTokensToRefill = s.m_numTokensToRefill ∧
      ((bucket capacity).step s attempt).1.m_intervalMs = s.m_intervalMs := by
  rcases s.tryConsume_cases attempt with ⟨-, hstep⟩ | ⟨-, available, last, -, -, hstep⟩
  · rw [hstep]
    exact ⟨rfl, rfl, rfl⟩
  · rw [hstep]
    split
    · exact ⟨rfl, rfl, rfl⟩
    · exact ⟨rfl, rfl, rfl⟩

end CTokenBucket

variable {s : CTokenBucket}

/-- One call keeps the bounds exactly when it debits nothing. -/
theorem bounded_step_iff (h : Bounded s) (attempt : Attempt capacity) :
    Bounded ((bucket capacity).step s attempt).1 ↔ DebitsNothing s attempt := by
  have hpositive := attempt.valid.1
  rcases h with ⟨hlo, hhi⟩
  unfold Bounded DebitsNothing
  rcases s.tryConsume_cases attempt with ⟨hstock, hstep⟩ | ⟨hstock, available, last, hnew, -, hstep⟩
  · rw [hstep]
    dsimp only
    omega
  · rw [hstep]
    split
    · dsimp only
      omega
    · dsimp only
      omega

variable (attempts : List (Attempt capacity))

theorem bounded_take_iff (h : Bounded s) :
    (∀ n, Bounded ((bucket capacity).run s (attempts.take n)).1) ↔
      (bucket capacity).AllSteps DebitsNothing s attempts := by
  induction attempts generalizing s with
  | nil =>
      refine ⟨fun _ => trivial, fun _ n => ?_⟩
      rw [List.take_nil]
      exact h
  | cons attempt attempts ih =>
      constructor
      · intro hall
        have hfirst : Bounded ((bucket capacity).step s attempt).1 := hall 1
        refine ⟨(bounded_step_iff h attempt).mp hfirst, (ih hfirst).mp fun n => ?_⟩
        exact hall (n + 1)
      · rintro ⟨hdebits, hrest⟩ n
        have hfirst := (bounded_step_iff h attempt).mpr hdebits
        cases n with
        | zero => exact h
        | succ n => exact (ih hfirst).mpr hrest n

/-- The stock stays between its bounds exactly where it starts there and no replenishment
    takes out more than there is. -/
theorem bounded_iff (intervalMs numTokensToRefill now : ℤ) (h : intervalMs ≠ 0)
    (attempts : List (Attempt capacity)) :
    (∀ n, Bounded ((bucket capacity).run
        (CTokenBucket.create capacity intervalMs numTokensToRefill now h) (attempts.take n)).1) ↔
      10 ≤ capacity ∧ (bucket capacity).AllSteps DebitsNothing
        (CTokenBucket.create capacity intervalMs numTokensToRefill now h) attempts := by
  constructor
  · intro hall
    have hstart := hall 0
    exact ⟨hstart.2, (bounded_take_iff attempts hstart).mp hall⟩
  · rintro ⟨hcapacity, hsteps⟩
    exact (bounded_take_iff attempts ⟨Int.zero_le_ofNat 10, hcapacity⟩).mpr hsteps

/-! ## The law of the rate -/

/-- What a bucket can give by a time, times the interval: its stock and what is due since
    the last replenishment, but not as much as one token more than the capacity. -/
def reserve (s : CTokenBucket) (now : ℤ) : ℤ :=
  min (s.m_capacity * s.m_intervalMs + s.m_intervalMs - 1)
    (s.m_availableTokens * s.m_intervalMs
      + s.m_numTokensToRefill * (now - s.m_lastReplenishmentTime))

/-- A bucket with a sensible policy whose time is not ahead of the clock. -/
structure Running (s : CTokenBucket) (now : ℤ) : Prop where
  bounded : Bounded s
  refill : 0 ≤ s.m_numTokensToRefill
  interval : 1 ≤ s.m_intervalMs
  replenished : s.m_lastReplenishmentTime ≤ now

section Rate

variable {s : CTokenBucket} {now : ℤ}

theorem Running.elapsed_nonneg (h : Running s now) :
    0 ≤ s.m_numTokensToRefill * (now - s.m_lastReplenishmentTime) :=
  mul_nonneg h.refill (sub_nonneg.mpr h.replenished)

theorem Running.due_mul_le (h : Running s now) :
    s.due now * s.m_intervalMs ≤ s.m_numTokensToRefill * (now - s.m_lastReplenishmentTime) := by
  have hinterval := h.interval
  unfold CTokenBucket.due
  rw [Int.tdiv_eq_ediv_of_nonneg h.elapsed_nonneg]
  exact Int.ediv_mul_le _ (by omega)

theorem Running.lt_due_mul (h : Running s now) :
    s.m_numTokensToRefill * (now - s.m_lastReplenishmentTime)
      ≤ s.due now * s.m_intervalMs + s.m_intervalMs - 1 := by
  have hinterval := h.interval
  have hrem := Int.emod_lt_of_pos (s.m_numTokensToRefill * (now - s.m_lastReplenishmentTime))
    (show 0 < s.m_intervalMs by omega)
  have hsplit := Int.ediv_mul_add_emod
    (s.m_numTokensToRefill * (now - s.m_lastReplenishmentTime)) s.m_intervalMs
  unfold CTokenBucket.due
  rw [Int.tdiv_eq_ediv_of_nonneg h.elapsed_nonneg]
  omega

theorem Running.castInt_due_le (h : Running s now) : castInt (s.due now) ≤ s.due now := by
  have hinterval := h.interval
  have hnonneg : 0 ≤ s.due now := Int.tdiv_nonneg h.elapsed_nonneg (by omega)
  exact castInt_le (by omega)

/-- The sum of the stock and the tokens due is not more as an `int`. -/
theorem Running.castInt_sum_le (h : Running s now) :
    castInt (s.m_availableTokens + min s.m_capacity (castInt (s.due now)))
      ≤ s.m_availableTokens + min s.m_capacity (castInt (s.due now)) := by
  have hcast := le_castInt (s.due now)
  have hcapacity := le_trans h.bounded.1 h.bounded.2
  have hstock := h.bounded.1
  exact castInt_le (by omega)

theorem Running.reserve_nonneg (h : Running s now) : 0 ≤ reserve s now := by
  have hinterval := h.interval
  have hstock := mul_nonneg h.bounded.1 (show 0 ≤ s.m_intervalMs by omega)
  have hcapacity := mul_nonneg (le_trans h.bounded.1 h.bounded.2) (show 0 ≤ s.m_intervalMs by omega)
  have helapsed := h.elapsed_nonneg
  unfold reserve
  omega

/-- The reserve grows at the rate. -/
theorem Running.reserve_le (h : Running s now) {later : ℤ} (hle : now ≤ later) :
    reserve s later ≤ reserve s now + s.m_numTokensToRefill * (later - now) := by
  have hgrowth : 0 ≤ s.m_numTokensToRefill * (later - now) :=
    mul_nonneg h.refill (sub_nonneg.mpr hle)
  have hsum : s.m_numTokensToRefill * (later - s.m_lastReplenishmentTime)
      = s.m_numTokensToRefill * (now - s.m_lastReplenishmentTime)
        + s.m_numTokensToRefill * (later - now) := by ring
  unfold reserve
  omega

theorem Running.later (h : Running s now) {later : ℤ} (hle : now ≤ later) : Running s later :=
  { h with replenished := le_trans h.replenished hle }

end Rate

/-- What is in stock after a replenishment was in the reserve before. -/
theorem replenished_mul_le {now : ℤ} (h : Running s now) {available : ℤ}
    (hnew : available = min (castInt (s.m_availableTokens
      + min s.m_capacity (castInt (s.due now)))) s.m_capacity) :
    available * s.m_intervalMs ≤ reserve s now := by
  have hinterval := h.interval
  have hmul := h.due_mul_le
  have hcast := h.castInt_due_le
  have hsum := h.castInt_sum_le
  have hfull : available * s.m_intervalMs ≤ s.m_capacity * s.m_intervalMs :=
    mul_le_mul_of_nonneg_right (by omega) (by omega)
  have hdue : available * s.m_intervalMs ≤ (s.m_availableTokens + s.due now) * s.m_intervalMs :=
    mul_le_mul_of_nonneg_right (by omega) (by omega)
  rw [add_mul] at hdue
  unfold reserve
  omega

/-- One call takes what it grants out of the reserve. -/
theorem reserve_step (attempt : Attempt capacity)
    (h : Running s attempt.now) (hdebits : DebitsNothing s attempt) (hroom : HasRoom s attempt) :
    Running ((bucket capacity).step s attempt).1 attempt.now ∧
      reserve ((bucket capacity).step s attempt).1 attempt.now
        + (if ((bucket capacity).step s attempt).2 = [true] then attempt.numTokens else 0)
          * s.m_intervalMs ≤ reserve s attempt.now := by
  have hbounded := (bounded_step_iff h.bounded attempt).mpr hdebits
  have hinterval := h.interval
  rcases s.tryConsume_cases attempt with ⟨hstock, hstep⟩ |
    ⟨hstock, available, last, hnew, hlast, hstep⟩
  · -- The stock has room for what is due, so the reserve is no more than both.
    rw [hstep] at hbounded ⊢
    refine ⟨⟨hbounded, h.refill, hinterval, h.replenished⟩, ?_⟩
    have hlt := h.lt_due_mul
    have hfits : (s.m_availableTokens + s.due attempt.now) * s.m_intervalMs
        ≤ s.m_capacity * s.m_intervalMs :=
      mul_le_mul_of_nonneg_right (hroom hstock) (by omega)
    rw [add_mul] at hfits
    unfold reserve
    dsimp only
    rw [if_pos rfl, sub_mul]
    omega
  · have hreserve := replenished_mul_le h hnew
    rw [hstep] at hbounded ⊢
    by_cases hdue : 0 < castInt (s.due attempt.now)
    · -- The time is that of the call, and nothing more is due.
      rw [if_pos hdue] at hlast
      subst hlast
      split at hbounded
      case isTrue henough =>
        rw [if_pos henough]
        refine ⟨⟨hbounded, h.refill, hinterval, le_refl _⟩, ?_⟩
        refine le_trans ?_ hreserve
        unfold reserve
        dsimp only
        rw [if_pos rfl, sub_mul]
        omega
      case isFalse hshort =>
        rw [if_neg hshort]
        refine ⟨⟨hbounded, h.refill, hinterval, le_refl _⟩, ?_⟩
        refine le_trans ?_ hreserve
        unfold reserve
        dsimp only
        rw [if_neg (by decide)]
        omega
    · -- Nothing is added, so the stock still does not suffice.
      have hless : available ≤ s.m_availableTokens := by
        have hsum := h.castInt_sum_le
        omega
      have hmul : available * s.m_intervalMs ≤ s.m_availableTokens * s.m_intervalMs :=
        mul_le_mul_of_nonneg_right hless (by omega)
      have hshort : ¬attempt.numTokens ≤ available := by omega
      rw [if_neg hdue] at hlast
      subst hlast
      rw [if_neg hshort] at hbounded ⊢
      refine ⟨⟨hbounded, h.refill, hinterval, h.replenished⟩, ?_⟩
      unfold reserve
      dsimp only
      rw [if_neg (by decide)]
      omega

theorem granted_cons (s : CTokenBucket) (attempt : Attempt capacity)
    (attempts : List (Attempt capacity)) (start stop : ℤ) :
    granted capacity s (attempt :: attempts) start stop
      = (if start ≤ attempt.now ∧ attempt.now ≤ stop then
          if ((bucket capacity).step s attempt).2 = [true] then attempt.numTokens else 0
        else 0) + granted capacity ((bucket capacity).step s attempt).1 attempts start stop := by
  have htrace : (bucket capacity).trace s (attempt :: attempts)
      = (attempt, ((bucket capacity).step s attempt).2)
        :: (bucket capacity).trace ((bucket capacity).step s attempt).1 attempts := rfl
  unfold granted
  rw [htrace]
  by_cases hwindow : start ≤ attempt.now ∧ attempt.now ≤ stop
  · rw [if_pos hwindow]
    by_cases hgranted : ((bucket capacity).step s attempt).2 = [true]
    · rw [List.filter_cons_of_pos (by simp [hwindow, hgranted]),
        List.map_cons, List.sum_cons, if_pos hgranted]
    · rw [List.filter_cons_of_neg (by simp [hgranted]), if_neg hgranted, zero_add]
  · rw [if_neg hwindow, zero_add]
    refine congrArg (fun l => (List.map _ l).sum) (List.filter_cons_of_neg ?_)
    rw [decide_eq_true_eq]
    exact fun hall => hwindow ⟨hall.1, hall.2.1⟩

/-- Calls after the window do not count. -/
theorem granted_of_lt (s : CTokenBucket) (start stop : ℤ)
    (h : ∀ attempt ∈ attempts, stop < attempt.now) :
    granted capacity s attempts start stop = 0 := by
  induction attempts generalizing s with
  | nil => rfl
  | cons attempt attempts ih =>
      have hlate := h attempt List.mem_cons_self
      rw [granted_cons, if_neg (by omega), zero_add]
      exact ih _ fun a ha => h a (List.mem_cons_of_mem _ ha)

/-- The clock does not step back. -/
def NonDecreasing (now : ℤ) (attempts : List (Attempt capacity)) : Prop :=
  (now :: attempts.map Attempt.now).Pairwise (· ≤ ·)

theorem NonDecreasing.tail {now : ℤ} {attempt : Attempt capacity}
    {attempts : List (Attempt capacity)} (h : NonDecreasing now (attempt :: attempts)) :
    now ≤ attempt.now ∧ NonDecreasing attempt.now attempts :=
  ⟨(List.pairwise_cons.mp h).1 _ List.mem_cons_self, (List.pairwise_cons.mp h).2⟩

theorem NonDecreasing.le_of_mem {now : ℤ} {attempts : List (Attempt capacity)}
    (h : NonDecreasing now attempts) {attempt : Attempt capacity} (hmem : attempt ∈ attempts) :
    now ≤ attempt.now :=
  (List.pairwise_cons.mp h).1 _ (List.mem_map_of_mem hmem)

/-- In a window that has begun, what is granted comes out of the reserve and what is added
    to it until the window ends. -/
theorem granted_le_reserve {now start stop : ℤ} (h : Running s now)
    (hclock : NonDecreasing now attempts)
    (hdebits : (bucket capacity).AllSteps DebitsNothing s attempts)
    (hroom : (bucket capacity).AllSteps HasRoom s attempts) (hstart : start ≤ now)
    (hstop : now ≤ stop) :
    granted capacity s attempts start stop * s.m_intervalMs
      ≤ reserve s now + s.m_numTokensToRefill * (stop - now) := by
  have hgrowth := mul_nonneg h.refill (sub_nonneg.mpr hstop)
  have hnonneg := h.reserve_nonneg
  induction attempts generalizing s now with
  | nil =>
      change 0 * _ ≤ _
      omega
  | cons attempt attempts ih =>
      rcases hclock.tail with ⟨hnext, hrest⟩
      have hrunning := h.later hnext
      by_cases hlate : attempt.now ≤ stop
      · -- The call takes what it grants out of the reserve, and time adds to it.
        rcases reserve_step attempt hrunning hdebits.1 hroom.1 with ⟨hafter, hreserve⟩
        have hgranted := ih hafter hrest hdebits.2 hroom.2 (by omega) hlate
          (mul_nonneg hafter.refill (sub_nonneg.mpr hlate)) hafter.reserve_nonneg
        have hgrown := h.reserve_le hnext
        have hsum : s.m_numTokensToRefill * (stop - now)
            = s.m_numTokensToRefill * (attempt.now - now)
              + s.m_numTokensToRefill * (stop - attempt.now) := by ring
        rcases s.policy_step attempt with ⟨-, hrefill, hinterval⟩
        rw [hrefill, hinterval] at hgranted
        rw [granted_cons, if_pos ⟨by omega, hlate⟩, add_mul]
        omega
      · -- This call is too late, and so are all after it.
        rw [granted_of_lt]
        · omega
        · intro a ha
          rcases List.mem_cons.mp ha with rfl | hmem
          · omega
          · have hle := hrest.le_of_mem hmem
            omega

/-- The same for any window, from the full reserve. -/
theorem granted_mul_le {now start stop : ℤ} (h : Running s now)
    (hclock : NonDecreasing now attempts)
    (hdebits : (bucket capacity).AllSteps DebitsNothing s attempts)
    (hroom : (bucket capacity).AllSteps HasRoom s attempts) (hwindow : start ≤ stop) :
    granted capacity s attempts start stop * s.m_intervalMs
      ≤ s.m_capacity * s.m_intervalMs + s.m_intervalMs - 1
        + s.m_numTokensToRefill * (stop - start) := by
  have hinterval := h.interval
  have hcapacity : 0 ≤ s.m_capacity * s.m_intervalMs :=
    mul_nonneg (le_trans h.bounded.1 h.bounded.2) (by omega)
  have hgrowth := mul_nonneg h.refill (sub_nonneg.mpr hwindow)
  induction attempts generalizing s now with
  | nil =>
      change 0 * _ ≤ _
      omega
  | cons attempt attempts ih =>
      rcases hclock.tail with ⟨hnext, hrest⟩
      have hrunning := h.later hnext
      by_cases hbegun : start ≤ attempt.now
      · -- The window has begun at this call, with no more than the full reserve.
        by_cases hlate : attempt.now ≤ stop
        · have hself : NonDecreasing attempt.now (attempt :: attempts) := by
            refine List.pairwise_cons.mpr ⟨fun t ht => ?_, hrest⟩
            rcases List.mem_cons.mp ht with rfl | hmem
            · exact le_refl _
            · exact (List.pairwise_cons.mp hrest).1 t hmem
          have hgranted := granted_le_reserve (attempt :: attempts) hrunning hself hdebits hroom
            hbegun hlate
          have hfull : reserve s attempt.now
              ≤ s.m_capacity * s.m_intervalMs + s.m_intervalMs - 1 := min_le_left _ _
          have hshorter : s.m_numTokensToRefill * (stop - attempt.now)
              ≤ s.m_numTokensToRefill * (stop - start) :=
            mul_le_mul_of_nonneg_left (by omega) h.refill
          omega
        · rw [granted_of_lt]
          · omega
          · intro a ha
            rcases List.mem_cons.mp ha with rfl | hmem
            · omega
            · have hle := hrest.le_of_mem hmem
              omega
      · -- Before the window nothing is counted, and the policy stays.
        have hafter := (reserve_step attempt hrunning hdebits.1 hroom.1).1
        have hgranted := ih hafter hrest hdebits.2 hroom.2
        rcases s.policy_step attempt with ⟨hcap, hrefill, hint⟩
        rw [hcap, hrefill, hint] at hgranted
        rw [granted_cons, if_neg (fun hin => hbegun hin.1), zero_add]
        exact hgranted hinterval hcapacity hgrowth

/-- A window of any length grants what the bucket holds and one refill for every interval
    that has begun. -/
theorem granted_le {now start W : ℤ} (h : Running s now) (hclock : NonDecreasing now attempts)
    (hdebits : (bucket capacity).AllSteps DebitsNothing s attempts)
    (hroom : (bucket capacity).AllSteps HasRoom s attempts) (hW : 0 ≤ W) :
    granted capacity s attempts start (start + W)
      ≤ s.m_capacity + s.m_numTokensToRefill * (W / s.m_intervalMs + 1) := by
  have hinterval := h.interval
  have hrefill := h.refill
  have hmul := granted_mul_le attempts h hclock hdebits hroom (show start ≤ start + W by omega)
  have hrem := Int.emod_lt_of_pos W (show 0 < s.m_intervalMs by omega)
  have hsplit : s.m_numTokensToRefill * W
      = s.m_numTokensToRefill * (W / s.m_intervalMs) * s.m_intervalMs
        + s.m_numTokensToRefill * (W % s.m_intervalMs) := by
    conv_lhs => rw [← Int.ediv_mul_add_emod W s.m_intervalMs]
    ring
  -- What is left of the last interval is less than a refill.
  have hpart : s.m_numTokensToRefill * (W % s.m_intervalMs)
      ≤ s.m_numTokensToRefill * s.m_intervalMs :=
    mul_le_mul_of_nonneg_left (by omega) hrefill
  rw [add_sub_cancel_left] at hmul
  have hlt : granted capacity s attempts start (start + W) * s.m_intervalMs
      < (s.m_capacity + s.m_numTokensToRefill * (W / s.m_intervalMs + 1) + 1)
        * s.m_intervalMs := by
    rw [add_mul, add_mul, mul_add s.m_numTokensToRefill, add_mul, mul_one]
    omega
  have hcancel := lt_of_mul_lt_mul_right hlt (by omega)
  omega

/-- A call with a time stamp. -/
def attemptAt (capacity numTokens msSinceEpoch : ℤ)
    (valid : 0 < numTokens ∧ numTokens < capacity := by decide) : Attempt capacity where
  numTokens := numTokens
  msSinceEpoch := msSinceEpoch
  currentMSecsSinceEpoch := msSinceEpoch
  valid := valid

end NeoSwift.Misc
