import NeoSwift.Misc.TimestampObjectList

/-!
# The Latest Objects

Which objects `push_frontKeepLatestFirst` keeps. The list is cut off to make room
before the new object has found its place, and only the front object is looked at when
a timestamp is to be replaced. So a late object can take the place of a later one that
was cut off, and an object behind the front is not replaced.

What an insertion is to leave is said up to the order of equal timestamps: the list and
the new object without the one that is replaced are split in two, and nothing that is
dropped is later than anything that stays.

## Main definitions

* `Push.cut`: What an insertion cuts off.
* `Candidates`: The objects that are to be chosen from.
* `KeepsLatest`: What an insertion is to leave.
* `CutsOffOldest`: When it does.

## Theorems

* `kept_append_cut`: What stays and what is cut off.
* `keepsLatest_of_replaces`: A replacement in front is right.
* `keeps_latest_iff`: When an insertion leaves what it is to leave.
* `late_value_drops_later_one`: One that does not.
-/

namespace NeoSwift.Misc

variable {α : Type*} [TimestampWithOffsetBased α]

/-- What does not stay of the list, besides an object that is replaced. -/
def Push.cut (call : Push α) (c : List α) : List α :=
  let others := if call.replaces c then c.tail else c
  if 0 < call.maxElements then others.drop (call.maxElements - 1).toNat else []

theorem Push.kept_append_cut (call : Push α) (c : List α) :
    call.kept c ++ call.cut c = if call.replaces c then c.tail else c := by
  unfold Push.kept Push.cut
  by_cases h : 0 < call.maxElements
  · rw [if_pos h, if_pos h, List.take_append_drop]
  · rw [if_neg h, if_neg h, List.append_nil]

/-- Without a limit nothing is cut off. -/
theorem Push.cut_of_unlimited (call : Push α) (c : List α) (h : ¬0 < call.maxElements) :
    call.cut c = [] :=
  if_neg h

/-- Where something is cut off, the rest fills the list. -/
theorem Push.length_kept_of_cut (call : Push α) (c : List α) (h : call.cut c ≠ []) :
    ((call.kept c).length : ℤ) + 1 = call.maxElements := by
  unfold Push.cut at h
  unfold Push.kept
  dsimp only at h ⊢
  split at h
  case isTrue hmax =>
    have hlt := List.length_pos_iff.mpr h
    rw [List.length_drop] at hlt
    rw [if_pos hmax, List.length_take]
    omega
  case isFalse => exact absurd rfl h

/-- The objects to choose from: the new one and those in the list, without one of its
    timestamp where one is to be replaced. -/
def Candidates (call : Push α) (c candidates : List α) : Prop :=
  if call.replaceSameTimestamp ∧ ∃ x ∈ c, getMSecsSinceEpoch x = getMSecsSinceEpoch call.value then
    ∃ x others, getMSecsSinceEpoch x = getMSecsSinceEpoch call.value ∧ c.Perm (x :: others) ∧
      candidates = call.value :: others
  else candidates = call.value :: c

/-- The list is sorted, and it has the latest of the candidates, as many as fit. -/
structure KeepsLatest (call : Push α) (c result : List α) : Prop where
  sorted : LatestFirst getMSecsSinceEpoch result
  latest : ∃ candidates dropped, Candidates call c candidates ∧
    candidates.Perm (result ++ dropped) ∧
      (∀ x ∈ result, ∀ y ∈ dropped, getMSecsSinceEpoch y ≤ getMSecsSinceEpoch x) ∧
        if 0 < call.maxElements then
          (result.length : ℤ) = min call.maxElements candidates.length
        else dropped = []

/-- The front object is replaced; or nothing that is cut off is later than the value,
    and where one of its timestamp is to be replaced, one is cut off. -/
def CutsOffOldest (call : Push α) (c : List α) : Prop :=
  call.replaces c = true ∨
    (∀ y ∈ call.cut c, getMSecsSinceEpoch y ≤ getMSecsSinceEpoch call.value) ∧
      (call.replaceSameTimestamp = true →
        (∃ x ∈ c, getMSecsSinceEpoch x = getMSecsSinceEpoch call.value) →
          ∃ y ∈ call.cut c, getMSecsSinceEpoch y = getMSecsSinceEpoch call.value)

section Insertion

variable (S : Sorter α) (call : Push α) (c : List α)

theorem Push.replaces_iff :
    call.replaces c = true ↔ call.replaceSameTimestamp = true ∧ ∃ front rest, c = front :: rest ∧
        getMSecsSinceEpoch front = getMSecsSinceEpoch call.value := by
  unfold Push.replaces
  rw [Bool.and_eq_true]
  refine and_congr_right fun _ => ?_
  cases c with
  | nil => simp
  | cons front rest => simp

/-- Nothing that stays is older than what is cut off. -/
theorem le_of_kept_of_cut (hc : LatestFirst getMSecsSinceEpoch c) {x y : α} (hx : x ∈ call.kept c)
    (hy : y ∈ call.cut c) : getMSecsSinceEpoch y ≤ getMSecsSinceEpoch x := by
  have hsorted : LatestFirst getMSecsSinceEpoch (call.kept c ++ call.cut c) := by
    rw [call.kept_append_cut]
    split
    · exact hc.tail
    · exact hc
  exact (List.pairwise_append.mp hsorted).2.2 x hx y hy

/-- The size of what an insertion leaves. -/
theorem length_push (n : ℕ) (hn : n + 1 = (call.value :: (call.kept c ++ call.cut c)).length) :
    if 0 < call.maxElements then
      (((call.value :: call.kept c).length : ℕ) : ℤ) = min call.maxElements ((n + 1 : ℕ) : ℤ)
    else call.cut c = [] := by
  split
  case isTrue hmax =>
    have hlen := call.length_kept c hmax
    rw [List.length_cons, List.length_append] at hn
    rw [List.length_cons]
    by_cases hcut : call.cut c = []
    · rw [hcut, List.length_nil] at hn
      omega
    · have hfull := call.length_kept_of_cut c hcut
      omega
  case isFalse hmax => exact call.cut_of_unlimited c hmax

/-- A replacement in front leaves the latest. -/
theorem keepsLatest_of_replaces (hc : LatestFirst getMSecsSinceEpoch c)
    (hreplaces : call.replaces c = true) :
    KeepsLatest call c (pushFrontKeepLatestFirst S call c) := by
  refine ⟨latestFirst_pushFrontKeepLatestFirst S call c hc, ?_⟩
  rw [pushFrontKeepLatestFirst_of_replaces S call c hreplaces]
  rcases (call.replaces_iff c).mp hreplaces with ⟨hreplace, front, rest, hfront, hsame⟩
  have hrest : call.kept c ++ call.cut c = rest := by
    rw [call.kept_append_cut, if_pos hreplaces, hfront, List.tail_cons]
  refine ⟨call.value :: rest, call.cut c, ?_, ?_, ?_, ?_⟩
  · unfold Candidates
    rw [if_pos ⟨hreplace, front, by rw [hfront]; exact List.mem_cons_self, hsame⟩]
    exact ⟨front, rest, hsame, by rw [hfront], rfl⟩
  · rw [List.cons_append, hrest]
  · -- The value has the time of the front one, which nothing in the list exceeds.
    intro x hx y hy
    rcases List.mem_cons.mp hx with rfl | hkept
    · rw [← hsame]
      have hmem : y ∈ front :: rest := by
        rw [← hrest]
        exact List.mem_cons_of_mem _ (List.mem_append_right _ hy)
      rw [hfront] at hc
      exact hc.le_head hmem
    · exact le_of_kept_of_cut call c hc hkept hy
  · exact length_push call c rest.length (by rw [hrest, List.length_cons])

/-- What is chosen from where nothing in front is replaced, without what stays. -/
theorem dropped_of_candidates (hreplaces : call.replaces c = false) {candidates dropped : List α}
    (hcandidates : Candidates call c candidates)
    (hperm : candidates.Perm (call.value :: call.kept c ++ dropped)) :
    (call.cut c).Perm dropped ∧ ¬(call.replaceSameTimestamp = true ∧
        ∃ x ∈ c, getMSecsSinceEpoch x = getMSecsSinceEpoch call.value) ∨
      ∃ x, getMSecsSinceEpoch x = getMSecsSinceEpoch call.value ∧
        (call.cut c).Perm (x :: dropped) := by
  -- Nothing is replaced, so what is kept and what is cut make up the list.
  have hc : call.kept c ++ call.cut c = c := by
    rw [call.kept_append_cut, hreplaces, if_neg Bool.false_ne_true]
  unfold Candidates at hcandidates
  split at hcandidates
  · right
    rcases hcandidates with ⟨x, others, hsame, hothers, rfl⟩
    rw [List.cons_append, List.perm_cons] at hperm
    have hmiddle : (x :: others).Perm (call.kept c ++ x :: dropped) :=
      (hperm.cons x).trans List.perm_middle.symm
    have hparts : (call.kept c ++ call.cut c).Perm (call.kept c ++ x :: dropped) := by
      rw [hc]
      exact hothers.trans hmiddle
    exact ⟨x, hsame, (List.perm_append_left_iff _).mp hparts⟩
  case isFalse hnone =>
    left
    rw [hcandidates, List.cons_append, List.perm_cons] at hperm
    have hparts : (call.kept c ++ call.cut c).Perm (call.kept c ++ dropped) := by
      rw [hc]
      exact hperm
    exact ⟨(List.perm_append_left_iff _).mp hparts, hnone⟩

/-- What is cut off is what is dropped, so it says where the latest stay. -/
theorem keepsLatest_of_cutsOffOldest (hc : LatestFirst getMSecsSinceEpoch c)
    (hreplaces : call.replaces c = false)
    (hcut : ∀ y ∈ call.cut c, getMSecsSinceEpoch y ≤ getMSecsSinceEpoch call.value)
    (hsame : call.replaceSameTimestamp = true →
      (∃ x ∈ c, getMSecsSinceEpoch x = getMSecsSinceEpoch call.value) →
        ∃ y ∈ call.cut c, getMSecsSinceEpoch y = getMSecsSinceEpoch call.value) :
    KeepsLatest call c (pushFrontKeepLatestFirst S call c) := by
  have hparts : call.kept c ++ call.cut c = c := by
    rw [call.kept_append_cut, hreplaces, if_neg Bool.false_ne_true]
  have hpush := pushFrontKeepLatestFirst_perm S call c
  have hlatest : ∀ x ∈ pushFrontKeepLatestFirst S call c, ∀ y ∈ call.cut c,
      getMSecsSinceEpoch y ≤ getMSecsSinceEpoch x := by
    intro x hx y hy
    rcases List.mem_cons.mp (hpush.mem_iff.mp hx) with rfl | hkept
    · exact hcut y hy
    · exact le_of_kept_of_cut call c hc hkept hy
  have hlen := length_push call c c.length (by rw [hparts, List.length_cons])
  rw [← hpush.length_eq] at hlen
  refine ⟨latestFirst_pushFrontKeepLatestFirst S call c hc, ?_⟩
  by_cases hfound : call.replaceSameTimestamp = true ∧
      ∃ x ∈ c, getMSecsSinceEpoch x = getMSecsSinceEpoch call.value
  · -- one of the timestamp is cut off, and it counts as the one that is replaced
    rcases hsame hfound.1 hfound.2 with ⟨y, hy, htime⟩
    rcases List.append_of_mem hy with ⟨front, back, hsplit⟩
    have hmiddle : c.Perm (y :: (call.kept c ++ (front ++ back))) := by
      have hperm : (call.kept c ++ call.cut c).Perm (y :: (call.kept c ++ (front ++ back))) := by
        rw [hsplit]
        exact (List.perm_middle.append_left _).trans List.perm_middle
      rwa [hparts] at hperm
    refine ⟨call.value :: (call.kept c ++ (front ++ back)), front ++ back, ?_, ?_, ?_, ?_⟩
    · unfold Candidates
      rw [if_pos hfound]
      exact ⟨y, _, htime, hmiddle, rfl⟩
    · exact ((hpush.symm.append_right _))
    · intro x hx z hz
      refine hlatest x hx z ?_
      rw [hsplit]
      rcases List.mem_append.mp hz with hfront | hback
      · exact List.mem_append_left _ hfront
      · exact List.mem_append_right _ (List.mem_cons_of_mem _ hback)
    · have hmax : 0 < call.maxElements := by
        by_contra hmax
        rw [call.cut_of_unlimited c hmax] at hy
        cases hy
      have hfull := call.length_kept_of_cut c (List.ne_nil_of_mem hy)
      have hlength := hpush.length_eq
      rw [if_pos hmax, List.length_cons, List.length_append]
      rw [List.length_cons] at hlength
      omega
  · refine ⟨call.value :: c, call.cut c, ?_, ?_, hlatest, ?_⟩
    · unfold Candidates
      rw [if_neg hfound]
    · have hperm : (pushFrontKeepLatestFirst S call c ++ call.cut c).Perm
          (call.value :: (call.kept c ++ call.cut c)) := hpush.append_right _
      rw [hparts] at hperm
      exact hperm.symm
    · exact hlen

/-- An insertion into a list that is sorted leaves the latest objects just where it
    cuts off the oldest. -/
theorem keeps_latest_iff (hc : LatestFirst getMSecsSinceEpoch c) :
    KeepsLatest call c (pushFrontKeepLatestFirst S call c) ↔ CutsOffOldest call c := by
  by_cases hreplaces : call.replaces c = true
  · exact iff_of_true (keepsLatest_of_replaces S call c hc hreplaces) (Or.inl hreplaces)
  · have hnot : call.replaces c = false := by simpa only [Bool.not_eq_true] using hreplaces
    -- What is dropped is what was cut off, or what stands in for it.
    constructor
    · rintro ⟨_, candidates, dropped, hcandidates, hperm, hle, _⟩
      have hpush := pushFrontKeepLatestFirst_perm S call c
      have hvalue : call.value ∈ pushFrontKeepLatestFirst S call c :=
        hpush.mem_iff.mpr List.mem_cons_self
      rcases dropped_of_candidates call c hnot hcandidates
        (hperm.trans (hpush.append_right _)) with ⟨hcut, hnone⟩ | ⟨x, hsame, hcut⟩
      · refine Or.inr ⟨fun y hy => hle _ hvalue y (hcut.mem_iff.mp hy), fun hreplace hfound => ?_⟩
        exact absurd ⟨hreplace, hfound⟩ hnone
      · refine Or.inr ⟨fun y hy => ?_, fun _ _ => ?_⟩
        · rcases List.mem_cons.mp (hcut.mem_iff.mp hy) with rfl | hdropped
          · exact le_of_eq hsame
          · exact hle _ hvalue y hdropped
        · exact ⟨x, hcut.mem_iff.mpr List.mem_cons_self, hsame⟩
    · intro hcond
      rcases hcond with h | ⟨hcut, hsame⟩
      · exact absurd h hreplaces
      · exact keepsLatest_of_cutsOffOldest S call c hc hnot hcut hsame

end Insertion

/-- An insertion into a list of two, with a limit. -/
def lateCall (msecs maxElements : ℤ) (valid : maxElements < 0 ∨ 1 < maxElements) :
    Push Timestamped :=
  { value := ⟨msecs, 0⟩, maxElements := maxElements, valid := valid }

theorem keeps_latest_sample :
    KeepsLatest (lateCall 9 2 (by decide)) [⟨10, 0⟩, ⟨8, 0⟩]
      (pushFrontKeepLatestFirst (Sorter.insertion Timestamped) (lateCall 9 2 (by decide))
        [⟨10, 0⟩, ⟨8, 0⟩]) :=
  (keeps_latest_iff (Sorter.insertion Timestamped) (lateCall 9 2 (by decide)) [⟨10, 0⟩, ⟨8, 0⟩]
    (by decide)).mpr (Or.inr ⟨by decide, fun _ h => absurd h (by decide)⟩)

/-- A late object takes the place of a later one, and one that is to be replaced stays
    behind the front. -/
theorem late_value_drops_later_one :
    pushFrontKeepLatestFirst (Sorter.insertion Timestamped) (lateCall 5 2 (by decide))
        [⟨10, 0⟩, ⟨8, 0⟩] = [⟨10, 0⟩, ⟨5, 0⟩] ∧
      ¬KeepsLatest (lateCall 5 2 (by decide)) [⟨10, 0⟩, ⟨8, 0⟩] [⟨10, 0⟩, ⟨5, 0⟩] ∧
      pushFrontKeepLatestFirst (Sorter.insertion Timestamped) (lateCall 8 6 (by decide))
        [⟨10, 0⟩, ⟨8, 1⟩] = [⟨10, 0⟩, ⟨8, 1⟩, ⟨8, 0⟩] ∧
      ¬KeepsLatest (lateCall 8 6 (by decide)) [⟨10, 0⟩, ⟨8, 1⟩] [⟨10, 0⟩, ⟨8, 1⟩, ⟨8, 0⟩] := by
  refine ⟨by decide, ?_, by decide, ?_⟩
  · rintro ⟨_, candidates, dropped, hcandidates, hperm, hle, _⟩
    -- What is dropped would have to be the value, but a later object is.
    have hswap : [(⟨10, 0⟩ : Timestamped), ⟨5, 0⟩].Perm [⟨5, 0⟩, ⟨10, 0⟩] := by decide
    rcases dropped_of_candidates (lateCall 5 2 (by decide)) [⟨10, 0⟩, ⟨8, 0⟩]
      (by decide) hcandidates
      (hperm.trans (hswap.append_right _)) with ⟨hcut, _⟩ | ⟨x, hsame, hcut⟩
    · have hmem : (⟨8, 0⟩ : Timestamped) ∈ dropped := hcut.mem_iff.mp (by decide)
      exact absurd (hle ⟨5, 0⟩ (by decide) ⟨8, 0⟩ hmem) (by decide)
    · have hmem : x ∈ [(⟨8, 0⟩ : Timestamped)] := hcut.mem_iff.mpr List.mem_cons_self
      rw [List.mem_singleton.mp hmem] at hsame
      cases hsame
  · rintro ⟨_, candidates, dropped, hcandidates, hperm, hle, _⟩
    have hswap : [(⟨10, 0⟩ : Timestamped), ⟨8, 1⟩, ⟨8, 0⟩].Perm [⟨8, 0⟩, ⟨10, 0⟩, ⟨8, 1⟩] := by
      decide
    rcases dropped_of_candidates (lateCall 8 6 (by decide)) [⟨10, 0⟩, ⟨8, 1⟩]
      (by decide) hcandidates
      (hperm.trans (hswap.append_right _)) with ⟨_, hnone⟩ | ⟨x, _, hcut⟩
    · exact hnone ⟨rfl, ⟨8, 1⟩, by decide, rfl⟩
    · exact absurd (hcut.mem_iff.mpr List.mem_cons_self : x ∈ ([] : List Timestamped))
        List.not_mem_nil

end NeoSwift.Misc
