import Mathlib.Data.List.Basic
import NeoSwift.Lib.AssocMap
import NeoSwift.Misc.ValueCache.Batch
import NeoSwift.Misc.ValueCache.Cache

/-!
# Cache and Pages in Step

What holds of the cache and its pages after any sequence of calls, changes from
other processes and deliveries. A page ignores the changes of others while one of
its own is on the way, because its own will reach the cache later and so be the
newer one there. The counter of pending changes says when that is: it is the
number of own changes in line on the way to the cache and back.

When nothing is in line the cache holds the last change it sent out. A page holds
the last one that it made itself or that its own validation takes; a page whose
validation turns changes away keeps what it had.

## Main definitions

* `ownInFlight`: The page's own changes of a key on their way.
* `lastHeld`: The last of some changes that a page would hold.
* `Synchronised`: The invariant of the system.

## Theorems

* `call_element`: What a call does to an element and sends to the cache.
* `synchronised_step`, `synchronised_run`: Every step keeps the invariant.
* `pages_in_step`: What counters and values are in every reachable state.
* `rejecting_page_differs`: A page that turns a change away.
-/

namespace NeoSwift.Misc

namespace ValueCache

variable {P K V : Type} [DecidableEq K]

/-- A value and its timestamp. -/
abbrev Entry (V : Type) := Option V × ℤ

/-- The change of a key that a packet from a page makes. -/
def changeOf (key : K) (values : CValueCachePacket K V) : Option (Entry V) :=
  if values.valuesChanged then values.values.lookup key else none

/-- The changes of a key among those the cache sent, each with who made it. -/
def changesTo (key : K) (sent : List (Sent P K V)) : List (Option P × Entry V) :=
  sent.filterMap (fun s => (s.1.values.lookup key).map (fun entry => (s.2, entry)))

/-- The last of some changes. -/
def lastEntry (changes : List (Option P × Entry V)) (initial : Entry V) : Entry V :=
  (changes.getLast?.map Prod.snd).getD initial

theorem changesTo_append (key : K) (sent sent' : List (Sent P K V)) :
    changesTo key (sent ++ sent') = changesTo key sent ++ changesTo key sent' :=
  List.filterMap_append

theorem lastEntry_append (changes changes' : List (Option P × Entry V)) (initial : Entry V) :
    lastEntry (changes ++ changes') initial = lastEntry changes' (lastEntry changes initial) := by
  unfold lastEntry
  rw [List.getLast?_append]
  cases changes'.getLast? <;> rfl

def PageElement.entry (element : PageElement V) : Entry V := (element.value, element.timestamp)

/-- What of an element never changes. -/
def PageElement.identity (element : PageElement V) : PageElement V :=
  { element with value := none, timestamp := 0, pendingChanges := 0, saved := false }

/-- An element after calls that sent some changes of its key. -/
structure ElementStep (added : List (Entry V)) (element element' : PageElement V) : Prop where
  identity : element'.identity = element.identity
  pending : element'.pendingChanges = element.pendingChanges + added.length
  entry : element'.entry = added.getLast?.getD element.entry

theorem ElementStep.refl (element : PageElement V) : ElementStep [] element element :=
  ⟨rfl, (Int.add_zero _).symm, rfl⟩

/-- Two maps of elements, key by key. -/
def Stepped {K V : Type} (added : K → List (Entry V)) (elements elements' :
    K → Option (PageElement V)) : Prop :=
  ∀ key, Option.Rel (ElementStep (added key)) (elements key) (elements' key)

theorem Stepped.refl {K V : Type} (elements : K → Option (PageElement V)) :
    Stepped (fun _ => []) elements elements := by
  intro key
  cases elements key with
  | none => exact .none
  | some element => exact .some (.refl element)

theorem stepped_setElement (page : CValuePage K V) (key : K) (element element' : PageElement V)
    (added : K → List (Entry V)) (hkey : page.elements key = some element)
    (hstep : ElementStep (added key) element element')
    (hother : ∀ other, other ≠ key → added other = []) :
    Stepped added page.elements (page.setElement key element').elements := by
  intro other
  by_cases heq : other = key
  · subst heq
    simp only [CValuePage.setElement, Function.update_self, hkey]
    exact .some hstep
  · simp only [CValuePage.setElement, Function.update_of_ne heq, hother other heq]
    exact Stepped.refl page.elements other

/-! ## The cache -/

/-- What the cache does on a change: it sends some packets, and its entries are the
    last of what it sent. -/
structure CacheStep (cache : CValueCache K V)
    (result : CValueCache K V × List (CacheSignal P K V)) (sent : List (Sent P K V)) : Prop where
  signals : result.2.filterMap CacheSignal.sent? = sent
  entry : ∀ key, (result.1.elements key).entry
    = lastEntry (changesTo key sent) (cache.elements key).entry

theorem lookup_filter (values : CValueCachePacket K V) (test : K → Bool) (key : K) :
    (values.filter test).values.lookup key
      = if test key then values.values.lookup key else none := by
  have hfilter : (values.filter test).values.lookup key =
      (values.values.lookup key).filter fun _ => test key :=
    AssocMap.lookup_filterEntries (fun key _ => test key) values.values key
  rw [hfilter]
  by_cases htest : test key = true
  · rw [if_pos htest]
    cases values.values.lookup key with
    | none => rfl
    | some entry => rw [Option.filter_some, if_pos htest]
  · rw [if_neg htest]
    cases values.values.lookup key with
    | none => rfl
    | some entry => rw [Option.filter_some, if_neg htest]

theorem lookup_of_isEmpty {values : CValueCachePacket K V} (h : values.isEmpty = true) (key : K) :
    values.values.lookup key = none := by
  rw [CValueCachePacket.isEmpty, List.isEmpty_iff] at h
  rw [AList.lookup, h, List.dlookup_nil]

theorem filter_false_isEmpty (values : CValueCachePacket K V) :
    (values.filter (fun _ => false)).isEmpty = true := by
  simp [CValueCachePacket.filter, CValueCachePacket.isEmpty]

/-- An announcement that comes back changes no value. -/
theorem cacheStep_roundTrip (cache : CValueCache K V) (values : CValueCachePacket K V) :
    CacheStep (P := P) cache (cache.changeValuesFromRemote values true) [] := by
  unfold CValueCache.changeValuesFromRemote
  split
  · exact ⟨rfl, fun key => rfl⟩
  · split
    · refine ⟨?_, fun key => rfl⟩
      split <;> rfl
    · refine ⟨?_, fun key => ?_⟩
      · simp only [Bool.not_true, Bool.false_and, filter_false_isEmpty, if_true]
        split <;> rfl
      · dsimp only
        cases values.values.lookup key <;> rfl

/-- The part of the changes of another process that the cache takes. -/
def ratified (cache : CValueCache K V) (values : CValueCachePacket K V) : CValueCachePacket K V :=
  values.filter (fun key => decide ((cache.elements key).pendingChanges = 0))

/-- A ratified entry replaces what the cache has of its key. -/
theorem entry_ratified (cache : CValueCache K V) (values : CValueCachePacket K V) (key : K) :
    (match values.values.lookup key with
      | none => cache.elements key
      | some entry =>
          if decide ((cache.elements key).pendingChanges = 0) = true then
            { cache.elements key with
              value := entry.1, timestamp := entry.2, saved := values.saved }
          else cache.elements key : CacheElement V).entry
      = ((ratified cache values).values.lookup key).getD (cache.elements key).entry := by
  have hlookup := lookup_filter values
    (fun key => decide ((cache.elements key).pendingChanges = 0)) key
  change (ratified cache values).values.lookup key = _ at hlookup
  rw [hlookup]
  cases values.values.lookup key with
  | none => dsimp only; rw [ite_self]; rfl
  | some entry => dsimp only; split <;> rfl

theorem cacheStep_fromRemote (cache : CValueCache K V) (values : CValueCachePacket K V) :
    CacheStep (P := P) cache (cache.changeValuesFromRemote values false)
      (if values.valuesChanged && !(ratified cache values).isEmpty then
        [(ratified cache values, none)] else []) := by
  unfold CValueCache.changeValuesFromRemote
  by_cases hempty : values.isEmpty = true
  · -- No entries, no ratified entries.
    have hnone : (ratified cache values).isEmpty = true := by
      rw [CValueCachePacket.isEmpty, List.isEmpty_iff] at hempty ⊢
      simp [ratified, CValueCachePacket.filter, hempty]
    simp only [hempty, hnone, Bool.not_true, Bool.and_false]
    exact ⟨rfl, fun key => rfl⟩
  · by_cases hchanged : values.valuesChanged = true
    · simp only [hempty, hchanged, Bool.false_eq_true, if_false, Bool.not_true, Bool.true_and,
        filter_false_isEmpty, Bool.false_and, List.append_nil]
      have hentry := entry_ratified cache values
      by_cases hnone : (ratified cache values).isEmpty = true
      · refine ⟨?_, fun key => (hentry key).trans ?_⟩
        · change List.filterMap _ (if (ratified cache values).isEmpty = true then _ else _) = _
          rw [hnone]
          rfl
        · rw [lookup_of_isEmpty hnone, hnone]
          rfl
      · refine ⟨?_, fun key => (hentry key).trans ?_⟩
        · change List.filterMap _ (if (ratified cache values).isEmpty = true then _ else _) = _
          simp only [hnone, Bool.false_eq_true, if_false]
          split <;> rfl
        · simp only [hnone, Bool.not_false, if_true, changesTo, List.filterMap_cons]
          cases (ratified cache values).values.lookup key <;> rfl
    · simp only [hempty, hchanged, Bool.false_eq_true, if_false, Bool.not_false, if_true]
      refine ⟨?_, fun key => rfl⟩
      split <;> rfl

/-- The cache after a change and before any announcement is back. -/
theorem entry_changed (cache : CValueCache K V) (values : CValueCachePacket K V)
    (sender : Option P) (key : K) :
    (match values.values.lookup key with
      | none => cache.elements key
      | some entry =>
          if values.valuesChanged = true then
            { value := entry.1
              timestamp := entry.2
              pendingChanges := (cache.elements key).pendingChanges + 1
              saved := values.saved }
          else { cache.elements key with saved := values.saved } : CacheElement V).entry
      = lastEntry (changesTo key (if values.valuesChanged = true then [(values, sender)] else []))
        (cache.elements key).entry := by
  by_cases hchanged : values.valuesChanged = true
  · simp only [hchanged, if_true, changesTo, List.filterMap_cons]
    cases values.values.lookup key <;> rfl
  · simp only [hchanged]
    cases values.values.lookup key <;> rfl

/-- A change made here is sent to the pages as it is. -/
theorem cacheStep_changeValues (connected : Bool) (cache : CValueCache K V)
    (values : CValueCachePacket K V) (sender : Option P) :
    CacheStep cache (cache.changeValues connected values sender)
      (if values.valuesChanged && !values.isEmpty then [(values, sender)] else []) := by
  unfold CValueCache.changeValues
  by_cases hempty : values.isEmpty = true
  · simp only [hempty, Bool.not_true, Bool.and_false]
    exact ⟨rfl, fun key => rfl⟩
  · simp only [hempty, Bool.false_eq_true, if_false, Bool.not_false, Bool.and_true]
    have hentry := entry_changed cache values sender
    have hsent : ((if values.valuesChanged =
      true then [CacheSignal.valuesChanged values sender] else [])
          ++ [CacheSignal.valuesChangedByLocal values]).filterMap CacheSignal.sent?
        = if values.valuesChanged = true then [(values, sender)] else [] := by
      split <;> rfl
    split
    · exact ⟨hsent, hentry⟩
    · rename_i hconnected
      refine ⟨?_, fun key => ?_⟩
      · rw [List.filterMap_append, hsent, (cacheStep_roundTrip _ values).signals, List.append_nil]
      · rw [(cacheStep_roundTrip (P := P) _ values).entry key]
        exact hentry key

/-! ## Elements and changes -/

theorem changeOf_ofValues (key : K) (values : AList (fun _ : K => Option V)) (timestamp : ℤ)
    (saved : Bool) :
    changeOf key (.ofValues values timestamp saved true)
      = (values.lookup key).map (fun value => (value, timestamp)) := by
  rw [changeOf, lookup_ofValues]
  exact if_pos rfl

theorem changeOf_singleton (key other : K) (value : Option V) (timestamp : ℤ) (saved : Bool) :
    changeOf other (.ofValues (AList.singleton key value) timestamp saved true)
      = if other = key then some (value, timestamp) else none := by
  rw [changeOf_ofValues, ← AList.insert_empty]
  by_cases heq : other = key
  · rw [if_pos heq, heq, AList.lookup_insert, Option.map_some]
  · rw [if_neg heq, AList.lookup_insert_ne heq, AList.lookup_empty, Option.map_none]

theorem stepped_endBatch (page : CValuePage K V) (now : ℤ) :
    Stepped (fun key => (page.endBatch now).2.filterMap (changeOf key)) page.elements
      (page.endBatch now).1.elements := by
  unfold CValuePage.endBatch
  dsimp only
  split
  · intro key
    simp only [List.filterMap_cons, changeOf_ofValues]
    cases page.elements key with
    | none => exact .none
    | some element =>
        cases page.batchedValues.lookup key with
        | none => exact .some (.refl element)
        | some value => exact .some ⟨rfl, rfl, rfl⟩
  · exact Stepped.refl page.elements

variable [DecidableEq P]

/-- The page's own among some changes. -/
def ownOf (p : P) (changes : List (Option P × Entry V)) : List (Entry V) :=
  changes.filterMap (fun c => if c.1 = some p then some c.2 else none)

/-- The page's own changes of a key that are on their way to the cache and back,
    the next one to come back first. -/
def ownInFlight (system : CacheSystem P K V) (p : P) (key : K) : List (Entry V) :=
  ownOf p (changesTo key (system.toPage p)) ++ (system.toCache p).filterMap (changeOf key)

theorem ownOf_append (p : P) (changes changes' : List (Option P × Entry V)) :
    ownOf p (changes ++ changes') = ownOf p changes ++ ownOf p changes' :=
  List.filterMap_append

/-- Changes that no page made leave the lines to the cache as they are. -/
theorem ownOf_nobody (p : P) (key : K) (values : CValueCachePacket K V) (test : Bool) :
    ownOf p (changesTo key (if test then [(values, (none : Option P))] else [])) = [] := by
  cases test with
  | false => rfl
  | true =>
      simp only [changesTo, if_true, List.filterMap_cons]
      cases values.values.lookup key <;> rfl

variable [Variant V]

/-- The validation of the element takes the value. -/
def PageElement.accepts (element : PageElement V) (value : Option V) : Bool :=
  (element.validate value .error).isSuccess

theorem createElement_pendingChanges (nameWithKey : String) (metaType : ℤ)
    (validator : Option (V → Bool × String)) (defaultValue : Option V)
    (cached : Option V × ℤ × Bool) :
    (createElement nameWithKey metaType validator defaultValue cached).pendingChanges = 0 := by
  unfold createElement
  dsimp only
  split <;> rfl

/-- Validation does not depend on what the element holds. -/
theorem accepts_of_identity {element element' : PageElement V}
    (h : element'.identity = element.identity) (value : Option V) :
    element'.accepts value = element.accepts value := by
  have heq : element'.identity.accepts value = element.identity.accepts value := by rw [h]
  exact heq

/-- The page would hold the change: it is its own, or its validation takes it. -/
def holds (p : P) (element : PageElement V) (change : Option P × Entry V) : Bool :=
  decide (change.1 = some p) || element.accepts change.2.1

/-- The last of some changes that the page would hold. -/
def lastHeld (p : P) (element : PageElement V) (changes : List (Option P × Entry V)) : Entry V :=
  lastEntry (changes.filter (holds p element)) element.entry

/-- An element and what it was created as, with the page's own changes in flight
    and the changes delivered to the page. -/
structure ElementSync (p : P) (flight : List (Entry V)) (delivered : List (Option P × Entry V))
    (created element : PageElement V) : Prop where
  identity : element.identity = created.identity
  pending : element.pendingChanges = flight.length
  entry : element.entry = flight.getLast?.getD (lastHeld p created delivered)

/-- The state after a run that sent `out` to the pages. -/
structure Synchronised (start system : CacheSystem P K V) (out : List (Sent P K V)) : Prop where
  cache : ∀ key, (system.cache.elements key).entry
    = lastEntry (changesTo key out) (start.cache.elements key).entry
  pages : ∀ p, ∃ delivered, out = delivered ++ system.toPage p ∧ ∀ key,
    Option.Rel (ElementSync p (ownInFlight system p key) (changesTo key delivered))
      ((start.pages p).elements key) ((system.pages p).elements key)

/-- An element that makes more changes of its own is in step with them. -/
theorem ElementSync.step {p : P} {flight added : List (Entry V)}
    {delivered : List (Option P × Entry V)} {created element element' : PageElement V}
    (h : ElementSync p flight delivered created element)
      (hstep : ElementStep added element element') :
    ElementSync p (flight ++ added) delivered created element' where
  identity := hstep.identity.trans h.identity
  pending := by
    rw [hstep.pending, h.pending, List.length_append]
    omega
  entry := by
    rw [hstep.entry, h.entry, List.getLast?_append]
    cases added.getLast? <;> rfl

/-- An element under a packet from the cache that has its key, where the next own
    change to come back is the page's own change in the packet. -/
theorem ElementSync.deliver {p : P} {changedBy : Option P} {entry : Entry V}
    {flight : List (Entry V)} {delivered : List (Option P × Entry V)}
    {created element : PageElement V} (saved : Bool)
    (h : ElementSync p (ownOf p [(changedBy, entry)] ++ flight) delivered created element) :
    ElementSync p flight (delivered ++ [(changedBy, entry)]) created
      (element.setFromCache (changedBy = some p) saved entry) := by
  by_cases hown : changedBy = some p
  · -- The own change is back: it is what the page holds if no other is on the way.
    have hflight : ownOf p [(changedBy, entry)] = [entry] := by
      simp [ownOf, hown]
    rw [hflight] at h
    have hheld : lastHeld p created (delivered ++ [(changedBy, entry)]) = entry := by
      simp only [lastHeld, List.filter_append, List.filter_cons, holds, hown, lastEntry_append]
      rfl
    simp only [PageElement.setFromCache, hown, decide_true, if_true]
    rw [hown] at hheld
    refine ⟨h.identity, ?_, ?_⟩
    · have hpending := h.pending
      rw [List.length_append, List.length_singleton] at hpending
      dsimp only
      omega
    · have hentry := h.entry
      rw [List.getLast?_append] at hentry
      rw [hheld]
      change element.entry = _
      rw [hentry]
      cases flight.getLast? <;> rfl
  · have hflight : ownOf p [(changedBy, entry)] = [] := by
      simp [ownOf, hown]
    rw [hflight, List.nil_append] at h
    have haccepts : element.accepts entry.1 = created.accepts entry.1 :=
      accepts_of_identity h.identity entry.1
    have hheld : lastHeld p created (delivered ++ [(changedBy, entry)])
        = if created.accepts entry.1 then entry else lastHeld p created delivered := by
      simp only [lastHeld, List.filter_append, List.filter_cons, holds, hown, decide_false,
        Bool.false_or, lastEntry_append]
      split <;> rfl
    simp only [PageElement.setFromCache, hown, decide_false, Bool.false_eq_true, if_false]
    rcases flight with _ | ⟨own, rest⟩
    · -- Nothing of its own is on the way, so the page takes the change if it is valid.
      have hpending : element.pendingChanges = 0 := h.pending
      rw [if_pos hpending]
      change ElementSync p [] _ created (if element.accepts entry.1 = true then _ else _)
      rw [haccepts]
      by_cases hvalid : created.accepts entry.1 = true
      · rw [if_pos hvalid] at hheld ⊢
        exact ⟨h.identity, hpending, by rw [hheld]; rfl⟩
      · rw [if_neg hvalid] at hheld ⊢
        exact ⟨h.identity, hpending, by rw [hheld]; exact h.entry⟩
    · have hpending : ¬ element.pendingChanges = 0 := by
        rw [h.pending, List.length_cons]
        omega
      rw [if_neg hpending]
      refine ⟨h.identity, h.pending, ?_⟩
      rw [h.entry]
      rfl

/-- Pages as they are created are in step with the cache. -/
theorem synchronised_start (cache : CValueCache K V)
    (declared : P → K → Option (CachedDeclaration V)) :
    Synchronised (CacheSystem.start cache declared) (CacheSystem.start cache declared) [] := by
  refine ⟨fun key => rfl, fun p => ⟨[], rfl, fun key => ?_⟩⟩
  unfold CacheSystem.start
  dsimp only
  cases declared p key with
  | none => exact .none
  | some d => exact .some ⟨rfl, createElement_pendingChanges _ _ _ _ _, rfl⟩

variable {start system : CacheSystem P K V}

/-- A step of the cache keeps the invariant, if what it takes out of the lines to
    the cache is what comes back to the pages that made it. -/
theorem Synchronised.afterCache {out : List (Sent P K V)}
    (h : Synchronised start system out) (connected : Bool) (system₁ : CacheSystem P K V)
    (hpages : system₁.pages = system.pages) (htoPage : system₁.toPage = system.toPage)
    {result : CValueCache K V × List (CacheSignal P K V)} {sent : List (Sent P K V)}
    (hstep : CacheStep system.cache result sent)
    (hflight : ∀ p key, ownOf p (changesTo key sent) ++ (system₁.toCache p).filterMap (changeOf key)
      = (system.toCache p).filterMap (changeOf key)) :
    Synchronised start (system₁.afterCache connected result).1
      (out ++ (system₁.afterCache connected result).2) := by
  have hsent : (system₁.afterCache connected result).2 = sent := hstep.signals
  rw [hsent]
  constructor
  · intro key
    rw [changesTo_append, lastEntry_append, ← h.cache key]
    exact hstep.entry key
  · intro p
    rcases h.pages p with ⟨delivered, hout, helements⟩
    -- The line of every page gets what is sent at its end.
    have hline : (system₁.afterCache connected result).1.toPage p = system.toPage p ++ sent := by
      unfold CacheSystem.afterCache
      rw [htoPage, hstep.signals]
    refine ⟨delivered, ?_, fun key => ?_⟩
    · rw [hline, hout, List.append_assoc]
    · -- What comes back is taken out of one line and put into the other one.
      have hkept : ownInFlight (system₁.afterCache connected result).1 p key
          = ownInFlight system p key := by
        unfold ownInFlight
        rw [hline, changesTo_append, ownOf_append, List.append_assoc]
        exact congrArg _ (hflight p key)
      rw [hkept]
      change Option.Rel _ _ ((system₁.pages p).elements key)
      rw [hpages]
      exact helements key

/-! ## Calls of a page -/

variable [DecidableEq V]

theorem stepped_setValue (page : CValuePage K V) (call : SetCall K V) :
    Stepped (fun key => (page.setValue call).2.filterMap (changeOf key)) page.elements
      (page.setValue call).1.elements := by
  unfold CValuePage.setValue
  rcases hkey : page.elements call.key with _ | element
  · exact Stepped.refl page.elements
  · -- A value that is refused changes nothing, and neither does an element that is not there.
    unfold CValuePage.setValueOf
    dsimp only
    split
    · exact Stepped.refl page.elements
    · split
      · split
        · -- An unchanged value that is to be saved: the packet carries no change.
          exact stepped_setElement page call.key element _ _ hkey ⟨rfl, (Int.add_zero _).symm, rfl⟩
            (fun _ _ => rfl)
        · split
          · exact Stepped.refl page.elements
          · refine stepped_setElement page call.key element _ _ hkey ⟨rfl, ?_, ?_⟩ ?_
            · simp only [List.filterMap_cons, changeOf_singleton]
              rfl
            · simp only [List.filterMap_cons, changeOf_singleton]
              rfl
            · intro other hother
              simp [changeOf_singleton, hother]
      · exact Stepped.refl page.elements

/-- What a call does to each element is what it sends of its key to the cache. -/
theorem call_element (page : CValuePage K V) (c : PageCall K V) :
    Stepped (fun key => (page.call c).2.filterMap (changeOf key)) page.elements
      (page.call c).1.elements := by
  cases c with
  | setValue call => exact stepped_setValue page call
  | beginBatch => exact Stepped.refl page.elements
  | abandonBatch => exact Stepped.refl page.elements
  | endBatch now => exact stepped_endBatch page now

/-! ## Steps of the system -/

theorem Synchronised.call {out : List (Sent P K V)}
    (h : Synchronised start system out) (connected : Bool) (p : P) (c : PageCall K V) :
    Synchronised start (system.step connected (.call p c)).1 out := by
  refine ⟨h.cache, fun q => ?_⟩
  rcases h.pages q with ⟨delivered, hout, helements⟩
  refine ⟨delivered, hout, fun key => ?_⟩
  by_cases hq : q = p
  · -- The page that is called: what it sends joins its own changes in flight.
    subst hq
    have hflight : ownInFlight (system.step connected (.call q c)).1 q key
        = ownInFlight system q key ++ ((system.pages q).call c).2.filterMap (changeOf key) := by
      simp [ownInFlight, CacheSystem.step]
    have hpage : ((system.step connected (.call q c)).1.pages q).elements key
        = ((system.pages q).call c).1.elements key := by
      simp [CacheSystem.step]
    rw [hflight, hpage]
    have hcall := call_element (system.pages q) c key
    have hsync := helements key
    revert hcall hsync
    generalize (start.pages q).elements key = created
    generalize (system.pages q).elements key = element
    generalize ((system.pages q).call c).1.elements key = element'
    intro hcall hsync
    -- An element that is not there stays so, and one that is there takes its step.
    cases hsync with
    | none =>
        cases hcall
        exact .none
    | some hs =>
        cases hcall with
        | some hc => exact .some (hs.step hc)
  · -- The other pages neither change nor send.
    have hflight : ownInFlight (system.step connected (.call p c)).1 q key
        = ownInFlight system q key := by
      simp [ownInFlight, CacheSystem.step, Function.update_of_ne hq]
    have hpage : (system.step connected (.call p c)).1.pages q = system.pages q := by
      simp [CacheSystem.step, Function.update_of_ne hq]
    rw [hflight, hpage]
    exact helements key

theorem Synchronised.toCache {out : List (Sent P K V)}
    (h : Synchronised start system out) (connected : Bool) (p : P) :
    Synchronised start (system.step connected (.toCache p)).1
      (out ++ (system.step connected (.toCache p)).2) := by
  rcases hline : system.toCache p with _ | ⟨values, rest⟩
  · have hstep : system.step connected (.toCache p) = (system, []) := by
      simp [CacheSystem.step, hline]
    rw [hstep, List.append_nil]
    exact h
  · have hstep : system.step connected (.toCache p) =
        { system with toCache := Function.update system.toCache p rest }.afterCache connected
          (system.cache.changeValues connected values (some p)) := by
      simp [CacheSystem.step, hline]
    rw [hstep]
    refine h.afterCache connected { system with toCache := Function.update system.toCache p rest }
      rfl rfl (cacheStep_changeValues connected system.cache values (some p)) (fun q key => ?_)
    -- The change of the key that leaves the line is the one the cache sends.
    have hsent : changesTo key (if values.valuesChanged && !values.isEmpty then
          [(values, some p)] else [])
        = ((changeOf key values).map (fun entry => (some p, entry))).toList := by
      unfold changeOf changesTo
      by_cases hchanged : values.valuesChanged = true
      · by_cases hempty : values.isEmpty = true
        · simp only [hchanged, hempty, lookup_of_isEmpty hempty key]
          rfl
        · simp only [hchanged, hempty, Bool.not_false, Bool.and_true, if_true, List.filterMap_cons]
          cases values.values.lookup key <;> rfl
      · simp only [hchanged]
        rfl
    rw [hsent]
    by_cases hq : q = p
    · subst hq
      simp only [Function.update_self, hline, List.filterMap_cons]
      cases changeOf key values with
      | none => rfl
      | some entry =>
          simp only [ownOf, Option.map_some, Option.toList_some, List.filterMap_cons]
          rfl
    · have hother : ¬ (some p : Option P) = some q := fun heq => hq (Option.some.inj heq).symm
      simp only [Function.update_of_ne hq]
      cases changeOf key values with
      | none => rfl
      | some entry =>
          simp only [ownOf, Option.map_some, Option.toList_some, List.filterMap_cons, hother]
          rfl

theorem Synchronised.toPage {out : List (Sent P K V)}
    (h : Synchronised start system out) (connected : Bool) (p : P) :
    Synchronised start (system.step connected (.toPage p)).1 out := by
  rcases hline : system.toPage p with _ | ⟨sent, rest⟩
  · have hstep : (system.step connected (.toPage p)).1 = system := by
      simp [CacheSystem.step, hline]
    rw [hstep]
    exact h
  · have hstep : (system.step connected (.toPage p)).1 =
        { system with
          pages := Function.update system.pages p
            ((system.pages p).setValuesFromCache sent.1 (sent.2 = some p))
          toPage := Function.update system.toPage p rest } := by
      simp [CacheSystem.step, hline]
    rw [hstep]
    refine ⟨h.cache, fun q => ?_⟩
    rcases h.pages q with ⟨delivered, hout, helements⟩
    by_cases hq : q = p
    · subst hq
      refine ⟨delivered ++ [sent], ?_, fun key => ?_⟩
      · simp only [Function.update_self]
        rw [hout, hline, List.append_assoc, List.singleton_append]
      · have hsync := helements key
        have hflight : ownInFlight system q key = ownOf q (changesTo key [sent]) ++
            ownInFlight { system with
              pages := Function.update system.pages q
                ((system.pages q).setValuesFromCache sent.1 (sent.2 = some q))
              toPage := Function.update system.toPage q rest } q key := by
          simp [ownInFlight, hline, ← List.append_assoc, ← ownOf_append, ← changesTo_append]
        rw [hflight] at hsync
        rw [changesTo_append]
        revert hsync
        simp only [Function.update_self, CValuePage.setValuesFromCache]
        generalize (start.pages q).elements key = created
        generalize (system.pages q).elements key = element
        -- Without an entry of the key in the packet nothing changes for the key.
        rcases hlookup : sent.1.values.lookup key with _ | entry
        · have hnone : changesTo key [sent] = [] := by
            simp [changesTo, hlookup]
          rw [hnone, List.append_nil]
          intro hsync
          cases hsync with
          | none => exact .none
          | some hs => exact .some hs
        · have hsome : changesTo key [sent] = [(sent.2, entry)] := by
            simp [changesTo, hlookup]
          rw [hsome]
          intro hsync
          cases hsync with
          | none => exact .none
          | some hs => exact .some (hs.deliver sent.1.saved)
    · refine ⟨delivered, ?_, fun key => ?_⟩
      · simp only [Function.update_of_ne hq]
        exact hout
      · have hsync := helements key
        simp only [ownInFlight, Function.update_of_ne hq] at hsync ⊢
        exact hsync

/-- Every step keeps the invariant. -/
theorem synchronised_step (connected : Bool) (start system : CacheSystem P K V)
    (out : List (Sent P K V)) (action : CacheAction P K V) (h : Synchronised start system out) :
    Synchronised start (system.step connected action).1
      (out ++ (system.step connected action).2) := by
  cases action with
  | call p c =>
      change Synchronised start _ (out ++ [])
      rw [List.append_nil]
      exact h.call connected p c
  | toCache p => exact h.toCache connected p
  | toPage p =>
      have hnothing : (system.step connected (.toPage p)).2 = [] := by
        simp only [CacheSystem.step]
        split <;> rfl
      rw [hnothing, List.append_nil]
      exact h.toPage connected p
  -- What is set in the cache or remotely comes from no page.
  | insertValues values =>
      refine h.afterCache connected system rfl rfl
        (cacheStep_changeValues connected system.cache values none) (fun p key => ?_)
      rw [ownOf_nobody, List.nil_append]
  | changedRemotely values =>
      refine h.afterCache connected system rfl rfl
        (cacheStep_fromRemote system.cache values) (fun p key => ?_)
      rw [ownOf_nobody, List.nil_append]
  | roundTrip =>
      -- A round trip ends for what was announced first.
      rcases hline : system.announced with _ | ⟨values, rest⟩
      · have hstep : system.step connected .roundTrip = (system, []) := by
          simp [CacheSystem.step, hline]
        rw [hstep, List.append_nil]
        exact h
      · have hstep : system.step connected .roundTrip =
            { system with announced := rest }.afterCache connected
              (system.cache.changeValuesFromRemote values true) := by
          simp [CacheSystem.step, hline]
        rw [hstep]
        exact h.afterCache connected { system with announced := rest } rfl rfl
          (cacheStep_roundTrip system.cache values) (fun p key => rfl)

theorem synchronised_run (connected : Bool) (cache : CValueCache K V)
    (declared : P → K → Option (CachedDeclaration V)) (actions : List (CacheAction P K V)) :
    Synchronised (CacheSystem.start cache declared)
      ((cacheSystem connected).run (CacheSystem.start cache declared) actions).1
      ((cacheSystem connected).run (CacheSystem.start cache declared) actions).2 := by
  have hrun := (cacheSystem connected).run_invariant
    (fun system out => Synchronised (CacheSystem.start cache declared) system out)
    (fun system out action h => synchronised_step connected _ system out action h)
    actions (CacheSystem.start cache declared) [] (synchronised_start cache declared)
  exact hrun

/-- Nothing is in line between the cache and its pages. -/
def CacheSystem.AtRest (system : CacheSystem P K V) : Prop :=
  (∀ p, system.toCache p = []) ∧ ∀ p, system.toPage p = []

/-- After any run a page's counter is the number of its own changes in flight. At
    rest the cache holds the last change it sent out, and a page the last one that
    it made itself or whose value its validation takes; that is the same one where
    it takes all of them. -/
theorem pages_in_step (connected : Bool) (cache : CValueCache K V)
    (declared : P → K → Option (CachedDeclaration V)) (actions : List (CacheAction P K V)) :
    let start := CacheSystem.start cache declared
    let system := ((cacheSystem connected).run start actions).1
    let sent := ((cacheSystem connected).run start actions).2
    (∀ p key, ∀ element ∈ (system.pages p).elements key,
      0 ≤ element.pendingChanges ∧ element.pendingChanges = (ownInFlight system p key).length) ∧
    (system.AtRest → ∀ key,
      (system.cache.elements key).entry
        = lastEntry (changesTo key sent) (cache.elements key).entry ∧
      ∀ p, ∀ created ∈ (start.pages p).elements key, ∃ element ∈ (system.pages p).elements key,
        element.entry = lastHeld p created (changesTo key sent) ∧
        (changesTo key sent ≠ [] → (∀ change ∈ changesTo key sent, holds p created change) →
          element.entry = (system.cache.elements key).entry)) := by
  intro start system sent
  have hsync : Synchronised start system sent := synchronised_run connected cache declared actions
  refine ⟨fun p key element helement => ?_, fun hrest key => ⟨hsync.cache key, fun p created
    hcreated => ?_⟩⟩
  · rcases hsync.pages p with ⟨delivered, -, helements⟩
    have hkey := helements key
    rw [Option.mem_def.mp helement] at hkey
    cases hcreated : (start.pages p).elements key with
    | none =>
        rw [hcreated] at hkey
        cases hkey
    | some created =>
        rw [hcreated] at hkey
        cases hkey with
        | some hs =>
            refine ⟨?_, hs.pending⟩
            rw [hs.pending]
            exact Int.natCast_nonneg _
  · rcases hsync.pages p with ⟨delivered, hout, helements⟩
    -- With nothing in line, all that was sent is delivered and nothing is in flight.
    rw [hrest.2 p, List.append_nil] at hout
    have hflight : ownInFlight system p key = [] := by
      simp only [ownInFlight, hrest.1 p, hrest.2 p]
      rfl
    have hkey := helements key
    rw [Option.mem_def.mp hcreated, hflight, ← hout] at hkey
    rcases helement : (system.pages p).elements key with _ | element
    · rw [helement] at hkey
      cases hkey
    · rw [helement] at hkey
      cases hkey with
      | some hs =>
          have hentry : element.entry = lastHeld p created (changesTo key sent) := hs.entry
          refine ⟨element, rfl, hentry, fun hne hall => ?_⟩
          rw [hentry, hsync.cache key, lastHeld, List.filter_eq_self.mpr hall]
          unfold lastEntry
          rcases hlast : (changesTo key sent).getLast? with _ | change
          · exact absurd (List.getLast?_eq_none_iff.mp hlast) hne
          · rfl

/-- One page on an empty cache, with a value that is to be between 0 and 100. -/
def oneDeclared (_ : Unit) (key : String) : Option (CachedDeclaration ℤ) :=
  if key = "value1" then some
    { nameWithKey := "value1", metaType := 2, defaultValue := some 0,
      validator := some (fun v => (0 ≤ v && v ≤ 100, "")) }
  else none

/-- Another process sets a value that the page's validation turns away: with all of
    it delivered, the cache holds the new value and the page still its default. -/
theorem rejecting_page_differs :
    let start : CacheSystem Unit String ℤ := CacheSystem.start {} oneDeclared
    let system := ((cacheSystem false).run start
      [.changedRemotely (.ofValues (AList.singleton "value1" (some 150)) 70 false true),
        .toPage ()]).1
    system.AtRest ∧ system.announced = [] ∧
      (system.cache.elements "value1").entry = (some 150, 70) ∧
      ((system.pages ()).elements "value1").map PageElement.entry = some (some 0, 0) := by
  intro start system
  exact ⟨⟨fun _ => rfl, fun _ => rfl⟩, rfl, by decide, by decide⟩

end ValueCache

end NeoSwift.Misc
