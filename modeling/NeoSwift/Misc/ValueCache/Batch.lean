import NeoSwift.Misc.ValueCache.Page

/-!
# Batches

What a batch of changes on a page sends to the cache. A script is a properly
nested sequence of calls: changes and scopes, each scope with a guard that ends
the batch or, while an exception unwinds, abandons it. The guard of an inner
scope only counts the nesting down either way, so what an abandoned inner scope
put aside stays with the rest and goes out with the outermost end. The packet
that goes out then is marked as not to be saved, whatever the changes asked for.

A call that the page answers with a validation error sets nothing. One that repeats
the value and the timestamp of the element is not put aside, not even where another
value of its key waits there, which then goes out instead of the one that was set
last.

## Main definitions

* `Script`: A properly nested sequence of calls.
* `Script.sets`: What the calls of a script set, whether that is to survive, and
  whether it is put aside.
* `effective`: Without the calls that leave everything as it is.
* `PublishedAtomically`: The surviving values go out in one change.
* `KeepsToSurvivors`: The scripts for which they do.

## Theorems

* `run_inside`: What a script does inside a batch.
* `publishedAtomically_iff`: Exactly those scripts publish what they are to.
* `abandoned_value_published`: A value of an abandoned scope that goes out.
-/

namespace NeoSwift.Misc

namespace ValueCache

variable {K V : Type} [DecidableEq K]

/-- A properly nested sequence of calls. A scope is a guard with the calls made
    while it lives, and the time it ends at. -/
inductive Script (K V : Type) where
  | done
  | set (call : SetCall K V) (rest : Script K V)
  | scope (abandoned : Bool) (endTime : ℤ) (body rest : Script K V)

/-- `~BatchGuard`. -/
def guardEnd (abandoned : Bool) (endTime : ℤ) : PageCall K V :=
  if abandoned then .abandonBatch else .endBatch endTime

def Script.calls : Script K V → List (PageCall K V)
  | .done => []
  | .set call rest => .setValue call :: rest.calls
  | .scope abandoned endTime body rest =>
      .beginBatch :: (body.calls ++ guardEnd abandoned endTime :: rest.calls)

/-- What a call sets: it survives where no scope around it is abandoned, and it is
    taken where it differs from the element in value or time. -/
structure ValueSet (K V : Type) where
  key : K
  value : Option V
  save : Bool
  survives : Bool
  taken : Bool
  deriving DecidableEq

/-- The last of the sets of a key. -/
def lastSet (key : K) (sets : List (ValueSet K V)) : Option (ValueSet K V) :=
  (sets.filter (fun s => s.key = key)).getLast?

/-- The sets without those that repeat the element while no value of their key is put
    aside. -/
def effective : List K → List (ValueSet K V) → List (ValueSet K V)
  | _, [] => []
  | pending, s :: sets =>
      if s.taken then s :: effective (s.key :: pending) sets
      else if s.key ∈ pending then s :: effective pending sets
      else effective pending sets

theorem effective_sublist (pending : List K) (sets : List (ValueSet K V)) :
    (effective pending sets).Sublist sets := by
  induction sets generalizing pending with
  | nil => exact List.Sublist.refl _
  | cons s sets ih =>
      rw [effective]
      split
      · exact (ih _).cons_cons s
      · split
        · exact (ih _).cons_cons s
        · exact (ih _).cons s

def PageElement.unsaved (element : PageElement V) : PageElement V := { element with saved := false }

/-- Two pages with the same elements but for the save flags. -/
def SameValues (page page' : CValuePage K V) : Prop :=
  ∀ key, (page.elements key).map PageElement.unsaved = (page'.elements key).map PageElement.unsaved

theorem SameValues.refl (page : CValuePage K V) : SameValues page page := fun _ => rfl

theorem SameValues.trans {p q r : CValuePage K V} (h : SameValues p q) (h' : SameValues q r) :
    SameValues p r :=
  fun key => (h key).trans (h' key)

/-- The map of what was put aside after some more sets. -/
def putAside (values : AList (fun _ : K => Option V)) (sets : List (ValueSet K V)) :
    AList (fun _ : K => Option V) :=
  sets.foldl (fun values s => values.insert s.key s.value) values

theorem putAside_append (values : AList (fun _ : K => Option V)) (sets sets' :
    List (ValueSet K V)) :
    putAside values (sets ++ sets') = putAside (putAside values sets) sets' :=
  List.foldl_append

/-- The map holds the last set of each key. -/
theorem lookup_putAside (values : AList (fun _ : K => Option V)) (sets : List (ValueSet K V))
    (key : K) :
    (putAside values sets).lookup key
      = match lastSet key sets with
        | some s => some s.value
        | none => values.lookup key := by
  induction sets using List.reverseRecOn with
  | nil => rfl
  | append_singleton sets s ih =>
      have hinsert : putAside values (sets ++ [s]) = (putAside values sets).insert s.key s.value :=
        putAside_append values sets [s]
      rw [hinsert]
      by_cases heq : s.key = key
      · simp [lastSet, heq]
      · rw [AList.lookup_insert_ne (Ne.symm heq), ih]
        simp [lastSet, heq]

/-- A list that sets something sets some key last. -/
theorem eq_nil_of_lastSet (sets : List (ValueSet K V)) (h : ∀ key, lastSet key sets = none) :
    sets = [] := by
  rcases sets with _ | ⟨s, rest⟩
  · rfl
  · have hlast := h s.key
    rw [lastSet, List.getLast?_eq_none_iff, List.filter_eq_nil_iff] at hlast
    exact absurd (decide_eq_true rfl) (hlast s List.mem_cons_self)

theorem putAside_empty (sets : List (ValueSet K V)) :
    (putAside ∅ sets).entries.isEmpty = decide (sets = []) := by
  rcases sets with _ | ⟨s, rest⟩
  · rfl
  · have hne : ¬ s :: rest = [] := List.cons_ne_nil s rest
    rw [decide_eq_false hne, List.isEmpty_eq_false_iff]
    intro hentries
    refine hne (eq_nil_of_lastSet _ (fun key => ?_))
    have hlookup := lookup_putAside ∅ (s :: rest) key
    rw [AList.lookup, hentries] at hlookup
    rcases hlast : lastSet key (s :: rest) with _ | t
    · rfl
    · rw [hlast] at hlookup
      cases hlookup

theorem beginBatch_inside (page : CValuePage K V) (h : 0 < page.batchMode) :
    page.beginBatch = { page with batchMode := page.batchMode + 1 } := by
  simp [CValuePage.beginBatch, show ¬ page.batchMode ≤ 0 by omega]

theorem beginBatch_outside (page : CValuePage K V) (h : page.batchMode = 0) :
    page.beginBatch = { page with batchedValues := ∅, batchMode := 1 } := by
  simp [CValuePage.beginBatch, h]

/-- The packets that carry changes. -/
def changesOf (out : List (CValueCachePacket K V)) : List (CValueCachePacket K V) :=
  out.filter CValueCachePacket.valuesChanged

/-- The sets go out in one change, each key with its last value and its save flag,
    or nothing does where there are none. -/
def PublishedAtomically (endTime : ℤ) (sets : List (ValueSet K V))
    (changes : List (CValueCachePacket K V)) : Prop :=
  (sets = [] ∧ changes = []) ∨
    (sets ≠ [] ∧ ∃ packet, changes = [packet] ∧
      (∀ key, packet.values.lookup key = (lastSet key sets).map (fun s => (s.value, endTime))) ∧
      (∀ key, ∀ s ∈ lastSet key sets, packet.saved = s.save))

/-- For each key, the last value that was put aside is the last surviving one, and no
    surviving one asks to be saved. -/
def KeepsToSurvivors (abandoned : Bool) (taken surviving : List (ValueSet K V)) : Prop :=
  abandoned = true ∨
    (∀ key, (lastSet key taken).map ValueSet.value = (lastSet key surviving).map ValueSet.value) ∧
      ∀ key, ∀ s ∈ lastSet key surviving, s.save = false

/-- What was put aside goes out as the surviving sets exactly if it is their last values
    and none of them was to be saved. -/
theorem publishedAtomically_putAside (endTime : ℤ) (taken surviving : List (ValueSet K V)) :
    PublishedAtomically endTime surviving
        (if taken = [] then [] else [.ofValues (putAside ∅ taken) endTime false true])
      ↔ KeepsToSurvivors false taken surviving := by
  simp only [KeepsToSurvivors, Bool.false_eq_true, false_or]
  constructor
  · rintro (⟨hsurviving, hnothing⟩ | ⟨hsurviving, packet, hpacket, hvalues, hsaved⟩)
    · have hempty : taken = [] := by
        by_contra hne
        rw [if_neg hne] at hnothing
        cases hnothing
      subst hempty hsurviving
      exact ⟨fun key => rfl, fun key s hs => absurd hs (Option.not_mem_none s)⟩
    · have hne : ¬ taken = [] := by
        intro hempty
        rw [if_pos hempty] at hpacket
        cases hpacket
      rw [if_neg hne, List.cons.injEq] at hpacket
      rw [← hpacket.1] at hvalues hsaved
      refine ⟨fun key => ?_, fun key s hs => (hsaved key s hs).symm⟩
      have hkey := hvalues key
      rw [lookup_ofValues, lookup_putAside] at hkey
      have hfst := congrArg (Option.map Prod.fst) hkey
      rcases hall : lastSet key taken with _ | s
      · rw [hall, AList.lookup_empty] at hfst
        simpa only [Option.map_none, Option.map_map, Function.comp_def] using hfst
      · rw [hall] at hfst
        simpa only [Option.map_some, Option.map_map, Function.comp_def] using hfst
  · rintro ⟨hvalues, hsaved⟩
    -- The one list is empty where the other is, since both have the same last values.
    have hempty : taken = [] ↔ surviving = [] := by
      constructor
      · rintro rfl
        exact eq_nil_of_lastSet _ fun key => Option.map_eq_none_iff.mp (hvalues key).symm
      · rintro rfl
        exact eq_nil_of_lastSet _ fun key => Option.map_eq_none_iff.mp (hvalues key)
    by_cases hnone : taken = []
    · exact .inl ⟨hempty.mp hnone, if_pos hnone⟩
    · refine .inr ⟨fun h => hnone (hempty.mpr h), _, if_neg hnone, fun key => ?_,
        fun key s hs => (hsaved key s hs).symm⟩
      rw [lookup_ofValues, lookup_putAside]
      have hpair := congrArg (Option.map (fun value => (value, endTime))) (hvalues key)
      rw [Option.map_map, Option.map_map] at hpair
      refine Eq.trans ?_ hpair
      rcases lastSet key taken with _ | s
      · rfl
      · rfl

variable [DecidableEq V] [Variant V]

/-- What a call sets, if the page finds its value valid. -/
def CValuePage.valueSet (page : CValuePage K V) (call : SetCall K V) (survives : Bool) :
    Option (ValueSet K V) :=
  (page.elements call.key).bind fun element =>
    if (element.validate (call.valueFor element) .error).isSuccess then
      some ⟨call.key, call.valueFor element, call.save, survives, call.changes element⟩
    else none

/-- What the calls of a script inside a batch set, in order. A value survives
    where no scope around it is abandoned. -/
def Script.sets (page : CValuePage K V) : Bool → Script K V → List (ValueSet K V)
  | _, .done => []
  | survives, .set call rest =>
      (page.valueSet call survives).toList ++ rest.sets page survives
  | survives, .scope abandoned _ body rest =>
      body.sets page (survives && !abandoned) ++ rest.sets page survives

/-- What goes out of the outermost batch around a script. -/
def published (page : CValuePage K V) (abandoned : Bool) (endTime : ℤ) (body : Script K V) :
    List (CValueCachePacket K V) :=
  changesOf (pageCalls.run page (Script.scope abandoned endTime body .done).calls).2

/-! ## Inside a batch -/

/-- What a call sets does not depend on the save flags. -/
theorem SameValues.valueSet {page page' : CValuePage K V} (h : SameValues page page')
    (call : SetCall K V) (survives : Bool) :
    page.valueSet call survives = page'.valueSet call survives := by
  have hunsaved : ∀ p : CValuePage K V, p.valueSet call survives
      = ((p.elements call.key).map PageElement.unsaved).bind fun element =>
          if (element.validate (call.valueFor element) .error).isSuccess then
            some ⟨call.key, call.valueFor element, call.save, survives, call.changes element⟩
          else none := by
    intro p
    unfold CValuePage.valueSet
    cases p.elements call.key with
    | none => rfl
    | some element => rfl
  rw [hunsaved, h call.key, ← hunsaved]

theorem SameValues.sets {page page' : CValuePage K V} (h : SameValues page page')
    (script : Script K V) (survives : Bool) :
    script.sets page survives = script.sets page' survives := by
  induction script generalizing survives with
  | done => rfl
  | set call rest ih => simp [Script.sets, h.valueSet call, ih]
  | scope abandoned endTime body rest ihBody ihRest => simp [Script.sets, ihBody, ihRest]

/-- What a call does inside a batch: its value is put aside if it is taken, and no
    change goes out. -/
theorem setValue_inside (page : CValuePage K V) (call : SetCall K V) (survives : Bool)
    (h : 0 < page.batchMode) :
    (page.setValue call).1.batchMode = page.batchMode ∧
      (page.setValue call).1.batchedValues = putAside page.batchedValues
        ((page.valueSet call survives).toList.filter ValueSet.taken) ∧
      SameValues (page.setValue call).1 page ∧ changesOf (page.setValue call).2 = [] := by
  unfold CValuePage.setValue CValuePage.valueSet
  rcases hkey : page.elements call.key with _ | element
  · exact ⟨rfl, rfl, SameValues.refl page, rfl⟩
  · rw [Option.bind_some]
    unfold CValuePage.setValueOf
    by_cases hchanges : call.changes element = true
    · by_cases hvalid : (element.validate (call.valueFor element) .error).isSuccess = true
      · simp only [hchanges, hvalid, h, Bool.not_true, Bool.false_and, Bool.false_eq_true,
          if_false, if_true]
        exact ⟨trivial, rfl, SameValues.refl page, rfl⟩
      · simp only [hchanges, hvalid, Bool.not_true, Bool.false_and, Bool.false_eq_true, if_false]
        exact ⟨trivial, rfl, SameValues.refl page, rfl⟩
    · have hsame : ∀ saved, SameValues
          (page.setElement call.key { element with saved := saved }) page := by
        intro saved key
        by_cases heq : key = call.key
        · rw [heq, hkey]
          simp only [CValuePage.setElement, Function.update_self]
          rfl
        · simp [CValuePage.setElement, Function.update_of_ne heq]
      have hnone : ∀ c : Bool, ((if c then some (⟨call.key, call.valueFor element, call.save,
          survives, call.changes element⟩ : ValueSet K V) else none).toList.filter
            ValueSet.taken) = [] := by
        intro c
        cases c with
        | true => simp only [hchanges]; rfl
        | false => rfl
      -- An unchanged value is at most marked as saved, and no change is sent.
      rw [hnone]
      simp only [hchanges]
      split
      · exact ⟨rfl, rfl, SameValues.refl page, rfl⟩
      · split
        · exact ⟨rfl, rfl, hsame _, rfl⟩
        · exact ⟨rfl, rfl, SameValues.refl page, rfl⟩

/-- An inner guard only counts the nesting down. -/
theorem guardEnd_inside (page : CValuePage K V) (abandoned : Bool) (endTime : ℤ)
    (h : 1 < page.batchMode) :
    page.call (guardEnd abandoned endTime) =
      ({ page with batchMode := page.batchMode - 1 }, []) := by
  cases abandoned with
  | true => rfl
  | false =>
      have hmode : decide (page.batchMode - 1 ≤ 0) = false := decide_eq_false (by omega)
      simp only [guardEnd, CValuePage.call, CValuePage.endBatch, hmode, Bool.false_and,
        Bool.false_eq_true, if_false]

/-- What a script does inside a batch: all it sets is put aside, in abandoned
    scopes as well, and no change goes out. -/
theorem run_inside (script : Script K V) (page : CValuePage K V) (survives : Bool)
    (h : 0 < page.batchMode) :
    (pageCalls.run page script.calls).1.batchMode = page.batchMode ∧
      (pageCalls.run page script.calls).1.batchedValues
        = putAside page.batchedValues ((script.sets page survives).filter ValueSet.taken) ∧
      SameValues (pageCalls.run page script.calls).1 page ∧
      changesOf (pageCalls.run page script.calls).2 = [] := by
  induction script generalizing page survives with
  | done => exact ⟨rfl, rfl, SameValues.refl page, rfl⟩
  | set call rest ih =>
      rcases setValue_inside page call survives h with ⟨hmode, hvalues, hsame, hout⟩
      rcases ih (page.setValue call).1 survives (by rw [hmode]; exact h) with
        ⟨hmode', hvalues', hsame', hout'⟩
      refine ⟨hmode'.trans hmode, ?_, hsame'.trans hsame, ?_⟩
      · rw [Script.sets, List.filter_append, putAside_append, ← hvalues, ← hsame.sets]
        exact hvalues'
      · change changesOf ((page.setValue call).2 ++ _) = []
        unfold changesOf at *
        rw [List.filter_append, hout]
        exact hout'
  | scope abandoned endTime body rest ihBody ihRest =>
      -- The body runs one level deeper, and its end comes back to this one.
      have hbegin := beginBatch_inside page h
      rcases ihBody page.beginBatch (survives && !abandoned) (by rw [hbegin]; dsimp only; omega)
        with ⟨hmode, hvalues, hsame, hout⟩
      have hsame₀ : SameValues page.beginBatch page := by
        exact SameValues.refl page
      have hdeep : 1 < (pageCalls.run page.beginBatch body.calls).1.batchMode := by
        rw [hmode, hbegin]
        dsimp only
        omega
      have hend := guardEnd_inside _ abandoned endTime hdeep
      have hback : (pageCalls.run page.beginBatch body.calls).1.batchMode - 1 = page.batchMode := by
        rw [hmode, hbegin]
        dsimp only
        omega
      rcases ihRest { (pageCalls.run page.beginBatch body.calls).1 with
          batchMode := (pageCalls.run page.beginBatch body.calls).1.batchMode - 1 } survives
        (by dsimp only; omega) with ⟨hmode', hvalues', hsame', hout'⟩
      have hrun : pageCalls.run page (Script.scope abandoned endTime body rest).calls
          = ((pageCalls.run ((pageCalls.run page.beginBatch body.calls).1.call
              (guardEnd abandoned endTime)).1 rest.calls).1,
            (pageCalls.run page.beginBatch body.calls).2 ++
              (((pageCalls.run page.beginBatch body.calls).1.call (guardEnd abandoned endTime)).2 ++
                (pageCalls.run ((pageCalls.run page.beginBatch body.calls).1.call
                  (guardEnd abandoned endTime)).1 rest.calls).2)) := by
        simp only [Script.calls, Machine.run_cons, Machine.run_append]
        rfl
      rw [hrun, hend]
      have hinner : SameValues { (pageCalls.run page.beginBatch body.calls).1 with
          batchMode := (pageCalls.run page.beginBatch body.calls).1.batchMode - 1 } page :=
        SameValues.trans (fun key => hsame key) hsame₀
      refine ⟨hmode'.trans hback, ?_, hsame'.trans hinner, ?_⟩
      · have haside : (pageCalls.run page.beginBatch body.calls).1.batchedValues
            = putAside page.batchedValues
                ((body.sets page (survives && !abandoned)).filter ValueSet.taken) := by
          rw [hvalues, hsame₀.sets body, hbegin]
        rw [Script.sets, List.filter_append, putAside_append, hvalues', hinner.sets, ← haside]
      · unfold changesOf at *
        rw [List.filter_append, List.filter_append, hout, hout']
        rfl

/-! ## The outermost batch -/

/-- The page before the outermost guard ends, and what went out until then. -/
theorem run_outermost (page : CValuePage K V) (h : page.batchMode = 0) (survives : Bool)
    (body : Script K V) :
    (pageCalls.run page.beginBatch body.calls).1.batchMode = 1 ∧
      (pageCalls.run page.beginBatch body.calls).1.batchedValues
        = putAside ∅ ((body.sets page survives).filter ValueSet.taken) ∧
      changesOf (pageCalls.run page.beginBatch body.calls).2 = [] := by
  have hbegin := beginBatch_outside page h
  have hsame : SameValues page.beginBatch page := by
    exact SameValues.refl page
  rcases run_inside body page.beginBatch survives (by rw [hbegin]; exact Int.one_pos) with
    ⟨hmode, hvalues, -, hout⟩
  refine ⟨?_, ?_, hout⟩
  · rw [hmode, hbegin]
  · rw [hvalues, hsame.sets body, hbegin]

/-- What goes out of the outermost batch: nothing when it is abandoned, and else
    all that was put aside, as not to be saved. -/
theorem published_eq (page : CValuePage K V) (h : page.batchMode = 0) (abandoned : Bool)
    (endTime : ℤ) (survives : Bool) (body : Script K V) :
    published page abandoned endTime body
      = if abandoned = true ∨ (body.sets page survives).filter ValueSet.taken = [] then []
        else [.ofValues (putAside ∅ ((body.sets page survives).filter ValueSet.taken))
          endTime false true] := by
  rcases run_outermost page h survives body with ⟨hmode, hvalues, hout⟩
  -- The batch is its begin, its body and its end.
  have hrun : published page abandoned endTime body
      = changesOf (pageCalls.run page.beginBatch body.calls).2 ++
        changesOf ((pageCalls.run page.beginBatch body.calls).1.call
          (guardEnd abandoned endTime)).2 := by
    have hcalls : (Script.scope abandoned endTime body .done).calls
        = .beginBatch :: (body.calls ++ [guardEnd abandoned endTime]) := rfl
    rw [published, hcalls, Machine.run_cons, Machine.run_append, Machine.run_cons,
      Machine.run_nil, List.append_nil]
    unfold changesOf
    rw [List.filter_append, List.filter_append]
    rfl
  rw [hrun, hout]
  -- An abandoned batch puts out nothing, and another one what was put aside.
  cases abandoned with
  | true => simp only [true_or]; rfl
  | false =>
      have hend : decide ((pageCalls.run page.beginBatch body.calls).1.batchMode - 1 ≤ 0)
          = true := by
        rw [hmode]
        decide
      simp only [CValuePage.call, CValuePage.endBatch, hend, hvalues, putAside_empty]
      by_cases hsets : (body.sets page survives).filter ValueSet.taken = []
      · simp only [hsets]
        rfl
      · simp only [hsets]
        rfl

theorem setValue_batchMode (page : CValuePage K V) (call : SetCall K V) :
    (page.setValue call).1.batchMode = page.batchMode := by
  unfold CValuePage.setValue CValuePage.setValueOf CValuePage.setElement
  split
  · rfl
  · dsimp only
    split
    · rfl
    · split
      · split
        · rfl
        · split <;> rfl
      · rfl

/-- A properly nested sequence of calls ends outside of any batch. -/
theorem run_batchMode (script : Script K V) (page : CValuePage K V) (h : page.batchMode = 0) :
    (pageCalls.run page script.calls).1.batchMode = 0 := by
  induction script generalizing page with
  | done => exact h
  | set call rest ih => exact ih _ ((setValue_batchMode page call).trans h)
  | scope abandoned endTime body rest _ ihRest =>
      rcases run_outermost page h true body with ⟨hmode, -, -⟩
      have hend : ((pageCalls.run page.beginBatch body.calls).1.call
          (guardEnd abandoned endTime)).1.batchMode = 0 := by
        cases abandoned with
        | true => simp only [CValuePage.call, CValuePage.abandonBatch, hmode]; rfl
        | false =>
            simp only [guardEnd, CValuePage.call, CValuePage.endBatch, Bool.false_eq_true, if_false]
            split <;> (rw [hmode]; rfl)
      have hrest := ihRest _ hend
      simp only [Script.calls, Machine.run_cons, Machine.run_append]
      exact hrest

/-- No set of an abandoned batch survives. -/
theorem not_survives_of_mem_sets (page : CValuePage K V) (script : Script K V) :
    ∀ s ∈ script.sets page false, s.survives = false := by
  induction script with
  | done => exact nofun
  | set call rest ih =>
      intro s hs
      rcases List.mem_append.mp hs with hs | hs
      · rw [Option.mem_toList, CValuePage.valueSet, Option.bind_eq_some_iff] at hs
        rcases hs with ⟨element, -, hset⟩
        split at hset
        · rw [← Option.some.inj hset]
        · cases hset
      · exact ih s hs
  | scope abandoned endTime body rest ihBody ihRest =>
      intro s hs
      exact (List.mem_append.mp hs).elim (ihBody s) (ihRest s)

/-- Whatever was called before, an outermost batch publishes the values that are to
    survive exactly when each key's last one is the last that was put aside in the whole
    batch, and none of them was to be saved. This holds with every valid call as one that
    sets its value, and also without those that leave everything as it is. -/
theorem publishedAtomically_iff (elements : K → Option (PageElement V)) (before : Script K V)
    (abandoned : Bool) (endTime : ℤ) (body : Script K V) :
    let page := (pageCalls.run { elements } before.calls).1
    let sets := body.sets page (!abandoned)
    let taken := sets.filter ValueSet.taken
    let out := published page abandoned endTime body
    (PublishedAtomically endTime (sets.filter ValueSet.survives) out
        ↔ KeepsToSurvivors abandoned taken (sets.filter ValueSet.survives)) ∧
      (PublishedAtomically endTime ((effective [] sets).filter ValueSet.survives) out
        ↔ KeepsToSurvivors abandoned taken ((effective [] sets).filter ValueSet.survives)) := by
  intro page sets taken out
  have hmode : page.batchMode = 0 := run_batchMode before { elements } rfl
  have hout : out = if abandoned = true ∨ taken = [] then []
      else [.ofValues (putAside ∅ taken) endTime false true] :=
    published_eq page hmode abandoned endTime (!abandoned) body
  rw [hout]
  cases abandoned with
  -- Nothing survives an abandoned batch, and nothing is published.
  | true =>
      have hnone : ∀ l : List (ValueSet K V), l.Sublist sets →
          l.filter ValueSet.survives = [] := fun l hl => List.filter_eq_nil_iff.mpr fun s hs => by
        rw [not_survives_of_mem_sets page body s (hl.subset hs)]
        exact Bool.false_ne_true
      rw [hnone _ (List.Sublist.refl _), hnone _ (effective_sublist [] sets)]
      simp [PublishedAtomically, KeepsToSurvivors]
  | false =>
      simp only [Bool.false_eq_true, false_or]
      exact ⟨publishedAtomically_putAside endTime taken _,
        publishedAtomically_putAside endTime taken _⟩

/-- A value of type `int`. -/
instance intVariant : Variant ℤ where
  userType _ := 2
  typeName _ := "int"
  toQString v := toString v

/-- A page with one value, which is to be between 0 and 100. -/
def onePage : CValuePage String ℤ where
  elements key :=
    if key = "value1" then some
      { nameWithKey := "value1", metaType := 2, value := some 0,
        validator := some (fun v => (0 ≤ v && v ≤ 100, "")) }
    else none

/-- An inner scope that sets a value and is abandoned. -/
def setAndAbandon : Script String ℤ :=
  .scope true 40 (.set { key := "value1", value := some 42, now := 30 } .done) .done

/-- A value that is to be saved. -/
def setAndSave : Script String ℤ :=
  .set { key := "value1", value := some 42, save := true, now := 30 } .done

/-- A value and then the one the element has, with the time it has. -/
def setAndSetBack : Script String ℤ :=
  .set { key := "value1", value := some 42, timestamp := 20, now := 30 }
    (.set { key := "value1", value := some 0, timestamp := 20, now := 31 } .done)

/-- The page with one value, which was set at some time. -/
def timedPage : CValuePage String ℤ where
  elements key := (onePage.elements key).map fun element => { element with timestamp := 20 }

/-- A value set in a scope that is abandoned goes out with the outer batch, one that is to
    be saved goes out as not to be saved, and one that is put aside goes out although the
    value of the element was set after it. -/
theorem abandoned_value_published :
    ¬ PublishedAtomically 50 ((setAndAbandon.sets onePage true).filter ValueSet.survives)
        (published onePage false 50 setAndAbandon) ∧
      ¬ PublishedAtomically 50 ((setAndSave.sets onePage true).filter ValueSet.survives)
        (published onePage false 50 setAndSave) ∧
      ¬ PublishedAtomically 50 ((setAndSetBack.sets timedPage true).filter ValueSet.survives)
        (published timedPage false 50 setAndSetBack) := by
  refine ⟨?_, ?_, ?_⟩
  · rintro (⟨-, hnothing⟩ | ⟨hsurviving, -⟩)
    · exact absurd (congrArg List.length hnothing) (by decide)
    · exact hsurviving (by decide)
  · rintro (⟨hsurviving, -⟩ | ⟨-, packet, hpacket, -, hsaved⟩)
    · cases hsurviving
    · have hflag : (published onePage false 50 setAndSave).map
        CValueCachePacket.saved = [false] := by
        decide
      rw [hpacket, List.map_cons, List.cons.injEq] at hflag
      have hsave := hsaved "value1" ⟨"value1", some 42, true, true, true⟩ (by decide)
      exact absurd (hflag.1.symm.trans hsave) (by decide)
  · rintro (⟨hsurviving, -⟩ | ⟨-, packet, hpacket, hvalues, -⟩)
    · cases hsurviving
    · have hvalue : (published timedPage false 50 setAndSetBack).map
          (fun packet => packet.values.lookup "value1") = [some (some 42, 50)] := by decide
      rw [hpacket, List.map_cons, List.cons.injEq] at hvalue
      exact absurd ((hvalues "value1").symm.trans hvalue.1) (by decide)

end ValueCache

end NeoSwift.Misc
