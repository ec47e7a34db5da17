import NeoSwift.Misc.DataCache.Revision

/-!
# Processes on One Store

When the processes that share a store end up with the same values. A save writes
the timestamps of its whole baseline over those in the revision file, also for
keys that others have saved newer values of, and it puts a process' own identity
there, which tells the others nothing when it is there already. A load drops the
timestamp of a value it does not find or has already.

So the revision file goes forward, and the processes with it, as long as a save
is up to date with the file in all it does not change, and a load can notice and
read what is newer.

## Main definitions

* `Store.recorded`: The timestamp in the revision file.
* `Newest`: The value with the largest timestamp ever saved.
* `SavesUpToDate`, `LoadsAll`: What a save and a load have to meet.
* `Consistent`: The invariant of runs whose steps all do.

## Theorems

* `save_spec`, `load_spec`: What such a save and such a load do.
* `consistent_step`: They keep the invariant.
* `revision_goes_forward`: Such runs never lose a timestamp or a value.
* `stale_baseline_goes_back`: A save that writes an old timestamp back.
-/

namespace NeoSwift.Misc

namespace DataCache

variable {P K V U : Type} [DecidableEq K]

/-- The timestamp recorded in the revision file. -/
def Store.recorded (store : Store K V U) (key : K) : Option ℤ :=
  match store.revision with
  | .found revision => revision.timestamps.lookup key
  | _ => none

/-- The key was saved with the value and the timestamp. -/
def SavedAs (saved : List (AssocMap K V × ℤ)) (key : K) (v : V) (ts : ℤ) : Prop :=
  ∃ change ∈ saved, change.1.lookup key = some v ∧ change.2 = ts

/-- The value is the one that was saved with the largest timestamp. -/
def Newest (saved : List (AssocMap K V × ℤ)) (key : K) (v : V) (ts : ℤ) : Prop :=
  SavedAs saved key v ts ∧ ∀ w t, SavedAs saved key w t → t ≤ ts ∧ (t = ts → w = v)

theorem savedAs_append (saved saved' : List (AssocMap K V × ℤ)) (key : K) (v : V) (ts : ℤ) :
    SavedAs (saved ++ saved') key v ts ↔ SavedAs saved key v ts ∨ SavedAs saved' key v ts := by
  simp [SavedAs, or_and_right, exists_or]

theorem savedAs_singleton (change : AssocMap K V × ℤ) (key : K) (v : V) (ts : ℤ) :
    SavedAs [change] key v ts ↔ change.1.lookup key = some v ∧ change.2 = ts := by
  simp [SavedAs]

theorem lookup_toTimestampMap (values : Values K V) (key : K) :
    values.toTimestampMap.lookup key = (values.lookup key).map Prod.snd :=
  AssocMap.lookup_mapValues _ values key

theorem lookup_toVariantMap (values : Values K V) (key : K) :
    values.toVariantMap.lookup key = (values.lookup key).map Prod.fst :=
  AssocMap.lookup_mapValues _ values key

theorem current_of_lookup (values : Values K V) (key : K) (e : V × ℤ)
    (h : values.lookup key = some e) : current values.toTimestampMap key = e.2 := by
  rw [current, lookup_toTimestampMap, h]
  rfl

theorem mem_keys_iff (m : AssocMap K ℤ) (key : K) : key ∈ m.keys ↔ (m.lookup key).isSome := by
  rw [AList.lookup_isSome, AList.mem_keys]

theorem lookup_written (update : Update K) (timestamps : AssocMap K ℤ)
    (rev : CDataCacheRevision K U) (identity : U) :
    ∃ revision, (rev.writeNewRevision identity update timestamps []).2 = .found revision ∧
      ∀ key, revision.timestamps.lookup key
        = ((timestamps.lookup key).filter (fun ts => ts ≠ 0)).or
          (update.originalTimestamps.lookup key) := by
  refine ⟨_, rfl, fun key => ?_⟩
  rw [AssocMap.lookup_filterEntries, AssocMap.lookup_overlay, AssocMap.lookup_filterEntries]
  cases ((timestamps.lookup key).filter (fun ts => ts ≠ 0)).or
    (update.originalTimestamps.lookup key) <;> rfl

/-! ## What is saved -/

/-- The revision file and the value files have the same keys. -/
structure StoreWellFormed (store : Store K V U) : Prop where
  wellFormed : store.revision ≠ .malformed
  missing : ∀ key, store.recorded key = none → store.files.lookup key = none
  found : ∀ key ts, store.recorded key = some ts → ∃ v, store.files.lookup key = some v

/-- What runs keep whose steps are all up to date: the file records the newest of the saved
    values, and what a process holds was saved or is waiting to be. -/
structure Consistent (system : DataCacheSystem P K V U) (saved : List (AssocMap K V × ℤ)) :
    Prop where
  wellFormed : system.store.revision ≠ .malformed
  latest : ∀ key,
    (system.store.recorded key = none ∧ system.store.files.lookup key = none ∧
      ∀ v ts, ¬ SavedAs saved key v ts) ∨
    ∃ v ts, system.store.recorded key = some ts ∧ system.store.files.lookup key = some v ∧
      0 < ts ∧ Newest saved key v ts
  held : ∀ p key v ts, (system.processes p).values.lookup key = some (v, ts) →
    SavedAs saved key v ts ∨ SavedAs (system.processes p).toSave key v ts
  deferred : ∀ p key, (system.processes p).deferredChanges.lookup key = none

theorem Consistent.storeWellFormed {system : DataCacheSystem P K V U}
    {saved : List (AssocMap K V × ℤ)} (h : Consistent system saved) :
    StoreWellFormed system.store where
  wellFormed := h.wellFormed
  missing key hnone := by
    rcases h.latest key with ⟨-, hfile, -⟩ | ⟨v, ts, hrecorded, -⟩
    · exact hfile
    · exact absurd (hnone.symm.trans hrecorded) (by simp)
  found key ts hsome := by
    rcases h.latest key with ⟨hrecorded, -⟩ | ⟨v, -, -, hfile, -⟩
    · exact absurd (hrecorded.symm.trans hsome) (by simp)
    · exact ⟨v, hfile⟩

/-- What the store has of a key was saved. -/
theorem Consistent.savedAs {system : DataCacheSystem P K V U} {saved : List (AssocMap K V × ℤ)}
    (h : Consistent system saved) {key : K} {v : V} {ts : ℤ}
    (hrecorded : system.store.recorded key = some ts)
    (hfile : system.store.files.lookup key = some v) : SavedAs saved key v ts := by
  rcases h.latest key with ⟨hnone, -⟩ | ⟨w, t, hrecorded', hfile', -, hnewest⟩
  · exact absurd (hnone.symm.trans hrecorded) (by simp)
  · rw [Option.some.inj (hfile.symm.trans hfile'),
      Option.some.inj (hrecorded.symm.trans hrecorded')]
    exact hnewest.1

/-- A change that is newer than what is recorded of its keys is the newest one. -/
theorem newest_append (saved : List (AssocMap K V × ℤ)) (change : AssocMap K V × ℤ)
    (key : K) (v : V) (hchange : change.1.lookup key = some v)
    (hnewer : ∀ w t, SavedAs saved key w t → t < change.2) :
    Newest (saved ++ [change]) key v change.2 := by
  refine ⟨(savedAs_append _ _ _ _ _).mpr
    (.inr ((savedAs_singleton _ _ _ _).mpr ⟨hchange, rfl⟩)), ?_⟩
  intro w t ht
  rcases (savedAs_append _ _ _ _ _).mp ht with hold | hnew
  · have hlt := hnewer w t hold
    exact ⟨by omega, fun heq => absurd heq (by omega)⟩
  · rcases (savedAs_singleton _ _ _ _).mp hnew with ⟨hw, rfl⟩
    exact ⟨Int.le_refl _, fun _ => Option.some.inj (hw.symm.trans hchange)⟩

/-- Saving changes of other keys leaves the newest of a key. -/
theorem savedAs_append_other (saved : List (AssocMap K V × ℤ)) (change : AssocMap K V × ℤ) (key : K)
    (hchange : change.1.lookup key = none) (v : V) (ts : ℤ) :
    SavedAs (saved ++ [change]) key v ts ↔ SavedAs saved key v ts := by
  rw [savedAs_append, savedAs_singleton, hchange]
  simp

theorem consistent_start (identity : P → U) (declared : P → CDataCacheRevision K U) :
    Consistent (V := V) (DataCacheSystem.start identity declared) [] where
  wellFormed := nofun
  latest key := .inl ⟨rfl, AList.lookup_empty key, fun v ts ⟨_, hmem, _⟩ =>
    absurd hmem List.not_mem_nil⟩
  held p key v ts hheld := absurd ((AList.lookup_empty key).symm.trans hheld)
    (by simp)
  deferred p key := AList.lookup_empty key

/-! ## Reading values -/

section ReadValues

variable [DecidableEq V]

/-- What the load that an operation begins with leaves, given the update it began
    with: the store as it was, and the values that were to be read set aside. -/
structure LoadedFrom (values : Values K V) (toSave : List (AssocMap K V × ℤ)) (store : Store K V U)
    (begun : Option (Update K)) (loaded : Process K V U × Store K V U × Option (Update K)) :
    Prop where
  values : loaded.1.values = values
  toSave : loaded.1.toSave = toSave
  deferred : ∀ key, loaded.1.deferredChanges.lookup key
    = (begun.bind (fun update => update.timestamps.lookup key)).bind
        (fun ts => (store.files.lookup key).map (fun v => (v, ts)))
  files : loaded.2.1.files = store.files
  recorded : ∀ key, loaded.2.1.recorded key = store.recorded key
  wellFormed : loaded.2.1.revision ≠ .malformed
  update : ∀ update ∈ begun, ∃ update' ∈ loaded.2.2,
    ∀ key, update'.originalTimestamps.lookup key = update.originalTimestamps.lookup key

/-- Reading into a directory without a revision file and without values makes an
    empty revision file. -/
theorem readValues_missing (process : Process K V U) (store : Store K V U) (baseline : Values K V)
    (hrev : store.revision = .missing) (hfiles : ∀ key, store.files.lookup key = none)
    (hdeferred : ∀ key, process.deferredChanges.lookup key = none) :
    let read := process.readValues store baseline ⟨false, ∅, ∅⟩
    LoadedFrom process.values process.toSave store (some ⟨false, ∅, ∅⟩)
      (read.1, read.2.1, some read.2.2) := by
  -- No key has a value in the store, so none is written to the new revision file.
  have hkeys : ∀ key, (store.files.mapValues (fun key (_ : V) => store.modified key)).lookup key
      = none := by
    intro key
    rw [AssocMap.lookup_mapValues, hfiles key, Option.map_none]
  rcases lookup_written ⟨false, ∅, store.files.mapValues (fun key _ => store.modified key)⟩
    (store.files.mapValues (fun key _ => store.modified key)) process.revision process.identity
    with ⟨revision, hrevision, htimestamps⟩
  intro read
  have hread : read.2.1.revision = .found revision := hrevision
  -- The parts of the result, in the order of the fields.
  refine ⟨rfl, rfl, fun key => ?_, rfl, fun key => ?_, ?_, fun update hupdate => ?_⟩
  · have hnew : read.1.deferredChanges.lookup key
        = ((((store.files.filterEntries _).mapValues _).mapValues _).lookup key).or
            (process.deferredChanges.lookup key) := AssocMap.lookup_overlay _ _ key
    rw [hnew, AssocMap.lookup_mapValues, AssocMap.lookup_mapValues, AssocMap.lookup_filterEntries,
      hfiles key, hdeferred key]
    rfl
  · simp [Store.recorded, hread, hrev, htimestamps key, hkeys key]
  · exact (nomatch ·)
  · rw [Option.mem_def, Option.some.injEq] at hupdate
    subst hupdate
    exact ⟨read.2.2, rfl, hkeys⟩

/-- Reading values that are all there and all new to the process. -/
theorem readValues_found (process : Process K V U) (store : Store K V U) (baseline : Values K V)
    (update : Update K) (hfound : update.found = true) (hsome : update.timestamps.isEmpty = false)
    (hwf : store.revision ≠ .malformed)
    (hnew : ∀ key ts, update.timestamps.lookup key = some ts →
      ∃ v, store.files.lookup key = some v ∧ (baseline.lookup key).map Prod.fst ≠ some v)
    (hdeferred : ∀ key, process.deferredChanges.lookup key = none) :
    let read := process.readValues store baseline update
    LoadedFrom process.values process.toSave store (some update)
      (read.1, read.2.1, some read.2.2) := by
  have hkeys : update.timestamps.keys.isEmpty = false := by
    unfold AList.keys List.keys
    rw [List.isEmpty_map]
    exact hsome
  -- What is read of a key: its value, with the timestamp the file records.
  have hread : ∀ key,
      ((store.loadFromFiles update.timestamps.keys baseline.toVariantMap).mapValues
          (fun key e => (e.1, (update.timestamps.lookup key).getD e.2))).lookup key
        = (update.timestamps.lookup key).bind
            (fun ts => (store.files.lookup key).map (fun v => (v, ts))) := by
    intro key
    rw [Store.loadFromFiles, AssocMap.lookup_mapValues, AssocMap.lookup_mapValues,
      AssocMap.lookup_filterEntries, hkeys, lookup_toVariantMap]
    rcases hts : update.timestamps.lookup key with _ | ts
    · have hnot : update.timestamps.keys.contains key = false := by
        rw [List.contains_eq_mem, decide_eq_false_iff_not, mem_keys_iff, hts]
        exact Bool.false_ne_true
      simp only [hnot]
      cases store.files.lookup key <;> rfl
    · have hmem : update.timestamps.keys.contains key = true := by
        rw [List.contains_eq_mem, decide_eq_true_eq, mem_keys_iff, hts]
        rfl
      rcases hnew key ts hts with ⟨v, hv, hne⟩
      simp only [hmem, hv, Bool.or_true, Bool.true_and, Option.filter_some, ne_eq, hne,
        not_false_eq_true, decide_true, if_true, Option.map_some, Option.getD_some,
        Option.bind_some]
  have hmissing : (update.timestamps.keys.filter (fun key =>
      (((store.loadFromFiles update.timestamps.keys baseline.toVariantMap).mapValues
          (fun key e => (e.1, (update.timestamps.lookup key).getD e.2))).lookup
            key).isNone)).isEmpty
      = true := by
    rw [List.isEmpty_iff, List.filter_eq_nil_iff]
    intro key hkey
    rcases Option.isSome_iff_exists.mp ((mem_keys_iff _ key).mp hkey) with ⟨ts, hts⟩
    rcases hnew key ts hts with ⟨v, hv, -⟩
    rw [hread key, hts, hv]
    exact Bool.false_ne_true
  intro read
  have hresult : read = (({ process with
        deferredChanges := process.deferredChanges.overlay
          ((store.loadFromFiles update.timestamps.keys baseline.toVariantMap).mapValues
            (fun key e => (e.1, (update.timestamps.lookup key).getD e.2))) } : Process K V U),
      store, update) := by
    simp only [read, Process.readValues, hfound, if_true]
    rw [if_pos hmissing]
  rw [hresult]
  refine ⟨rfl, rfl, fun key => ?_, rfl, fun key => rfl, hwf, fun u hu => ⟨u, hu, fun _ => rfl⟩⟩
  rw [AssocMap.lookup_overlay, hread key, hdeferred key, Option.or_none]
  rfl

end ReadValues

variable [DecidableEq U]

/-- The change is what the process holds of its keys and newer than what the file
    records, and of all other keys the process holds what the file records, or
    nothing. If there are values to be read first, none belongs to another session. -/
structure SavesUpToDate (store : Store K V U) (process : Process K V U) (now : ℤ) (session : U)
    (change : AssocMap K V × ℤ) : Prop where
  positive : 0 < change.2
  changed : ∀ key v, change.1.lookup key = some v →
    process.values.lookup key = some (v, change.2) ∧ ∀ ts ∈ store.recorded key, ts < change.2
  others : ∀ key, change.1.lookup key = none →
    ∀ e ∈ process.values.lookup key, store.recorded key = some e.2
  session : ∀ revision, store.revision = .found revision →
    (some revision.uuid = process.revision.uuid ∧ process.revision.admittedQueue = []) ∨
    (revision.newer now process.values.toTimestampMap).isEmpty = true ∨
    ∀ key, ∀ ts ∈ revision.timestamps.lookup key, revision.inSession (some session) key = true

/-- What the file records as newer than the process has it is not by a process
    whose last write this one has seen, has not outlived its time, is admitted where
    it is deferred, belongs to the session, and is a value the process does not have.
    Only the first load of a process is for pinned values. -/
structure LoadsAll (store : Store K V U) (process : Process K V U) (now : ℤ)
    (session : U) (pinsOnly : Bool) : Prop where
  first : pinsOnly = true → ∀ key, process.values.lookup key = none
  noticed : ∀ revision, store.revision = .found revision →
    some revision.uuid = process.revision.uuid → process.revision.admittedQueue = [] →
    ∀ key, ∀ ts ∈ revision.timestamps.lookup key, ts ≤ current process.values.toTimestampMap key
  readable : ∀ revision, store.revision = .found revision →
    ∀ key, ∀ ts ∈ revision.timestamps.lookup key, current process.values.toTimestampMap key < ts →
      ((revision.ttl.lookup key).getD (-1) < 0 ∨ now < ts + (revision.ttl.lookup key).getD (-1)) ∧
      (revision.deferrals.contains key = true →
        (process.revision.admittedValues ++ process.revision.admittedQueue).contains key = true) ∧
      revision.inSession (some session) key = true ∧
      (store.files.lookup key) ≠ (process.values.lookup key).map Prod.fst

/-- The steps of a run that keeps the store going forward. -/
def KeepsForward (system : DataCacheSystem P K V U) :
    DataCacheAction P K V U → Prop
  | .set _ _ _ => True
  | .admitValue _ _ => True
  | .save p now session =>
      ∀ change ∈ (system.processes p).toSave.head?,
        SavesUpToDate system.store (system.processes p) now session change
  | .load p now session pinsOnly =>
      LoadsAll system.store (system.processes p) now session pinsOnly

/-! ## Updates -/

/-- What is to be read where everything newer is readable. -/
theorem lookup_toRead (revision : Revision K U) (now : ℤ) (session : U) (timestamps : AssocMap K ℤ)
    (admitted : List K) (pinsOnly : Bool)
    (hreadable : ∀ key, ∀ ts ∈ revision.timestamps.lookup key, current timestamps key < ts →
      ((revision.ttl.lookup key).getD (-1) < 0 ∨ now < ts + (revision.ttl.lookup key).getD (-1)) ∧
      (revision.deferrals.contains key = true → admitted.contains key = true) ∧
      revision.inSession (some session) key = true) (key : K) :
    (revision.toRead (revision.newer now timestamps) admitted (some session) pinsOnly).lookup key
      = (revision.timestamps.lookup key).filter (fun ts =>
          decide (current timestamps key < ts) && (!pinsOnly || revision.pins.contains key)) := by
  -- Reading all or the pinned ones only is one filter.
  have hpinned : ((revision.pinned (revision.newer now timestamps) pinsOnly).lookup key)
      = ((revision.newer now timestamps).lookup key).filter
          (fun _ => !pinsOnly || revision.pins.contains key) := by
    unfold Revision.pinned
    cases pinsOnly with
    | true => simp
    | false =>
        simp only [Bool.false_eq_true, if_false]
        cases (revision.newer now timestamps).lookup key <;> rfl
  unfold Revision.toRead
  rw [AssocMap.lookup_filterEntries, AssocMap.lookup_filterEntries, hpinned, Revision.newer,
    AssocMap.lookup_filterEntries]
  rcases hlookup : revision.timestamps.lookup key with _ | ts
  · rfl
  · -- The filters in turn: newer, not too old, admitted, and of the session.
    by_cases hlt : current timestamps key < ts
    · rcases hreadable key ts hlookup hlt with ⟨httl, hdeferred, hsession⟩
      have hfresh : (decide ((revision.ttl.lookup key).getD (-1) < 0)
          || decide (now < ts + (revision.ttl.lookup key).getD (-1))) = true := by
        simpa only [Bool.or_eq_true, decide_eq_true_eq] using httl
      have hadmitted : (!(revision.deferrals.contains key && !admitted.contains key)) = true := by
        cases hd : revision.deferrals.contains key with
        | false => rfl
        | true => rw [hdeferred hd]; rfl
      simp only [Option.filter_some, hlt, decide_true, hfresh, Bool.true_and]
      cases hpin : (!pinsOnly || revision.pins.contains key) with
      | false => rfl
      | true => simp only [if_true, Option.filter_some, hadmitted, hsession]
    · simp [Option.filter_some, hlt]

/-- What an update reads is newer on file than in memory. -/
theorem beginUpdate_timestamps (store : Store K V U) (rev : CDataCacheRevision K U) (now : ℤ)
    (session : U) (pendingWrite : Bool) (timestamps : AssocMap K ℤ) (updateUuid pinsOnly : Bool)
    (update : Update K) (h : update ∈ (rev.beginUpdate store.revision now session pendingWrite
      timestamps updateUuid pinsOnly).2) (key : K) (ts : ℤ)
    (hts : update.timestamps.lookup key = some ts) :
    store.recorded key = some ts ∧ current timestamps key < ts := by
  -- An update that only is to write reads nothing.
  have hnothing : ∀ (b : Bool) (original : AssocMap K ℤ) (found : Bool),
      ¬ update ∈ (if b then some (⟨found, ∅, original⟩ : Update K) else none) := by
    intro b original found hmem
    cases b with
    | false => cases hmem
    | true =>
        simp only [if_true, Option.mem_def, Option.some.injEq] at hmem
        rw [← hmem] at hts
        cases hts
  rcases hrev : store.revision with _ | _ | revision
  · rw [hrev] at h
    exact absurd h (hnothing true ∅ false)
  · rw [hrev] at h
    exact absurd h (hnothing pendingWrite ∅ true)
  · rw [hrev] at h
    unfold CDataCacheRevision.beginUpdate at h
    dsimp only at h
    split at h
    · exact absurd h (hnothing pendingWrite _ true)
    · split at h
      · exact absurd h (hnothing pendingWrite _ true)
      · simp only [Option.mem_def, Option.some.injEq] at h
        rw [← h] at hts
        simp only [Revision.toRead, AssocMap.lookup_filterEntries, Option.filter_eq_some_iff] at hts
        -- What is read passed the filters, and the last one compares the timestamps.
        have hpinned : (revision.newer now timestamps).lookup key = some ts := by
          have hlookup := hts.1.1
          unfold Revision.pinned at hlookup
          split at hlookup
          · rw [AssocMap.lookup_filterEntries, Option.filter_eq_some_iff] at hlookup
            exact hlookup.1
          · exact hlookup
        rw [Revision.newer, AssocMap.lookup_filterEntries, Option.filter_eq_some_iff] at hpinned
        have htest := hpinned.2
        simp only [Bool.and_eq_true, decide_eq_true_eq] at htest
        exact ⟨by simp only [Store.recorded, hrev]; exact hpinned.1, htest.1⟩

theorem beginUpdate_found (rev : CDataCacheRevision K U) (revision : Revision K U) (now : ℤ)
    (session : U) (pendingWrite : Bool) (timestamps : AssocMap K ℤ) (updateUuid pinsOnly : Bool)
    (update : Update K) (h : (rev.beginUpdate (.found revision) now session pendingWrite
      timestamps updateUuid pinsOnly).2 = some update) : update.found = true := by
  have hwriting : ∀ original : AssocMap K ℤ,
      (if pendingWrite then some (⟨true, ∅, original⟩ : Update K) else none) = some update →
      update.found = true := by
    intro original hupdate
    cases pendingWrite with
    | false => cases hupdate
    | true => rw [← Option.some.inj hupdate]
  unfold CDataCacheRevision.beginUpdate at h
  dsimp only at h
  split at h
  · exact hwriting _ h
  · split at h
    · exact hwriting _ h
    · rw [← Option.some.inj h]

/-- An update that does not leave the keys of another session out starts from what
    the file records. -/
theorem beginUpdate_original (store : Store K V U) (rev : CDataCacheRevision K U) (now : ℤ)
    (session : U) (timestamps : AssocMap K ℤ) (updateUuid pinsOnly : Bool)
    (hwf : store.revision ≠ .malformed) (hsession : ∀ revision, store.revision = .found revision →
      (some revision.uuid = rev.uuid ∧ rev.admittedQueue = []) ∨
      (revision.newer now timestamps).isEmpty = true ∨
      ∀ key, ∀ ts ∈ revision.timestamps.lookup key, revision.inSession (some session) key = true) :
    ∃ update, (rev.beginUpdate store.revision now session true timestamps updateUuid pinsOnly).2
        = some update ∧ ∀ key, update.originalTimestamps.lookup key = store.recorded key := by
  rcases hrev : store.revision with _ | _ | revision
  · exact ⟨_, rfl, fun key => by simp only [Store.recorded, hrev]; rfl⟩
  · exact absurd hrev hwf
  · -- The record of a key is the one of the revision file.
    have hrecorded : ∀ key, store.recorded key = revision.timestamps.lookup key := by
      intro key
      simp [Store.recorded, hrev]
    unfold CDataCacheRevision.beginUpdate
    dsimp only
    split
    · exact ⟨_, rfl, fun key => (hrecorded key).symm⟩
    · rename_i huuid
      split
      · exact ⟨_, rfl, fun key => (hrecorded key).symm⟩
      · rename_i hnewer
        refine ⟨_, rfl, fun key => ?_⟩
        -- Where the session filter is passed by all keys, nothing is left out.
        rcases hsession revision hrev with h | h | h
        · exact absurd h huuid
        · exact absurd h hnewer
        · rw [hrecorded, AssocMap.lookup_filterEntries]
          rcases hlookup : revision.timestamps.lookup key with _ | ts
          · rfl
          · rw [Option.filter_some, h key ts hlookup, if_pos rfl]

/-- An update of a process that can notice and read all that is newer reads it. -/
theorem beginUpdate_complete (store : Store K V U) (process : Process K V U) (now : ℤ)
    (session : U) (pinsOnly : Bool) (timestamps : AssocMap K ℤ)
    (hcurrent : ∀ key, current timestamps key = current process.values.toTimestampMap key)
    (h : LoadsAll store process now session pinsOnly) :
    ∃ pin : K → Bool, (pinsOnly = false → ∀ key, pin key = true) ∧ ∀ key,
      (process.revision.beginUpdate store.revision now session false timestamps
          (!pinsOnly) pinsOnly).2.bind (fun update => update.timestamps.lookup key)
        = (store.recorded key).filter
          (fun ts => decide (current timestamps key < ts) && pin key) := by
  rcases hrev : store.revision with _ | _ | revision
  · exact ⟨fun _ => true, fun _ _ => rfl, fun key => by simp only [Store.recorded, hrev]; rfl⟩
  · exact ⟨fun _ => true, fun _ _ => rfl, fun key => by simp only [Store.recorded, hrev]; rfl⟩
  · refine ⟨fun key => !pinsOnly || revision.pins.contains key, fun hpins key => by rw [hpins]; rfl,
      fun key => ?_⟩
    have hrecorded : store.recorded key = revision.timestamps.lookup key := by
      simp [Store.recorded, hrev]
    rw [hrecorded]
    -- Where nothing is read, nothing is newer.
    have hnone : (∀ ts ∈ revision.timestamps.lookup key, ts ≤ current timestamps key) →
        (revision.timestamps.lookup key).filter (fun ts =>
          decide (current timestamps key < ts) && (!pinsOnly || revision.pins.contains key)) =
            none := by
      intro hle
      rw [Option.filter_eq_none_iff]
      intro ts hts
      have hts := hle ts hts
      simp only [Bool.and_eq_true, decide_eq_true_eq]
      intro hlt
      omega
    have hreadable : ∀ key, ∀ ts ∈ revision.timestamps.lookup key, current timestamps key < ts →
        ((revision.ttl.lookup key).getD (-1) < 0 ∨
          now < ts + (revision.ttl.lookup key).getD (-1)) ∧
        (revision.deferrals.contains key = true →
          (process.revision.admittedValues ++ process.revision.admittedQueue).contains key = true) ∧
        revision.inSession (some session) key = true := by
      intro key ts hts hlt
      rcases h.readable revision hrev key ts hts (by rw [← hcurrent]; exact hlt) with
        ⟨httl, hdeferred, hsession, -⟩
      exact ⟨httl, hdeferred, hsession⟩
    unfold CDataCacheRevision.beginUpdate
    dsimp only
    split
    · rename_i huuid
      have hnoticed := h.noticed revision hrev huuid.1 huuid.2 key
      rw [hnone (fun ts hts => by rw [hcurrent]; exact hnoticed ts hts)]
      rfl
    · split
      · rename_i hnewer
        rw [hnone]
        · rfl
        · intro ts hts
          by_contra hle
          have hlt : current timestamps key < ts := by omega
          have hkey := (AssocMap.isEmpty_iff_lookup _).mp hnewer key
          rw [Revision.newer, AssocMap.lookup_filterEntries, Option.filter_eq_none_iff] at hkey
          refine hkey ts hts ?_
          simp only [hlt, decide_true, Bool.true_and, Bool.or_eq_true, decide_eq_true_eq]
          exact (hreadable key ts hts hlt).1
      · have hread := lookup_toRead revision now session timestamps
          (process.revision.admittedValues ++ process.revision.admittedQueue) pinsOnly hreadable key
        cases pinsOnly <;> exact hread

/-! ## One operation -/

variable [DecidableEq V]

/-- The load that an operation begins with, where what is newer on file is there
    and is not what the process holds. -/
theorem beginLoad_spec (process : Process K V U) (store : Store K V U) (now : ℤ) (session : U)
    (pendingWrite : Bool) (baseline : Values K V) (pinsOnly : Bool) (hstore : StoreWellFormed store)
    (hfresh : ∀ key ts, store.recorded key = some ts → current baseline.toTimestampMap key < ts →
      store.files.lookup key ≠ (baseline.lookup key).map Prod.fst)
    (hdeferred : ∀ key, process.deferredChanges.lookup key = none) :
    LoadedFrom process.values process.toSave store
      (process.revision.beginUpdate store.revision now session pendingWrite
        baseline.toTimestampMap (!pinsOnly) pinsOnly).2
      (process.beginLoad store now session pendingWrite baseline pinsOnly) := by
  have htimestamps := beginUpdate_timestamps store process.revision now session pendingWrite
    baseline.toTimestampMap (!pinsOnly) pinsOnly
  unfold Process.beginLoad
  dsimp only
  rcases hbegun : (process.revision.beginUpdate store.revision now session pendingWrite
    baseline.toTimestampMap (!pinsOnly) pinsOnly).2 with _ | update
  · exact ⟨rfl, rfl, hdeferred, rfl, fun _ => rfl, hstore.wellFormed, fun u hu => absurd hu (by
      simp)⟩
  · dsimp only
    by_cases hempty : update.timestamps.isEmpty = true
    · have hnone := (AssocMap.isEmpty_iff_lookup _).mp hempty
      rcases hrev : store.revision with _ | _ | revision
      · -- The file is missing, so it is made anew.
        have hupdate : update = ⟨false, ∅, ∅⟩ := by
          rw [hrev] at hbegun
          exact (Option.some.inj hbegun).symm
        have hfiles : ∀ key, store.files.lookup key = none := by
          intro key
          exact hstore.missing key (by simp [Store.recorded, hrev])
        rw [hupdate]
        exact readValues_missing _ store baseline hrev hfiles hdeferred
      · exact absurd hrev hstore.wellFormed
      · have hfound : update.found = true := by
          rw [hrev] at hbegun
          exact beginUpdate_found process.revision revision now session pendingWrite
            baseline.toTimestampMap (!pinsOnly) pinsOnly update hbegun
        rw [if_neg (by simp [Update.isPendingRead, hempty, hfound])]
        exact ⟨rfl, rfl, fun key => by
            rw [Option.bind_some, hnone key]; exact hdeferred key,
          rfl, fun _ => rfl, hstore.wellFormed, fun u hu => ⟨u, hu, fun _ => rfl⟩⟩
    · have hempty : update.timestamps.isEmpty = false := by
        simpa only [Bool.not_eq_true] using hempty
      rw [if_pos (by simp [Update.isPendingRead, hempty])]
      have hfound : update.found = true := by
        rcases hrev : store.revision with _ | _ | revision
        · rw [hrev] at hbegun
          rw [← Option.some.inj hbegun] at hempty
          exact nomatch (show true = false from hempty)
        · exact absurd hrev hstore.wellFormed
        · rw [hrev] at hbegun
          exact beginUpdate_found process.revision revision now session pendingWrite
            baseline.toTimestampMap (!pinsOnly) pinsOnly update hbegun
      -- What is newer on file is there, and is not what the process holds.
      have hnew : ∀ key ts, update.timestamps.lookup key = some ts →
          ∃ v, store.files.lookup key = some v ∧ (baseline.lookup key).map Prod.fst ≠ some v := by
        intro key ts hts
        rcases htimestamps update hbegun key ts hts with ⟨hrecorded, hlt⟩
        rcases hstore.found key ts hrecorded with ⟨v, hv⟩
        exact ⟨v, hv, fun heq => hfresh key ts hrecorded hlt (hv.trans heq.symm)⟩
      exact readValues_found
        { process with revision := (process.revision.beginUpdate store.revision now session
          pendingWrite baseline.toTimestampMap (!pinsOnly) pinsOnly).1 }
        store baseline update hfound hempty hstore.wellFormed hnew hdeferred

/-- The process holds what it did, or what the store has of a key. -/
def HoldsOrTakes (store : Store K V U) (process process' : Process K V U) (key : K) : Prop :=
  process'.values.lookup key = process.values.lookup key ∨
    ∃ v ts, store.recorded key = some ts ∧ store.files.lookup key = some v ∧
      process'.values.lookup key = some (v, ts)

/-- What a save of a process that is up to date does: the file records the change
    and otherwise what it did. -/
theorem save_spec (sameFile : K → K → Bool) (process : Process K V U) (store : Store K V U)
    (now : ℤ) (session : U) (change : AssocMap K V × ℤ) (hstore : StoreWellFormed store)
    (hdeferred : ∀ key, process.deferredChanges.lookup key = none)
    (h : SavesUpToDate store process now session change) :
    let saved := process.saveToStore sameFile store now session change.1
    saved.1.toSave = process.toSave ∧
      (∀ key, HoldsOrTakes store process saved.1 key) ∧
      (∀ key, saved.1.deferredChanges.lookup key = none) ∧
      saved.2.revision ≠ .malformed ∧
      (∀ key, saved.2.recorded key
        = if (change.1.lookup key).isSome then some change.2 else store.recorded key) ∧
      ∀ key, saved.2.files.lookup key = (change.1.lookup key).or (store.files.lookup key) := by
  -- Only keys the process does not hold at all can be newer on file.
  have hfresh : ∀ key ts, store.recorded key = some ts →
      current process.values.toTimestampMap key < ts →
      store.files.lookup key ≠ (process.values.lookup key).map Prod.fst := by
    intro key ts hts hlt
    rcases hheld : process.values.lookup key with _ | e
    · rcases hstore.found key ts hts with ⟨v, hv⟩
      rw [hv]
      exact (nomatch ·)
    · rw [current_of_lookup _ _ _ hheld] at hlt
      rcases hchange : change.1.lookup key with _ | v
      · have heq := (h.others key hchange e hheld).symm.trans hts
        have := Option.some.inj heq
        omega
      · rcases h.changed key v hchange with ⟨hvalue, hnewer⟩
        have hlt' := hnewer ts hts
        have he := Option.some.inj (hheld.symm.trans hvalue)
        rw [he] at hlt
        omega
  have hloaded := beginLoad_spec process store now session true process.values false hstore hfresh
    hdeferred
  rcases beginUpdate_original store process.revision now session process.values.toTimestampMap true
    false hstore.wellFormed h.session with ⟨update, hupdate, horiginal⟩
  rw [Bool.not_false, hupdate] at hloaded
  rcases hloaded.update update rfl with ⟨update', hupdate', horiginal'⟩
  rw [Option.mem_def] at hupdate'
  intro saved
  generalize hl : process.beginLoad store now session true process.values false = loaded
    at hloaded hupdate'
  rcases lookup_written update' process.values.toTimestampMap loaded.1.revision
    loaded.1.identity with ⟨revision, hrevision, htimestamps⟩
  have hsaved : saved = (({ loaded.1 with
        deferredChanges := loaded.1.deferredChanges.filterEntries
          (fun key _ => (change.1.lookup key).isNone)
        revision := (loaded.1.revision.writeNewRevision loaded.1.identity update'
          process.values.toTimestampMap []).1 } : Process K V U).applyDeferredChanges,
      ({ loaded.2.1 with revision := .found revision } : Store K V U).saveToFiles sameFile
        change.1 now) := by
    simp [saved, Process.saveToStore, hl, hupdate', hrevision]
  rw [hsaved]
  refine ⟨hloaded.toSave, fun key => ?_, fun key => AList.lookup_empty key, (nomatch ·),
    fun key => ?_, fun key => ?_⟩
  · -- What was read first is taken over, unless it is overwritten.
    have hvalues : (({ loaded.1 with
        deferredChanges := loaded.1.deferredChanges.filterEntries
          (fun key _ => (change.1.lookup key).isNone)
        revision := (loaded.1.revision.writeNewRevision loaded.1.identity update'
          process.values.toTimestampMap []).1 } : Process K V U).applyDeferredChanges).values.lookup
            key
        = ((loaded.1.deferredChanges.lookup key).filter
            (fun _ => (change.1.lookup key).isNone)).or (process.values.lookup key) := by
      rw [Process.applyDeferredChanges, AssocMap.lookup_overlay, AssocMap.lookup_filterEntries,
        hloaded.values]
    unfold HoldsOrTakes
    rw [hvalues]
    rcases hread : loaded.1.deferredChanges.lookup key with _ | e
    · exact .inl rfl
    · rw [hloaded.deferred key] at hread
      rcases Option.bind_eq_some_iff.mp hread with ⟨ts, hts, hentry⟩
      rcases Option.map_eq_some_iff.mp hentry with ⟨v, hv, rfl⟩
      have hrecorded := (beginUpdate_timestamps store process.revision now session true
        process.values.toTimestampMap true false update hupdate key ts hts).1
      by_cases hchange : (change.1.lookup key).isNone = true
      · exact .inr ⟨v, ts, hrecorded, hv, by rw [Option.filter_some, if_pos hchange]; rfl⟩
      · exact .inl (by rw [Option.filter_some, if_neg hchange]; rfl)
  · have hrecorded : (({ loaded.2.1 with revision := .found revision } : Store K V U).saveToFiles
        sameFile change.1 now).recorded key = revision.timestamps.lookup key := rfl
    rw [hrecorded, htimestamps key, horiginal' key, horiginal key, lookup_toTimestampMap]
    have hpositive := h.positive
    rcases hchange : change.1.lookup key with _ | v
    · rcases hheld : process.values.lookup key with _ | e
      · rfl
      · have heq := h.others key hchange e hheld
        rw [heq, Option.map_some, Option.filter_some]
        split <;> rfl
    · rw [(h.changed key v hchange).1, Option.map_some, Option.filter_some,
        if_pos (by simp only [decide_not, Bool.not_eq_true', decide_eq_false_iff_not]; omega)]
      rfl
  · change (loaded.2.1.files.overlay change.1).lookup key = _
    rw [AssocMap.lookup_overlay, hloaded.files]

/-- What a load does that can notice and read all that is newer: the store records
    what it did, and the process takes over what is newer there. -/
theorem load_spec (process : Process K V U) (store : Store K V U) (now : ℤ) (session : U)
    (pinsOnly : Bool) (hstore : StoreWellFormed store)
    (hdeferred : ∀ key, process.deferredChanges.lookup key = none)
    (h : LoadsAll store process now session pinsOnly) :
    let loaded := process.loadFromStore store now session pinsOnly
    loaded.1.toSave = process.toSave ∧
      (∀ key, HoldsOrTakes store process loaded.1 key) ∧
      (∀ key, loaded.1.deferredChanges.lookup key = none) ∧
      loaded.2.revision ≠ .malformed ∧
      (∀ key, loaded.2.recorded key = store.recorded key) ∧
      loaded.2.files = store.files ∧
      (pinsOnly = false → ∀ key ts, store.recorded key = some ts →
        (ts ≤ current process.values.toTimestampMap key →
          loaded.1.values.lookup key = process.values.lookup key) ∧
        (current process.values.toTimestampMap key < ts →
          loaded.1.values.lookup key = (store.files.lookup key).map (fun v => (v, ts)))) := by
  -- The first load has an empty baseline, and the process is still empty then.
  have hbaseline : ∀ key, (if pinsOnly then ∅ else process.values : Values K V).lookup key
      = process.values.lookup key := by
    intro key
    cases hpins : pinsOnly with
    | true => rw [h.first hpins key]; exact AList.lookup_empty key
    | false => rw [if_neg Bool.false_ne_true]
  have hcurrent : ∀ key, current (if pinsOnly then ∅ else process.values :
    Values K V).toTimestampMap
      key = current process.values.toTimestampMap key := by
    intro key
    rw [current, current, lookup_toTimestampMap, lookup_toTimestampMap, hbaseline]
  have hfresh : ∀ key ts, store.recorded key = some ts →
      current (if pinsOnly then ∅ else process.values : Values K V).toTimestampMap key < ts →
      store.files.lookup key
        ≠ ((if pinsOnly then ∅ else process.values : Values K V).lookup key).map Prod.fst := by
    intro key ts hts hlt
    rw [hbaseline]
    rw [hcurrent] at hlt
    rcases hrev : store.revision with _ | _ | revision
    · exact absurd hts (by simp [Store.recorded, hrev])
    · exact absurd hrev hstore.wellFormed
    · have hlookup : revision.timestamps.lookup key = some ts := by
        rw [← hts]
        simp [Store.recorded, hrev]
      exact (h.readable revision hrev key ts hlookup hlt).2.2.2
  have hloaded := beginLoad_spec process store now session false _ pinsOnly hstore hfresh hdeferred
  rcases beginUpdate_complete store process now session pinsOnly _ hcurrent h
    with ⟨pin, hpin, hread⟩
  intro loaded
  generalize hl : process.beginLoad store now session false
    (if pinsOnly then ∅ else process.values) pinsOnly = begun at hloaded
  have hvalues : ∀ key, loaded.1.values.lookup key
      = (((store.recorded key).filter (fun ts =>
            decide (current process.values.toTimestampMap key < ts) && pin key)).bind
          (fun ts => (store.files.lookup key).map (fun v => (v, ts)))).or
        (process.values.lookup key) := by
    intro key
    have hloadedKey := hloaded.deferred key
    rw [hread key, hcurrent key] at hloadedKey
    simp only [loaded, Process.loadFromStore, hl, Process.applyDeferredChanges]
    rw [AssocMap.lookup_overlay, hloadedKey, hloaded.values]
  have hloadedEq : loaded = (begun.1.applyDeferredChanges, begun.2.1) := by
    simp [loaded, Process.loadFromStore, hl]
  refine ⟨?_, fun key => ?_, fun key => ?_, ?_, fun key => ?_, ?_, fun hpins key ts hts => ⟨?_, ?_⟩⟩
  · rw [hloadedEq]
    exact hloaded.toSave
  · unfold HoldsOrTakes
    rw [hvalues key]
    rcases hrecorded : store.recorded key with _ | ts
    · exact .inl rfl
    · rcases hstore.found key ts hrecorded with ⟨v, hv⟩
      rw [Option.filter_some]
      split
      · exact .inr ⟨v, ts, rfl, hv, by rw [hv]; rfl⟩
      · exact .inl rfl
  · exact AList.lookup_empty key
  · rw [hloadedEq]
    exact hloaded.wellFormed
  · rw [hloadedEq]
    exact hloaded.recorded key
  · rw [hloadedEq]
    exact hloaded.files
  · intro hle
    rw [hvalues key, hts, Option.filter_some, if_neg (by
      simp only [Bool.and_eq_true, decide_eq_true_eq]; intro hlt; omega)]
    rfl
  · intro hlt
    rcases hstore.found key ts hts with ⟨v, hv⟩
    rw [hvalues key, hts, Option.filter_some, if_pos (by
      rw [hpin hpins key, decide_eq_true hlt]; rfl), hv]
    rfl

/-- A process that waits to save nothing and loads holds the newest value of every
    key that was saved. -/
theorem holds_newest_of_load (system : DataCacheSystem P K V U) (saved : List (AssocMap K V × ℤ))
    (p : P) (now : ℤ) (session : U) (h : Consistent system saved)
    (hall : LoadsAll system.store (system.processes p) now session false)
    (hsaved : (system.processes p).toSave = []) (key : K) (v : V) (t : ℤ)
    (hkey : SavedAs saved key v t) :
    ∃ w ts, Newest saved key w ts ∧
      ((system.processes p).loadFromStore system.store now session false).1.values.lookup key
        = some (w, ts) := by
  rcases h.latest key with ⟨-, -, hnone⟩ | ⟨w, ts, hrecorded, hfile, hpositive, hnewest⟩
  · exact absurd hkey (hnone v t)
  · refine ⟨w, ts, hnewest, ?_⟩
    rcases (load_spec (system.processes p) system.store now session false h.storeWellFormed
      (h.deferred p) hall).2.2.2.2.2.2 rfl key ts hrecorded with ⟨hkept, htaken⟩
    by_cases hlt : current (system.processes p).values.toTimestampMap key < ts
    · rw [htaken hlt, hfile]
      rfl
    · rw [hkept (by omega)]
      -- What is not newer on file is what the process holds, for it was saved too.
      rcases hheld : (system.processes p).values.lookup key with _ | ⟨u, tu⟩
      · rw [current, lookup_toTimestampMap, hheld] at hlt
        simp only [Option.map_none, Option.getD_none] at hlt
        omega
      · rw [current_of_lookup _ _ _ hheld] at hlt
        have hsavedAs : SavedAs saved key u tu := by
          rcases h.held p key u tu hheld with hs | ⟨change, hmem, -⟩
          · exact hs
          · rw [hsaved] at hmem
            cases hmem
        rcases hnewest.2 u tu hsavedAs with ⟨hle, hvalue⟩
        have heq : tu = ts := by omega
        rw [hvalue heq, heq]

/-! ## Runs -/

variable [DecidableEq P]

theorem consistent_set (system : DataCacheSystem P K V U) (saved : List (AssocMap K V × ℤ)) (p : P)
    (values : AssocMap K V) (timestamp : ℤ) (sameFile : K → K → Bool)
      (h : Consistent system saved) :
    Consistent (system.step sameFile (.set p values timestamp)).1 saved := by
  refine ⟨h.wellFormed, h.latest, fun q key v ts hheld => ?_, fun q key => ?_⟩
  · by_cases hq : q = p
    · subst hq
      simp only [DataCacheSystem.step, DataCacheSystem.withProcess, Function.update_self] at hheld ⊢
      rw [AssocMap.lookup_overlay, AssocMap.lookup_mapValues] at hheld
      rw [savedAs_append, savedAs_singleton]
      -- A key that is not set keeps where its value came from, one that is set waits to be saved.
      rcases hset : values.lookup key with _ | w
      · rw [hset] at hheld
        rcases h.held q key v ts hheld with hs | hs
        · exact .inl hs
        · exact .inr (.inl hs)
      · rw [hset, Option.map_some, Option.some_or, Option.some.injEq, Prod.mk.injEq] at hheld
        exact .inr (.inr ⟨by rw [hheld.1], hheld.2⟩)
    · simp only [DataCacheSystem.step, DataCacheSystem.withProcess, Function.update_of_ne hq]
        at hheld ⊢
      exact h.held q key v ts hheld
  · by_cases hq : q = p
    · subst hq
      simp only [DataCacheSystem.step, DataCacheSystem.withProcess, Function.update_self]
      exact h.deferred q key
    · simp only [DataCacheSystem.step, DataCacheSystem.withProcess, Function.update_of_ne hq]
      exact h.deferred q key

theorem consistent_save (system : DataCacheSystem P K V U) (saved : List (AssocMap K V × ℤ)) (p : P)
    (now : ℤ) (session : U) (sameFile : K → K → Bool) (change : AssocMap K V × ℤ)
    (rest : List (AssocMap K V × ℤ)) (htoSave : (system.processes p).toSave = change :: rest)
    (h : Consistent system saved)
    (hup : SavesUpToDate system.store (system.processes p) now session change) :
    Consistent (system.step sameFile (.save p now session)).1 (saved ++ [change]) := by
  have hspec := save_spec sameFile { system.processes p with toSave := rest } system.store now
    session change h.storeWellFormed (h.deferred p)
      ⟨hup.positive, hup.changed, hup.others, hup.session⟩
  have hstep : (system.step sameFile (.save p now session)).1
      = system.withProcess p (({ system.processes p with toSave := rest } :
        Process K V U).saveToStore
          sameFile system.store now session change.1) := by
    simp [DataCacheSystem.step, htoSave]
  rw [hstep]
  rcases hspec with ⟨hqueue, hvalues, hdeferred, hwf, hrecorded, hfiles⟩
  refine ⟨hwf, fun key => ?_, fun q key v ts hheld => ?_, fun q key => ?_⟩
  · -- The store: each key that is saved is newer than all before.
    rcases hchange : change.1.lookup key with _ | v
    · -- A key that is not changed keeps its record and its value.
      simp only [DataCacheSystem.withProcess, Newest]
      rw [hrecorded key, hfiles key, hchange]
      simp only [savedAs_append_other saved change key hchange]
      exact h.latest key
    · refine .inr ⟨v, change.2, ?_, ?_, hup.positive, ?_⟩
      · exact (hrecorded key).trans (by rw [hchange]; rfl)
      · exact (hfiles key).trans (by rw [hchange, Option.some_or])
      · refine newest_append saved change key v hchange (fun w t hold => ?_)
        rcases h.latest key with ⟨-, -, hnone⟩ | ⟨u, ts, hrec, -, -, hnewest⟩
        · exact absurd hold (hnone w t)
        · have hle := (hnewest.2 w t hold).1
          have hlt := (hup.changed key v hchange).2 ts hrec
          omega
  · by_cases hq : q = p
    · subst hq
      simp only [DataCacheSystem.withProcess, Function.update_self] at hheld ⊢
      rw [hqueue, savedAs_append]
      -- What the process holds was held before, or it was read from the store.
      rcases hvalues key with hsame | ⟨w, t, hrec, hfile, htaken⟩
      · rcases h.held q key v ts (hsame.symm.trans hheld) with hs | ⟨c, hc, hcv⟩
        · exact .inl (.inl hs)
        · rw [htoSave] at hc
          rcases List.mem_cons.mp hc with rfl | hrest
          · exact .inl (.inr ((savedAs_singleton _ _ _ _).mpr hcv))
          · exact .inr ⟨c, hrest, hcv⟩
      · rw [htaken, Option.some.injEq, Prod.mk.injEq] at hheld
        rw [← hheld.1, ← hheld.2]
        exact .inl (.inl (h.savedAs hrec hfile))
    · simp only [DataCacheSystem.withProcess, Function.update_of_ne hq] at hheld ⊢
      rcases h.held q key v ts hheld with hs | hs
      · exact .inl ((savedAs_append _ _ _ _ _).mpr (.inl hs))
      · exact .inr hs
  · by_cases hq : q = p
    · subst hq
      simp only [DataCacheSystem.withProcess, Function.update_self]
      exact hdeferred key
    · simp only [DataCacheSystem.withProcess, Function.update_of_ne hq]
      exact h.deferred q key

theorem consistent_load (system : DataCacheSystem P K V U) (saved : List (AssocMap K V × ℤ)) (p : P)
    (now : ℤ) (session : U) (pinsOnly : Bool) (sameFile : K → K → Bool)
      (h : Consistent system saved)
    (hall : LoadsAll system.store (system.processes p) now session pinsOnly) :
    Consistent (system.step sameFile (.load p now session pinsOnly)).1 saved := by
  rcases load_spec (system.processes p) system.store now session pinsOnly h.storeWellFormed
    (h.deferred p) hall with ⟨hqueue, hvalues, hdeferred, hwf, hrecorded, hfiles, -⟩
  refine ⟨hwf, fun key => ?_, fun q key v ts hheld => ?_, fun q key => ?_⟩
  · simp only [DataCacheSystem.step, DataCacheSystem.withProcess]
    rw [hrecorded key, hfiles]
    exact h.latest key
  · by_cases hq : q = p
    · subst hq
      simp only [DataCacheSystem.step, DataCacheSystem.withProcess, Function.update_self] at hheld ⊢
      rw [hqueue]
      -- Loading keeps what is held or replaces it by what was saved.
      rcases hvalues key with hsame | ⟨w, t, hrec, hfile, htaken⟩
      · exact h.held q key v ts (hsame.symm.trans hheld)
      · rw [htaken, Option.some.injEq, Prod.mk.injEq] at hheld
        rw [← hheld.1, ← hheld.2]
        exact .inl (h.savedAs hrec hfile)
    · simp only [DataCacheSystem.step, DataCacheSystem.withProcess, Function.update_of_ne hq]
        at hheld ⊢
      exact h.held q key v ts hheld
  · by_cases hq : q = p
    · subst hq
      simp only [DataCacheSystem.step, DataCacheSystem.withProcess, Function.update_self]
      exact hdeferred key
    · simp only [DataCacheSystem.step, DataCacheSystem.withProcess, Function.update_of_ne hq]
      exact h.deferred q key

/-- Every step that meets the condition keeps the invariant. -/
theorem consistent_step (sameFile : K → K → Bool) (system : DataCacheSystem P K V U)
    (saved : List (AssocMap K V × ℤ)) (action : DataCacheAction P K V U)
    (hkeeps : KeepsForward system action) (h : Consistent system saved) :
    Consistent (system.step sameFile action).1 (saved ++ (system.step sameFile action).2) := by
  cases action with
  | set p values timestamp =>
      change Consistent _ (saved ++ [])
      rw [List.append_nil]
      exact consistent_set system saved p values timestamp sameFile h
  | admitValue p key =>
      change Consistent _ (saved ++ [])
      rw [List.append_nil]
      -- Only the queue of admitted keys changes.
      have hfields : ∀ q, ((system.step sameFile (.admitValue p key)).1.processes q).values
            = (system.processes q).values ∧
          ((system.step sameFile (.admitValue p key)).1.processes q).toSave
            = (system.processes q).toSave ∧
          ((system.step sameFile (.admitValue p key)).1.processes q).deferredChanges
            = (system.processes q).deferredChanges := by
        intro q
        by_cases hq : q = p
        · subst hq
          simp [DataCacheSystem.step, DataCacheSystem.withProcess]
        · simp [DataCacheSystem.step, DataCacheSystem.withProcess, Function.update_of_ne hq]
      refine ⟨h.wellFormed, h.latest, fun q k v ts hheld => ?_, fun q k => ?_⟩
      · rw [(hfields q).1] at hheld
        rw [(hfields q).2.1]
        exact h.held q k v ts hheld
      · rw [(hfields q).2.2]
        exact h.deferred q k
  | save p now session =>
      rcases htoSave : (system.processes p).toSave with _ | ⟨change, rest⟩
      · have hstep : system.step sameFile (.save p now session) = (system, []) := by
          simp [DataCacheSystem.step, htoSave]
        rw [hstep, List.append_nil]
        exact h
      · have hout : (system.step sameFile (.save p now session)).2 = [change] := by
          simp [DataCacheSystem.step, htoSave]
        rw [hout]
        exact consistent_save system saved p now session sameFile change rest htoSave h
          (hkeeps change (by rw [htoSave]; rfl))
  | load p now session pinsOnly =>
      change Consistent _ (saved ++ [])
      rw [List.append_nil]
      exact consistent_load system saved p now session pinsOnly sameFile h hkeeps

theorem consistent_run (sameFile : K → K → Bool) (identity : P → U)
    (declared : P → CDataCacheRevision K U) (actions : List (DataCacheAction P K V U))
    (h : (dataCaches sameFile).AllSteps KeepsForward (DataCacheSystem.start identity declared)
      actions) :
    Consistent ((dataCaches sameFile).run (DataCacheSystem.start identity declared) actions).1
      ((dataCaches sameFile).run (DataCacheSystem.start identity declared) actions).2 := by
  have hrun := (dataCaches sameFile).run_invariant_of KeepsForward
    (fun system saved => Consistent system saved)
    (fun system saved action hkeeps hc => consistent_step sameFile system saved action hkeeps hc)
    actions (DataCacheSystem.start identity declared) [] h (consistent_start identity declared)
  exact hrun

/-- A timestamp that is recorded stays, or gives way to a larger one, at a step
    that meets the condition. -/
theorem recorded_step (sameFile : K → K → Bool) (system : DataCacheSystem P K V U)
    (saved : List (AssocMap K V × ℤ)) (action : DataCacheAction P K V U)
    (hkeeps : KeepsForward system action) (h : Consistent system saved) (key : K) (ts : ℤ)
    (hts : system.store.recorded key = some ts) :
    ∃ ts', (system.step sameFile action).1.store.recorded key = some ts' ∧ ts ≤ ts' := by
  cases action with
  | set p values timestamp => exact ⟨ts, hts, Int.le_refl ts⟩
  | admitValue p k => exact ⟨ts, hts, Int.le_refl ts⟩
  | save p now session =>
      -- Only a save changes what is recorded.
      rcases htoSave : (system.processes p).toSave with _ | ⟨change, rest⟩
      · refine ⟨ts, ?_, Int.le_refl ts⟩
        simp only [DataCacheSystem.step, htoSave]
        exact hts
      · have hup := hkeeps change (by rw [htoSave]; rfl)
        have hrecorded := (save_spec sameFile { system.processes p with toSave := rest }
          system.store now session change h.storeWellFormed (h.deferred p)
          ⟨hup.positive, hup.changed, hup.others, hup.session⟩).2.2.2.2.1 key
        have hstep : (system.step sameFile (.save p now session)).1.store.recorded key
            = if (change.1.lookup key).isSome then some change.2 else
              system.store.recorded key := by
          simp only [DataCacheSystem.step, htoSave]
          exact hrecorded
        rw [hstep]
        rcases hchange : change.1.lookup key with _ | v
        · exact ⟨ts, hts, Int.le_refl ts⟩
        · have hlt := (hup.changed key v hchange).2 ts hts
          exact ⟨change.2, rfl, by omega⟩
  | load p now session pinsOnly =>
      have hrecorded := (load_spec (system.processes p) system.store now session pinsOnly
        h.storeWellFormed (h.deferred p) hkeeps).2.2.2.2.1 key
      exact ⟨ts, hrecorded.trans hts, Int.le_refl ts⟩

/-- In a run whose saves are up to date and whose loads read all that is newer, no
    recorded timestamp goes back, and a process that loads after all changes are
    saved holds the newest value of every key. -/
theorem revision_goes_forward (sameFile : K → K → Bool) (identity : P → U)
    (declared : P → CDataCacheRevision K U) (actions : List (DataCacheAction P K V U))
    (last : DataCacheAction P K V U)
    (h : (dataCaches sameFile).AllSteps KeepsForward (DataCacheSystem.start identity declared)
      (actions ++ [last])) :
    let before := (dataCaches sameFile).run (DataCacheSystem.start identity declared) actions
    let after := (dataCaches sameFile).run (DataCacheSystem.start identity declared)
      (actions ++ [last])
    (∀ key ts, before.1.store.recorded key = some ts →
      ∃ ts', after.1.store.recorded key = some ts' ∧ ts ≤ ts') ∧
    ∀ p now session, last = .load p now session false →
      (∀ q, (before.1.processes q).toSave = []) →
      ∀ key v t, SavedAs before.2 key v t →
        ∃ w ts, Newest before.2 key w ts ∧
          (after.1.processes p).values.lookup key = some (w, ts) := by
  intro before after
  rcases ((dataCaches sameFile).allSteps_append KeepsForward _ actions [last]).mp h with
    ⟨hbefore, hlast, -⟩
  have hconsistent : Consistent before.1 before.2 :=
    consistent_run sameFile identity declared actions hbefore
  -- The last action is done in the state that all before it lead to.
  have hafter : after.1 = (before.1.step sameFile last).1 := by
    simp only [after, Machine.run_append]
    rfl
  rw [hafter]
  refine ⟨fun key ts hts =>
    recorded_step sameFile before.1 before.2 last hlast hconsistent key ts hts, ?_⟩
  intro p now session hload hsaved key v t hkey
  subst hload
  rcases holds_newest_of_load before.1 before.2 p now session hconsistent hlast (hsaved p) key v t
    hkey with ⟨w, ts, hnewest, hvalue⟩
  refine ⟨w, ts, hnewest, ?_⟩
  simp only [DataCacheSystem.step, DataCacheSystem.withProcess, Function.update_self]
  exact hvalue

/-- One process changes a value and saves it, and another one loads. -/
theorem revision_goes_forward_two :
    let set : DataCacheAction Bool Unit ℕ Bool :=
      .set true ((∅ : AssocMap Unit ℕ).insert () 7) 10
    let load : DataCacheAction Bool Unit ℕ Bool := .load false 12 true false
    let start : DataCacheSystem Bool Unit ℕ Bool := DataCacheSystem.start id fun _ => {}
    let machine := dataCaches (P := Bool) (V := ℕ) (U := Bool) fun (k l : Unit) => k = l
    machine.AllSteps KeepsForward start [set, .save true 11 true, load] ∧
      ((machine.run start [set, .save true 11 true, load]).1.processes false).values.lookup ()
        = some (7, 10) := by
  intro set load start machine
  have hsteps : machine.AllSteps KeepsForward start ([set, .save true 11 true] ++ [load]) := by
    refine ⟨trivial, fun change hchange => ?_, ?_, trivial⟩
    · -- The directory is empty when the change is saved.
      have hchange : ((∅ : AssocMap Unit ℕ).insert () 7, (10 : ℤ)) = change :=
        Option.some.inj hchange
      subst hchange
      refine ⟨by decide, fun key v hv => ⟨?_, nofun⟩, fun key hnone => (nomatch hnone), nofun⟩
      rw [← Option.some.inj hv]
      rfl
    · -- The other process has nothing in memory of the file.
      have hnone : ∀ key, (((machine.step (machine.step start set).1
          (.save true 11 true)).1).processes false).values.lookup key = none := fun _ => rfl
      refine ⟨nofun, fun revision hrev huuid => (nomatch huuid),
        fun revision hrev key ts hts hlt => ?_⟩
      rw [← RevisionFile.found.inj hrev]
      cases key
      exact ⟨.inl (by decide), nofun, by decide, by decide⟩
  refine ⟨hsteps, ?_⟩
  have hforward := (revision_goes_forward _ _ _ _ _ hsteps).2 false 12 true rfl
    (by decide) () 7 10 ⟨_, List.mem_cons_self .., rfl, rfl⟩
  rcases hforward with ⟨w, ts, ⟨⟨change, hmem, hw, rfl⟩, -⟩, hvalue⟩
  rw [List.mem_singleton.mp hmem] at hw hvalue
  rw [← Option.some.inj hw] at hvalue
  exact hvalue

/-- A process that saves writes an old timestamp over a newer one of another
    process, and a third one does not notice that there was a newer value. -/
theorem stale_baseline_goes_back :
    let key (n : ℕ) (v : ℕ) := (∅ : AssocMap ℕ ℕ).insert n v
    let start : DataCacheSystem ℕ ℕ ℕ ℕ := DataCacheSystem.start id fun _ => {}
    let machine := dataCaches (P := ℕ) (V := ℕ) (U := ℕ) fun (k l : ℕ) => k = l
    let actions : List (DataCacheAction ℕ ℕ ℕ ℕ) :=
      [.load 0 0 0 true, .load 1 0 0 true, .load 2 0 0 true,
        .set 0 (key 2 1) 10, .save 0 11 0, .load 1 12 0 false, .load 2 13 0 false,
        .set 1 (key 2 2) 20, .save 1 21 0, .set 0 (key 1 5) 30]
    let before := machine.run start actions
    let after := machine.run start (actions ++ [.save 0 31 0])
    let loaded := machine.run start (actions ++ [.save 0 31 0, .load 2 32 0 false])
    before.1.store.recorded 2 = some 20 ∧ after.1.store.recorded 2 = some 10 ∧
      after.2.map (fun change => (change.1.lookup 2, change.2))
        = [(some 1, 10), (some 2, 20), (none, 30)] ∧
      (∀ p ∈ [0, 1, 2], (after.1.processes p).toSave = []) ∧
      (loaded.1.processes 2).values.lookup 2 = some (1, 10) := by
  decide +kernel

end DataCache

end NeoSwift.Misc
