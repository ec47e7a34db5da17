import NeoSwift.Lib.AssocMap
import NeoSwift.Lib.Machine

/-!
# The Store of the Data Cache

`misc/datacache.cpp`: processes that share a directory of value files and a
revision file with the timestamp of every value in it. A process that saves first
looks into the revision file for values that are newer than its own, puts those
aside, writes the revision file and the changed values, and then takes over what
it put aside. A process that loads takes over what is newer.

Both hold the lock file from the moment they read the revision file until they
are done, so a save and a load are one step each. A save works on the values that
were changed and on a snapshot of all values, its baseline, which is taken when
the save begins.

The identity a process writes into the revision file is made from the machine,
the process id and a name space drawn once, so it is the same for all its writes.

Failures to lock or to open a file are left out, and with them the promises made
to waiting owners. Numbers go through the revision file unchanged.

## Main definitions

* `Revision`, `RevisionFile`, `Store`: What is on disk.
* `CDataCacheRevision`, `Process`: What a process knows of it, and the process.
* `beginUpdate`, `writeNewRevision`: Reading and writing the revision file.
* `loadFromStore`, `saveToStore`: The two operations.
* `DataCacheAction`, `dataCaches`: The processes taking steps in any order.
-/

namespace NeoSwift.Misc

namespace DataCache

/-- The content of the revision file. -/
structure Revision (K U : Type) where
  uuid : U
  timestamps : AssocMap K ℤ
  ttl : AssocMap K ℤ := ∅
  pins : List K := []
  deferrals : List K := []
  session : AssocMap K (Option U) := ∅

/-- The revision file; an empty one counts as missing. -/
inductive RevisionFile (K U : Type) where
  | missing
  | malformed
  | found (revision : Revision K U)

/-- The directory. `modified` is when the file that holds a key was last written. -/
structure Store (K V U : Type) where
  revision : RevisionFile K U := .missing
  files : AssocMap K V := ∅
  modified : K → ℤ := fun _ => 0

/-- What a process has in memory of the revision file and of the keys it uses. A
    null identifier is none. -/
structure CDataCacheRevision (K U : Type) where
  uuid : Option U := none
  timesToLive : AssocMap K ℤ := ∅
  pinnedValues : List K := []
  deferredValues : List K := []
  admittedValues : List K := []
  admittedQueue : List K := []
  sessionValues : AssocMap K (Option U) := ∅
  sessionUuid : Option U := none

/-- The state of an update: whether the file was found, the timestamps in it that
    are newer than those in memory, and all of them. -/
structure Update (K : Type) where
  found : Bool
  timestamps : AssocMap K ℤ
  originalTimestamps : AssocMap K ℤ

/-- The valid values of a process with their timestamps. -/
abbrev Values (K V : Type) := AssocMap K (V × ℤ)

/-- A process. `toSave` are the changes that wait to be saved, each with the time
    they were made at. -/
structure Process (K V U : Type) where
  identity : U
  values : Values K V := ∅
  toSave : List (AssocMap K V × ℤ) := []
  revision : CDataCacheRevision K U := {}
  deferredChanges : Values K V := ∅

variable {K V U : Type} [DecidableEq K] [DecidableEq V] [DecidableEq U]

def Values.toTimestampMap (values : Values K V) : AssocMap K ℤ := values.mapValues (fun _ e => e.2)

def Values.toVariantMap (values : Values K V) : AssocMap K V := values.mapValues (fun _ e => e.1)

/-- The timestamp a value is taken to have, where there is one or not. -/
def current (timestamps : AssocMap K ℤ) (key : K) : ℤ := (timestamps.lookup key).getD (-1)

/-- The timestamps in the file that are newer than those given and that have not
    outlived their time. -/
def Revision.newer (revision : Revision K U) (now : ℤ) (timestamps : AssocMap K ℤ) :
    AssocMap K ℤ :=
  revision.timestamps.filterEntries (fun key ts =>
    let ttl := (revision.ttl.lookup key).getD (-1)
    current timestamps key < ts && (ttl < 0 || now < ts + ttl))

/-- The file belongs to the session, as far as the key is concerned. -/
def Revision.inSession (revision : Revision K U) (session : Option U) (key : K) : Bool :=
  (revision.session.lookup key).all (fun s => s = session)

/-- The newer timestamps, or those of them whose keys are pinned. -/
def Revision.pinned (revision : Revision K U) (newer : AssocMap K ℤ) (pinsOnly : Bool) :
    AssocMap K ℤ :=
  if pinsOnly then newer.filterEntries (fun key _ => revision.pins.contains key) else newer

/-- The newer timestamps that are to be read: deferred keys only once admitted, and
    keys of the session only in it. -/
def Revision.toRead (revision : Revision K U) (newer : AssocMap K ℤ) (admitted : List K)
    (session : Option U) (pinsOnly : Bool) : AssocMap K ℤ :=
  ((revision.pinned newer pinsOnly).filterEntries (fun key _ =>
    !(revision.deferrals.contains key && !admitted.contains key))).filterEntries
      (fun key _ => revision.inSession session key)

/-- `beginUpdate`, at the given time, where `session` is what `updateSession` finds.
    Nothing is returned where there is nothing to do. -/
def CDataCacheRevision.beginUpdate (rev : CDataCacheRevision K U) (file : RevisionFile K U)
    (now : ℤ) (session : U) (pendingWrite : Bool) (timestamps : AssocMap K ℤ)
    (updateUuid pinsOnly : Bool) : CDataCacheRevision K U × Option (Update K) :=
  match file with
  | .missing => (rev, some ⟨false, ∅, ∅⟩)
  | .malformed => (rev, if pendingWrite then some ⟨true, ∅, ∅⟩ else none)
  | .found revision =>
      if some revision.uuid = rev.uuid ∧ rev.admittedQueue = [] then
        (rev, if pendingWrite then some ⟨true, ∅, revision.timestamps⟩ else none)
      else
        let rev := if updateUuid then { rev with uuid := some revision.uuid } else rev
        let newer := revision.newer now timestamps
        if newer.isEmpty then
          (rev, if pendingWrite then some ⟨true, ∅, revision.timestamps⟩ else none)
        else
          let admitted := rev.admittedValues ++ rev.admittedQueue
          let queue :=
            if updateUuid then []
            else rev.admittedQueue.filter
              (fun key => ((revision.pinned newer pinsOnly).lookup key).isSome)
          ({ rev with
              admittedValues := admitted
              admittedQueue := queue
              sessionValues := rev.sessionValues.overlay revision.session
              sessionUuid := some session },
            some
              ⟨true, revision.toRead newer admitted (some session) pinsOnly,
                revision.timestamps.filterEntries
                  (fun key _ => revision.inSession (some session) key)⟩)

/-- `isPendingRead`. -/
def Update.isPendingRead (update : Update K) : Bool := !update.timestamps.isEmpty || !update.found

/-- `writeNewRevision`. -/
def CDataCacheRevision.writeNewRevision (rev : CDataCacheRevision K U) (identity : U)
    (update : Update K) (timestamps : AssocMap K ℤ) (excludeKeys : List K) :
    CDataCacheRevision K U × RevisionFile K U :=
  let written := (update.originalTimestamps.overlay
    (timestamps.filterEntries (fun _ ts => ts ≠ 0))).filterEntries
      (fun key _ => !excludeKeys.contains key)
  let sessionValues := rev.sessionValues.mapValues (fun key s =>
    if (written.lookup key).isSome then rev.sessionUuid else s)
  ({ rev with uuid := some identity, sessionValues := sessionValues },
    .found
      { uuid := identity
        timestamps := written
        ttl := rev.timesToLive
        pins := rev.pinnedValues
        deferrals := rev.deferredValues
        session := sessionValues })

/-- `loadFromFiles`: the values of the keys, of all keys where none are given, that
    differ from the current ones, with the times of their files. -/
def Store.loadFromFiles (store : Store K V U) (keys : List K) (currentValues : AssocMap K V) :
    Values K V :=
  (store.files.filterEntries (fun key v =>
    (keys.isEmpty || keys.contains key) && currentValues.lookup key ≠ some v)).mapValues
      (fun key v => (v, store.modified key))

/-- `saveToFiles`, at the given time. -/
def Store.saveToFiles (sameFile : K → K → Bool) (store : Store K V U) (values : AssocMap K V)
    (now : ℤ) : Store K V U :=
  { store with
    files := store.files.overlay values
    modified := fun key => if values.keys.any (sameFile key) then now else store.modified key }

/-- `regenerate`: a new revision file made from the value files. -/
def Process.regenerate (process : Process K V U) (store : Store K V U) (update : Update K) :
    Process K V U × Store K V U × Update K :=
  let keys := store.files.mapValues (fun key _ => store.modified key)
  let update := { update with originalTimestamps := keys }
  let written := process.revision.writeNewRevision process.identity update keys []
  ({ process with revision := written.1 }, { store with revision := written.2 }, update)

/-- `applyDeferredChanges`: the cache takes over what was loaded. -/
def Process.applyDeferredChanges (process : Process K V U) : Process K V U :=
  { process with
    values := process.values.overlay process.deferredChanges
    deferredChanges := ∅ }

/-- The part of `loadFromStore` that reads values. -/
def Process.readValues (process : Process K V U) (store : Store K V U) (baseline : Values K V)
    (update : Update K) : Process K V U × Store K V U × Update K :=
  let start := if update.found then (process, store, update)
    else process.regenerate store update
  let process := start.1
  let store := start.2.1
  let update := start.2.2
  let loaded := store.loadFromFiles update.timestamps.keys baseline.toVariantMap
  let newValues : Values K V :=
    loaded.mapValues (fun key e => (e.1, (update.timestamps.lookup key).getD e.2))
  let missingKeys := update.timestamps.keys.filter (fun key => (newValues.lookup key).isNone)
  let process := { process with deferredChanges := process.deferredChanges.overlay newValues }
  if missingKeys.isEmpty then (process, store, update)
  else
    let written := process.revision.writeNewRevision process.identity update ∅ missingKeys
    ({ process with revision := written.1 }, { store with revision := written.2 }, update)

/-- `loadFromStore`, without the deferred changes being applied. -/
def Process.beginLoad (process : Process K V U) (store : Store K V U) (now : ℤ) (session : U)
    (pendingWrite : Bool) (baseline : Values K V) (pinsOnly : Bool) :
    Process K V U × Store K V U × Option (Update K) :=
  let begun := process.revision.beginUpdate store.revision now session pendingWrite
    baseline.toTimestampMap (!pinsOnly) pinsOnly
  let process := { process with revision := begun.1 }
  match begun.2 with
  | none => (process, store, none)
  | some update =>
      if update.isPendingRead then
        let read := process.readValues store baseline update
        (read.1, read.2.1, some read.2.2)
      else (process, store, some update)

/-- `loadFromStore`, as it is called by itself. The first load of a process is for
    pinned values only, and it is made with an empty baseline. -/
def Process.loadFromStore (process : Process K V U) (store : Store K V U) (now : ℤ) (session : U)
    (pinsOnly : Bool) : Process K V U × Store K V U :=
  let baseline := if pinsOnly then ∅ else process.values
  let loaded := process.beginLoad store now session false baseline pinsOnly
  (loaded.1.applyDeferredChanges, loaded.2.1)

/-- `saveToStore`. -/
def Process.saveToStore (sameFile : K → K → Bool) (process : Process K V U) (store : Store K V U)
    (now : ℤ) (session : U) (values : AssocMap K V) : Process K V U × Store K V U :=
  let baseline := process.values
  let loaded := process.beginLoad store now session true baseline false
  let process := { loaded.1 with
    deferredChanges := loaded.1.deferredChanges.filterEntries
      (fun key _ => (values.lookup key).isNone) }
  match loaded.2.2 with
  | none => (process, loaded.2.1)
  | some update =>
      let written := process.revision.writeNewRevision process.identity update
        baseline.toTimestampMap []
      let process := { process with revision := written.1 }
      (process.applyDeferredChanges,
        ({ loaded.2.1 with revision := written.2 } : Store K V U).saveToFiles sameFile values now)

/-! ## The processes -/

structure DataCacheSystem (P K V U : Type) where
  store : Store K V U := {}
  processes : P → Process K V U

/-- The steps of the processes. -/
inductive DataCacheAction (P K V U : Type) where
  /-- A process changes some values. -/
  | set (p : P) (values : AssocMap K V) (timestamp : ℤ)
  /-- A process admits a value whose loading is deferred. -/
  | admitValue (p : P) (key : K)
  /-- A process saves the next of its changes. -/
  | save (p : P) (now : ℤ) (session : U)
  /-- A process loads. -/
  | load (p : P) (now : ℤ) (session : U) (pinsOnly : Bool)

variable {P : Type} [DecidableEq P]

def DataCacheSystem.withProcess (system : DataCacheSystem P K V U) (p : P)
    (result : Process K V U × Store K V U) : DataCacheSystem P K V U where
  store := result.2
  processes := Function.update system.processes p result.1

def DataCacheSystem.step (sameFile : K → K → Bool) (system : DataCacheSystem P K V U) :
    DataCacheAction P K V U → DataCacheSystem P K V U × List (AssocMap K V × ℤ)
  | .set p values timestamp =>
      let process := system.processes p
      (system.withProcess p
        ({ process with
            values := process.values.overlay (values.mapValues (fun _ v => (v, timestamp)))
            toSave := process.toSave ++ [(values, timestamp)] }, system.store), [])
  | .admitValue p key =>
      let process := system.processes p
      (system.withProcess p
        ({ process with revision :=
            { process.revision with admittedQueue := process.revision.admittedQueue ++ [key] } },
          system.store), [])
  | .save p now session =>
      match (system.processes p).toSave with
      | [] => (system, [])
      | change :: rest =>
          (system.withProcess p
            (({ system.processes p with toSave := rest } : Process K V U).saveToStore sameFile
              system.store now session change.1), [change])
  | .load p now session pinsOnly =>
      (system.withProcess p
        ((system.processes p).loadFromStore system.store now session pinsOnly), [])

/-- The processes, emitting every change that is saved. -/
def dataCaches (sameFile : K → K → Bool) :
    Machine (DataCacheSystem P K V U) (DataCacheAction P K V U) (AssocMap K V × ℤ) where
  step := DataCacheSystem.step sameFile

/-- The processes as they are started on an empty directory, each with its identity
    and what it declares of the keys it uses. -/
def DataCacheSystem.start (identity : P → U) (declared : P → CDataCacheRevision K U) :
    DataCacheSystem P K V U where
  processes p := { identity := identity p, revision := { declared p with uuid := none } }

end DataCache

end NeoSwift.Misc
