import Mathlib.Data.List.AList
import Mathlib.Tactic.Common
import NeoSwift.Lib.Machine

/-!
# Pages of the Value Cache

`CValuePage` of `misc/valuecache.cpp`: the values of the cache that one owner
reads and writes. An element carries the value, the time it was set, and how many
of the owner's own changes are still on their way through the cache. A change is
made on the page at once and sent to the cache as a packet; the cache sends every
change to every page, and the page that made it only counts it off.

Values are `CVariant`, which may hold nothing; here that is an option of whatever
the values are. What the page asks of them is the class `Variant`.

In batching mode a change is put aside in one map, whatever the nesting, and the
outermost guard sends the map or lets it be. The next batch starts with an empty
one.

## Main definitions

* `CValueCachePacket`: A packet of changed values.
* `PageElement`, `CValuePage`: One value on a page, and the page.
* `validate`, `setValue`, `setValuesFromCache`: The page's functions.
* `beginBatch`, `abandonBatch`, `endBatch`: The ends of a batch.
* `PageCall`, `pageCalls`: What the owner calls, and a page under such calls.
-/

namespace NeoSwift.Misc

/-- `CStatusMessage::StatusSeverity`. -/
inductive StatusSeverity where
  | debug
  | info
  | warning
  | error
  deriving DecidableEq, Repr

/-- `CStatusMessage`. -/
structure CStatusMessage where
  severity : StatusSeverity := .debug
  text : String := ""
  deriving DecidableEq, Repr

def CStatusMessage.isFailure (m : CStatusMessage) : Bool := m.severity == .error

def CStatusMessage.isSuccess (m : CStatusMessage) : Bool := !m.isFailure

namespace ValueCache

/-- What a page asks of a value that is there. -/
class Variant (V : Type*) where
  userType : V → ℤ
  typeName : ℤ → String
  toQString : V → String

/-- `CValueCachePacket`: values by key, each with its timestamp. -/
structure CValueCachePacket (K V : Type) [DecidableEq K] where
  values : AList (fun _ : K => Option V × ℤ)
  saved : Bool := false
  valuesChanged : Bool := true

/-- `CValuePage::Element`. -/
structure PageElement (V : Type) where
  nameWithKey : String
  metaType : ℤ
  validator : Option (V → Bool × String) := none
  value : Option V := none
  timestamp : ℤ := 0
  pendingChanges : ℤ := 0
  saved : Bool := false

/-- `CValuePage`. -/
structure CValuePage (K V : Type) [DecidableEq K] where
  elements : K → Option (PageElement V)
  batchMode : ℤ := 0
  batchedValues : AList (fun _ : K => Option V) := ∅

variable {K V : Type} [DecidableEq K]

/-- The constructor from a map of values and one timestamp. -/
def CValueCachePacket.ofValues (values : AList (fun _ : K => Option V)) (timestamp : ℤ)
    (saved valuesChanged : Bool) : CValueCachePacket K V where
  values :=
    ⟨values.entries.map (fun e => ⟨e.1, e.2, timestamp⟩), by
      have hkeys := values.nodupKeys
      rw [List.NodupKeys, List.keys] at hkeys ⊢
      simpa only [List.map_map, Function.comp_def] using hkeys⟩
  saved := saved
  valuesChanged := valuesChanged

theorem lookup_ofValues (values : AList (fun _ : K => Option V)) (timestamp : ℤ)
    (saved valuesChanged : Bool) (key : K) :
    (CValueCachePacket.ofValues values timestamp saved valuesChanged).values.lookup key
      = (values.lookup key).map (fun value => (value, timestamp)) := by
  exact @List.dlookup_map₂ K _ (fun _ => Option V) (fun _ => Option V × ℤ) values.entries
    (fun _ value => (value, timestamp)) key

variable [DecidableEq V] [Variant V]

/-- Whether a value may be stored, as a status message. -/
def PageElement.validate (element : PageElement V) (value : Option V)
    (invalidSeverity : StatusSeverity) : CStatusMessage :=
  match value with
  | none => { severity := invalidSeverity, text := "Empty cache value " ++ element.nameWithKey }
  | some v =>
      if Variant.userType v ≠ element.metaType then
        { severity := .error, text :=
            "Expected " ++ Variant.typeName V element.metaType ++ " but got "
              ++ Variant.typeName V (Variant.userType v) ++ " for " ++ element.nameWithKey }
      else
        match element.validator with
        | none => {}
        | some validator =>
            if (validator v).1 then {}
            else if (validator v).2.isEmpty then
              { severity := .error, text :=
                  Variant.toQString v ++ " is not valid for " ++ element.nameWithKey }
            else
              { severity := .error, text :=
                  (validator v).2 ++ " (" ++ Variant.toQString v ++ " for "
                    ++ element.nameWithKey ++ ")" }

/-- The page with an element in the place of the key. -/
def CValuePage.setElement (page : CValuePage K V) (key : K) (element : PageElement V) :
    CValuePage K V :=
  { page with elements := Function.update page.elements key (some element) }

/-- `createElement`, on what the cache holds for the key: the value, its time and
    whether it is saved. -/
def createElement (nameWithKey : String) (metaType : ℤ) (validator : Option (V → Bool × String))
    (defaultValue : Option V) (cached : Option V × ℤ × Bool) : PageElement V :=
  let element : PageElement V :=
    { nameWithKey, metaType, validator, value := cached.1, timestamp := cached.2.1,
      saved := cached.2.2 }
  if element.validate element.value .debug = {} then element
  else { element with value := defaultValue }

/-- The arguments of `setValue`, with the time it is called at. -/
structure SetCall (K V : Type) where
  key : K
  value : Option V
  timestamp : ℤ := 0
  save : Bool := false
  now : ℤ

/-- The time a call sets, the current one unless one is given. -/
def SetCall.time (call : SetCall K V) : ℤ := if call.timestamp = 0 then call.now else call.timestamp

/-- The value a call sets, the element's own unless one is given. -/
def SetCall.valueFor (call : SetCall K V) (element : PageElement V) : Option V :=
  if call.value.isSome then call.value else element.value

/-- The call would change the element's time or value. -/
def SetCall.changes (call : SetCall K V) (element : PageElement V) : Bool :=
  element.timestamp ≠ call.time || element.value ≠ call.valueFor element

/-- `setValue` on an element of the page: the page, what it sends, and the
    answer. -/
def CValuePage.setValueOf (page : CValuePage K V) (call : SetCall K V) (element : PageElement V) :
    CValuePage K V × List (CValueCachePacket K V) × CStatusMessage :=
  let value := call.valueFor element
  if !call.changes element && !call.save then
    (page, [], { severity := .info, text :=
      "Value '" ++ element.nameWithKey ++ "' not set, same timestamp and value" })
  else
    let status := element.validate value .error
    if status.isSuccess then
      let done : CStatusMessage :=
        { severity := .info, text := "Set value '" ++ element.nameWithKey ++ "'" }
      if !call.changes element then
        (page.setElement call.key { element with saved := call.save },
          [.ofValues (AList.singleton call.key value) 0 call.save false], done)
      else if page.batchMode > 0 then
        ({ page with batchedValues := page.batchedValues.insert call.key value }, [], done)
      else
        (page.setElement call.key
            { element with
              pendingChanges := element.pendingChanges + 1
              saved := call.save
              timestamp := call.time
              value := value },
          [.ofValues (AList.singleton call.key value) call.time call.save true], done)
    else (page, [], status)

/-- `setValue`; a call is made through an element of the page. -/
def CValuePage.setValue (page : CValuePage K V) (call : SetCall K V) :
    CValuePage K V × List (CValueCachePacket K V) :=
  match page.elements call.key with
  | none => (page, [])
  | some element => ((page.setValueOf call element).1, (page.setValueOf call element).2.1)

/-- One element under a packet from the cache. -/
def PageElement.setFromCache (element : PageElement V) (own : Bool) (saved : Bool)
    (entry : Option V × ℤ) : PageElement V :=
  if own then { element with pendingChanges := element.pendingChanges - 1 }
  else if element.pendingChanges = 0 then
    -- ratify a change only if own change is not pending, to ensure consistency
    if (element.validate entry.1 .error).isSuccess then
      { element with value := entry.1, timestamp := entry.2, saved := saved }
    else element
  else element

/-- `setValuesFromCache`, where `own` says that the page made the changes. -/
def CValuePage.setValuesFromCache (page : CValuePage K V) (packet : CValueCachePacket K V)
    (own : Bool) : CValuePage K V :=
  { page with elements := fun key =>
      match page.elements key, packet.values.lookup key with
      | some element, some entry => some (element.setFromCache own packet.saved entry)
      | element, _ => element }

/-- The outermost batch begins with nothing collected. -/
def CValuePage.beginBatch (page : CValuePage K V) : CValuePage K V :=
  { page with
    batchedValues := if page.batchMode ≤ 0 then ∅ else page.batchedValues
    batchMode := page.batchMode + 1 }

/-- Leaves one level of batching. -/
def CValuePage.abandonBatch (page : CValuePage K V) : CValuePage K V :=
  { page with batchMode := page.batchMode - 1 }

/-- `endBatch`, at the given time. -/
def CValuePage.endBatch (page : CValuePage K V) (now : ℤ) :
    CValuePage K V × List (CValueCachePacket K V) :=
  let ended := { page with batchMode := page.batchMode - 1 }
  if ended.batchMode ≤ 0 && !page.batchedValues.entries.isEmpty then
    ({ ended with elements := fun key =>
        match page.elements key, page.batchedValues.lookup key with
        | some element, some value => some
            { element with
              pendingChanges := element.pendingChanges + 1
              value := value
              timestamp := now
              saved := false }
        | element, _ => element },
      [.ofValues page.batchedValues now false true])
  else (ended, [])

/-- What the owner of a page calls. -/
inductive PageCall (K V : Type) where
  | setValue (call : SetCall K V)
  | beginBatch
  | abandonBatch
  | endBatch (now : ℤ)

/-- A call of the page's functions, with the packets that it emits. -/
def CValuePage.call (page : CValuePage K V) :
    PageCall K V → CValuePage K V × List (CValueCachePacket K V)
  | .setValue call => page.setValue call
  | .beginBatch => (page.beginBatch, [])
  | .abandonBatch => (page.abandonBatch, [])
  | .endBatch now => page.endBatch now

/-- A page and what it wants to the cache. -/
def pageCalls : Machine (CValuePage K V) (PageCall K V) (CValueCachePacket K V) where
  step page call := page.call call

end ValueCache

end NeoSwift.Misc
