import NeoSwift.Lib.Machine
import NeoSwift.Lib.OrderedMap
import NeoSwift.Qt.Text
import Mathlib.Data.Char
import Mathlib.Data.Finset.Basic
import Mathlib.Data.List.Dedup
import Mathlib.Data.List.Lex

/-!
# The Hub of the Shared State

`CHub` and the `CDuplex` it keeps for every client. A client posts events, which the
hub passes on to whoever subscribed to them, and submits requests, which it passes on
to a client that advertised the channel. What the other clients subscribe to on a
channel it tells a client on request and whenever it changes.

A client that is not open has no object to call, so what it does has no effect. Clients
are identified by the values of a linear order, in which the hub goes through them;
filters and values are of any type. Requests remember which duplex of a client they
came from, since their replies are lost with it. Tokens are counted without bound, as
their 32 bits come round only when 2^32 requests are open.

## Main definitions

* `CDuplex`, `CHub`: The state.
* `HubAction`, `HubSignal`: What clients call, and what the hub emits to them.
* `sharedStateHub`: The hub as a machine.
* `peerFilters`: What the other clients subscribe to.
* `session`, `received`, `stored`: What a client did and was told so far.
* `RoutesEvents`, `KnowsPeers`: What the hub is to do.

## Theorems

* `CHub.postEvent_eq`: Who gets an event.
* `CHub.mem_announce`, `CHub.mem_closeDuplex`: Who is told about a change.
* `told_step`: Clients are told about every change.
* `agrees_step`: What the clients were told goes with the hub.
* `hub_routes_events`: The hub does what it is to do.
* `stored_outdated`: What a data link keeps may be too much.
-/

namespace NeoSwift.Misc

namespace SharedState

/-- A request the hub passed on: who submitted it, through which of its duplexes, and
    under which token. -/
structure SubmittedRequest (Id : Type) where
  client : Id
  serial : ℕ
  channel : QString
  token : ℕ

/-- `CDuplex`. Among all duplexes there ever were, it has the serial number. -/
structure CDuplex (Id F : Type) where
  serial : ℕ
  subscriptions : OrderedMap QString (List F) := ∅
  handlingChannels : Finset QString := ∅
  token : ℕ := 0
  receivedRequests : OrderedMap ℕ (SubmittedRequest Id) := ∅

/-- `CHub`. -/
structure CHub (Id F : Type) [LinearOrder Id] where
  clients : OrderedMap Id (CDuplex Id F) := ∅
  duplexes : ℕ := 0

/-- The signals of the duplex of a client. -/
inductive HubSignal (Id F V : Type) where
  | eventPosted (client : Id) (channel : QString) (param : V)
  | peerSubscriptionsReceived (client : Id) (channel : QString) (filters : List F)
  | requestReceived (client : Id) (channel : QString) (param : V) (token : ℕ)
  | replyReceived (client : Id) (channel : QString) (param : V) (token : ℕ)
  deriving DecidableEq

/-- The slots of the hub and of the duplex of a client. -/
inductive HubAction (Id F V : Type) where
  | openDuplex (client : Id)
  | closeDuplex (client : Id)
  | postEvent (client : Id) (channel : QString) (param : V)
  | setSubscription (client : Id) (channel : QString) (filters : List F)
  | requestPeerSubscriptions (client : Id)
  | submitRequest (client : Id) (channel : QString) (param : V) (token : ℕ)
  | reply (client : Id) (param : V) (token : ℕ)
  | advertise (client : Id) (channel : QString)
  | withdraw (client : Id) (channel : QString)

section Hub

variable {Id F V : Type} [LinearOrder Id]

/-- What a duplex subscribes to on a channel. -/
def CDuplex.subscription (duplex : CDuplex Id F) (channel : QString) : List F :=
  (duplex.subscriptions.lookup channel).getD []

namespace CHub

variable (hub : CHub Id F)

def isOpen (client : Id) : Bool := hub.clients.contains client

/-- What the client subscribes to on a channel. -/
def subscription (client : Id) (channel : QString) : List F :=
  ((hub.clients.lookup client).map (fun duplex => duplex.subscription channel)).getD []

/-- What the other clients subscribe to on a channel. -/
def peerFilters (client : Id) (channel : QString) : List F :=
  hub.clients.collect (fun peer duplex =>
    if peer = client then [] else duplex.subscription channel)

/-- A channel's filters are emitted to the client. -/
def requestPeerSubscriptionsOn (client : Id) (channel : QString) : HubSignal Id F V :=
  .peerSubscriptionsReceived client channel (hub.peerFilters client channel)

/-- All clients but one are told about a channel. -/
def announce (client : Id) (channel : QString) : List (HubSignal Id F V) :=
  hub.clients.collect (fun peer _ =>
    if peer = client then [] else [hub.requestPeerSubscriptionsOn peer channel])

/-- An open client stays as it is. -/
def openDuplex (client : Id) : CHub Id F :=
  if hub.isOpen client then hub
  else { clients := hub.clients.insert client { serial := hub.duplexes }
         duplexes := hub.duplexes + 1 }

/-- The duplex is destroyed after the client was removed: it withdraws its subscriptions
    one by one. -/
def closeDuplex (client : Id) : CHub Id F × List (HubSignal Id F V) :=
  match hub.clients.lookup client with
  | none => (hub, [])
  | some duplex =>
    let left := { hub with clients := hub.clients.erase client }
    (left, duplex.subscriptions.keys.flatMap (left.announce client))

/-- Something is done with the duplex of a client, if there is one. -/
def withDuplex (client : Id) (f : CDuplex Id F → CDuplex Id F) : CHub Id F :=
  match hub.clients.lookup client with
  | none => hub
  | some duplex => { hub with clients := hub.clients.insert client (f duplex) }

/-- Takes the filters of a client and tells its peers. -/
def setSubscription (client : Id) (channel : QString) (filters : List F) :
    CHub Id F × List (HubSignal Id F V) :=
  if hub.isOpen client then
    let set := hub.withDuplex client (fun duplex => { duplex with
      subscriptions :=
        if filters = [] then duplex.subscriptions.erase channel
        else duplex.subscriptions.insert channel filters })
    (set, set.announce client channel)
  else (hub, [])

/-- The channels some other client subscribes to. -/
def peerChannels (client : Id) : List QString :=
  (hub.clients.collect (fun peer duplex =>
    if peer = client then [] else duplex.subscriptions.keys)).dedup

/-- The client is told the subscriptions of its peers. -/
def requestPeerSubscriptions (client : Id) : List (HubSignal Id F V) :=
  if hub.isOpen client then
    (hub.peerChannels client).map (hub.requestPeerSubscriptionsOn client)
  else []

/-- Whether some filter matches is `CVariantList::matches`. -/
def postEvent (matchesFilter : F → V → Bool) (client : Id) (channel : QString) (param : V) :
    List (HubSignal Id F V) :=
  if hub.isOpen client then
    hub.clients.collect (fun peer duplex =>
      if peer ≠ client ∧ (duplex.subscription channel).any (fun f => matchesFilter f param) then
        [.eventPosted peer channel param]
      else [])
  else []

/-- The first other client that handles the channel. -/
def findHandler (client : Id) (channel : QString) : Option (Id × CDuplex Id F) :=
  hub.clients.entries.find? (fun e => e.1 ≠ client ∧ channel ∈ e.2.handlingChannels)

/-- The handler receives the request under a token of its own. -/
def submitRequest (client : Id) (channel : QString) (param : V) (token : ℕ) :
    CHub Id F × List (HubSignal Id F V) :=
  match hub.clients.lookup client, hub.findHandler client channel with
  | some duplex, some (handler, handling) =>
    (hub.withDuplex handler (fun d => { d with
        token := d.token + 1
        receivedRequests :=
          d.receivedRequests.insert d.token ⟨client, duplex.serial, channel, token⟩ }),
      [.requestReceived handler channel param handling.token])
  | _, _ => (hub, [])

/-- The reply to a request is passed on, if who submitted it is still there. -/
def reply (client : Id) (param : V) (token : ℕ) : CHub Id F × List (HubSignal Id F V) :=
  match (hub.clients.lookup client).bind (fun d => d.receivedRequests.lookup token) with
  | none => (hub, [])
  | some request =>
    (hub.withDuplex client (fun d =>
        { d with receivedRequests := d.receivedRequests.erase token }),
      if (hub.clients.lookup request.client).any (fun d => d.serial = request.serial) then
        [.replyReceived request.client request.channel param request.token]
      else [])

def advertise (client : Id) (channel : QString) : CHub Id F :=
  hub.withDuplex client (fun d => { d with handlingChannels := insert channel d.handlingChannels })

def withdraw (client : Id) (channel : QString) : CHub Id F :=
  hub.withDuplex client (fun d => { d with handlingChannels := d.handlingChannels.erase channel })

end CHub

/-- The hub as a machine. -/
def sharedStateHub (matchesFilter : F → V → Bool) :
    Machine (CHub Id F) (HubAction Id F V) (HubSignal Id F V) where
  step hub action :=
    match action with
    | .openDuplex client => (hub.openDuplex client, [])
    | .closeDuplex client => hub.closeDuplex client
    | .postEvent client channel param =>
      (hub, hub.postEvent matchesFilter client channel param)
    | .setSubscription client channel filters => hub.setSubscription client channel filters
    | .requestPeerSubscriptions client => (hub, hub.requestPeerSubscriptions client)
    | .submitRequest client channel param token => hub.submitRequest client channel param token
    | .reply client param token => hub.reply client param token
    | .advertise client channel => (hub.advertise client channel, [])
    | .withdraw client channel => (hub.withdraw client channel, [])

/-! ## What the hub is to do -/

/-- The filters a signal tells a client about a channel. -/
def HubSignal.filtersFor (client : Id) (channel : QString) : HubSignal Id F V → Option (List F)
  | .peerSubscriptionsReceived peer ch filters =>
    if peer = client ∧ ch = channel then some filters else none
  | _ => none

/-- The filters a client was last told about a channel. -/
def lastFilters (client : Id) (channel : QString) (signals : List (HubSignal Id F V))
    (last : Option (List F)) : Option (List F) :=
  signals.foldl (fun last signal => (signal.filtersFor client channel).or last) last

/-- The action closes the duplex of the client. -/
def HubAction.closes (client : Id) : HubAction Id F V → Bool
  | .closeDuplex c => c = client
  | _ => false

/-- Nothing if the client is not open, otherwise whether it has requested the
    subscriptions of its peers since it was opened. -/
def sessionAfter (client : Id) (session : Option Bool) : HubAction Id F V → Option Bool
  | .openDuplex c => if c = client then some (session.getD false) else session
  | .closeDuplex c => if c = client then none else session
  | .requestPeerSubscriptions c => if c = client then session.map (fun _ => true) else session
  | _ => session

/-- Where the client is after a trace. -/
def session (client : Id) (trace : List (HubAction Id F V × List (HubSignal Id F V))) :
    Option Bool :=
  trace.foldl (fun session event => sessionAfter client session event.1) none

/-- What the client was last told about a channel since it was opened. -/
def received (client : Id) (channel : QString)
    (trace : List (HubAction Id F V × List (HubSignal Id F V))) : Option (List F) :=
  trace.foldl (fun last event =>
    lastFilters client channel event.2 (if event.1.closes client then none else last)) none

/-- What the client was ever told last about a channel, which its data link keeps. -/
def stored (client : Id) (channel : QString)
    (trace : List (HubAction Id F V × List (HubSignal Id F V))) : Option (List F) :=
  trace.foldl (fun last event => lastFilters client channel event.2 last) none

/-- An event goes once to every other open client that subscribes to it, and to nobody
    else. -/
structure RoutesEvents (matchesFilter : F → V → Bool) (hub : CHub Id F) : Prop where
  posted : ∀ client channel param, hub.isOpen client = true →
    ∃ peers : List Id, peers.Nodup ∧
      ((sharedStateHub matchesFilter).step hub (.postEvent client channel param)).2
        = peers.map (fun peer => .eventPosted peer channel param) ∧
      ∀ peer, peer ∈ peers ↔ peer ≠ client ∧ hub.isOpen peer = true ∧
        (hub.subscription peer channel).any (fun f => matchesFilter f param) = true
  onlyPosted : ∀ action peer channel param,
    .eventPosted peer channel param ∈ ((sharedStateHub matchesFilter).step hub action).2 →
      ∃ client, action = .postEvent client channel param ∧ hub.isOpen client = true

/-- Every open client that has requested the subscriptions of its peers knows them. What
    its data link keeps lets every event pass that a peer subscribes to. -/
structure KnowsPeers (matchesFilter : F → V → Bool)
    (trace : List (HubAction Id F V × List (HubSignal Id F V))) (hub : CHub Id F) : Prop where
  sessions : ∀ client, session client trace ≠ none ↔ hub.isOpen client = true
  told : ∀ client, session client trace = some true → ∀ channel,
    (received client channel trace).getD [] = hub.peerFilters client channel
  neverSuppressed : ∀ client, session client trace = some true → ∀ channel param,
    (∃ peer, peer ≠ client ∧ (hub.subscription peer channel).any
        (fun f => matchesFilter f param) = true) →
      ((stored client channel trace).getD []).any (fun f => matchesFilter f param) = true

/-! ## Events -/

namespace CHub

variable {hub : CHub Id F} {client : Id}

theorem isOpen_iff :
    hub.isOpen client = true ↔ ∃ duplex, hub.clients.lookup client = some duplex := by
  rw [isOpen, OrderedMap.contains, Option.isSome_iff_exists]

/-- Who gets an event. -/
theorem postEvent_eq (matchesFilter : F → V → Bool)
    (hopen : hub.isOpen client = true) (channel : QString) (param : V) :
    ∃ peers : List Id, peers.Nodup ∧ hub.postEvent matchesFilter client channel param
        = peers.map (fun peer => .eventPosted peer channel param) ∧
      ∀ peer, peer ∈ peers ↔ peer ≠ client ∧ hub.isOpen peer = true ∧
        (hub.subscription peer channel).any (fun f => matchesFilter f param) = true := by
  -- The peers are those that pass the test of the source, in the order of the clients.
  refine ⟨hub.clients.collect (fun peer duplex =>
    if peer ≠ client ∧ (duplex.subscription channel).any (fun f => matchesFilter f param) then
      [peer] else []), ?_, ?_, fun peer => ?_⟩
  · refine OrderedMap.nodup_collect (fun peer duplex _ => ?_) (fun peer peer' d d' hne => ?_)
    · split_ifs
      · exact List.nodup_singleton peer
      · exact List.nodup_nil
    · split_ifs <;> simp [Ne.symm hne]
  · rw [postEvent, if_pos hopen, OrderedMap.collect, OrderedMap.collect, List.map_flatMap]
    refine List.flatMap_congr (fun e _ => ?_)
    split_ifs <;> rfl
  · rw [OrderedMap.mem_collect, isOpen_iff, subscription]
    constructor
    · rintro ⟨k, duplex, hlookup, hmem⟩
      split_ifs at hmem with h
      · rw [List.mem_singleton] at hmem
        subst hmem
        exact ⟨h.1, ⟨duplex, hlookup⟩, by rw [hlookup]; exact h.2⟩
      · cases hmem
    · rintro ⟨hne, ⟨duplex, hlookup⟩, hmatch⟩
      rw [hlookup] at hmatch
      exact ⟨peer, duplex, hlookup, by rw [if_pos ⟨hne, hmatch⟩]; exact List.mem_singleton.mpr rfl⟩

variable {signal : HubSignal Id F V}

theorem mem_announce {channel : QString} : signal ∈ hub.announce client channel ↔
      ∃ peer, peer ≠ client ∧ hub.isOpen peer = true ∧
        signal = hub.requestPeerSubscriptionsOn peer channel := by
  rw [announce, OrderedMap.mem_collect]
  constructor
  · rintro ⟨peer, duplex, hlookup, hmem⟩
    split_ifs at hmem with hpeer
    · cases hmem
    · exact ⟨peer, hpeer, isOpen_iff.mpr ⟨duplex, hlookup⟩, List.mem_singleton.mp hmem⟩
  · rintro ⟨peer, hpeer, hopen, rfl⟩
    rcases isOpen_iff.mp hopen with ⟨duplex, hlookup⟩
    exact ⟨peer, duplex, hlookup, by rw [if_neg hpeer]; exact List.mem_singleton.mpr rfl⟩

/-- A signal of peer subscriptions comes from the hub as it is, and goes to a client that
    is open. -/
def Told (hub : CHub Id F) (signal : HubSignal Id F V) : Prop :=
  ∃ peer channel, hub.isOpen peer = true ∧ signal = hub.requestPeerSubscriptionsOn peer channel

theorem told_of_mem_announce {channel : QString}
    (h : signal ∈ hub.announce client channel) : Told hub signal := by
  rcases mem_announce.mp h with ⟨peer, -, hopen, rfl⟩
  exact ⟨peer, channel, hopen, rfl⟩

theorem mem_closeDuplex :
    signal ∈ (hub.closeDuplex client).2 ↔ ∃ duplex, hub.clients.lookup client = some duplex ∧
      ∃ channel ∈ duplex.subscriptions.keys,
        signal ∈ (hub.closeDuplex (V := V) client).1.announce client channel := by
  unfold closeDuplex
  cases hlookup : hub.clients.lookup client with
  | none => simp
  | some duplex => simp

/-! ## Changes of the hub -/

theorem isOpen_withDuplex (hub : CHub Id F) (client peer : Id) (f : CDuplex Id F → CDuplex Id F) :
    (hub.withDuplex client f).isOpen peer = hub.isOpen peer := by
  unfold withDuplex
  cases hlookup : hub.clients.lookup client with
  | none => rfl
  | some duplex =>
      simp only [isOpen, OrderedMap.contains, OrderedMap.lookup_insert]
      by_cases hpeer : peer = client
      · rw [if_pos hpeer, hpeer, hlookup]
        rfl
      · rw [if_neg hpeer]

theorem isOpen_openDuplex (hub : CHub Id F) (client peer : Id) :
    (hub.openDuplex client).isOpen peer = (decide (peer = client) || hub.isOpen peer) := by
  unfold openDuplex
  by_cases hpeer : peer = client
  · rw [decide_eq_true hpeer, hpeer]
    split_ifs with hopen
    · exact hopen
    · rw [isOpen, OrderedMap.contains, OrderedMap.lookup_insert, if_pos rfl]
      rfl
  · rw [decide_eq_false hpeer]
    split_ifs with hopen
    · rfl
    · rw [isOpen, OrderedMap.contains, OrderedMap.lookup_insert, if_neg hpeer]
      rfl

theorem isOpen_closeDuplex (hub : CHub Id F) (client peer : Id) :
    (hub.closeDuplex (V := V) client).1.isOpen peer
      = (!decide (peer = client) && hub.isOpen peer) := by
  unfold closeDuplex
  cases hlookup : hub.clients.lookup client with
  | none =>
      by_cases hpeer : peer = client
      · simp [hpeer, isOpen, OrderedMap.contains, hlookup]
      · simp [hpeer]
  | some duplex =>
      simp only [isOpen, OrderedMap.contains, OrderedMap.lookup_erase]
      by_cases hpeer : peer = client
      · simp [hpeer]
      · simp [hpeer]

/-- What is done with a duplex matters to a peer, if it changes the subscriptions. -/
theorem peerFilters_withDuplex (hub : CHub Id F) {client peer : Id} {channel : QString}
    (f : CDuplex Id F → CDuplex Id F)
    (h : peer = client ∨ ∀ duplex, (f duplex).subscription channel = duplex.subscription channel) :
    (hub.withDuplex client f).peerFilters peer channel = hub.peerFilters peer channel := by
  unfold withDuplex
  cases hlookup : hub.clients.lookup client with
  | none => rfl
  | some duplex =>
      refine hub.clients.collect_insert _ ?_
      rw [hlookup, Option.map_some, Option.getD_some]
      by_cases hpeer : client = peer
      · rw [if_pos hpeer, if_pos hpeer]
      · rcases h with heq | h
        · exact absurd heq.symm hpeer
        · rw [if_neg hpeer, if_neg hpeer, h]

omit [LinearOrder Id] in
theorem subscription_set (duplex : CDuplex Id F) {channel channel' : QString}
    (hne : channel' ≠ channel) (filters : List F) :
    CDuplex.subscription { duplex with subscriptions :=
        if filters = [] then duplex.subscriptions.erase channel
        else duplex.subscriptions.insert channel filters } channel'
      = duplex.subscription channel' := by
  unfold CDuplex.subscription
  split_ifs
  · rw [OrderedMap.lookup_erase, if_neg hne]
  · rw [OrderedMap.lookup_insert, if_neg hne]

/-- What a step of the hub tells its clients: filters only as they are, and of every
    change. -/
structure Tells (hub hub' : CHub Id F) (signals : List (HubSignal Id F V)) : Prop where
  asIs : ∀ signal ∈ signals, ∀ client channel,
    signal.filtersFor client channel ≠ none → Told hub' signal
  ofChanges : ∀ client channel, hub.isOpen client = true → hub'.isOpen client = true →
    hub'.peerFilters client channel ≠ hub.peerFilters client channel →
      hub'.requestPeerSubscriptionsOn client channel ∈ signals

theorem tells_of_same {hub hub' : CHub Id F} {signals : List (HubSignal Id F V)}
    (hsignals : ∀ signal ∈ signals, ∀ client channel,
      signal.filtersFor client channel ≠ none → Told hub' signal)
    (hsame : ∀ client channel, hub.isOpen client = true →
      hub'.peerFilters client channel = hub.peerFilters client channel) :
    Tells hub hub' signals where
  asIs := hsignals
  ofChanges client channel hopen _ hchanged := absurd (hsame client channel hopen) hchanged

theorem tells_openDuplex (hub : CHub Id F) (client : Id) :
    Tells hub (hub.openDuplex client) ([] : List (HubSignal Id F V)) := by
  refine tells_of_same (nofun)
    (fun peer channel hopen => ?_)
  unfold openDuplex
  by_cases h : hub.isOpen client = true
  · rw [if_pos h]
  · rw [if_neg h]
    refine hub.clients.collect_insert _ ?_
    -- A new duplex does not subscribe to anything.
    have hnone : hub.clients.lookup client = none := by
      rw [isOpen, OrderedMap.contains, Bool.not_eq_true, Option.isSome_eq_false_iff,
        Option.isNone_iff_eq_none] at h
      exact h
    rw [hnone]
    split_ifs <;> rfl

theorem tells_closeDuplex (hub : CHub Id F) (client : Id) :
    Tells hub (hub.closeDuplex (V := V) client).1 (hub.closeDuplex (V := V) client).2 where
  asIs signal hsignal _ _ _ := by
    rcases mem_closeDuplex.mp hsignal with ⟨duplex, -, channel, -, hmem⟩
    exact told_of_mem_announce hmem
  ofChanges peer channel hopen hopen' hchanged := by
    cases hlookup : hub.clients.lookup client with
    | none =>
        refine absurd ?_ hchanged
        unfold closeDuplex
        rw [hlookup]
    | some duplex =>
        have hleft : (hub.closeDuplex (V := V) client).1
            = { hub with clients := hub.clients.erase client } := by
          unfold closeDuplex
          rw [hlookup]
        -- The client that has left is not told.
        have hpeer : peer ≠ client := by
          rintro rfl
          rw [hleft, isOpen, OrderedMap.contains, OrderedMap.lookup_erase, if_pos rfl] at hopen'
          cases hopen'
        by_cases hkey : channel ∈ duplex.subscriptions.keys
        · refine mem_closeDuplex.mpr ⟨duplex, hlookup, channel, hkey, ?_⟩
          exact mem_announce.mpr ⟨peer, hpeer, hopen', rfl⟩
        · -- It did not subscribe to the channel.
          refine absurd ?_ hchanged
          rw [hleft]
          refine hub.clients.collect_erase _ ?_
          rw [hlookup, Option.map_some, Option.getD_some, if_neg (Ne.symm hpeer),
            CDuplex.subscription, not_not.mp (mt OrderedMap.mem_keys.mpr hkey), Option.getD_none]

theorem tells_setSubscription (hub : CHub Id F) (client : Id) (channel : QString)
    (filters : List F) :
    Tells hub (hub.setSubscription (V := V) client channel filters).1
      (hub.setSubscription (V := V) client channel filters).2 := by
  unfold setSubscription
  by_cases h : hub.isOpen client = true
  · rw [if_pos h]
    refine ⟨fun signal hsignal _ _ _ => told_of_mem_announce hsignal,
      fun peer channel' hopen hopen' hchanged => ?_⟩
    by_cases hpeer : peer = client
    · exact absurd (hub.peerFilters_withDuplex _ (.inl hpeer)) hchanged
    · by_cases hchannel : channel' = channel
      · rw [hchannel]
        exact mem_announce.mpr ⟨peer, hpeer, hopen', rfl⟩
      · exact absurd (hub.peerFilters_withDuplex _
          (.inr (fun duplex => subscription_set duplex hchannel filters))) hchanged
  · rw [if_neg h]
    exact tells_of_same (nofun)
      (fun _ _ _ => rfl)

theorem mem_requestPeerSubscriptions (h : signal ∈ hub.requestPeerSubscriptions client) :
    Told hub signal := by
  unfold requestPeerSubscriptions at h
  split_ifs at h with hopen
  · rcases List.mem_map.mp h with ⟨channel, -, rfl⟩
    exact ⟨client, channel, hopen, rfl⟩
  · cases h

/-- On request, a client is told about every channel its peers subscribe to. -/
theorem requestPeerSubscriptions_complete (hopen : hub.isOpen client = true) {channel : QString}
    (hne : hub.peerFilters client channel ≠ []) :
    hub.requestPeerSubscriptionsOn (V := V) client channel
      ∈ hub.requestPeerSubscriptions (V := V) client := by
  rw [requestPeerSubscriptions, if_pos hopen]
  refine List.mem_map_of_mem ?_
  rcases List.exists_mem_of_ne_nil _ hne with ⟨filter, hfilter⟩
  rcases OrderedMap.mem_collect.mp hfilter with ⟨peer, duplex, hlookup, hmem⟩
  split_ifs at hmem with hpeer
  · cases hmem
  · refine List.mem_dedup.mpr (OrderedMap.mem_collect.mpr ⟨peer, duplex, hlookup, ?_⟩)
    rw [if_neg hpeer, OrderedMap.mem_keys]
    intro hnone
    rw [CDuplex.subscription, hnone] at hmem
    cases hmem

end CHub

/-- Clients are told about every change. -/
theorem told_step (matchesFilter : F → V → Bool) (hub : CHub Id F) (action : HubAction Id F V) :
    hub.Tells ((sharedStateHub matchesFilter).step hub action).1
      ((sharedStateHub matchesFilter).step hub action).2 := by
  -- Only three of the slots emit filters, and the others change no subscription.
  have hwith : ∀ (client : Id) (f : CDuplex Id F → CDuplex Id F)
      (signals : List (HubSignal Id F V)),
      (∀ duplex, (f duplex).subscriptions = duplex.subscriptions) →
      (∀ signal ∈ signals, ∀ client channel, signal.filtersFor client channel = none) →
        hub.Tells (hub.withDuplex client f) signals := by
    intro client f signals hf hsignals
    refine CHub.tells_of_same (fun signal hsignal peer channel hfilters =>
      absurd (hsignals signal hsignal peer channel) hfilters) (fun peer channel _ => ?_)
    refine hub.peerFilters_withDuplex f (.inr (fun duplex => ?_))
    rw [CDuplex.subscription, hf, CDuplex.subscription]
  have hnothing : hub.Tells hub ([] : List (HubSignal Id F V)) :=
    CHub.tells_of_same (nofun) (fun _ _ _ => rfl)
  cases action with
  | openDuplex client => exact hub.tells_openDuplex client
  | closeDuplex client => exact hub.tells_closeDuplex client
  | setSubscription client channel filters =>
      exact hub.tells_setSubscription client channel filters
  | requestPeerSubscriptions client =>
      exact CHub.tells_of_same (fun signal hsignal _ _ _ =>
        CHub.mem_requestPeerSubscriptions hsignal) (fun _ _ _ => rfl)
  | postEvent client channel param =>
      refine CHub.tells_of_same (fun signal hsignal peer ch hfilters => ?_) (fun _ _ _ => rfl)
      change signal ∈ hub.postEvent matchesFilter client channel param at hsignal
      by_cases hopen : hub.isOpen client = true
      · rcases CHub.postEvent_eq matchesFilter hopen channel param with ⟨peers, -, heq, -⟩
        rw [heq] at hsignal
        rcases List.mem_map.mp hsignal with ⟨peer', -, rfl⟩
        exact absurd rfl hfilters
      · rw [CHub.postEvent, if_neg hopen] at hsignal
        cases hsignal
  | submitRequest client channel param token =>
      change hub.Tells (hub.submitRequest client channel param token).1
        (hub.submitRequest client channel param token).2
      unfold CHub.submitRequest
      split
      · refine hwith _ _ _ (fun _ => rfl) (fun signal hsignal _ _ => ?_)
        rw [List.mem_singleton.mp hsignal]
        rfl
      · exact hnothing
  | reply client param token =>
      change hub.Tells (hub.reply client param token).1 (hub.reply client param token).2
      unfold CHub.reply
      split
      · exact hnothing
      · refine hwith _ _ _ (fun _ => rfl) (fun signal hsignal _ _ => ?_)
        split_ifs at hsignal
        · rw [List.mem_singleton.mp hsignal]
          rfl
        · cases hsignal
  | advertise client channel =>
      exact hwith client _ [] (fun _ => rfl) (nofun)
  | withdraw client channel =>
      exact hwith client _ [] (fun _ => rfl) (nofun)

/-! ## Over all runs -/

theorem session_concat (client : Id) (trace : List (HubAction Id F V × List (HubSignal Id F V)))
    (action : HubAction Id F V) (signals : List (HubSignal Id F V)) :
    session client (trace ++ [(action, signals)])
      = sessionAfter client (session client trace) action := by
  simp [session]

theorem received_concat (client : Id) (channel : QString)
    (trace : List (HubAction Id F V × List (HubSignal Id F V)))
    (action : HubAction Id F V) (signals : List (HubSignal Id F V)) :
    received client channel (trace ++ [(action, signals)])
      = lastFilters client channel signals
        (if action.closes client then none else received client channel trace) := by
  simp [received]

theorem stored_concat (client : Id) (channel : QString)
    (trace : List (HubAction Id F V × List (HubSignal Id F V)))
    (action : HubAction Id F V) (signals : List (HubSignal Id F V)) :
    stored client channel (trace ++ [(action, signals)])
      = lastFilters client channel signals (stored client channel trace) := by
  simp [stored]

theorem lastFilters_cons (client : Id) (channel : QString) (signal : HubSignal Id F V)
    (signals : List (HubSignal Id F V)) (last : Option (List F)) :
    lastFilters client channel (signal :: signals) last
      = lastFilters client channel signals ((signal.filtersFor client channel).or last) := rfl

theorem lastFilters_of_none {client : Id} {channel : QString} {signals : List (HubSignal Id F V)}
    (h : ∀ signal ∈ signals, signal.filtersFor client channel = none) (last : Option (List F)) :
    lastFilters client channel signals last = last := by
  induction signals with
  | nil => rfl
  | cons signal signals ih =>
      rw [lastFilters_cons, h signal List.mem_cons_self]
      exact ih (fun signal hmem => h signal (List.mem_cons_of_mem _ hmem))

/-- If all that a client is told about a channel is the same, then that is what it was
    told last. -/
theorem lastFilters_of_same {client : Id} {channel : QString} {filters : List F}
    {signals : List (HubSignal Id F V)}
    (hsame : ∀ signal ∈ signals, ∀ filters', signal.filtersFor client channel = some filters' →
      filters' = filters) (last : Option (List F)) (hsome : last = some filters ∨
      ∃ signal ∈ signals, signal.filtersFor client channel ≠ none) :
    lastFilters client channel signals last = some filters := by
  induction signals generalizing last with
  | nil =>
      rcases hsome with hlast | ⟨signal, hmem, -⟩
      · exact hlast
      · cases hmem
  -- What is told last is the last that concerns this channel.
  | cons signal signals ih =>
      rw [lastFilters_cons]
      refine ih (fun signal hmem => hsame signal (List.mem_cons_of_mem _ hmem)) _ ?_
      cases hsignal : signal.filtersFor client channel with
      | some filters' =>
          left
          rw [hsame signal List.mem_cons_self filters' hsignal, Option.some_or]
      | none =>
          rcases hsome with hlast | ⟨told, hmem, htold⟩
          · exact .inl hlast
          · rcases List.mem_cons.mp hmem with rfl | hmem
            · exact absurd hsignal htold
            · exact .inr ⟨told, hmem, htold⟩

/-- Only opening and closing a client's duplex changes whether it is open. -/
theorem isOpen_step (matchesFilter : F → V → Bool) (hub : CHub Id F) (action : HubAction Id F V)
    (client : Id) (hopen : ∀ c, action ≠ .openDuplex c ∨ c ≠ client)
    (hclose : action.closes client = false) :
    ((sharedStateHub matchesFilter).step hub action).1.isOpen client = hub.isOpen client := by
  -- The actions that can open or close are excluded, and the others keep every duplex.
  cases action with
  | openDuplex c =>
      have hne : c ≠ client := (hopen c).resolve_left (not_not.mpr rfl)
      change (hub.openDuplex c).isOpen client = _
      rw [CHub.isOpen_openDuplex, decide_eq_false hne.symm, Bool.false_or]
  | closeDuplex c =>
      have hne : c ≠ client := of_decide_eq_false hclose
      change (hub.closeDuplex c).1.isOpen client = _
      rw [CHub.isOpen_closeDuplex, decide_eq_false hne.symm, Bool.not_false, Bool.true_and]
  | setSubscription c channel filters =>
      change (hub.setSubscription c channel filters).1.isOpen client = _
      unfold CHub.setSubscription
      by_cases hc : hub.isOpen c = true
      · rw [if_pos hc]
        exact CHub.isOpen_withDuplex _ _ _ _
      · rw [if_neg hc]
  | submitRequest c channel param token =>
      change (hub.submitRequest c channel param token).1.isOpen client = _
      unfold CHub.submitRequest
      split
      · exact CHub.isOpen_withDuplex _ _ _ _
      · rfl
  | reply c param token =>
      change (hub.reply c param token).1.isOpen client = _
      unfold CHub.reply
      split
      · rfl
      · exact CHub.isOpen_withDuplex _ _ _ _
  | advertise c channel => exact CHub.isOpen_withDuplex _ _ _ _
  | withdraw c channel => exact CHub.isOpen_withDuplex _ _ _ _
  | postEvent c channel param => rfl
  | requestPeerSubscriptions c => rfl

/-- A client is in a session as long as it is open. -/
theorem session_step (matchesFilter : F → V → Bool) (hub : CHub Id F) (action : HubAction Id F V)
    (client : Id) (session : Option Bool) (h : session ≠ none ↔ hub.isOpen client = true) :
    sessionAfter client session action ≠ none ↔
      ((sharedStateHub matchesFilter).step hub action).1.isOpen client = true := by
  -- The session begins and ends with the two actions that open and close the duplex.
  by_cases hopens : ∃ c, action = .openDuplex c ∧ c = client
  · rcases hopens with ⟨c, rfl, rfl⟩
    refine iff_of_true (by simp [sessionAfter]) ?_
    change (hub.openDuplex c).isOpen c = true
    rw [CHub.isOpen_openDuplex, decide_eq_true rfl, Bool.true_or]
  · by_cases hcloses : action.closes client = true
    · cases action with
      | closeDuplex c =>
          have hc : c = client := of_decide_eq_true hcloses
          subst hc
          refine iff_of_false (by simp [sessionAfter]) ?_
          change (hub.closeDuplex c).1.isOpen c ≠ true
          rw [CHub.isOpen_closeDuplex, decide_eq_true rfl]
          exact Bool.false_ne_true
      | _ => cases hcloses
    · rw [isOpen_step matchesFilter hub action client ?_ (Bool.not_eq_true _ ▸ hcloses), ← h]
      · cases action with
        | openDuplex c =>
            rw [sessionAfter, if_neg (fun hc => hopens ⟨c, rfl, hc⟩)]
        | closeDuplex c =>
            rw [sessionAfter, if_neg (fun hc => hcloses (decide_eq_true hc))]
        -- A request for the subscriptions changes a session, and does not begin one.
        | requestPeerSubscriptions c =>
            rw [sessionAfter]
            split_ifs
            · rw [ne_eq, Option.map_eq_none_iff]
            · rfl
        | _ => rfl
      · intro c
        by_cases hc : c = client
        · exact .inl (fun heq => hopens ⟨c, heq, hc⟩)
        · exact .inr hc

/-- A session lasts until the duplex is closed. -/
theorem sessionAfter_ne_none {client : Id} {session : Option Bool} {action : HubAction Id F V}
    (hcloses : ¬action.closes client = true) (h : session ≠ none) :
    sessionAfter client session action ≠ none := by
  cases action with
  | openDuplex c =>
      rw [sessionAfter]
      split_ifs
      · exact Option.some_ne_none _
      · exact h
  | closeDuplex c =>
      rw [sessionAfter, if_neg (fun hc => hcloses (decide_eq_true hc))]
      exact h
  | requestPeerSubscriptions c =>
      rw [sessionAfter]
      split_ifs
      · rw [ne_eq, Option.map_eq_none_iff]
        exact h
      · exact h
  | _ => exact h

/-- A client has requested the subscriptions of its peers, if it did so before in the
    session or does so now. -/
theorem sessionAfter_true {client : Id} {session : Option Bool} {action : HubAction Id F V}
    (h : sessionAfter client session action = some true) :
    session = some true ∧ action.closes client = false ∨
      action = .requestPeerSubscriptions client ∧ session ≠ none := by
  -- Only the three actions that sessions are about can have an effect.
  cases action with
  | openDuplex c =>
      left
      rw [sessionAfter] at h
      split_ifs at h with hc
      · cases session with
        | none => exact absurd (Option.some.inj h) Bool.false_ne_true
        | some requested => exact ⟨h, rfl⟩
      · exact ⟨h, rfl⟩
  | closeDuplex c =>
      left
      rw [sessionAfter] at h
      split_ifs at h with hc
      exact ⟨h, decide_eq_false hc⟩
  | requestPeerSubscriptions c =>
      rw [sessionAfter] at h
      split_ifs at h with hc
      · right
        rcases Option.map_eq_some_iff.mp h with ⟨requested, hsession, -⟩
        exact ⟨by rw [hc], by rw [hsession]; exact Option.some_ne_none requested⟩
      · exact .inl ⟨h, rfl⟩
  | _ => exact .inl ⟨h, rfl⟩

/-- What the clients were told goes with the hub. -/
structure Agrees (trace : List (HubAction Id F V × List (HubSignal Id F V)))
    (hub : CHub Id F) : Prop where
  sessions : ∀ client, session client trace ≠ none ↔ hub.isOpen client = true
  asIs : ∀ client channel filters, received client channel trace = some filters →
    hub.isOpen client = true ∧ filters = hub.peerFilters client channel
  untold : ∀ client channel, session client trace = some true →
    received client channel trace = none → hub.peerFilters client channel = []
  kept : ∀ client channel filters, received client channel trace = some filters →
    stored client channel trace = some filters

theorem agrees_step (matchesFilter : F → V → Bool)
    {trace : List (HubAction Id F V × List (HubSignal Id F V))} {hub : CHub Id F}
    (h : Agrees trace hub) (action : HubAction Id F V) :
    Agrees (trace ++ [(action, ((sharedStateHub matchesFilter).step hub action).2)])
      ((sharedStateHub matchesFilter).step hub action).1 := by
  have htells := told_step matchesFilter hub action
  have hsessions : ∀ client,
      sessionAfter client (session client trace) action ≠ none ↔
        ((sharedStateHub matchesFilter).step hub action).1.isOpen client = true :=
    fun client => session_step matchesFilter hub action client _ (h.sessions client)
  generalize hstep : (sharedStateHub matchesFilter).step hub action = next at htells hsessions
  rcases next with ⟨hub', signals⟩
  have htold : ∀ client channel, ∀ signal ∈ signals, ∀ filters,
      signal.filtersFor client channel = some filters →
        hub'.isOpen client = true ∧ filters = hub'.peerFilters client channel := by
    intro client channel signal hmem filters hfilters
    rcases htells.asIs signal hmem client channel (by rw [hfilters]; exact Option.some_ne_none _)
      with ⟨peer, ch, hopen, rfl⟩
    rw [CHub.requestPeerSubscriptionsOn, HubSignal.filtersFor] at hfilters
    split_ifs at hfilters with heq
    rcases heq with ⟨rfl, rfl⟩
    exact ⟨hopen, (Option.some.inj hfilters).symm⟩
  -- A client that is told nothing about a channel sees no change there.
  have hunchanged : ∀ client channel,
      (∀ signal ∈ signals, signal.filtersFor client channel = none) → hub.isOpen client = true →
        hub'.isOpen client = true →
          hub'.peerFilters client channel = hub.peerFilters client channel := by
    intro client channel hnone hopen hopen'
    by_contra hchanged
    have hmem := htells.ofChanges client channel hopen hopen' hchanged
    have hfilters := hnone _ hmem
    rw [CHub.requestPeerSubscriptionsOn, HubSignal.filtersFor, if_pos ⟨rfl, rfl⟩] at hfilters
    cases hfilters
  have hreceived : ∀ client channel,
      (∀ signal ∈ signals, signal.filtersFor client channel = none) ∨
        ∀ last, lastFilters client channel signals last
          = some (hub'.peerFilters client channel) ∧ hub'.isOpen client = true := by
    intro client channel
    by_cases hnone : ∀ signal ∈ signals, signal.filtersFor client channel = none
    · exact .inl hnone
    · right
      push Not at hnone
      rcases hnone with ⟨signal, hmem, hsome⟩
      rcases Option.ne_none_iff_exists'.mp hsome with ⟨filters, hfilters⟩
      exact fun last => ⟨lastFilters_of_same (fun signal hmem filters hfilters =>
        (htold client channel signal hmem filters hfilters).2) last (.inr ⟨signal, hmem, hsome⟩),
        (htold client channel signal hmem filters hfilters).1⟩
  constructor
  case sessions =>
    intro client
    rw [session_concat]
    exact hsessions client
  case asIs =>
    intro client channel filters hfilters
    rw [received_concat] at hfilters
    rcases hreceived client channel with hnone | hall
    · rw [lastFilters_of_none hnone] at hfilters
      split_ifs at hfilters with hcloses
      rcases h.asIs client channel filters hfilters with ⟨hopen, heq⟩
      have hopen' : hub'.isOpen client = true :=
        (hsessions client).mp (sessionAfter_ne_none hcloses ((h.sessions client).mpr hopen))
      exact ⟨hopen', by rw [hunchanged client channel hnone hopen hopen', heq]⟩
    · rcases hall (if action.closes client then none else received client channel trace)
        with ⟨heq, hopen'⟩
      rw [heq] at hfilters
      exact ⟨hopen', (Option.some.inj hfilters).symm⟩
  case untold =>
    intro client channel hsession hfilters
    rw [session_concat] at hsession
    rw [received_concat] at hfilters
    have hopen' : hub'.isOpen client = true :=
      (hsessions client).mp (by rw [hsession]; exact Option.some_ne_none _)
    rcases hreceived client channel with hnone | hall
    · rw [lastFilters_of_none hnone] at hfilters
      rcases sessionAfter_true hsession with ⟨htrue, hcloses⟩ | ⟨rfl, hopen⟩
      · rw [hcloses] at hfilters
        have hopen : hub.isOpen client = true :=
          (h.sessions client).mp (by rw [htrue]; exact Option.some_ne_none _)
        rw [hunchanged client channel hnone hopen hopen']
        exact h.untold client channel htrue hfilters
      · -- What it is not told on request, its peers do not subscribe to.
        rcases Prod.mk.inj hstep with ⟨rfl, rfl⟩
        by_contra hne
        have hmem := CHub.requestPeerSubscriptions_complete (V := V) hopen' hne
        have hfiltersFor := hnone _ hmem
        rw [CHub.requestPeerSubscriptionsOn, HubSignal.filtersFor, if_pos ⟨rfl, rfl⟩]
          at hfiltersFor
        cases hfiltersFor
    · rw [(hall _).1] at hfilters
      cases hfilters
  case kept =>
    intro client channel filters hfilters
    rw [received_concat] at hfilters
    rw [stored_concat]
    rcases hreceived client channel with hnone | hall
    · rw [lastFilters_of_none hnone] at hfilters ⊢
      split_ifs at hfilters
      exact h.kept client channel filters hfilters
    · rw [(hall _).1] at hfilters ⊢
      exact hfilters

theorem agrees_run (matchesFilter : F → V → Bool) (actions : List (HubAction Id F V)) :
    Agrees ((sharedStateHub matchesFilter).trace {} actions)
      ((sharedStateHub matchesFilter).run {} actions).1 := by
  refine (sharedStateHub matchesFilter).run_trace_of (fun _ _ => True)
    (fun trace hub => Agrees trace hub) {} ?_
    (fun trace hub action _ h => agrees_step matchesFilter h action) actions
    (Machine.allSteps_true _ _ _)
  exact ⟨fun _ => by simp [session, CHub.isOpen, OrderedMap.contains],
    fun _ _ _ h => absurd h (by simp [received]), fun _ _ h => absurd h (by simp [session]),
    fun _ _ _ h => absurd h (by simp [received])⟩

/-- A client that knows its peers lets pass what they subscribe to. -/
theorem knowsPeers_of_agrees (matchesFilter : F → V → Bool)
    {trace : List (HubAction Id F V × List (HubSignal Id F V))} {hub : CHub Id F}
    (h : Agrees trace hub) : KnowsPeers matchesFilter trace hub := by
  -- Without a signal the client knows nothing, and then there is nothing to know.
  have htold : ∀ client, session client trace = some true → ∀ channel,
      (received client channel trace).getD [] = hub.peerFilters client channel := by
    intro client hsession channel
    cases hreceived : received client channel trace with
    | none => exact (h.untold client channel hsession hreceived).symm
    | some filters => exact (h.asIs client channel filters hreceived).2
  refine ⟨h.sessions, htold, fun client hsession channel param hpeer => ?_⟩
  rcases hpeer with ⟨peer, hne, hmatch⟩
  rcases List.any_eq_true.mp hmatch with ⟨filter, hfilter, hmatches⟩
  -- The filter of the peer is one of those that were told.
  have hmem : filter ∈ hub.peerFilters client channel := by
    rw [CHub.subscription] at hfilter
    cases hlookup : hub.clients.lookup peer with
    | none =>
        rw [hlookup] at hfilter
        cases hfilter
    | some duplex =>
        rw [hlookup] at hfilter
        exact OrderedMap.mem_collect.mpr ⟨peer, duplex, hlookup, by rw [if_neg hne]; exact hfilter⟩
  rw [← htold client hsession channel] at hmem
  cases hreceived : received client channel trace with
  | none =>
      rw [hreceived] at hmem
      cases hmem
  | some filters =>
      rw [hreceived] at hmem
      rw [h.kept client channel filters hreceived]
      exact List.any_eq_true.mpr ⟨filter, hmem, hmatches⟩

/-- Only posted events are emitted as such. -/
theorem routesEvents (matchesFilter : F → V → Bool) (hub : CHub Id F) :
    RoutesEvents matchesFilter hub := by
  refine ⟨fun client channel param hopen => CHub.postEvent_eq matchesFilter hopen channel param,
    fun action peer channel param hmem => ?_⟩
  -- What is told by the other actions are subscriptions.
  have hother : ∀ (hub' : CHub Id F) (signal : HubSignal Id F V), hub'.Told signal →
      signal ≠ .eventPosted peer channel param := by
    rintro hub' signal ⟨p, ch, -, rfl⟩ heq
    cases heq
  cases action with
  | postEvent client ch v =>
      change _ ∈ hub.postEvent matchesFilter client ch v at hmem
      by_cases hopen : hub.isOpen client = true
      · rcases CHub.postEvent_eq matchesFilter hopen ch v with ⟨peers, -, heq, -⟩
        rw [heq] at hmem
        rcases List.mem_map.mp hmem with ⟨peer', -, h⟩
        rcases HubSignal.eventPosted.inj h with ⟨-, rfl, rfl⟩
        exact ⟨client, rfl, hopen⟩
      · rw [CHub.postEvent, if_neg hopen] at hmem
        cases hmem
  | openDuplex c => cases hmem
  | closeDuplex c =>
      rcases CHub.mem_closeDuplex.mp hmem with ⟨duplex, -, ch, -, h⟩
      exact absurd rfl (hother _ _ (CHub.told_of_mem_announce h))
  | setSubscription c ch filters =>
      change _ ∈ (hub.setSubscription c ch filters).2 at hmem
      unfold CHub.setSubscription at hmem
      by_cases hc : hub.isOpen c = true
      · rw [if_pos hc] at hmem
        exact absurd rfl (hother _ _ (CHub.told_of_mem_announce hmem))
      · rw [if_neg hc] at hmem
        cases hmem
  | requestPeerSubscriptions c =>
      exact absurd rfl (hother _ _ (CHub.mem_requestPeerSubscriptions hmem))
  | submitRequest c ch v token =>
      change _ ∈ (hub.submitRequest c ch v token).2 at hmem
      unfold CHub.submitRequest at hmem
      split at hmem
      · exact nomatch hmem
      · cases hmem
  | reply c v token =>
      change _ ∈ (hub.reply c v token).2 at hmem
      unfold CHub.reply at hmem
      split at hmem
      · cases hmem
      · exact absurd hmem (by split_ifs <;> simp)
  | advertise c ch => cases hmem
  | withdraw c ch => cases hmem

/-- Over every run, the hub passes events on to who subscribes to them, and tells its
    clients what their peers subscribe to. -/
theorem hub_routes_events (matchesFilter : F → V → Bool) (actions : List (HubAction Id F V)) :
    RoutesEvents matchesFilter ((sharedStateHub matchesFilter).run {} actions).1 ∧
      KnowsPeers matchesFilter ((sharedStateHub matchesFilter).trace {} actions)
        ((sharedStateHub matchesFilter).run {} actions).1 :=
  ⟨routesEvents matchesFilter _,
    knowsPeers_of_agrees matchesFilter (agrees_run matchesFilter actions)⟩

/-- A client that was closed while its peer withdrew a subscription, and that requests the
    subscriptions again when it is back. -/
def withdrawnWhileClosed : List (HubAction ℕ ℕ ℕ) :=
  [.openDuplex 1, .openDuplex 2, .requestPeerSubscriptions 1,
    .setSubscription 2 "c" [7], .closeDuplex 1, .setSubscription 2 "c" [],
    .openDuplex 1, .requestPeerSubscriptions 1]

/-- The request is not answered with channels that nobody subscribes to, so what its data
    link keeps for such a channel is from before it was closed. -/
theorem stored_outdated :
    let hub : Machine (CHub ℕ ℕ) (HubAction ℕ ℕ ℕ) (HubSignal ℕ ℕ ℕ) :=
      sharedStateHub (fun f v => f == v)
    let trace := hub.trace {} withdrawnWhileClosed
    session 1 trace = some true ∧ stored 1 "c" trace = some [7] ∧
      received 1 "c" trace = none ∧
      (hub.run {} withdrawnWhileClosed).1.peerFilters 1 "c" = [] := by
  decide

end Hub

end SharedState

end NeoSwift.Misc
