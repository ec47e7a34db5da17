import NeoSwift.Misc.SharedState.Hub

/-!
# The Data Link of a Client

`CDataLinkDBus`: what one client knows about its channels, and what it tells the hub.
The data link has a duplex as long as it is connected. It subscribes to events on
behalf of its observers, suppresses events no peer subscribes to, and answers the
requests its active mutators can handle.

The subscription of an observer is the observer's own, so the functions look it up.
Whoever waits for a reply is kept under the token of the request. Whether a mutator or
an observer is still there, the data link knows.

## Main definitions

* `Channel`, `CDuplexProxy`, `CDataLinkDBus`: The state.
* `onConnected`, `onReady`, `onDisconnected`: The link comes up and goes down.
* `handleLocalEvent`, `handlePeerEvent`: Events.
* `handleLocalRequest`, `handlePeerRequest`, `replyReceived`: Requests.
* `publish`, `mutatorDestroyed`, `subscribe`: Mutators and observers.

## Theorems

* `channel_withChannel`: What is known about a channel afterwards.
-/

namespace NeoSwift.Misc

namespace SharedState

/-- `CDataLinkDBus::Channel`. -/
structure Channel (M O F : Type) where
  activeMutator : Option M := none
  passiveObservers : List O := []
  peerSubscriptions : List F := []

/-- The duplex of a data link. It is ready when the hub has answered the call that opens
    it. -/
structure CDuplexProxy (R : Type) where
  call : ℕ
  ready : Bool := false
  token : ℕ := 0
  submittedRequests : OrderedMap ℕ R := ∅

/-- `CDataLinkDBus`. -/
structure CDataLinkDBus (M O R F : Type) where
  duplex : Option (CDuplexProxy R) := none
  calls : ℕ := 0
  channels : OrderedMap QString (Channel M O F) := ∅

namespace CDataLinkDBus

variable {Id M O R F V : Type} (link : CDataLinkDBus M O R F)

def channel (name : QString) : Channel M O F := (link.channels.lookup name).getD {}

/-- `getChannel` creates the channel if it is not there. -/
def withChannel (name : QString) (f : Channel M O F → Channel M O F) : CDataLinkDBus M O R F :=
  { link with channels := link.channels.insert name (f (link.channel name)) }

def announceLocalSubscriptionsOn (subscription : O → F) (client : Id) (name : QString) :
    HubAction Id F V :=
  .setSubscription client name ((link.channel name).passiveObservers.map subscription)

/-- The subscriptions of the observers, a message for each channel. -/
def announceLocalSubscriptions (subscription : O → F) (client : Id) : List (HubAction Id F V) :=
  link.channels.keys.map (link.announceLocalSubscriptionsOn subscription client)

/-- Calls the hub to open a duplex, unless there is one. -/
def onConnected (client : Id) : CDataLinkDBus M O R F × List (HubAction Id F V) :=
  match link.duplex with
  | some _ => (link, [])
  | none =>
    ({ link with duplex := some { call := link.calls }, calls := link.calls + 1 },
      [.openDuplex client])

/-- The hub has opened the duplex. -/
def onReady (subscription : O → F) (client : Id) (call : ℕ) :
    CDataLinkDBus M O R F × List (HubAction Id F V) :=
  match link.duplex with
  | none => (link, [])
  | some duplex =>
    if duplex.call = call then
      ({ link with duplex := some { duplex with ready := true } },
        .requestPeerSubscriptions client :: link.announceLocalSubscriptions subscription client)
    else (link, [])

/-- The duplex closes itself when it is destroyed. -/
def onDisconnected (client : Id) : CDataLinkDBus M O R F × List (HubAction Id F V) :=
  match link.duplex with
  | none => (link, [])
  | some _ => ({ link with duplex := none }, [.closeDuplex client])

/-- The observers that handle the event. -/
def handlePeerEvent (matchesFilter : F → V → Bool) (subscription : O → F) (name : QString)
    (param : V) : CDataLinkDBus M O R F × List O :=
  (link.withChannel name id,
    (link.channel name).passiveObservers.filter (fun o => matchesFilter (subscription o) param))

/-- An event of the client's own is posted if a peer has subscribed to it. -/
def handleLocalEvent (matchesFilter : F → V → Bool) (subscription : O → F) (client : Id)
    (name : QString) (param : V) : CDataLinkDBus M O R F × List O × List (HubAction Id F V) :=
  let handled := link.handlePeerEvent matchesFilter subscription name param
  (handled.1, handled.2,
    if link.duplex.isSome ∧
        (link.channel name).peerSubscriptions.any (fun f => matchesFilter f param) then
      [.postEvent client name param]
    else [])

/-- What the peers have subscribed to. -/
def setPeerSubscriptions (name : QString) (filters : List F) : CDataLinkDBus M O R F :=
  link.withChannel name (fun ch => { ch with peerSubscriptions := filters })

/-- The request is for the client's own mutator, or it is submitted. -/
def handleLocalRequest (client : Id) (requester : R) (name : QString) (param : V) :
    CDataLinkDBus M O R F × Option M × List (HubAction Id F V) :=
  let got := link.withChannel name id
  match (link.channel name).activeMutator, link.duplex with
  | some mutator, _ => (got, some mutator, [])
  | none, none => (got, none, [])
  | none, some duplex =>
    ({ got with duplex := some { duplex with
        token := duplex.token + 1
        submittedRequests := duplex.submittedRequests.insert duplex.token requester } },
      none, [.submitRequest client name param duplex.token])

/-- The mutator that handles the request. -/
def handlePeerRequest (name : QString) : CDataLinkDBus M O R F × Option M :=
  (link.withChannel name id, (link.channel name).activeMutator)

/-- The requester whose promise the reply fulfils. -/
def replyReceived (token : ℕ) : CDataLinkDBus M O R F × Option R :=
  match link.duplex with
  | none => (link, none)
  | some duplex =>
    ({ link with duplex := some { duplex with
        submittedRequests := duplex.submittedRequests.erase token } },
      duplex.submittedRequests.lookup token)

/-- Publishing a second active mutator on a channel is asserted not to happen. -/
def publish (client : Id) (name : QString) (mutator : M) :
    CDataLinkDBus M O R F × List (HubAction Id F V) :=
  if (link.channel name).activeMutator.isSome then (link, [])
  else
    (link.withChannel name (fun ch => { ch with activeMutator := some mutator }),
      if link.duplex.isSome then [.advertise client name] else [])

/-- The channel has no mutator any more, and the hub is told. -/
def mutatorDestroyed (client : Id) (name : QString) :
    CDataLinkDBus M O R F × List (HubAction Id F V) :=
  if (link.channel name).activeMutator.isSome then
    (link.withChannel name (fun ch => { ch with activeMutator := none }),
      if link.duplex.isSome then [.withdraw client name] else [])
  else (link, [])

/-- Also done when the subscription of an observer changes. -/
def announce (subscription : O → F) (client : Id) (name : QString) : List (HubAction Id F V) :=
  if link.duplex.isSome then [link.announceLocalSubscriptionsOn subscription client name] else []

/-- The observer is on the channel, and its subscription announced. -/
def subscribe (subscription : O → F) (client : Id) (name : QString) (observer : O) :
    CDataLinkDBus M O R F × List (HubAction Id F V) :=
  let subscribed := link.withChannel name (fun ch =>
    { ch with passiveObservers := ch.passiveObservers ++ [observer] })
  (subscribed, subscribed.announce subscription client name)

/-! ## Channels -/

/-- What is known about a channel afterwards. -/
theorem channel_withChannel (name name' : QString) (f : Channel M O F → Channel M O F) :
    (link.withChannel name f).channel name'
      = if name' = name then f (link.channel name) else link.channel name' := by
  unfold withChannel channel
  rw [OrderedMap.lookup_insert]
  split_ifs <;> rfl

theorem channel_withChannel_id (name name' : QString) :
    (link.withChannel name id).channel name' = link.channel name' := by
  rw [channel_withChannel]
  split_ifs with h
  · rw [h, id]
  · rfl

@[simp] theorem duplex_withChannel (name : QString) (f : Channel M O F → Channel M O F) :
    (link.withChannel name f).duplex = link.duplex := rfl

theorem isSome_duplex_replyReceived (token : ℕ) :
    (link.replyReceived token).1.duplex.isSome = link.duplex.isSome := by
  unfold replyReceived
  cases hduplex : link.duplex with
  | none => exact congrArg Option.isSome hduplex
  | some duplex => rfl

theorem channel_replyReceived (token : ℕ) (name : QString) :
    (link.replyReceived token).1.channel name = link.channel name := by
  unfold replyReceived
  cases link.duplex <;> rfl

end CDataLinkDBus

end SharedState

end NeoSwift.Misc
