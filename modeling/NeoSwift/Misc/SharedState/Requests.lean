import NeoSwift.Misc.SharedState.DataLink

/-!
# Requests to Active Mutators

A hub and the data links of all its clients, where every message is delivered before the
next step. A client's request for a channel that another client's active mutator handles
goes through both data links and the hub, and so does the reply.

The hub finds the handler of a channel by what its client advertised, and a data link
advertises a mutator when it is published, provided it has a duplex by then. It does not
do so again when it gets a new one.

## Main definitions

* `SharedStateClients`: The hub and the data links.
* `exchange`: What the hub and the data links make of messages to the hub.
* `sharedStateClients`: The steps of the clients.
* `Publication`: What a client did with a mutator, as its steps tell.
* `SoleMutator`: One other connected client has a mutator on the channel.

## Theorems

* `neutral_run`: Most messages change no channel a client handles.
* `sharedStateClients_step`: What is left of a step when all messages are delivered.
* `follows_run`: The hub and the data links are as the steps tell.
* `exchange_submitRequest`: A request the hub passes on comes back with an answer.
* `request_reaches_iff`: A request reaches the mutator, if it was published since its
  client was linked last.
-/

namespace NeoSwift.Misc

namespace SharedState

/-- What happens at a client: its mutator handles a request, its requester gets a reply. -/
inductive ClientEffect (Id M V : Type) where
  | handled (client : Id) (mutator : M) (channel : QString) (param : V)
  | answered (client : Id) (channel : QString) (param : V)
  deriving DecidableEq

/-- What a client does. -/
inductive ClientStep (Id M V : Type) where
  | publish (client : Id) (channel : QString) (mutator : M)
  | destroyMutator (client : Id) (channel : QString)
  | linkUp (client : Id)
  | linkDown (client : Id)
  | submitRequest (client : Id) (channel : QString) (param : V)

/-- A hub and the data links of its clients. -/
structure SharedStateClients (Id M O F : Type) [LinearOrder Id] where
  hub : CHub Id F := {}
  links : Id → CDataLinkDBus M O Unit F := fun _ => {}

section Requests

variable {Id M O F V : Type} [LinearOrder Id]

/-- The data link of one client changes. -/
def setLink (links : Id → CDataLinkDBus M O Unit F) (client : Id)
    (link : CDataLinkDBus M O Unit F) : Id → CDataLinkDBus M O Unit F :=
  fun c => if c = client then link else links c

/-- The data links receive the signals of the hub. A mutator answers at once. -/
def dataLinks (matchesFilter : F → V → Bool) (subscription : O → F) (answer : M → V → V) :
    Machine (Id → CDataLinkDBus M O Unit F) (HubSignal Id F V)
      (ClientEffect Id M V ⊕ HubAction Id F V) where
  step links signal :=
    match signal with
    | .eventPosted client channel param =>
      (setLink links client
        ((links client).handlePeerEvent matchesFilter subscription channel param).1, [])
    | .peerSubscriptionsReceived client channel filters =>
      (setLink links client ((links client).setPeerSubscriptions channel filters), [])
    | .requestReceived client channel param token =>
      let handling := (links client).handlePeerRequest channel
      (setLink links client handling.1,
        match handling.2 with
        | some mutator =>
          [.inl (.handled client mutator channel param),
            .inr (.reply client (answer mutator param) token)]
        | none => [])
    | .replyReceived client channel param token =>
      let received := (links client).replyReceived token
      (setLink links client received.1,
        match received.2 with
        | some _ => [.inl (.answered client channel param)]
        | none => [])

/-- The hub behind which the data links are. -/
def exchange (matchesFilter : F → V → Bool) (subscription : O → F) (answer : M → V → V) :
    Machine (CHub Id F × (Id → CDataLinkDBus M O Unit F)) (HubAction Id F V)
      (ClientEffect Id M V ⊕ HubAction Id F V) :=
  (sharedStateHub matchesFilter).cascade (dataLinks matchesFilter subscription answer)

/-- What a client itself does in a step. -/
def clientStep (subscription : O → F) (answer : M → V → V)
    (links : Id → CDataLinkDBus M O Unit F) (step : ClientStep Id M V) :
    (Id → CDataLinkDBus M O Unit F) × List (ClientEffect Id M V) × List (HubAction Id F V) :=
  match step with
  | .publish client channel mutator =>
    let published := (links client).publish client channel mutator
    (setLink links client published.1, [], published.2)
  | .destroyMutator client channel =>
    let destroyed := (links client).mutatorDestroyed client channel
    (setLink links client destroyed.1, [], destroyed.2)
  | .linkUp client =>
    let opened := (links client).onConnected (V := V) client
    let ready := opened.1.onReady subscription client (links client).calls
    (setLink links client ready.1, [], opened.2 ++ ready.2)
  | .linkDown client =>
    let closed := (links client).onDisconnected client
    (setLink links client closed.1, [], closed.2)
  | .submitRequest client channel param =>
    let submitted := (links client).handleLocalRequest client () channel param
    (setLink links client submitted.1,
      match submitted.2.1 with
      | some mutator =>
        [.handled client mutator channel param, .answered client channel (answer mutator param)]
      | none => [],
      submitted.2.2)

/-- The steps of the clients, each with all the messages that follow: those to the hub,
    and the reply to a request. -/
def sharedStateClients (matchesFilter : F → V → Bool) (subscription : O → F)
    (answer : M → V → V) :
    Machine (SharedStateClients Id M O F) (ClientStep Id M V) (ClientEffect Id M V) where
  step clients step :=
    let did := clientStep subscription answer clients.links step
    let there := (exchange matchesFilter subscription answer).run (clients.hub, did.1) did.2.2
    let back := (exchange matchesFilter subscription answer).run there.1
      (there.2.filterMap Sum.getRight?)
    (⟨back.1.1, back.1.2⟩,
      did.2.1 ++ there.2.filterMap Sum.getLeft? ++ back.2.filterMap Sum.getLeft?)

/-! ## What the clients did -/

/-- Whether a client is linked, the mutator it has on a channel, and whether it published
    that since it was linked last. -/
structure Publication (M : Type) where
  linked : Bool := false
  mutator : Option M := none
  advertised : Bool := false

def publicationAfter (client : Id) (channel : QString) (publication : Publication M) :
    ClientStep Id M V → Publication M
  | .publish c ch mutator =>
    if c = client ∧ ch = channel ∧ publication.mutator.isNone then
      { publication with mutator := some mutator, advertised := publication.linked }
    else publication
  | .destroyMutator c ch =>
    if c = client ∧ ch = channel then { publication with mutator := none, advertised := false }
    else publication
  | .linkUp c => if c = client then { publication with linked := true } else publication
  | .linkDown c =>
    if c = client then { publication with linked := false, advertised := false } else publication
  | .submitRequest _ _ _ => publication

def publication (steps : List (ClientStep Id M V)) (client : Id) (channel : QString) :
    Publication M :=
  steps.foldl (publicationAfter client channel) {}

/-- Of all the clients other than the requester, one is linked and has a mutator on the
    channel. -/
structure SoleMutator (steps : List (ClientStep Id M V)) (requester handler : Id)
    (channel : QString) (mutator : M) : Prop where
  other : handler ≠ requester
  linked : (publication steps handler channel).linked = true
  has : (publication steps handler channel).mutator = some mutator
  sole : ∀ client, client ≠ requester → (publication steps client channel).linked = true →
    (publication steps client channel).mutator ≠ none → client = handler

/-! ## The channels a client handles -/

/-- The client has advertised the channel to the hub. -/
def CHub.handles (hub : CHub Id F) (client : Id) (channel : QString) : Bool :=
  (hub.clients.lookup client).any (fun duplex => decide (channel ∈ duplex.handlingChannels))

namespace CHub

variable {hub : CHub Id F} {client : Id} {channel : QString}

theorem handles_withDuplex (c : Id) (f : CDuplex Id F → CDuplex Id F) :
    (hub.withDuplex c f).handles client channel
      = if client = c then
          (hub.clients.lookup c).any (fun duplex => decide (channel ∈ (f duplex).handlingChannels))
        else hub.handles client channel := by
  unfold withDuplex handles
  cases hlookup : hub.clients.lookup c with
  | none =>
      split_ifs with hc
      · rw [hc, hlookup]
        rfl
      · rfl
  | some duplex =>
      rw [OrderedMap.lookup_insert]
      split_ifs <;> rfl

/-- What is done with the rest of a duplex does not matter. -/
theorem handles_withDuplex_same (c : Id) (f : CDuplex Id F → CDuplex Id F)
    (hf : ∀ duplex, (f duplex).handlingChannels = duplex.handlingChannels) :
    (hub.withDuplex c f).handles client channel = hub.handles client channel := by
  rw [handles_withDuplex]
  split_ifs with hc
  · rw [hc, handles]
    simp [hf]
  · rfl

theorem handles_openDuplex (c : Id) :
    (hub.openDuplex c).handles client channel = hub.handles client channel := by
  unfold openDuplex
  split_ifs with hopen
  · rfl
  · unfold handles
    rw [OrderedMap.lookup_insert]
    split_ifs with hc
    · have hnone : hub.clients.lookup client = none := by
        rw [isOpen, OrderedMap.contains, Bool.not_eq_true, Option.isSome_eq_false_iff,
          Option.isNone_iff_eq_none, ← hc] at hopen
        exact hopen
      rw [hnone]
      rfl
    · rfl

theorem handles_closeDuplex (c : Id) :
    (hub.closeDuplex (V := V) c).1.handles client channel
      = if client = c then false else hub.handles client channel := by
  unfold closeDuplex
  cases hlookup : hub.clients.lookup c with
  | none =>
      split_ifs with hc
      · rw [handles, hc, hlookup]
        rfl
      · rfl
  | some duplex =>
      unfold handles
      rw [OrderedMap.lookup_erase]
      split_ifs <;> rfl

theorem handles_advertise (c : Id) (ch : QString) :
    (hub.advertise c ch).handles client channel
      = if c = client ∧ ch = channel then hub.isOpen c else hub.handles client channel := by
  rw [advertise, handles_withDuplex]
  by_cases hc : client = c
  · rw [if_pos hc, hc]
    by_cases hch : channel = ch
    · rw [hch, isOpen, OrderedMap.contains]
      cases hub.clients.lookup c <;> simp
    · rw [if_neg (fun h => hch h.2.symm), handles]
      cases hub.clients.lookup c <;> simp [hch]
  · rw [if_neg hc, if_neg (fun h => hc h.1.symm)]

theorem handles_withdraw (c : Id) (ch : QString) :
    (hub.withdraw c ch).handles client channel
      = if c = client ∧ ch = channel then false else hub.handles client channel := by
  rw [withdraw, handles_withDuplex]
  by_cases hc : client = c
  · rw [if_pos hc, hc]
    by_cases hch : channel = ch
    · rw [hch]
      cases hub.clients.lookup c <;> simp
    · rw [if_neg (fun h => hch h.2.symm), handles]
      cases hub.clients.lookup c <;> simp [hch]
  · rw [if_neg hc, if_neg (fun h => hc h.1.symm)]

theorem handles_of_not_isOpen (h : hub.isOpen client = false) :
    hub.handles client channel = false := by
  rw [isOpen, OrderedMap.contains, Option.isSome_eq_false_iff, Option.isNone_iff_eq_none] at h
  rw [handles, h]
  rfl

end CHub

/-- The action opens and closes no duplex and changes no channel a client handles. -/
def HubAction.neutral : HubAction Id F V → Bool
  | .openDuplex _ | .closeDuplex _ | .advertise _ _ | .withdraw _ _ => false
  | _ => true

theorem neutral_step (matchesFilter : F → V → Bool) (hub : CHub Id F) {action : HubAction Id F V}
    (h : action.neutral = true) (client : Id) (channel : QString) :
    ((sharedStateHub matchesFilter).step hub action).1.isOpen client = hub.isOpen client ∧
      ((sharedStateHub matchesFilter).step hub action).1.handles client channel
        = hub.handles client channel := by
  -- An action that is neutral opens and closes nothing.
  have hclose : action.closes client = false := by
    cases action with
    | closeDuplex c => cases h
    | _ => rfl
  refine ⟨isOpen_step matchesFilter hub action client (fun c => .inl ?_) hclose, ?_⟩
  · rintro rfl
    cases h
  · -- The actions that change a duplex leave what it handles as it is.
    cases action with
    | postEvent c ch param => rfl
    | requestPeerSubscriptions c => rfl
    | setSubscription c ch filters =>
        change (hub.setSubscription c ch filters).1.handles client channel = _
        unfold CHub.setSubscription
        by_cases hc : hub.isOpen c = true
        · rw [if_pos hc]
          exact CHub.handles_withDuplex_same _ _ (fun _ => rfl)
        · rw [if_neg hc]
    | submitRequest c ch param token =>
        change (hub.submitRequest c ch param token).1.handles client channel = _
        unfold CHub.submitRequest
        split
        · exact CHub.handles_withDuplex_same _ _ (fun _ => rfl)
        · rfl
    | reply c param token =>
        change (hub.reply c param token).1.handles client channel = _
        unfold CHub.reply
        split
        · rfl
        · exact CHub.handles_withDuplex_same _ _ (fun _ => rfl)
    | _ => cases h

theorem neutral_run (matchesFilter : F → V → Bool) (hub : CHub Id F)
    {actions : List (HubAction Id F V)} (h : ∀ action ∈ actions, action.neutral = true)
    (client : Id) (channel : QString) :
    ((sharedStateHub matchesFilter).run hub actions).1.isOpen client = hub.isOpen client ∧
      ((sharedStateHub matchesFilter).run hub actions).1.handles client channel
        = hub.handles client channel := by
  induction actions generalizing hub with
  | nil => exact ⟨rfl, rfl⟩
  | cons action actions ih =>
      rcases neutral_step matchesFilter hub (h action List.mem_cons_self) client channel
        with ⟨hopen, hhandles⟩
      rcases ih ((sharedStateHub matchesFilter).step hub action).1
        (fun a ha => h a (List.mem_cons_of_mem _ ha)) with ⟨hopen', hhandles'⟩
      exact ⟨hopen'.trans hopen, hhandles'.trans hhandles⟩

/-! ## What the data links make of signals -/

/-- The data links have duplexes and mutators as before. -/
structure KeepsLinks (links links' : Id → CDataLinkDBus M O Unit F) : Prop where
  duplex : ∀ client, (links' client).duplex.isSome = (links client).duplex.isSome
  mutator : ∀ client channel,
    ((links' client).channel channel).activeMutator = ((links client).channel channel).activeMutator

theorem keepsLinks_setLink (links : Id → CDataLinkDBus M O Unit F) (client : Id)
    {link : CDataLinkDBus M O Unit F}
    (hduplex : link.duplex.isSome = (links client).duplex.isSome) (hmutator : ∀ channel,
      (link.channel channel).activeMutator = ((links client).channel channel).activeMutator) :
    KeepsLinks links (setLink links client link) := by
  constructor
  · intro c
    unfold setLink
    split_ifs with hc
    · rw [hc, hduplex]
    · rfl
  · intro c channel
    unfold setLink
    split_ifs with hc
    · rw [hc, hmutator]
    · rfl

omit [LinearOrder Id] in
theorem KeepsLinks.trans {links links' links'' : Id → CDataLinkDBus M O Unit F}
    (h : KeepsLinks links links') (h' : KeepsLinks links' links'') : KeepsLinks links links'' where
  duplex client := (h'.duplex client).trans (h.duplex client)
  mutator client channel := (h'.mutator client channel).trans (h.mutator client channel)

variable (matchesFilter : F → V → Bool) (subscription : O → F) (answer : M → V → V)

/-- The data links answer nothing but requests. -/
theorem dataLinks_step (links : Id → CDataLinkDBus M O Unit F) (signal : HubSignal Id F V) :
    KeepsLinks links ((dataLinks matchesFilter subscription answer).step links signal).1 ∧
      ∀ action, .inr action ∈ ((dataLinks matchesFilter subscription answer).step links signal).2 →
        action.neutral = true := by
  -- Only a request is answered, and by one reply.
  cases signal with
  | eventPosted client channel param =>
      refine ⟨keepsLinks_setLink links client rfl (fun ch => ?_),
        fun a h => absurd h (by simp [dataLinks])⟩
      rw [CDataLinkDBus.handlePeerEvent, CDataLinkDBus.channel_withChannel_id]
  | peerSubscriptionsReceived client channel filters =>
      refine ⟨keepsLinks_setLink links client rfl (fun ch => ?_),
        fun a h => absurd h (by simp [dataLinks])⟩
      rw [CDataLinkDBus.setPeerSubscriptions, CDataLinkDBus.channel_withChannel]
      split_ifs with hch
      · rw [hch]
      · rfl
  | requestReceived client channel param token =>
      refine ⟨keepsLinks_setLink links client rfl (fun ch => ?_), fun a h => ?_⟩
      · rw [CDataLinkDBus.handlePeerRequest, CDataLinkDBus.channel_withChannel_id]
      · simp only [dataLinks] at h
        cases hmutator : ((links client).handlePeerRequest channel).2 with
        | none =>
            rw [hmutator] at h
            exact nomatch h
        | some mutator =>
            rw [hmutator] at h
            have ha : a = .reply client (answer mutator param) token := by simpa using h
            rw [ha]
            rfl
  | replyReceived client channel param token =>
      refine ⟨keepsLinks_setLink links client ((links client).isSome_duplex_replyReceived token)
        (fun ch => by rw [CDataLinkDBus.channel_replyReceived]), fun a h => ?_⟩
      · simp only [dataLinks] at h
        cases hreceived : ((links client).replyReceived token).2 with
        | none =>
            rw [hreceived] at h
            exact nomatch h
        | some _ =>
            rw [hreceived] at h
            exact nomatch h

theorem dataLinks_run (links : Id → CDataLinkDBus M O Unit F) (signals : List (HubSignal Id F V)) :
    KeepsLinks links ((dataLinks matchesFilter subscription answer).run links signals).1 ∧
      ∀ action ∈ ((dataLinks matchesFilter subscription answer).run links signals).2.filterMap
        Sum.getRight?, action.neutral = true := by
  have hrun := (dataLinks matchesFilter subscription answer).run_invariant
    (fun links' out => KeepsLinks links links' ∧
      ∀ action, Sum.inr action ∈ out → action.neutral = true)
    (fun links' out signal h => by
      rcases dataLinks_step matchesFilter subscription answer links' signal with ⟨hkeeps, hneutral⟩
      refine ⟨h.1.trans hkeeps, fun action hmem => ?_⟩
      rcases List.mem_append.mp hmem with hout | hnew
      · exact h.2 action hout
      · exact hneutral action hnew)
    signals links [] ⟨⟨fun _ => rfl, fun _ _ => rfl⟩, nofun⟩
  refine ⟨hrun.1, fun action hmem => ?_⟩
  rcases List.mem_filterMap.mp hmem with ⟨x, hx, hright⟩
  rcases x with effect | action'
  · cases hright
  · rw [← Option.some.inj hright]
    exact hrun.2 action' hx

/-- After a step the data links are as the client left its own, and the hub is as its
    messages left it. -/
theorem sharedStateClients_step (clients : SharedStateClients Id M O F) (step : ClientStep Id M V) :
    KeepsLinks (clientStep subscription answer clients.links step).1
        ((sharedStateClients matchesFilter subscription answer).step clients step).1.links ∧
      ∀ client channel,
        ((sharedStateClients matchesFilter subscription answer).step clients step).1.hub.isOpen
            client
          = ((sharedStateHub matchesFilter).run clients.hub
              (clientStep subscription answer clients.links step).2.2).1.isOpen client ∧
        ((sharedStateClients matchesFilter subscription answer).step clients step).1.hub.handles
            client channel
          = ((sharedStateHub matchesFilter).run clients.hub
              (clientStep subscription answer clients.links step).2.2).1.handles
                client channel := by
  simp only [sharedStateClients, exchange, Machine.cascade_run]
  have hthere := dataLinks_run matchesFilter subscription answer
    (clientStep subscription answer clients.links step).1
    ((sharedStateHub matchesFilter).run clients.hub
      (clientStep subscription answer clients.links step).2.2).2
  refine ⟨hthere.1.trans (dataLinks_run matchesFilter subscription answer _ _).1,
    fun client channel => ?_⟩
  exact neutral_run matchesFilter _ hthere.2 client channel

/-! ## What the steps of the clients tell -/

/-- What there is of a client's mutator. -/
def SharedStateClients.view (clients : SharedStateClients Id M O F) (client : Id)
    (channel : QString) : Publication M where
  linked := (clients.links client).duplex.isSome
  mutator := ((clients.links client).channel channel).activeMutator
  advertised := clients.hub.handles client channel

/-- The duplexes of the hub are those of the data links. -/
def SharedStateClients.Linked (clients : SharedStateClients Id M O F) : Prop :=
  ∀ client, clients.hub.isOpen client = (clients.links client).duplex.isSome

/-- The state between what a client does itself and the replies. -/
def SharedStateClients.after (clients : SharedStateClients Id M O F) (step : ClientStep Id M V) :
    SharedStateClients Id M O F where
  hub := ((sharedStateHub matchesFilter).run clients.hub
    (clientStep subscription answer clients.links step).2.2).1
  links := (clientStep subscription answer clients.links step).1

theorem setLink_same (links : Id → CDataLinkDBus M O Unit F) (client : Id)
    (link : CDataLinkDBus M O Unit F) : setLink links client link client = link := if_pos rfl

theorem setLink_other (links : Id → CDataLinkDBus M O Unit F) {client c : Id} (hne : c ≠ client)
    (link : CDataLinkDBus M O Unit F) : setLink links client link c = links c := if_neg hne

theorem setLink_self (links : Id → CDataLinkDBus M O Unit F) (client : Id) :
    setLink links client (links client) = links := by
  funext c
  unfold setLink
  split_ifs with hc
  · rw [hc]
  · rfl

theorem duplex_setLink_withChannel (links : Id → CDataLinkDBus M O Unit F) (client : Id)
    (name : QString) (f : Channel M O F → Channel M O F) (c : Id) :
    (setLink links client ((links client).withChannel name f) c).duplex = (links c).duplex := by
  unfold setLink
  split_ifs with hc
  · rw [hc, CDataLinkDBus.duplex_withChannel]
  · rfl

theorem channel_setLink_withChannel (links : Id → CDataLinkDBus M O Unit F) (client : Id)
    (name : QString) (f : Channel M O F → Channel M O F) (c : Id) (ch : QString) :
    (setLink links client ((links client).withChannel name f) c).channel ch
      = if client = c ∧ name = ch then f ((links client).channel name)
        else (links c).channel ch := by
  unfold setLink
  by_cases hc : c = client
  · rw [if_pos hc, hc, CDataLinkDBus.channel_withChannel]
    by_cases hch : ch = name
    · rw [if_pos hch, if_pos ⟨rfl, hch.symm⟩]
    · rw [if_neg hch, if_neg (fun h => hch h.2.symm)]
  · rw [if_neg hc, if_neg (fun h => hc h.1.symm)]

variable {hub : CHub Id F}

/-- The hub learns of a mutator that is published, if there is a duplex to tell it. -/
theorem handles_run_advertise {client : Id} {linked : Bool}
    (h : hub.isOpen client = linked) (channel : QString) (c : Id) (ch : QString) :
    ((sharedStateHub matchesFilter).run hub
        (if linked = true then [.advertise client channel] else [])).1.handles c ch
      = if client = c ∧ channel = ch then linked else hub.handles c ch := by
  subst h
  by_cases hopen : hub.isOpen client = true
  · rw [if_pos hopen]
    exact CHub.handles_advertise client channel
  · rw [if_neg hopen]
    change hub.handles c ch = _
    split_ifs with heq
    · rw [Bool.not_eq_true] at hopen
      rw [← heq.1, hopen, CHub.handles_of_not_isOpen hopen]
    · rfl

theorem handles_run_withdraw {client : Id} {linked : Bool}
    (h : hub.isOpen client = linked) (channel : QString) (c : Id) (ch : QString) :
    ((sharedStateHub matchesFilter).run hub
        (if linked = true then [.withdraw client channel] else [])).1.handles c ch
      = if client = c ∧ channel = ch then false else hub.handles c ch := by
  subst h
  by_cases hopen : hub.isOpen client = true
  · rw [if_pos hopen]
    exact CHub.handles_withdraw client channel
  · rw [if_neg hopen]
    change hub.handles c ch = _
    split_ifs with heq
    · rw [Bool.not_eq_true] at hopen
      rw [← heq.1, CHub.handles_of_not_isOpen hopen]
    · rfl

theorem isOpen_run_ifLinked (hub : CHub Id F) (linked : Bool) {action : HubAction Id F V}
    (hopen : ∀ c, action ≠ .openDuplex c) (hclose : ∀ c, action.closes c = false) (c : Id) :
    ((sharedStateHub matchesFilter).run hub
      (if linked = true then [action] else [])).1.isOpen c = hub.isOpen c := by
  split_ifs
  · exact isOpen_step matchesFilter hub action c (fun c => .inl (hopen c)) (hclose c)
  · rfl

/-- After what a client did itself, there is of each mutator what the step tells. -/
structure Tracks (clients : SharedStateClients Id M O F) (step : ClientStep Id M V)
    (clients' : SharedStateClients Id M O F) : Prop where
  linked : clients'.Linked
  view : ∀ client channel,
    clients'.view client channel =
      publicationAfter client channel (clients.view client channel) step

variable {clients : SharedStateClients Id M O F}

theorem tracks_publish (h : clients.Linked) (client : Id) (channel : QString) (mutator : M) :
    Tracks clients (.publish (V := V) client channel mutator)
      (clients.after matchesFilter subscription answer (.publish client channel mutator)) := by
  simp only [SharedStateClients.after, clientStep, CDataLinkDBus.publish]
  -- The source publishes a mutator only where there is none.
  by_cases hlive : ((clients.links client).channel channel).activeMutator.isSome = true
  · rw [if_pos hlive, setLink_self]
    refine ⟨h, fun c ch => (if_neg ?_).symm⟩
    rintro ⟨rfl, rfl, hnone⟩
    change ((clients.links client).channel channel).activeMutator.isNone = true at hnone
    rw [Option.isNone_iff_eq_none] at hnone
    rw [hnone] at hlive
    cases hlive
  · rw [if_neg hlive]
    refine ⟨fun c => ?_, fun c ch => ?_⟩
    · rw [isOpen_run_ifLinked matchesFilter _ _ (fun _ h => by cases h) (fun _ => rfl),
        duplex_setLink_withChannel, h c]
    · by_cases heq : client = c ∧ channel = ch
      · rcases heq with ⟨rfl, rfl⟩
        rw [Bool.not_eq_true, Option.isSome_eq_false_iff] at hlive
        refine Eq.trans ?_ (if_pos ⟨rfl, rfl, hlive⟩).symm
        simp [SharedStateClients.view, duplex_setLink_withChannel, channel_setLink_withChannel,
          handles_run_advertise matchesFilter (h client)]
      · refine Eq.trans ?_ (if_neg (fun h => heq ⟨h.1, h.2.1⟩)).symm
        simp [SharedStateClients.view, duplex_setLink_withChannel, channel_setLink_withChannel,
          handles_run_advertise matchesFilter (h client), heq]

theorem tracks_destroyMutator (h : clients.Linked) (client : Id) (channel : QString)
    (hadvertised : ∀ c ch, clients.hub.handles c ch = true →
      ((clients.links c).channel ch).activeMutator ≠ none) :
    Tracks clients (.destroyMutator (M := M) (V := V) client channel)
      (clients.after matchesFilter subscription answer (.destroyMutator client channel)) := by
  simp only [SharedStateClients.after, clientStep, CDataLinkDBus.mutatorDestroyed]
  by_cases hlive : ((clients.links client).channel channel).activeMutator.isSome = true
  · rw [if_pos hlive]
    refine ⟨fun c => ?_, fun c ch => ?_⟩
    · rw [isOpen_run_ifLinked matchesFilter _ _ (fun _ h => by cases h) (fun _ => rfl),
        duplex_setLink_withChannel, h c]
    · rw [publicationAfter]
      simp only [SharedStateClients.view, duplex_setLink_withChannel, channel_setLink_withChannel,
        handles_run_withdraw matchesFilter (h client)]
      split_ifs <;> rfl
  · -- There is no mutator, and so nothing was advertised.
    rw [if_neg hlive, setLink_self]
    refine ⟨h, fun c ch => ?_⟩
    rw [publicationAfter]
    split_ifs with heq
    · rcases heq with ⟨rfl, rfl⟩
      rw [Bool.not_eq_true, Option.isSome_eq_false_iff, Option.isNone_iff_eq_none] at hlive
      have hnot : clients.hub.handles client channel = false := by
        rw [← Bool.not_eq_true]
        exact fun hhandles => hadvertised client channel hhandles hlive
      simp [SharedStateClients.view, hlive, hnot]
    · rfl

omit [LinearOrder Id] in
theorem neutral_onReady (link : CDataLinkDBus M O Unit F) (client : Id) (call : ℕ) :
    (link.onReady (V := V) subscription client call).1.duplex.isSome = link.duplex.isSome ∧
      (∀ ch, (link.onReady (V := V) subscription client call).1.channel ch = link.channel ch) ∧
      ∀ action ∈ (link.onReady (V := V) subscription client call).2, action.neutral = true := by
  unfold CDataLinkDBus.onReady
  cases hduplex : link.duplex with
  | none => exact ⟨by rw [hduplex], fun _ => rfl, nofun⟩
  | some duplex =>
      dsimp only
      split_ifs
      · refine ⟨rfl, fun _ => rfl, fun a ha => ?_⟩
        rcases List.mem_cons.mp ha with rfl | ha
        · rfl
        · rcases List.mem_map.mp ha with ⟨name, -, rfl⟩
          rfl
      · exact ⟨by rw [hduplex], fun _ => rfl, nofun⟩

omit [LinearOrder Id] in
theorem neutral_handleLocalRequest (link : CDataLinkDBus M O Unit F) (client : Id)
    (channel : QString) (param : V) :
    (link.handleLocalRequest client () channel param).1.duplex.isSome = link.duplex.isSome ∧
      (∀ ch, (link.handleLocalRequest client () channel param).1.channel ch = link.channel ch) ∧
      ∀ action ∈ (link.handleLocalRequest client () channel param).2.2, action.neutral = true := by
  unfold CDataLinkDBus.handleLocalRequest
  cases (link.channel channel).activeMutator with
  | some mutator =>
      exact ⟨rfl, link.channel_withChannel_id channel, nofun⟩
  | none =>
      cases hduplex : link.duplex with
      | none =>
          exact ⟨by rw [CDataLinkDBus.duplex_withChannel, hduplex],
            link.channel_withChannel_id channel, nofun⟩
      | some duplex =>
          refine ⟨rfl, link.channel_withChannel_id channel, fun a ha => ?_⟩
          rw [List.mem_singleton.mp ha]
          rfl

/-- A step that leaves the client's mutators as they are. -/
theorem tracks_setLink {step : ClientStep Id M V}
    {client : Id} {link : CDataLinkDBus M O Unit F}
    (hchannel : ∀ ch, link.channel ch = (clients.links client).channel ch)
    (hopen : ∀ c, hub.isOpen c
      = if client = c then link.duplex.isSome else (clients.links c).duplex.isSome)
    (hview : ∀ c ch, publicationAfter c ch (clients.view c ch) step
      = { clients.view c ch with
          linked := if client = c then link.duplex.isSome else (clients.links c).duplex.isSome
          advertised := hub.handles c ch }) :
    Tracks clients step ⟨hub, setLink clients.links client link⟩ := by
  -- Only this client's link is another one.
  have hlink : ∀ c, (setLink clients.links client link c).duplex.isSome
      = if client = c then link.duplex.isSome else (clients.links c).duplex.isSome := by
    intro c
    unfold setLink
    by_cases hc : client = c
    · rw [if_pos hc, if_pos hc.symm]
    · rw [if_neg hc, if_neg (Ne.symm hc)]
  refine ⟨fun c => (hopen c).trans (hlink c).symm, fun c ch => ?_⟩
  rw [hview]
  have hmutator : (setLink clients.links client link c).channel ch
      = (clients.links c).channel ch := by
    unfold setLink
    split_ifs with hc
    · rw [hchannel, hc]
    · rfl
  simp [SharedStateClients.view, hlink, hmutator]

theorem tracks_linkUp (h : clients.Linked) (client : Id) :
    Tracks clients (.linkUp (M := M) (V := V) client)
      (clients.after matchesFilter subscription answer (.linkUp client)) := by
  simp only [SharedStateClients.after, clientStep, CDataLinkDBus.onConnected]
  cases hduplex : (clients.links client).duplex with
  | some duplex =>
      -- It is linked already, and nothing happens to the mutators.
      rcases neutral_onReady (V := V) subscription (clients.links client) client
        (clients.links client).calls with ⟨hsome, hchannel, hneutral⟩
      have hrun := neutral_run matchesFilter clients.hub hneutral
      have hlinked : ∀ c, (if client = c then (clients.links client).duplex.isSome
          else (clients.links c).duplex.isSome) = (clients.links c).duplex.isSome := by
        intro c
        split_ifs with hc
        · rw [hc]
        · rfl
      refine tracks_setLink hchannel (fun c => ?_) (fun c ch => ?_)
      · rw [List.nil_append, (hrun c []).1, hsome, hlinked, h c]
      · rw [publicationAfter, List.nil_append, (hrun c ch).2, hsome]
        split_ifs with hc
        · rw [hduplex]
          rfl
        · rfl
  | none =>
      rcases neutral_onReady (V := V) subscription { clients.links client with
          duplex := some { call := (clients.links client).calls },
          calls := (clients.links client).calls + 1 } client
        (clients.links client).calls with ⟨hsome, hchannel, hneutral⟩
      have hrun := neutral_run matchesFilter (clients.hub.openDuplex client) hneutral
      refine tracks_setLink hchannel (fun c => ?_) (fun c ch => ?_)
      · rw [hsome]
        refine ((hrun c []).1.trans (CHub.isOpen_openDuplex _ _ _)).trans ?_
        by_cases hc : client = c
        · rw [if_pos hc, decide_eq_true hc.symm]
          rfl
        · rw [if_neg hc, decide_eq_false (Ne.symm hc), Bool.false_or, h c]
      · have hhandles := (hrun c ch).2.trans (CHub.handles_openDuplex client)
        rw [publicationAfter, hsome]
        refine Eq.trans ?_ (congrArg (fun b => { clients.view c ch with
          linked := if client = c then true else (clients.links c).duplex.isSome
          advertised := b }) hhandles.symm)
        split_ifs <;> rfl

theorem tracks_linkDown (h : clients.Linked) (client : Id) :
    Tracks clients (.linkDown (M := M) (V := V) client)
      (clients.after matchesFilter subscription answer (.linkDown client)) := by
  simp only [SharedStateClients.after, clientStep, CDataLinkDBus.onDisconnected]
  -- Without a duplex there is nothing to close.
  cases hduplex : (clients.links client).duplex with
  | none =>
      rw [setLink_self, Machine.run_nil]
      refine ⟨h, fun c ch => ?_⟩
      rw [publicationAfter]
      split_ifs with hc
      · have hopen : clients.hub.isOpen c = false := by rw [h c, ← hc, hduplex]; rfl
        simp only [SharedStateClients.view, ← hc, hduplex, Option.isSome_none]
        rw [hc, CHub.handles_of_not_isOpen hopen]
      · rfl
  | some duplex =>
      refine tracks_setLink (fun _ => rfl) (fun c => ?_) (fun c ch => ?_)
      · refine (CHub.isOpen_closeDuplex (V := V) _ _ _).trans ?_
        by_cases hc : client = c
        · rw [if_pos hc, decide_eq_true hc.symm]
          rfl
        · rw [if_neg hc, decide_eq_false (Ne.symm hc), h c]
          rfl
      · have hhandles : (clients.hub.closeDuplex (V := V) client).1.handles c ch
            = if c = client then false else clients.hub.handles c ch :=
          CHub.handles_closeDuplex client
        rw [publicationAfter]
        refine Eq.trans ?_ (congrArg (fun b => { clients.view c ch with
          linked := if client = c then false else (clients.links c).duplex.isSome
          advertised := b }) hhandles.symm)
        by_cases hc : client = c
        · simp [if_pos hc, if_pos hc.symm]
        · simp only [if_neg hc, if_neg (Ne.symm hc)]
          rfl

theorem tracks_submitRequest (h : clients.Linked) (client : Id) (channel : QString) (param : V) :
    Tracks clients (.submitRequest client channel param)
      (clients.after matchesFilter subscription answer (.submitRequest client channel param)) := by
  rcases neutral_handleLocalRequest (clients.links client) client channel param
    with ⟨hsome, hchannel, hneutral⟩
  have hrun := neutral_run matchesFilter clients.hub hneutral
  have hlinked : ∀ c, (if client = c then (clients.links client).duplex.isSome
      else (clients.links c).duplex.isSome) = (clients.links c).duplex.isSome := by
    intro c
    split_ifs with hc
    · rw [hc]
    · rfl
  refine tracks_setLink hchannel (fun c => ?_) (fun c ch => ?_)
  · rw [hsome, hlinked]
    exact (hrun c []).1.trans (h c)
  · rw [hsome, hlinked]
    exact congrArg (fun b => { clients.view c ch with
      linked := (clients.links c).duplex.isSome
      advertised := b }) (hrun c ch).2.symm

/-! ## Over all runs -/

theorem publication_append (steps : List (ClientStep Id M V)) (step : ClientStep Id M V)
    (client : Id) (channel : QString) :
    publication (steps ++ [step]) client channel
      = publicationAfter client channel (publication steps client channel) step := by
  simp [publication]

/-- What a client has advertised, it has, and it is linked. -/
theorem advertised_publicationAfter {publication : Publication M} {step : ClientStep Id M V}
    {client : Id} {channel : QString}
    (h : publication.advertised = true → publication.mutator ≠ none ∧ publication.linked = true)
    (hafter : (publicationAfter client channel publication step).advertised = true) :
    (publicationAfter client channel publication step).mutator ≠ none ∧
      (publicationAfter client channel publication step).linked = true := by
  cases step with
  | publish c ch mutator =>
      rw [publicationAfter] at hafter ⊢
      split_ifs at hafter ⊢
      · exact ⟨Option.some_ne_none mutator, hafter⟩
      · exact h hafter
  | destroyMutator c ch =>
      rw [publicationAfter] at hafter ⊢
      split_ifs at hafter ⊢
      exact h hafter
  | linkUp c =>
      rw [publicationAfter] at hafter ⊢
      split_ifs at hafter ⊢
      · exact ⟨(h hafter).1, rfl⟩
      · exact h hafter
  | linkDown c =>
      rw [publicationAfter] at hafter ⊢
      split_ifs at hafter ⊢
      exact h hafter
  | submitRequest c ch param => exact h hafter

theorem publication_advertised (steps : List (ClientStep Id M V)) (client : Id)
    (channel : QString) : (publication steps client channel).advertised = true →
      (publication steps client channel).mutator ≠ none ∧
        (publication steps client channel).linked = true := by
  induction steps using List.reverseRecOn with
  | nil => exact fun h => absurd h Bool.false_ne_true
  | append_singleton steps step ih =>
      rw [publication_append]
      exact advertised_publicationAfter ih

/-- The hub and the data links are as the steps tell. -/
structure Follows (steps : List (ClientStep Id M V)) (clients : SharedStateClients Id M O F) :
    Prop where
  linked : clients.Linked
  view : ∀ client channel, clients.view client channel = publication steps client channel

theorem follows_step {steps : List (ClientStep Id M V)}
    (h : Follows steps clients) (step : ClientStep Id M V) :
    Follows (steps ++ [step])
      ((sharedStateClients matchesFilter subscription answer).step clients step).1 := by
  -- What the step does itself, before the messages it causes are delivered.
  have htracks : Tracks clients step (clients.after matchesFilter subscription answer step) := by
    cases step with
    | publish client channel mutator =>
        exact tracks_publish matchesFilter subscription answer h.linked client channel mutator
    | destroyMutator client channel =>
        refine tracks_destroyMutator matchesFilter subscription answer h.linked client channel
          (fun c ch hhandles => ?_)
        have hview := h.view c ch
        have hadvertised := publication_advertised steps c ch
        rw [← hview] at hadvertised
        exact (hadvertised hhandles).1
    | linkUp client => exact tracks_linkUp matchesFilter subscription answer h.linked client
    | linkDown client => exact tracks_linkDown matchesFilter subscription answer h.linked client
    | submitRequest client channel param =>
        exact tracks_submitRequest matchesFilter subscription answer h.linked client channel param
  rcases sharedStateClients_step matchesFilter subscription answer clients step
    with ⟨hkeeps, hhub⟩
  -- The messages change neither the links nor what is advertised.
  refine ⟨fun c => ?_, fun c ch => ?_⟩
  · rw [(hhub c []).1, hkeeps.duplex]
    exact htracks.linked c
  · rw [publication_append, ← h.view, ← htracks.view]
    simp only [SharedStateClients.view, hkeeps.duplex, hkeeps.mutator, (hhub c ch).2]
    rfl

/-- Over every run. -/
theorem follows_run (steps : List (ClientStep Id M V)) :
    Follows steps
      ((sharedStateClients (O := O) matchesFilter subscription answer).run {} steps).1 := by
  refine (sharedStateClients matchesFilter subscription answer).run_history
    (fun steps clients _ => Follows steps clients) {} ?_
    (fun steps clients _ step h =>
      follows_step matchesFilter subscription answer h step) steps
  exact ⟨fun _ => rfl, fun _ _ => rfl⟩

/-! ## Who handles a request -/

theorem CHub.findHandler_eq_none {client : Id} {channel : QString}
    (h : ∀ c, c ≠ client → hub.handles c channel = false) :
    hub.findHandler client channel = none := by
  refine List.find?_eq_none.mpr (fun e he hfound => ?_)
  rcases of_decide_eq_true hfound with ⟨hne, hmem⟩
  have hlookup := OrderedMap.mem_entries.mp he
  have hnot := h e.1 hne
  rw [handles, hlookup, Option.any_some, decide_eq_false_iff_not] at hnot
  exact hnot hmem

/-- The only other client that handles a channel is found. -/
theorem CHub.findHandler_eq_some {client handler : Id} {channel : QString}
    (hne : handler ≠ client) (hhandles : hub.handles handler channel = true)
    (hsole : ∀ c, c ≠ client → hub.handles c channel = true → c = handler) :
    ∃ duplex, hub.clients.lookup handler = some duplex ∧
      hub.findHandler client channel = some (handler, duplex) := by
  rw [handles, Option.any_eq_true] at hhandles
  rcases hhandles with ⟨duplex, hlookup, hmem⟩
  refine ⟨duplex, hlookup, ?_⟩
  have hsome : (hub.findHandler client channel).isSome = true := by
    refine List.find?_isSome.mpr ⟨(handler, duplex), OrderedMap.mem_entries.mpr hlookup, ?_⟩
    exact decide_eq_true ⟨hne, of_decide_eq_true hmem⟩
  rcases Option.isSome_iff_exists.mp hsome with ⟨⟨c, d⟩, hfound⟩
  have hentry := OrderedMap.mem_entries.mp (List.mem_of_find?_eq_some hfound)
  have hkind := List.find?_some hfound
  rw [decide_eq_true_eq] at hkind
  rcases hkind with ⟨hc, hhandling⟩
  have heq : c = handler :=
    hsole c hc (by rw [handles, hentry]; exact decide_eq_true hhandling)
  subst heq
  rw [hlookup] at hentry
  rw [hfound, Option.some.inj hentry]

/-- A request the hub passes on to a handler comes back with the handler's answer. -/
theorem exchange_submitRequest {links : Id → CDataLinkDBus M O Unit F}
    {client handler : Id} {channel : QString} {mutator : M} {duplex handling : CDuplex Id F}
    (hne : handler ≠ client) (hclient : hub.clients.lookup client = some duplex)
    (hhandler : hub.clients.lookup handler = some handling)
    (hfound : hub.findHandler client channel = some (handler, handling))
    (hmutator : ((links handler).channel channel).activeMutator = some mutator) (param : V)
    (token : ℕ) :
    ((exchange matchesFilter subscription answer).run (hub, links)
        [.submitRequest client channel param token]).2
      = [.inl (.handled handler mutator channel param),
          .inr (.reply handler (answer mutator param) handling.token)] ∧
    ((exchange matchesFilter subscription answer).run
        ((exchange matchesFilter subscription answer).run (hub, links)
          [.submitRequest client channel param token]).1
        [.reply handler (answer mutator param) handling.token]).2
      = ((dataLinks matchesFilter subscription answer).step
          (setLink links handler ((links handler).handlePeerRequest channel).1)
          (.replyReceived client channel (answer mutator param) token)).2 := by
  have hsubmit : (sharedStateHub matchesFilter).step hub
        (.submitRequest client channel param token)
      = (hub.withDuplex handler (fun d => { d with
            token := d.token + 1
            receivedRequests :=
              d.receivedRequests.insert d.token ⟨client, duplex.serial, channel, token⟩ }),
          [.requestReceived handler channel param handling.token]) := by
    change hub.submitRequest client channel param token = _
    unfold CHub.submitRequest
    rw [hclient, hfound]
  have hthere : (exchange matchesFilter subscription answer).run (hub, links)
        [.submitRequest client channel param token]
      = (((hub.withDuplex handler (fun d => { d with
            token := d.token + 1
            receivedRequests :=
              d.receivedRequests.insert d.token ⟨client, duplex.serial, channel, token⟩ }),
          setLink links handler ((links handler).handlePeerRequest channel).1)),
          [.inl (.handled handler mutator channel param),
            .inr (.reply handler (answer mutator param) handling.token)]) := by
    simp only [exchange]
    simp [hsubmit, dataLinks, CDataLinkDBus.handlePeerRequest, hmutator]
  refine ⟨by rw [hthere], ?_⟩
  rw [hthere]
  -- The hub finds the request under the handler's token, and the requester as it was.
  have hreply : ((sharedStateHub (V := V) matchesFilter).step (hub.withDuplex handler
        (fun d => { d with
          token := d.token + 1
          receivedRequests :=
            d.receivedRequests.insert d.token ⟨client, duplex.serial, channel, token⟩ }))
        (.reply handler (answer mutator param) handling.token)).2
      = [.replyReceived client channel (answer mutator param) token] := by
    change (CHub.reply _ handler (answer mutator param) handling.token).2 = _
    unfold CHub.reply CHub.withDuplex
    rw [hhandler]
    rw [OrderedMap.lookup_insert, if_pos rfl, Option.bind_some, OrderedMap.lookup_insert,
      if_pos rfl]
    dsimp only
    rw [OrderedMap.lookup_insert, if_neg (Ne.symm hne), hclient]
    simp
  simp only [exchange]
  simp [hreply]

/-- A request reaches the mutator of the only other client that has one, and its answer the
    requester, if the requester is linked and has no mutator itself, and the mutator was
    published since its client was linked last. -/
theorem request_reaches_iff (steps : List (ClientStep Id M V)) {requester handler : Id}
    {channel : QString} {mutator : M}
    (hsole : SoleMutator steps requester handler channel mutator) (param : V) :
    ((sharedStateClients matchesFilter subscription answer).step
        ((sharedStateClients (O := O) matchesFilter subscription answer).run {} steps).1
        (.submitRequest requester channel param)).2
      = [.handled handler mutator channel param,
          .answered requester channel (answer mutator param)] ↔
    (publication steps requester channel).linked = true ∧
      (publication steps requester channel).mutator = none ∧
      (publication steps handler channel).advertised = true := by
  have hfollows := follows_run (O := O) matchesFilter subscription answer steps
  generalize ((sharedStateClients (O := O) matchesFilter subscription answer).run {} steps).1
    = clients at hfollows
  rcases clients with ⟨hub, links⟩
  have hrequester := hfollows.view requester channel
  have hhandler := hfollows.view handler channel
  rw [← hrequester, ← hhandler]
  simp only [SharedStateClients.view, sharedStateClients, clientStep]
  unfold CDataLinkDBus.handleLocalRequest
  cases hown : ((links requester).channel channel).activeMutator with
  | some own =>
      -- Its own mutator answers.
      refine iff_of_false (fun h => ?_) (fun h => absurd h.2.1 (Option.some_ne_none own))
      have hhead := List.head_eq_of_cons_eq h
      injection hhead with hclient
      exact hsole.other hclient.symm
  | none =>
      cases hduplex : (links requester).duplex with
      | none =>
          exact iff_of_false (fun h => absurd h (by simp)) (fun h => Bool.false_ne_true h.1)
      | some duplex =>
          have hlinked : hub.isOpen requester = true := by
            rw [hfollows.linked requester]
            simp [hduplex]
          rcases CHub.isOpen_iff.mp hlinked with ⟨requesting, hlookup⟩
          simp only [Option.isSome_some, true_and]
          -- Nobody else has advertised the channel.
          have honly : ∀ c, c ≠ requester → hub.handles c channel = true → c = handler := by
            intro c hc hchandles
            have hview := hfollows.view c channel
            have hadvertised := publication_advertised steps c channel
            rw [← hview] at hadvertised
            exact hsole.sole c hc (by rw [← hview]; exact (hadvertised hchandles).2)
              (by rw [← hview]; exact (hadvertised hchandles).1)
          by_cases hhandles : hub.handles handler channel = true
          · refine iff_of_true ?_ hhandles
            rcases CHub.findHandler_eq_some hsole.other hhandles honly
              with ⟨handling, hhandling, hfound⟩
            have hmutator : ((setLink links requester
                { (links requester).withChannel channel id with duplex := some { duplex with
                    token := duplex.token + 1
                    submittedRequests := duplex.submittedRequests.insert duplex.token () } }
                  handler).channel channel).activeMutator = some mutator := by
              rw [setLink_other _ hsole.other]
              exact (congrArg Publication.mutator hhandler).trans hsole.has
            rcases exchange_submitRequest matchesFilter subscription answer hsole.other hlookup
              hhandling hfound hmutator param duplex.token with ⟨hthere, hback⟩
            rw [hthere]
            simp only [List.filterMap_cons, List.filterMap_nil, Sum.getRight?_inl,
              Sum.getRight?_inr, hback]
            simp only [dataLinks, setLink_other _ (Ne.symm hsole.other), setLink_same,
              CDataLinkDBus.replyReceived, OrderedMap.lookup_insert]
            rfl
          · refine iff_of_false (fun h => ?_) hhandles
            have hnone : hub.findHandler requester channel = none := by
              refine CHub.findHandler_eq_none (fun c hc => ?_)
              rw [← Bool.not_eq_true]
              exact fun hchandles => hhandles (honly c hc hchandles ▸ hchandles)
            have hsubmit : (sharedStateHub matchesFilter).step hub
                (.submitRequest requester channel param duplex.token) = (hub, []) := by
              change hub.submitRequest requester channel param duplex.token = _
              unfold CHub.submitRequest
              rw [hlookup, hnone]
            simp only [exchange, Machine.cascade_run] at h
            simp only [Machine.run_cons, hsubmit] at h
            cases h

end Requests

/-! ## A mutator and a request -/

/-- A mutator that is published on a link gets the request. -/
theorem request_reaches_published :
    ((sharedStateClients (fun _ _ => true) (fun _ : Unit => ()) (fun m v => m + v)).step
        ((sharedStateClients (fun _ _ => true) (fun _ : Unit => ()) (fun m v => m + v)).run {}
          [.linkUp 1, .publish 1 "log" 7, .linkUp 2]).1
        (.submitRequest 2 "log" 3 : ClientStep ℕ ℕ ℕ)).2
      = [.handled 1 7 "log" 3, .answered 2 "log" 10] := by
  have hsole : SoleMutator (V := ℕ) [.linkUp 1, .publish 1 "log" 7, .linkUp 2] 2 1
      "log" 7 := by
    refine ⟨by decide, by decide, by decide, fun client hother _ hmutator => ?_⟩
    by_contra hne
    exact hmutator (by simp [publication, publicationAfter, Ne.symm hne, Ne.symm hother])
  exact (request_reaches_iff _ _ _ _ hsole 3).mpr (by decide)

/-- A mutator that is published before its client's link comes up does not. -/
theorem request_misses_published_before :
    ∃ steps : List (ClientStep ℕ ℕ ℕ), SoleMutator steps 2 1 "log" 7 ∧
      (publication steps 2 "log").linked = true ∧ (publication steps 2 "log").mutator = none ∧
      ((sharedStateClients (fun _ _ => true) (fun _ : Unit => ()) (fun m v => m + v)).step
        ((sharedStateClients (fun _ _ => true) (fun _ : Unit => ()) (fun m v => m + v)).run {}
          steps).1 (.submitRequest 2 "log" 3)).2 = [] := by
  refine ⟨[.publish 1 "log" 7, .linkUp 1, .linkUp 2], ?_, by decide, by decide, by decide⟩
  refine ⟨by decide, by decide, by decide, fun client hother _ hmutator => ?_⟩
  by_contra hne
  exact hmutator (by simp [publication, publicationAfter, Ne.symm hne, Ne.symm hother])

end SharedState

end NeoSwift.Misc
