import NeoSwift.Fsd.Client.Handlers
import NeoSwift.Lib.Machine

/-!
# The Outbox

What the client sends, and the log of raw messages. Messages wait in a queue
that a timer empties; every message that is sent and every line that is
received goes to the log. The outbox alone knows the password: it puts it into
the login, and it is to keep it out of the log.

The log filter is armed when a connection starts. It replaces the password in
the first pilot login that comes along, sent or received, if the login has the
shape it expects, and is disarmed by it in any case.

## Main definitions

* `Outbox`: The queue and the log filter.
* `Secret`: Password and token of the user.
* `filterPassword`: What the filter makes of a pilot login.
* `perform`, `outbox`: Performing the actions of the handlers.

## Theorems

* `emitRawFsdMessage_eq_iff`: What does not look like a pilot login leaves the
  log filter alone.
-/

namespace NeoSwift.Fsd

/-- The queue of messages to send and the armed log filter. -/
structure Outbox where
  queuedFsdMessages : List QString := []
  filterPasswordFromLogin : Bool := false
  deriving DecidableEq

/-- The password of the user, and the token that is issued for it. -/
structure Secret where
  password : QString
  token : QString
  deriving DecidableEq

/-- A user with a password and without a token. -/
def Secret.ofPassword (password : QString) : Secret := { password, token := [] }

/-- What leaves the client. -/
inductive Output where
  | signal (signal : Signal)
  | rawFsdMessage (text : QString)
  | written (message : QString)
  | closeTransport
  | connectToHost (host : QString)
  | requestToken
  deriving DecidableEq

/-- The class `\w`. -/
def isWordChar (c : Char) : Bool := c.isAlphanum || c == '_'

/-- One or more characters of a class. -/
def matchesMany (p : Char → Bool) (text : QString) : Bool := text ≠ [] && text.all p

/-- `^(#AP\w+:SERVER:\d+:)[^:]+(:\d+:\d+:\d+:.+)$` with the fourth field replaced,
    and any text that is not of this form as it is. The fields before the last
    contain no separator, and the last one no line break. -/
def filterPassword (message : QString) : QString :=
  match message.split ':' with
  | callsign :: server :: cid :: password :: rating :: revision :: simType :: name =>
    if QString.startsWith callsign "#AP" ∧ matchesMany isWordChar (callsign.drop 3)
        ∧ server = "SERVER" ∧ matchesMany Char.isDigit cid ∧ password ≠ []
        ∧ matchesMany Char.isDigit rating ∧ matchesMany Char.isDigit revision
        ∧ matchesMany Char.isDigit simType
        ∧ matchesMany (fun c => c != '\n') (QString.join name ":") then
      QString.join (callsign :: server :: cid :: "<password>" :: rating :: revision
        :: simType :: name) ":"
    else message
  | _ => message

/-- The raw messages are on. -/
def Config.logsRaw (cfg : Config) : Bool := cfg.unitTestMode || cfg.rawFsdMessagesEnabled

/-- `emitRawFsdMessage`. -/
def emitRawFsdMessage (cfg : Config) (fsdMessage : QString) (isSent : Bool) (o : Outbox) :
    Outbox × List Output :=
  if ¬cfg.logsRaw then (o, [])
  else
    let direction := if isSent then "FSD Sent=>".toList else "FSD Recv=>".toList
    if o.filterPasswordFromLogin ∧ QString.startsWith fsdMessage "#AP".toList then
      ({ o with filterPasswordFromLogin := false },
        [.rawFsdMessage (direction ++ filterPassword fsdMessage)])
    else (o, [.rawFsdMessage (direction ++ fsdMessage)])

/-- `sendMessageString`. -/
def sendMessageString (cfg : Config) (message : QString) (o : Outbox) : Outbox × List Output :=
  if message = [] then (o, [])
  else
    let logged := emitRawFsdMessage cfg message.trimmed true o
    (logged.1, (if cfg.unitTestMode then [] else [.written message]) ++ logged.2)

/-- Messages sent one after the other. -/
def sendAll (cfg : Config) : List QString → Outbox → Outbox × List Output
  | [], o => (o, [])
  | message :: messages, o =>
    let sent := sendMessageString cfg message o
    let rest := sendAll cfg messages sent.1
    (rest.1, sent.2 ++ rest.2)

/-- How many messages of a queue are sent at once. -/
def sendCount (size : ℕ) : ℕ :=
  1 + (if 5 < size then 1 else 0) + (if 10 < size then 1 else 0) + (if 20 < size then 1 else 0)
    + (if 30 < size then 1 else 0)
    + if 50 < size then if 100 < size then 30 else if 75 < size then 20 else 10 else 0

/-- `sendQueuedMessage` of the timer. -/
def sendQueuedMessages (cfg : Config) (o : Outbox) : Outbox × List Output :=
  let queue := o.queuedFsdMessages
  if queue = [] then (o, [])
  else
    let n := sendCount queue.length
    sendAll cfg (queue.take n) { o with queuedFsdMessages := queue.drop n }

/-- `sendQueuedMessage` of a message: in the queue, or sent at once in a unit
    test. -/
def enqueue (cfg : Config) (message : QString) (o : Outbox) : Outbox × List Output :=
  if cfg.unitTestMode then sendMessageString cfg message o
  else ({ o with queuedFsdMessages := o.queuedFsdMessages ++ [message] }, [])

/-- What a login sends as the password. -/
def Secret.loginPassword (secret : Secret) (withToken : Bool) : QString :=
  if withToken ∧ secret.token ≠ [] then secret.token else secret.password

/-- The login message with a password. -/
def loginMessage (cfg : Config) (password : QString) : QString :=
  match cfg.loginMode with
  | .pilot =>
    messageToFSDString (AddPilot.create cfg.ownCallsign.callsign cfg.cid password cfg.pilotRating
      cfg.protocolRevision cfg.simType cfg.realNameAndHomeBase)
  | .observer =>
    messageToFSDString (AddAtc.create cfg.ownCallsign.callsign cfg.realNameAndHomeBase cfg.cid
      password cfg.atcRating cfg.protocolRevision)

/-- The query for simulator data that follows a login. -/
def simDataRequest (cfg : Config) : QString :=
  messageToFSDString (ClientQuery.create cfg.ownCallsign.callsign "@94835"
    .euroscopeSimData ["1"])

/-- `sendLogin`. -/
def sendLogin (cfg : Config) (secret : Secret) (withToken : Bool) (o : Outbox) :
    Outbox × List Output :=
  let login := enqueue cfg (loginMessage cfg (secret.loginPassword withToken)) o
  if cfg.receiveEuroscopeSimData then
    let query := enqueue cfg (simDataRequest cfg) login.1
    (query.1, login.2 ++ query.2)
  else login

/-- One action performed. -/
def perform (cfg : Config) (secret : Secret) (o : Outbox) : Action → Outbox × List Output
  | .emit signal => (o, [.signal signal])
  | .closeTransport => (o, [.closeTransport])
  | .connectToHost host => (o, [.connectToHost host])
  | .requestToken => (o, [.requestToken])
  | .rawReceived line => emitRawFsdMessage cfg line false o
  | .queue message => enqueue cfg message o
  | .direct message => sendMessageString cfg message o
  | .login withToken => sendLogin cfg secret withToken o
  | .sendQueued => sendQueuedMessages cfg o
  | .clearQueue => ({ o with queuedFsdMessages := [] }, [])
  | .filterPassword => ({ o with filterPasswordFromLogin := true }, [])

/-- The outbox as a machine that is fed with actions. -/
def outbox (cfg : Config) (secret : Secret) : Machine Outbox Action Output where
  step := perform cfg secret

/-- The log filter stays as it is on a line that does not look like a pilot
    login, and on any line where it is not armed or nothing is logged. -/
theorem emitRawFsdMessage_eq_iff (cfg : Config) (message : QString) (isSent : Bool) (o : Outbox) :
    (emitRawFsdMessage cfg message isSent o).1 = o
      ↔ ¬(cfg.logsRaw ∧ o.filterPasswordFromLogin ∧ message.startsWith "#AP") := by
  unfold emitRawFsdMessage
  by_cases hlogs : cfg.logsRaw
  · rw [if_neg (not_not.mpr hlogs)]
    by_cases hlogin : o.filterPasswordFromLogin ∧ message.startsWith "#AP"
    · refine iff_of_false ?_ (not_not.mpr ⟨hlogs, hlogin⟩)
      rw [if_pos hlogin]
      intro heq
      have hflag : false = o.filterPasswordFromLogin :=
        congrArg Outbox.filterPasswordFromLogin heq
      exact absurd (hflag.trans hlogin.1) (by decide)
    · rw [if_neg hlogin]
      exact iff_of_true rfl fun h => hlogin h.2
  · rw [if_pos hlogs]
    exact iff_of_true rfl fun h => hlogs h.1

end NeoSwift.Fsd
