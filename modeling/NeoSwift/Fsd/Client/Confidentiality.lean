import NeoSwift.Fsd.Client.ShortLines

/-!
# Confidentiality of the Password

The log of raw messages is not to tell which password a user has. The core does
not know the password, so two clients with different passwords take the same
actions; their outboxes differ in the logins that wait in the queue, and what
they log agrees as long as every login that is sent is filtered.

The filter is a flag that the first pilot login to be logged uses up, sent or
received, and a pattern that expects certain fields. It does its work where a
login is a pilot login, has these fields, and is the first one to be logged
since the connection started.

## Main definitions

* `Filterable`: A login of the shape the filter expects.
* `GuardsLogins`: The filter is armed for every login of a batch.
* `KeepsSecret`: Where an action does not tell two passwords apart.
* `rawFsdMessages`: The log.

## Theorems

* `filterPassword_login`: The filter removes the password of such a login.
* `sendAll_agree`: Two batches that are guarded are logged alike.
* `rawFsdMessages_agree`: The log does not depend on the password.
-/

namespace NeoSwift.Fsd

variable (cfg : Config)

/-- The name in a login as it is logged: without the blanks at the end. -/
def loggedName : QString := cfg.realNameAndHomeBase.rdropWhile QString.isSpace

/-- A login the filter recognises: a pilot login with fields of the right
    characters, a name that is not blank, and a password that is one field. -/
structure Filterable (password : QString) : Prop where
  pilot : cfg.loginMode = .pilot
  callsign : matchesMany isWordChar cfg.ownCallsign.callsign = true
  cid : matchesMany Char.isDigit cfg.cid = true
  password_ne : password ≠ []
  password_field : ':' ∉ password
  rating : matchesMany Char.isDigit (toQString cfg.pilotRating) = true
  revision : matchesMany Char.isDigit (QString.number cfg.protocolRevision.toInt) = true
  simType : matchesMany Char.isDigit (toQString cfg.simType) = true
  name : matchesMany (fun c => c != '\n') (loggedName cfg) = true

/-- A pilot login as it is logged, with some text in place of the password. -/
def loggedLogin (password : QString) : QString :=
  QString.join ["#AP" ++ cfg.ownCallsign.callsign, "SERVER", cfg.cid, password,
    toQString cfg.pilotRating, QString.number cfg.protocolRevision.toInt, toQString cfg.simType,
    loggedName cfg] ":"

theorem matchesMany_ne_nil {p : Char → Bool} {text : QString} (h : matchesMany p text = true) :
    text ≠ [] := by
  simp only [matchesMany, Bool.and_eq_true, decide_eq_true_eq] at h
  exact h.1

theorem notMem_of_matchesMany {p : Char → Bool} {text : QString} {c : Char}
    (h : matchesMany p text = true) (hc : p c = false) : c ∉ text := by
  simp only [matchesMany, Bool.and_eq_true, List.all_eq_true] at h
  intro hmem
  rw [h.2 c hmem] at hc
  cases hc

/-- The line break and the blanks before it are not logged. -/
theorem loginMessage_trimmed {password : QString} (h : Filterable cfg password) :
    (loginMessage cfg password).trimmed = loggedLogin cfg password := by
  let fields : QString := "#AP" ++ cfg.ownCallsign.callsign ++ ":SERVER:" ++ cfg.cid
    ++ ":" ++ password ++ ":" ++ toQString cfg.pilotRating ++ ":"
    ++ QString.number cfg.protocolRevision.toInt ++ ":" ++ toQString cfg.simType
    ++ ":"
  have hmessage : loginMessage cfg password
      = fields ++ (cfg.realNameAndHomeBase ++ "\r\n") := by
    rw [loginMessage, h.pilot]
    simp [messageToFSDString, toTokens, pdu, AddPilot.toTokens, AddPilot.create, QString.join,
      fields]
  have hblanks : (cfg.realNameAndHomeBase ++ "\r\n").rdropWhile QString.isSpace
      = loggedName cfg := by
    have hlist : cfg.realNameAndHomeBase ++ "\r\n"
        = cfg.realNameAndHomeBase ++ ['\r'] ++ ['\n'] := by simp
    rw [hlist, List.rdropWhile_concat_pos _ _ _ (by decide),
      List.rdropWhile_concat_pos _ _ _ (by decide), loggedName]
  have htrimmed := QString.trimmed_append (s := fields)
    (t := cfg.realNameAndHomeBase ++ "\r\n") (by simp [fields]) (by simp [fields]; decide)
    (by rw [hblanks]; exact matchesMany_ne_nil h.name)
  rw [hmessage, htrimmed, hblanks]
  simp [loggedLogin, QString.join, fields]

/-- The fields of a login. The name may contain the separator. -/
theorem split_loggedLogin {password : QString} (h : Filterable cfg password) :
    (loggedLogin cfg password).split ':'
      = ("#AP" ++ cfg.ownCallsign.callsign) :: "SERVER" :: cfg.cid :: password
        :: toQString cfg.pilotRating :: QString.number cfg.protocolRevision.toInt
        :: toQString cfg.simType :: (loggedName cfg).split ':' := by
  have hcallsign : ':' ∉ "#AP" ++ cfg.ownCallsign.callsign := by
    rw [List.mem_append, not_or]
    exact ⟨by decide, notMem_of_matchesMany h.callsign (by decide)⟩
  have hcid : ':' ∉ cfg.cid := notMem_of_matchesMany h.cid (by decide)
  simp only [loggedLogin, QString.join, List.intercalate_cons_cons, List.intercalate_singleton,
    show ":" = [':'] from rfl, List.append_assoc, List.cons_append, List.nil_append]
  rw [← List.append_assoc, QString.split_append_cons hcallsign,
    QString.split_append_cons (by decide), QString.split_append_cons hcid,
    QString.split_append_cons h.password_field, QString.split_append_cons (by simp),
    QString.split_append_cons (by simp), QString.split_append_cons (by simp)]

/-- The filter removes the password. -/
theorem filterPassword_login {password : QString} (h : Filterable cfg password) :
    filterPassword (loggedLogin cfg password) = loggedLogin cfg "<password>" := by
  have hname : QString.join ((loggedName cfg).split ':') ":" = loggedName cfg :=
    List.intercalate_splitOn ':'
  have hne : (loggedName cfg).split ':' ≠ [] := List.splitOn_ne_nil ':' _
  unfold filterPassword
  rw [split_loggedLogin cfg h]
  dsimp only
  rw [if_pos]
  · simp only [QString.join] at hname
    simp only [loggedLogin, QString.join, List.intercalate_cons_cons,
      List.intercalate_cons_of_ne_nil hne, hname, List.intercalate_singleton]
  · rw [hname]
    exact ⟨rfl, h.callsign, rfl, h.cid, h.password_ne, h.rating, h.revision, h.simType, h.name⟩

/-! ### The log -/

/-- The text of a raw message. -/
def Output.raw? : Output → Option QString
  | .rawFsdMessage text => some text
  | _ => none

/-- The log: the raw messages among what leaves the client. -/
def rawFsdMessages (outputs : List Output) : List QString := outputs.filterMap Output.raw?

/-- Whether the filter is armed behind a message. -/
def armedAfter (message : QString) (armed : Bool) : Bool :=
  armed && !(cfg.logsRaw && message.startsWith "#AP")

/-- What is logged of a message. -/
def loggedText (message : QString) (armed : Bool) : QString :=
  if armed ∧ message.startsWith "#AP" then filterPassword message else message

theorem emitRawFsdMessage_state (message : QString) (isSent : Bool) (o : Outbox) :
    (emitRawFsdMessage cfg message isSent o).1
      = { o with filterPasswordFromLogin := armedAfter cfg message o.filterPasswordFromLogin } := by
  rcases o with ⟨queue, armed⟩
  unfold emitRawFsdMessage armedAfter
  cases cfg.logsRaw <;> cases armed <;> cases message.startsWith "#AP" <;> rfl

theorem emitRawFsdMessage_log (message : QString) (isSent : Bool) (o : Outbox) :
    rawFsdMessages (emitRawFsdMessage cfg message isSent o).2
      = if cfg.logsRaw then
          [(if isSent then "FSD Sent=>".toList else "FSD Recv=>".toList)
            ++ loggedText message o.filterPasswordFromLogin]
        else [] := by
  unfold emitRawFsdMessage loggedText
  by_cases hlogs : cfg.logsRaw = true
  · rw [if_neg (not_not.mpr hlogs)]
    dsimp only
    split <;> rfl
  · rw [if_pos hlogs, if_neg hlogs]
    rfl

theorem sendMessageString_state (message : QString) (o : Outbox) :
    (sendMessageString cfg message o).1 = { o with
      filterPasswordFromLogin := armedAfter cfg message.trimmed o.filterPasswordFromLogin } := by
  by_cases hempty : message = []
  · subst hempty
    rcases o with ⟨queue, armed⟩
    cases hlogs : cfg.logsRaw <;> simp [sendMessageString, armedAfter, hlogs, QString.trimmed,
      QString.startsWith]
  · rw [sendMessageString, if_neg hempty]
    exact emitRawFsdMessage_state cfg _ _ o

theorem sendMessageString_log (message : QString) (o : Outbox) :
    rawFsdMessages (sendMessageString cfg message o).2
      = if cfg.logsRaw ∧ message ≠ [] then
          ["FSD Sent=>" ++ loggedText message.trimmed o.filterPasswordFromLogin]
        else [] := by
  by_cases hempty : message = []
  · rw [sendMessageString, if_pos hempty, if_neg fun h => h.2 hempty]
    rfl
  · have hwritten : ∀ outputs, rawFsdMessages
        ((if cfg.unitTestMode then [] else [.written message]) ++ outputs)
          = rawFsdMessages outputs := by
      intro outputs
      split <;> rfl
    rw [sendMessageString, if_neg hempty]
    rw [hwritten, emitRawFsdMessage_log]
    simp only [hempty, ne_eq, not_false_eq_true, and_true, if_true]

/-! ### Two passwords -/

variable (secretA secretB : Secret)

/-- Messages that two users with different passwords have in the same place of
    the queue: the same, or their logins. -/
def Alike (a b : QString) : Prop :=
  a = b ∨ ∃ withToken, a = loginMessage cfg (secretA.loginPassword withToken) ∧
    b = loginMessage cfg (secretB.loginPassword withToken)

/-- The filter is armed for a login and knows its shape, whichever of the two
    passwords it has. Other messages need no filter, nor does a login that has
    the same password for both. -/
def GuardsLogin (armed : Bool) (message : QString) : Prop :=
  ∀ withToken, message = loginMessage cfg (secretA.loginPassword withToken) →
    secretA.loginPassword withToken = secretB.loginPassword withToken ∨
      armed = true ∧ Filterable cfg (secretA.loginPassword withToken) ∧
        Filterable cfg (secretB.loginPassword withToken)

/-- The same for messages that are sent one after the other. Each one that looks
    like a pilot login disarms the filter for those behind it. -/
def GuardsLogins : Bool → List QString → Prop
  | _, [] => True
  | armed, message :: messages =>
    GuardsLogin cfg secretA secretB armed message ∧
      GuardsLogins (armedAfter cfg message.trimmed armed) messages

theorem loginMessage_ne_nil (password : QString) : loginMessage cfg password ≠ [] := by
  unfold loginMessage
  split
  · exact List.append_ne_nil_of_right_ne_nil _ (by decide)
  · exact List.append_ne_nil_of_right_ne_nil _ (by decide)

/-- Messages that are guarded, where they differ, are logged alike and disarm the
    filter alike. -/
theorem sendMessageString_agree {a b : QString} {oa ob : Outbox}
    (halike : Alike cfg secretA secretB a b)
    (harmed : oa.filterPasswordFromLogin = ob.filterPasswordFromLogin)
    (hguard : a ≠ b → cfg.logsRaw = true →
      GuardsLogin cfg secretA secretB oa.filterPasswordFromLogin a) :
    armedAfter cfg a.trimmed oa.filterPasswordFromLogin
        = armedAfter cfg b.trimmed ob.filterPasswordFromLogin ∧
      rawFsdMessages (sendMessageString cfg a oa).2
        = rawFsdMessages (sendMessageString cfg b ob).2 := by
  rw [sendMessageString_log, sendMessageString_log, ← harmed]
  by_cases heq : a = b
  · subst heq
    exact ⟨rfl, rfl⟩
  rcases halike with hsame | ⟨withToken, rfl, rfl⟩
  · exact absurd hsame heq
  by_cases hlogs : cfg.logsRaw = true
  · rcases hguard heq hlogs withToken rfl with hsame | ⟨hon, hA, hB⟩
    · exact absurd (congrArg (loginMessage cfg) hsame) heq
    -- Both logins are filtered, and are the same without their passwords.
    have hlogin : ∀ password, QString.startsWith (loggedLogin cfg password) "#AP" := by
      intro password
      simp [QString.startsWith, loggedLogin, QString.join]
    rw [loginMessage_trimmed cfg hA, loginMessage_trimmed cfg hB]
    refine ⟨?_, ?_⟩
    · simp only [armedAfter, hlogin]
    · rw [if_pos ⟨hlogs, loginMessage_ne_nil cfg _⟩, if_pos ⟨hlogs, loginMessage_ne_nil cfg _⟩,
        loggedText, loggedText, if_pos ⟨hon, hlogin _⟩, if_pos ⟨hon, hlogin _⟩,
        filterPassword_login cfg hA, filterPassword_login cfg hB]
  · rw [if_neg fun h => hlogs h.1, if_neg fun h => hlogs h.1]
    refine ⟨?_, rfl⟩
    simp [armedAfter, Bool.eq_false_iff.mpr hlogs]

theorem sendAll_queue (messages : List QString) (o : Outbox) :
    (sendAll cfg messages o).1.queuedFsdMessages = o.queuedFsdMessages := by
  induction messages generalizing o with
  | nil => rfl
  | cons message messages ih =>
      simp [sendAll, ih, sendMessageString_state]

/-- Guarded batches are logged alike. -/
theorem sendAll_agree {as bs : List QString}
    (halike : List.Forall₂ (Alike cfg secretA secretB) as bs)
    (oa ob : Outbox) (harmed : oa.filterPasswordFromLogin = ob.filterPasswordFromLogin)
    (hguard : cfg.logsRaw = true → GuardsLogins cfg secretA secretB oa.filterPasswordFromLogin as) :
    (sendAll cfg as oa).1.filterPasswordFromLogin = (sendAll cfg bs ob).1.filterPasswordFromLogin ∧
      rawFsdMessages (sendAll cfg as oa).2 = rawFsdMessages (sendAll cfg bs ob).2 := by
  induction halike generalizing oa ob with
  | nil => exact ⟨harmed, rfl⟩
  | @cons a b as bs hab _ ih =>
      rcases sendMessageString_agree cfg secretA secretB hab harmed
          (fun _ hlogs => (hguard hlogs).1) with ⟨hafter, hlog⟩
      have hnext : (sendMessageString cfg a oa).1.filterPasswordFromLogin
          = (sendMessageString cfg b ob).1.filterPasswordFromLogin := by
        simpa only [sendMessageString_state] using hafter
      have hrest := ih _ _ hnext fun hlogs => by
        simpa only [sendMessageString_state] using (hguard hlogs).2
      simp only [rawFsdMessages] at hlog hrest
      simp only [sendAll, rawFsdMessages, List.filterMap_append]
      exact ⟨hrest.1, by rw [hlog, hrest.2]⟩

/-- Where an action does not tell the two passwords apart in the log: the logins
    that are sent are guarded. The queue is what is sent by the timer, and a
    login is sent at once in a unit test. -/
def KeepsSecret (o : Outbox) : Action → Prop
  | .sendQueued => cfg.logsRaw = true →
    GuardsLogins cfg secretA secretB o.filterPasswordFromLogin
      (o.queuedFsdMessages.take (sendCount o.queuedFsdMessages.length))
  | .login withToken => cfg.unitTestMode = true →
    GuardsLogin cfg secretA secretB o.filterPasswordFromLogin
      (loginMessage cfg (secretA.loginPassword withToken))
  | _ => True

/-- Two outboxes that differ in the logins they hold. -/
structure SameButLogins (oa ob : Outbox) : Prop where
  armed : oa.filterPasswordFromLogin = ob.filterPasswordFromLogin
  queue : List.Forall₂ (Alike cfg secretA secretB) oa.queuedFsdMessages ob.queuedFsdMessages

variable {cfg secretA secretB}

/-- Two messages that are alike stay so in the queue, and in the log where they
    are sent at once. -/
theorem enqueue_agree {a b : QString} {oa ob : Outbox}
    (h : SameButLogins cfg secretA secretB oa ob) (halike : Alike cfg secretA secretB a b)
    (hguard : a ≠ b → cfg.unitTestMode = true →
      GuardsLogin cfg secretA secretB oa.filterPasswordFromLogin a) :
    SameButLogins cfg secretA secretB (enqueue cfg a oa).1 (enqueue cfg b ob).1 ∧
      rawFsdMessages (enqueue cfg a oa).2 = rawFsdMessages (enqueue cfg b ob).2 := by
  by_cases htest : cfg.unitTestMode = true
  · rcases sendMessageString_agree cfg secretA secretB halike h.armed
      (fun hne _ => hguard hne htest) with ⟨hafter, hlog⟩
    rw [enqueue, enqueue, if_pos htest, if_pos htest]
    refine ⟨⟨?_, ?_⟩, hlog⟩
    · simpa only [sendMessageString_state] using hafter
    · simpa only [sendMessageString_state] using h.queue
  · rw [enqueue, enqueue, if_neg htest, if_neg htest]
    exact ⟨⟨h.armed, List.rel_append h.queue (List.Forall₂.cons halike List.Forall₂.nil)⟩, rfl⟩

/-- Whatever the outboxes do, they stay the same but for the logins, and log the
    same. -/
theorem perform_agree {oa ob : Outbox} {action : Action}
    (hkeeps : KeepsSecret cfg secretA secretB oa action)
    (h : SameButLogins cfg secretA secretB oa ob) :
    SameButLogins cfg secretA secretB (perform cfg secretA oa action).1
        (perform cfg secretB ob action).1 ∧ rawFsdMessages (perform cfg secretA oa action).2
        = rawFsdMessages (perform cfg secretB ob action).2 := by
  cases action with
  -- Most actions write neither to the log nor to the queue.
  | emit | closeTransport | connectToHost | requestToken => exact ⟨h, rfl⟩
  | clearQueue => exact ⟨⟨h.armed, List.Forall₂.nil⟩, rfl⟩
  | filterPassword => exact ⟨⟨rfl, h.queue⟩, rfl⟩
  | rawReceived line =>
      simp only [perform, emitRawFsdMessage_log, emitRawFsdMessage_state, h.armed]
      exact ⟨⟨rfl, h.queue⟩, trivial⟩
  | direct message =>
      simp only [perform, sendMessageString_log, sendMessageString_state, h.armed]
      exact ⟨⟨rfl, h.queue⟩, trivial⟩
  | queue message => exact enqueue_agree h (Or.inl rfl) fun hne => absurd rfl hne
  | login withToken =>
      -- The two logins differ in the secret only, and are only queued.
      have hlogin : Alike cfg secretA secretB (loginMessage cfg (secretA.loginPassword withToken))
          (loginMessage cfg (secretB.loginPassword withToken)) := Or.inr ⟨withToken, rfl, rfl⟩
      rcases enqueue_agree h hlogin (fun _ => hkeeps) with ⟨hsent, hlog⟩
      simp only [perform, sendLogin]
      split
      · rcases enqueue_agree hsent (Or.inl (Eq.refl (simDataRequest cfg)))
          (fun hne => absurd rfl hne) with ⟨hquery, hlog'⟩
        simp only [rawFsdMessages] at hlog hlog'
        refine ⟨hquery, ?_⟩
        rw [rawFsdMessages, rawFsdMessages, List.filterMap_append, List.filterMap_append, hlog,
          hlog']
      · exact ⟨hsent, hlog⟩
  | sendQueued =>
      -- The queues are of the same length, so the same number of messages is sent.
      have hlength := h.queue.length_eq
      simp only [perform, sendQueuedMessages]
      by_cases hempty : oa.queuedFsdMessages = []
      · have hempty' : ob.queuedFsdMessages = [] := by
          rw [← List.length_eq_zero_iff, ← hlength, hempty]
          rfl
        rw [if_pos hempty, if_pos hempty']
        exact ⟨h, rfl⟩
      · have hempty' : ob.queuedFsdMessages ≠ [] := by
          rw [← List.length_pos_iff, ← hlength, List.length_pos_iff]
          exact hempty
        rw [if_neg hempty, if_neg hempty', ← hlength]
        have hsent := sendAll_agree cfg secretA secretB
          (List.forall₂_take (sendCount oa.queuedFsdMessages.length) h.queue)
          { oa with queuedFsdMessages :=
            oa.queuedFsdMessages.drop (sendCount oa.queuedFsdMessages.length) }
          { ob with queuedFsdMessages :=
            ob.queuedFsdMessages.drop (sendCount oa.queuedFsdMessages.length) } h.armed hkeeps
        refine ⟨⟨hsent.1, ?_⟩, hsent.2⟩
        rw [sendAll_queue, sendAll_queue]
        exact List.forall₂_drop _ h.queue

/-- The log does not depend on the password, in every run in which every login
    that is sent is guarded. -/
theorem rawFsdMessages_agree (table : List (QString × MessageType)) (events : List Event)
    (hrun : (outbox cfg secretA).AllSteps (KeepsSecret cfg secretA secretB) {}
      ((core cfg table).run (.ok {}) events).2) :
    rawFsdMessages ((client cfg secretA table).run (.ok {}, {}) events).2
      = rawFsdMessages ((client cfg secretB table).run (.ok {}, {}) events).2 := by
  rw [client_run, client_run]
  exact (Machine.run_agree (outbox cfg secretA) (outbox cfg secretB) Output.raw?
    (KeepsSecret cfg secretA secretB) (SameButLogins cfg secretA secretB)
    (fun _ _ _ hkeeps hsame => perform_agree hkeeps hsame) _ {} {} hrun
    ⟨rfl, List.Forall₂.nil⟩).2

/-- The login of a pilot, sent by the timer. -/
theorem rawFsdMessages_agree_login :
    rawFsdMessages ((client classicPilot (.ofPassword "swordfish") messageTypeMapping).run
        (.ok {}, {}) (connecting ++ [.sendTimer])).2
      = rawFsdMessages ((client classicPilot (.ofPassword "qwerty") messageTypeMapping).run
        (.ok {}, {}) (connecting ++ [.sendTimer])).2 := by
  have hactions : ((core classicPilot messageTypeMapping).run (.ok {})
      (connecting ++ [.sendTimer])).2
        = [.clearQueue, .filterPassword, .emit (.connectionStatusChanged .disconnected .connecting),
          .connectToHost "fsd.example", .clearQueue, .login false,
          .emit (.connectionStatusChanged .connecting .connected), .sendQueued] := by
    decide +kernel
  have hfilterable : ∀ password : QString, password ≠ [] → ':' ∉ password →
      Filterable classicPilot password := fun _ hne hcolon =>
    ⟨rfl, by decide, by decide, hne, hcolon, by decide, by decide, by decide, by decide⟩
  refine rawFsdMessages_agree messageTypeMapping _ ?_
  refine ⟨trivial, trivial, trivial, trivial, trivial, (nomatch ·), trivial, ?_, trivial⟩
  refine fun _ => ⟨fun withToken _ => Or.inr ⟨rfl, ?_, ?_⟩, trivial⟩
  · cases withToken <;> exact hfilterable _ (by decide) (by decide)
  · cases withToken <;> exact hfilterable _ (by decide) (by decide)

/-- An observer's login is logged with its password, and so is a pilot's behind
    a received line that looks like a login. -/
theorem password_logged :
    let observer := { classicPilot with loginMode := .observer }
    let spoofed : Event := .lineReceived quietEnv "#APX".toList
    rawFsdMessages ((client observer (.ofPassword "swordfish".toList) messageTypeMapping).run
          (.ok {}, {}) (connecting ++ [.sendTimer])).2
        = ["FSD Sent=>#AADLH1:SERVER:Pilot EDDF:1234567:swordfish:1:9".toList] ∧
      rawFsdMessages ((client observer (.ofPassword "qwerty".toList) messageTypeMapping).run
          (.ok {}, {}) (connecting ++ [.sendTimer])).2
        = ["FSD Sent=>#AADLH1:SERVER:Pilot EDDF:1234567:qwerty:1:9".toList] ∧
      rawFsdMessages ((client classicPilot (.ofPassword "swordfish".toList)
          messageTypeMapping).run (.ok {}, {}) (connecting ++ [spoofed, .sendTimer])).2
        ≠ rawFsdMessages ((client classicPilot (.ofPassword "qwerty".toList)
          messageTypeMapping).run (.ok {}, {}) (connecting ++ [spoofed, .sendTimer])).2 := by
  decide +kernel

end NeoSwift.Fsd
