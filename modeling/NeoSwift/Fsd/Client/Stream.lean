import NeoSwift.Fsd.Client.Receive
import NeoSwift.Fsd.Wire

/-!
# Messages over a stream

From the message one client sends to the message another one reads, with all that is
in between: the fields are joined and written as a line, the lines become bytes, the
bytes come in pieces that have nothing to do with the lines, and the lines are found
again, read as text, taken apart and read as messages. This holds for both ways lines
come to a client, as long as the client does not close its connection on one of them.

## Main definitions

* `SentMessage`: A message that can be sent, whatever its type.
* `Reads`: A line is read as a message.

## Theorems

* `lines_sent`: The lines of the stream are the messages that were sent.
* `messages_arrive`: Each of them is read as it was sent, in the same order.
-/

namespace NeoSwift.Fsd

open LineFraming

/-- A text on one line that consists of characters of Latin-1. -/
def Plain (text : QString) : Prop := ∀ c ∈ text, c.toNat < 256 ∧ c ≠ '\n'

theorem plain_of_all {text : QString}
    (h : text.all (fun c => decide (c.toNat < 256 ∧ c ≠ '\n')) = true) : Plain text :=
  fun c hc => of_decide_eq_true (List.all_eq_true.mp h c hc)

/-- A message in range that can be read from its line. -/
structure SentMessage where
  kind : MessageKind
  message : kind.Carrier
  inRange : Message.InRange message
  fitsLine : FitsLine message
  plain : Plain (payload message)

/-- `QStringEncoder`, for the codec of a server where none is set up. What it has no byte
    for becomes a question mark. -/
def encodeLatin1 (text : QString) : QByteArray :=
  text.map fun c => if c.toNat < 256 then UInt8.ofNat c.toNat else 63

/-- The bytes of the line of a message. -/
def SentMessage.bytes (sent : SentMessage) : QByteArray :=
  encodeLatin1 (messageToFSDString sent.message)

/-- A line is read as a message of its type, whatever the order of the table. -/
def Reads (table : List (QString × MessageType)) (line : QByteArray) (sent : SentMessage) : Prop :=
  ∃ tokens, parseLine table (Decoder.latin1.decode () line).2
      = .message sent.kind.messageType tokens ∧
    (∀ c, sent.kind.packet = some c → customPacket tokens = .ok c) ∧
    fromTokens tokens = .ok sent.message

theorem decode_encodeLatin1 {text : QString} (h : ∀ c ∈ text, c.toNat < 256) :
    (Decoder.latin1.decode () (encodeLatin1 text)).2 = text := by
  simp only [Decoder.latin1, encodeLatin1, List.map_map]
  refine (List.map_congr_left fun c hc => ?_).trans (List.map_id text)
  simp [if_pos (h c hc), Nat.mod_eq_of_lt (h c hc)]

/-- A prefix of the table is plain and not blank. -/
theorem plain_pdu (k : MessageKind) : Plain (pdu k.Carrier) ∧
    (encodeLatin1 (pdu k.Carrier)).any (fun b => !isSpaceByte b) = true := by
  refine ⟨plain_of_all ?_, ?_⟩ <;> cases k <;> decide

theorem newline_notMem_encodeLatin1 {text : QString} (h : Plain text) :
    newline ∉ encodeLatin1 text := by
  intro hmem
  rcases List.mem_map.mp hmem with ⟨c, hc, heq⟩
  rw [if_pos (h c hc).1] at heq
  have hnat := congrArg UInt8.toNat heq
  rw [UInt8.toNat_ofNat', Nat.mod_eq_of_lt (h c hc).1] at hnat
  refine (h c hc).2 ?_
  rw [← Char.ofNat_toNat c, hnat]
  rfl

namespace SentMessage

variable (sent : SentMessage)

/-- The line up to the line end. -/
theorem plain_line : Plain (pdu sent.kind.Carrier ++ payload sent.message ++ ['\r']) := by
  intro c hc
  rcases List.mem_append.mp hc with hc | hc
  · rcases List.mem_append.mp hc with hc | hc
    · exact (plain_pdu sent.kind).1 c hc
    · exact sent.plain c hc
  · rw [List.mem_singleton.mp hc]
    decide

theorem messageToFSDString_eq : messageToFSDString sent.message
    = pdu sent.kind.Carrier ++ payload sent.message ++ ['\r'] ++ ['\n'] := by
  rw [messageToFSDString]
  simp only [List.append_assoc]
  rfl

theorem bytes_eq : ∃ body, sent.bytes = body ++ [newline] ∧ newline ∉ body := by
  refine ⟨_, ?_, newline_notMem_encodeLatin1 sent.plain_line⟩
  rw [bytes, messageToFSDString_eq, encodeLatin1, List.map_append]
  rfl

theorem isKept_bytes : isKept sent.bytes = true := by
  rcases List.any_eq_true.mp (plain_pdu sent.kind).2 with ⟨b, hb, hspace⟩
  rw [isKept, isBlank, Bool.not_eq_true', List.all_eq_false]
  refine ⟨b, ?_, by simpa using hspace⟩
  rw [bytes, messageToFSDString_eq, encodeLatin1, List.map_append, List.map_append, List.map_append]
  exact List.mem_append_left _ (List.mem_append_left _ (List.mem_append_left _ hb))

theorem reads_bytes {table : List (QString × MessageType)}
    (hperm : table.Perm messageTypeMapping) : Reads table sent.bytes sent := by
  have htext : (Decoder.latin1.decode () sent.bytes).2 = messageToFSDString sent.message := by
    refine decode_encodeLatin1 fun c hc => ?_
    rw [messageToFSDString_eq] at hc
    rcases List.mem_append.mp hc with hc | hc
    · exact (sent.plain_line c hc).1
    · rw [List.mem_singleton.mp hc]
      decide
  refine ⟨Message.fields sent.message, ?_, ?_, ?_⟩
  · rw [htext]
    exact parseLine_messageToFSDString hperm sent.kind sent.message sent.fitsLine
  · exact fun c hc => sent.kind.customPacket_fields sent.message hc
  · exact Message.fromTokens_fields sent.message sent.inRange sent.fitsLine.colon_notMem

end SentMessage

/-- The lines of the stream are the messages that were sent, none of them is blank, and
    nothing is left over. -/
theorem lines_sent (sent : List SentMessage) :
    lines newline (sent.map SentMessage.bytes).flatten = sent.map SentMessage.bytes ∧
      (sent.map SentMessage.bytes).filter isKept = sent.map SentMessage.bytes ∧
      remainder newline (sent.map SentMessage.bytes).flatten = [] := by
  have hlines := lines_flatten newline (sent.map SentMessage.bytes) fun l hl => by
    rcases List.mem_map.mp hl with ⟨m, _, rfl⟩
    exact m.bytes_eq
  refine ⟨hlines.1, List.filter_eq_self.mpr fun l hl => ?_, hlines.2⟩
  rcases List.mem_map.mp hl with ⟨m, _, rfl⟩
  exact m.isKept_bytes

/-- Whatever messages are sent, whichever way the client gets them and however the stream
    is cut on the way: they are read as they were sent, in the same order, and nothing is
    left in the buffer. Over TCP this takes the scheduled reads, in any order. -/
theorem messages_arrive (cfg cfgTcp : Config) (secret : Secret)
    (table : List (QString × MessageType)) (hperm : table.Perm messageTypeMapping)
    (env envTcp : ℕ → Env) (r₀ : Receiver Unit) (sent : List SentMessage)
    (frames : List QByteArray) (events : List (PacedEvent UInt8))
    (hframes : frames.flatten = (sent.map SentMessage.bytes).flatten)
    (hevents : arrived events = (sent.map SentMessage.bytes).flatten) :
    let web := (readDataFromWebSocket cfg secret table .latin1 env).run (r₀, []) frames
    let socket := readDataFromSocket cfgTcp secret table .latin1 envTcp
    let tcp := socket.run ⟨r₀, [], []⟩ events
    (ClosesOn cfg secret table .latin1 env r₀ (sent.map SentMessage.bytes) = false →
      List.Forall₂ (Reads table) web.2 sent ∧ web.1.2 = []) ∧
    (ClosesOn cfgTcp secret table .latin1 envTcp r₀ (sent.map SentMessage.bytes) = false →
      ∀ reads, socket.AllSteps Paced.Runs tcp.1 reads →
        tcp.1.pending newline ≤ reads.length →
        let done := socket.run ⟨r₀, [], []⟩ (events ++ reads)
        List.Forall₂ (Reads table) done.2 sent ∧ done.1.buffer = [] ∧ done.1.scheduled = []) := by
  intro web socket tcp
  rcases lines_sent sent with ⟨hlines, hkept, hrem⟩
  -- Line by line, what was sent is read.
  have hreads : List.Forall₂ (Reads table) (sent.map SentMessage.bytes) sent := by
    rw [List.forall₂_map_left_iff]
    exact List.forall₂_same.mpr fun m _ => m.reads_bytes hperm
  constructor
  · intro hopen
    have hweb := eager_run newline isKept (lineConsumer cfg secret table .latin1 env) r₀ frames
    rw [hframes, hlines, hkept, hrem] at hweb
    rcases hweb.2 hopen with ⟨hout, hbuffer⟩
    exact ⟨hout ▸ hreads, hbuffer⟩
  · intro hopen reads hruns hlength
    have htcp := paced_run newline (lineConsumer cfgTcp secret table .latin1 envTcp) maxLines
      newMaxLines r₀ events reads hruns hlength
    rw [hevents, hlines, hrem] at htcp
    rcases htcp with ⟨hdrained, -, htcp⟩
    rcases htcp hopen with ⟨hout, hbuffer⟩
    exact ⟨hout ▸ hreads, hbuffer, hdrained⟩

/-- A ping of the server. -/
def serverPing : SentMessage where
  kind := .ping
  message := Ping.create "SERVER" "DLH1" "12"
  inRange := trivial
  fitsLine := ⟨by decide, QString.notSpace_of_all (by decide), QString.notSpace_of_all (by decide)⟩
  plain := plain_of_all (by decide)

/-- Two pings in three pieces over a WebSocket; and in two over TCP, where they are read
    after the last piece. -/
theorem messages_arrive_pings :
    let web := readDataFromWebSocket webPilot (.ofPassword []) messageTypeMapping .latin1
      (fun _ => quietEnv)
    let socket := readDataFromSocket classicPilot (.ofPassword []) messageTypeMapping .latin1
      (fun _ => quietEnv)
    List.Forall₂ (Reads messageTypeMapping) (web.run (connectedReceiver, [])
        [bytesOf "$PISER", bytesOf "VER:DLH1:12\r\n$PISERVER:DLH1:12\r", bytesOf "\n"]).2
        [serverPing, serverPing] ∧
      List.Forall₂ (Reads messageTypeMapping) (socket.run ⟨connectedReceiver, [], []⟩
        ([.arrive (bytesOf "$PISERVER:DLH1:12\r\n$PI"), .arrive (bytesOf "SERVER:DLH1:12\r\n")]
          ++ List.replicate 4 (.read 0))).2 [serverPing, serverPing] := by
  have h := messages_arrive webPilot classicPilot (.ofPassword []) messageTypeMapping
    (List.Perm.refl _) (fun _ => quietEnv) (fun _ => quietEnv) connectedReceiver
    [serverPing, serverPing]
    [bytesOf "$PISER", bytesOf "VER:DLH1:12\r\n$PISERVER:DLH1:12\r", bytesOf "\n"]
    [.arrive (bytesOf "$PISERVER:DLH1:12\r\n$PI"), .arrive (bytesOf "SERVER:DLH1:12\r\n")]
    (by decide +kernel) (by decide +kernel)
  exact ⟨(h.1 (by decide +kernel)).1, (h.2 (by decide +kernel) (List.replicate 4 (.read 0))
    (runs_first newline _ maxLines newMaxLines _ 4) (by decide +kernel)).1⟩

end NeoSwift.Fsd
