import NeoSwift.Fsd.Client.Session
import NeoSwift.Lib.LineFraming
import NeoSwift.Qt.Bytes

/-!
# Receiving

The two ways lines come to the client. Over a WebSocket, a frame is appended to
a buffer and all its lines are handed over at once, blank ones left out. Over
plain TCP, the socket has the buffer, and a read hands over a limited number of
lines, blank ones too, and looks again a little later if it was stopped.

Both are readers of the framing library, with the client as the consumer. A
client that closes the transport while it handles a line loses what is left in
the buffer, and a client that ends in a fault takes no more lines.

## Main definitions

* `Decoder`: From bytes to text.
* `lineConsumer`: The client as a consumer of lines.
* `readDataFromWebSocket`, `readDataFromSocket`: The two paths.

## Theorems

* `receivePaths_lines`: What the paths hand over.
* `closing_line_drops_rest`: What follows a line that closes the transport in
  its frame is lost.
-/

namespace NeoSwift.Fsd

open LineFraming

/-- `QStringDecoder`, with what it keeps of the bytes it has seen. -/
structure Decoder (δ : Type) where
  decode : δ → QByteArray → δ × QString

/-- Every byte is a character. -/
def Decoder.latin1 : Decoder Unit where
  decode _ bytes := ((), bytes.map (fun b => Char.ofNat b.toNat))

/-- A client that receives lines, its decoder, and how many lines it has
    received. -/
structure Receiver (δ : Type) where
  client : Except Fault ClientState × Outbox
  decoder : δ
  received : ℕ

def newline : UInt8 := 10

/-- `isspace` of a byte. -/
def isSpaceByte (b : UInt8) : Bool := b == 32 || (9 ≤ b && b ≤ 13)

/-- A line of which `trimmed` leaves nothing. -/
def isBlank (line : QByteArray) : Bool := line.all isSpaceByte

/-- A line with something on it. -/
def isKept (line : QByteArray) : Bool := !isBlank line

variable {δ : Type} (cfg : Config) (secret : Secret) (table : List (QString × MessageType))
  (dec : Decoder δ) (env : ℕ → Env)

/-- The client as a consumer of lines. It takes the n-th line in the n-th
    environment, whatever that is. -/
def lineConsumer : Consumer (Receiver δ) UInt8 where
  take r line :=
    let decoded := dec.decode r.decoder line
    let done := (client cfg secret table).step r.client
      (.lineReceived (env r.received) decoded.2)
    ({ client := done.1, decoder := decoded.1, received := r.received + 1 },
      Output.closeTransport ∈ done.2 || !done.1.1.isOk)

/-- `readDataFromWebSocket`, and its buffer. -/
def readDataFromWebSocket : Machine (Receiver δ × QByteArray) QByteArray QByteArray :=
  eager newline isKept (lineConsumer cfg secret table dec env)

/-- `readDataFromSocket` reads at most this many lines and one more. -/
def maxLines : ℕ := 74

/-- The limit of the read that is scheduled after so many lines. -/
def newMaxLines (lines : ℕ) : ℕ := (qRound (12 / 10 * lines)).toNat

/-- `readDataFromSocketMaxLines`, the buffer of the socket, and the reads that
    are scheduled. -/
def readDataFromSocket :
    Machine (Paced (Receiver δ) UInt8) (PacedEvent UInt8) QByteArray :=
  paced newline (lineConsumer cfg secret table dec env) maxLines newMaxLines

/-- A client closes the transport on one of the lines, or ends in a fault. -/
def ClosesOn (r : Receiver δ) (lines : List QByteArray) : Bool :=
  ((lineConsumer cfg secret table dec env).feed r lines).2

/-- The lines up to the first one on which the client closes the transport. -/
def upToClosing (r : Receiver δ) (lines : List QByteArray) : List QByteArray :=
  (lineConsumer cfg secret table dec env).untilClosed r lines

/-- What the two paths hand over of one stream, however it is cut: up to the first line
    that closes the transport, the lines of the stream, over a WebSocket without the
    blank ones. If no line closes it, these are all lines, and what is left stays in the
    buffer. Over TCP this begins with what the reads so far have handed over, and it is
    complete when the scheduled reads have run, which they have after finitely many of
    them, in any order. -/
theorem receivePaths_lines (cfgTcp : Config) (envTcp : ℕ → Env) (r₀ : Receiver δ)
    (frames : List QByteArray) (events : List (PacedEvent UInt8))
    (hstream : arrived events = frames.flatten) :
    let web := (readDataFromWebSocket cfg secret table dec env).run (r₀, []) frames
    let socket := readDataFromSocket cfgTcp secret table dec envTcp
    let tcp := socket.run ⟨r₀, [], []⟩ events
    let all := lines newline frames.flatten
    upToClosing cfg secret table dec env r₀ web.2
        = upToClosing cfg secret table dec env r₀ (all.filter isKept) ∧
      (ClosesOn cfg secret table dec env r₀ (all.filter isKept) = false →
        web.2 = all.filter isKept ∧ web.1.2 = remainder newline frames.flatten) ∧
      upToClosing cfgTcp secret table dec envTcp r₀ tcp.2
        <+: upToClosing cfgTcp secret table dec envTcp r₀ all ∧
      ∀ reads, socket.AllSteps Paced.Runs tcp.1 reads →
        tcp.1.pending newline ≤ reads.length →
        let done := socket.run ⟨r₀, [], []⟩ (events ++ reads)
        done.1.scheduled = [] ∧
          upToClosing cfgTcp secret table dec envTcp r₀ done.2
            = upToClosing cfgTcp secret table dec envTcp r₀ all ∧
          (ClosesOn cfgTcp secret table dec envTcp r₀ all = false →
            done.2 = all ∧ done.1.buffer = remainder newline frames.flatten) ∧
          (ClosesOn cfg secret table dec env r₀ (all.filter isKept) = false →
            ClosesOn cfgTcp secret table dec envTcp r₀ all = false →
            web.2 = done.2.filter isKept ∧ done.1.buffer = web.1.2) := by
  intro web socket tcp all
  -- Each path is a case of reading lines: the one at once, the other one when scheduled.
  have hweb := eager_run newline isKept (lineConsumer cfg secret table dec env) r₀ frames
  have hprefix := paced_prefix newline (lineConsumer cfgTcp secret table dec envTcp) maxLines
    newMaxLines r₀ events
  rw [hstream] at hprefix
  refine ⟨hweb.1, hweb.2, hprefix, fun reads hruns hlength => ?_⟩
  have hdone := paced_run newline (lineConsumer cfgTcp secret table dec envTcp) maxLines
    newMaxLines r₀ events reads hruns hlength
  rw [hstream] at hdone
  rcases hdone with ⟨hdrained, huntil, htcp⟩
  refine ⟨hdrained, huntil, htcp, fun hopen hopenTcp => ?_⟩
  rcases hweb.2 hopen with ⟨hlines, hbuffer⟩
  rcases htcp hopenTcp with ⟨hlinesTcp, hbufferTcp⟩
  exact ⟨hlines.trans (congrArg (List.filter isKept) hlinesTcp).symm, hbufferTcp.trans hbuffer.symm⟩

/-- The bytes of a text. -/
def bytesOf (text : String) : QByteArray := text.toList.map (fun c => UInt8.ofNat c.toNat)

/-- A connected client at the start of its stream. -/
def connectedReceiver : Receiver Unit :=
  { client := (.ok { connectionStatus := .connected }, {}), decoder := (), received := 0 }

/-- A pilot on a server that is reached over a WebSocket. -/
def webPilot : Config := { classicPilot with usesWebSocket := true }

/-- Two lines and the beginning of a third, in two cuts, over a WebSocket; and over TCP,
    where a read is still scheduled after the last piece. -/
theorem receivePaths_lines_three :
    let web := readDataFromWebSocket webPilot (.ofPassword []) messageTypeMapping .latin1
      (fun _ => quietEnv)
    let socket := readDataFromSocket classicPilot (.ofPassword []) messageTypeMapping .latin1
      (fun _ => quietEnv)
    let frames := [bytesOf "X\r\n\r", bytesOf "\nY\r\nZ"]
    let events := [.arrive (bytesOf "X\r"), .read 0, .arrive (bytesOf "\n\r\nY\r\nZ")]
    (web.run (connectedReceiver, []) frames).2 = [bytesOf "X\r\n", bytesOf "Y\r\n"] ∧
      (socket.run ⟨connectedReceiver, [], []⟩ (events ++ List.replicate 4 (.read 0))).2
        = [bytesOf "X\r\n", bytesOf "\r\n", bytesOf "Y\r\n"] := by
  intro web socket frames events
  have h := receivePaths_lines webPilot (.ofPassword []) messageTypeMapping .latin1
    (fun _ => quietEnv) classicPilot (fun _ => quietEnv) connectedReceiver frames events
    (by decide +kernel)
  have hdone := h.2.2.2 (List.replicate 4 (.read 0))
    (runs_first newline _ maxLines newMaxLines _ 4) (by decide +kernel)
  refine ⟨(h.2.1 ?_).1.trans ?_, (hdone.2.2.1 ?_).1.trans ?_⟩ <;> decide +kernel

/-- The line behind a kill request in the same frame is lost, and what follows it
    does not stay in the buffer; in a frame of its own the line is handed over. -/
theorem closing_line_drops_rest :
    let kill := bytesOf "$!!SERVER:DLH1:bye\n"
    let next := bytesOf "X\n"
    let rest := bytesOf "Y"
    let web := readDataFromWebSocket webPilot (.ofPassword []) messageTypeMapping .latin1
      (fun _ => quietEnv)
    (lines newline (kill ++ next ++ rest)).filter isKept = [kill, next] ∧
      (web.run (connectedReceiver, []) [kill ++ next ++ rest]).2 = [kill] ∧
      (web.run (connectedReceiver, []) [kill ++ next ++ rest]).1.2 = [] ∧
      (web.run (connectedReceiver, []) [kill, next ++ rest]).2 = [kill, next] := by
  decide +kernel

end NeoSwift.Fsd
