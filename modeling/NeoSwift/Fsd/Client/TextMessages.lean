import NeoSwift.Aviation.Callsign
import NeoSwift.Fsd.Message.Exchange

/-!
# Text Messages

Text messages go to a callsign or to frequencies, and both are written in the receiver. A
frequency is written in kHz above 100000 with `@` in front, and several are joined with
`&`. The text is the last field of its line and may have the separator in it: it is split
there and joined again.

So nothing of a message gets lost, as long as the sender and a private receiver have no
separator in them, and a private receiver is not written like a frequency. Callsigns have
neither. Frequencies are 32-bit integers, which wrap around where they do not fit.

## Main definitions

* `sendRadioMessage`, `sendPrivateMessage`: The messages that are sent.
* `receiveLine`: The message that is received.

## Theorems

* `receiveLine_create`: Sender, receiver and text come back from the line.
* `notMem_unifyCallsign`: The characters callsigns do not have.
* `frequencies_create`: The frequencies come back from the receiver.
* `text_message_comes_back`: What comes back of a radio and of a private message.
-/

namespace NeoSwift.Fsd

open Aviation (Callsign Unicode TypeHint)

/-- The receivers of a radio message. -/
def radioReceiver (frequencieskHz : List Int32) : QString :=
  QString.join (frequencieskHz.map fun frequency =>
    "@" ++ QString.number (frequency - 100000).toInt) "&"

def sendRadioMessage (ownCallsign : QString) (frequencieskHz : List Int32) (message : QString) :
    TextMessage :=
  TextMessage.create ownCallsign (radioReceiver frequencieskHz) message

/-- `sendTextMessages`, for one private message. -/
def sendPrivateMessage (ownCallsign : QString) (recipient : Callsign) (message : QString) :
    TextMessage :=
  TextMessage.create ownCallsign recipient.getFsdCallsignString message

/-- The line of a message, split and read. -/
def receiveLine (m : TextMessage) : Except Fault TextMessage :=
  TextMessage.fromTokens ((QString.join m.toTokens ":").split ':')

theorem TextMessage.toTokens_create (sender receiver message : QString) :
    (TextMessage.create sender receiver message).toTokens = [sender, receiver, message] := by
  unfold TextMessage.create TextMessage.toTokens
  split
  · rfl
  · rfl

/-- Only the text may have the separator in it. -/
theorem receiveLine_create {sender receiver : QString} (message : QString)
    (hsender : ':' ∉ sender) (hreceiver : ':' ∉ receiver) :
    receiveLine (TextMessage.create sender receiver message)
      = .ok (TextMessage.create sender receiver message) := by
  have hline : QString.join [sender, receiver, message] ":"
      = sender ++ ':' :: (receiver ++ ':' :: message) := by
    unfold QString.join
    rw [List.intercalate_cons_cons, List.intercalate_cons_cons, List.intercalate_singleton,
      List.append_assoc, List.append_assoc]
    rfl
  -- The message is split as well, and joined again by the reader.
  have hsplit : (sender ++ ':' :: (receiver ++ ':' :: message)).split ':'
      = sender :: receiver :: message.split ':' := by
    rw [QString.split_append_cons hsender, QString.split_append_cons hreceiver]
  have hjoin : QString.join (message.split ':') ":" = message :=
    List.intercalate_splitOn ':'
  have hlen : 3 ≤ (sender :: receiver :: message.split ':').length := by
    have hpos := List.length_pos_iff.mpr (List.splitOn_ne_nil ':' message)
    simp only [List.length_cons]
    unfold QString.split
    omega
  unfold receiveLine TextMessage.fromTokens
  rw [TextMessage.toTokens_create, hline, hsplit, guarded_of_le hlen, List.drop_succ_cons,
    List.drop_succ_cons, List.drop_zero]
  dsimp only
  rw [hjoin]
  rfl

/-! ## Receivers -/

theorem notMem_number {c : Char} (hminus : c ≠ '-') (hdigit : ∀ d < 16, c ≠ d.digitChar) (n : ℤ) :
    c ∉ QString.number n := by
  intro hc
  rcases Numeral.mem_intText (by omega) (by omega) hc with hsign | ⟨d, hd, hchar⟩
  · exact hminus hsign
  · exact hdigit d hd hchar

/-- A frequency has no separators in it. -/
theorem notMem_frequency {c : Char} (hat : c ≠ '@') (hminus : c ≠ '-')
    (hdigit : ∀ d < 16, c ≠ d.digitChar) (n : ℤ) : c ∉ "@" ++ QString.number n := by
  intro hc
  rcases List.mem_append.mp hc with hfirst | hnumber
  · exact hat (List.mem_singleton.mp hfirst)
  · exact notMem_number hminus hdigit n hnumber

theorem split_radioReceiver {frequencieskHz : List Int32} (hne : frequencieskHz ≠ []) :
    (radioReceiver frequencieskHz).split '&'
      = frequencieskHz.map fun frequency => "@" ++ QString.number (frequency - 100000).toInt := by
  refine QString.split_join ?_ ?_
  · rw [Ne, List.map_eq_nil_iff]
    exact hne
  · intro receiver hreceiver
    rcases List.mem_map.mp hreceiver with ⟨frequency, -, rfl⟩
    exact notMem_frequency (by decide) (by decide) (by decide) _

theorem colon_notMem_radioReceiver (frequencieskHz : List Int32) :
    ':' ∉ radioReceiver frequencieskHz := by
  intro hc
  rcases QString.mem_join hc with hsep | ⟨receiver, hreceiver, hmem⟩
  · exact nomatch hsep
  · rcases List.mem_map.mp hreceiver with ⟨frequency, -, rfl⟩
    exact notMem_frequency (by decide) (by decide) (by decide) _ hmem

theorem startsWith_radioReceiver {frequencieskHz : List Int32} (hne : frequencieskHz ≠ []) :
    (radioReceiver frequencieskHz).startsWith "@" = true := by
  rcases List.exists_cons_of_ne_nil hne with ⟨frequency, rest, rfl⟩
  unfold radioReceiver QString.join
  rw [List.map_cons]
  cases rest with
  | nil =>
      rfl
  | cons next rest =>
      rfl

/-- The frequencies come back in their order. -/
theorem frequencies_create {frequencieskHz : List Int32} (hne : frequencieskHz ≠ [])
    (sender message : QString) :
    TextMessage.create sender (radioReceiver frequencieskHz) message
      = { sender, receiver := radioReceiver frequencieskHz, message, type := .radioMessage,
          frequencies := frequencieskHz } := by
  have hread : ∀ frequency : Int32,
      QString.toInt (("@" ++ QString.number (frequency - 100000).toInt).drop 1) + 100000
        = frequency := by
    intro frequency
    have hdrop : ("@" ++ QString.number (frequency - 100000).toInt).drop 1
        = QString.number (frequency - 100000).toInt := rfl
    rw [hdrop, QString.toInt_number, Int32.sub_add_cancel]
  unfold TextMessage.create
  rw [if_pos (startsWith_radioReceiver hne), split_radioReceiver hne, List.map_map]
  congr 1
  refine (List.map_congr_left fun frequency _ => ?_).trans (List.map_id _)
  exact hread frequency

/-! ## Callsigns -/

/-- Callsigns have letters, numbers, underscores and hyphens. -/
theorem notMem_unifyCallsign (u : Unicode) {c : Char} (hletter : u.isLetterOrNumber c = false)
    (hunderscore : c ≠ '_') (hhyphen : c ≠ '-') (text : QString) (hint : TypeHint) :
    c ∉ Callsign.unifyCallsign u text hint := by
  have hstrict : ∀ s : QString, c ∉ s.filter (fun c => u.isLetterOrNumber c || c == '_') := by
    intro s hc
    have hpasses := (List.mem_filter.mp hc).2
    rw [hletter, Bool.false_or, beq_iff_eq] at hpasses
    exact hunderscore hpasses
  have hhyphens : ∀ s : QString,
      c ∉ s.filter (fun c => u.isLetterOrNumber c || c == '_' || c == '-') := by
    intro s hc
    have hpasses := (List.mem_filter.mp hc).2
    rw [hletter, Bool.false_or, Bool.or_eq_true, beq_iff_eq, beq_iff_eq] at hpasses
    rcases hpasses with heq | heq
    · exact hunderscore heq
    · exact hhyphen heq
  -- Without a hint the callsign itself says which filter is used.
  cases hint with
  | atc => exact hhyphens _
  | aircraft => exact hstrict _
  | noHint =>
      unfold Callsign.unifyCallsign
      dsimp only
      split
      · exact hhyphens _
      · exact hstrict _

theorem mem_of_mem_trimmed {c : Char} {s : QString} (hc : c ∈ s.trimmed) : c ∈ s := by
  have hdropped := (List.dropWhile_sublist _).mem (List.mem_reverse.mp hc)
  exact (List.dropWhile_sublist _).mem (List.mem_reverse.mp hdropped)

theorem startsWith_singleton (s : QString) (c : Char) :
    s.startsWith [c] = true ↔ s.head? = some c := by
  unfold QString.startsWith
  cases s with
  | nil => simp
  | cons d s =>
      simp only [List.isPrefixOf_cons_cons, List.isPrefixOf_nil_left, Bool.and_true, beq_iff_eq,
        List.head?_cons, Option.some.injEq]
      exact eq_comm

/-- A callsign as it is sent is no frequency, and has no separator if it was set without. -/
theorem getFsdCallsignString_create (u : Unicode) (hcolon : u.isLetterOrNumber ':' = false)
    (hat : u.isLetterOrNumber '@' = false) {text : QString} (htext : ':' ∉ text) (hint : TypeHint) :
    ':' ∉ (Callsign.create u text hint).getFsdCallsignString ∧
      ¬(Callsign.create u text hint).getFsdCallsignString.startsWith "@" = true := by
  unfold Callsign.getFsdCallsignString Callsign.create
  split
  case isTrue hcoupled =>
    refine ⟨fun hc => htext (mem_of_mem_trimmed hc), fun hfirst => ?_⟩
    have hboth := ((startsWith_singleton _ '*').mp hcoupled).symm.trans
      ((startsWith_singleton _ '@').mp hfirst)
    cases hboth
  case isFalse =>
    refine ⟨notMem_unifyCallsign u hcolon (by decide) (by decide) text hint, fun hfirst => ?_⟩
    refine notMem_unifyCallsign u hat (by decide) (by decide) text hint ?_
    exact List.mem_of_mem_head? ((startsWith_singleton _ '@').mp hfirst)

/-- A radio message comes back with its sender, its frequencies and its text, and a private
    message with the callsign it was sent to. -/
theorem text_message_comes_back (u : Unicode) (hcolon : u.isLetterOrNumber ':' = false)
    (hat : u.isLetterOrNumber '@' = false) (own : QString) (hint : TypeHint) (message : QString) :
    (∀ frequencieskHz : List Int32, frequencieskHz ≠ [] → ∃ m : TextMessage,
      receiveLine (sendRadioMessage (Callsign.create u own hint).callsign frequencieskHz message)
        = .ok m ∧
      m.sender = (Callsign.create u own hint).callsign ∧ m.frequencies = frequencieskHz ∧
        m.type = .radioMessage ∧ m.message = message) ∧
    (∀ (recipient : QString) (recipientHint : TypeHint), ':' ∉ recipient → ∃ m : TextMessage,
      receiveLine (sendPrivateMessage (Callsign.create u own hint).callsign
        (Callsign.create u recipient recipientHint) message) = .ok m ∧
      m.sender = (Callsign.create u own hint).callsign ∧
        m.receiver = (Callsign.create u recipient recipientHint).getFsdCallsignString ∧
        m.type = .privateMessage ∧ m.frequencies = [] ∧ m.message = message) := by
  -- The own callsign has lost its separators when it was made.
  have hown : ':' ∉ (Callsign.create u own hint).callsign :=
    notMem_unifyCallsign u hcolon (by decide) (by decide) own hint
  constructor
  · intro frequencieskHz hne
    refine ⟨_, receiveLine_create message hown (colon_notMem_radioReceiver frequencieskHz), ?_⟩
    rw [frequencies_create hne]
    exact ⟨rfl, rfl, rfl, rfl⟩
  · intro recipient recipientHint hrecipient
    rcases getFsdCallsignString_create u hcolon hat hrecipient recipientHint with ⟨hfield, hprivate⟩
    refine ⟨_, receiveLine_create message hown hfield, ?_⟩
    unfold TextMessage.create
    rw [if_neg hprivate]
    exact ⟨rfl, rfl, rfl, rfl, rfl⟩

/-- A message with separators, to two frequencies and to a controller. -/
theorem text_message_comes_back_ascii :
    ∃ m n : TextMessage, receiveLine (sendRadioMessage "DLH1" [118000, 90000] "a:b::") = .ok m ∧
        m.frequencies = [118000, 90000] ∧ m.message = "a:b::" ∧
      receiveLine (sendPrivateMessage "DLH1"
        (Callsign.create Unicode.ascii "EDDF_TWR" .atc) ":a") = .ok n ∧
        n.receiver = "EDDF_TWR" ∧ n.message = ":a" := by
  rcases (text_message_comes_back Unicode.ascii (by decide) (by decide) "DLH1" .aircraft
    "a:b::").1 [118000, 90000] (List.cons_ne_nil _ _) with
    ⟨m, hradio, -, hfrequencies, -, hmessage⟩
  rcases (text_message_comes_back Unicode.ascii (by decide) (by decide) "DLH1" .aircraft
    ":a").2 "EDDF_TWR" .atc (by decide) with ⟨n, hprivate, -, hreceiver, -, -, htext⟩
  exact ⟨m, n, hradio, hfrequencies, hmessage, hprivate, hreceiver, htext⟩

end NeoSwift.Fsd
