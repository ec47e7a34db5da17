import NeoSwift.Fsd.Message.Base

/-!
# Plane Information Messages

The custom pilot packets by which clients tell each other what aircraft they
fly. All have one PDU prefix and carry their kind in the third token.

The generic plane information is one token with as many `KEY=value` pairs as
are known, joined with the separator of the tokens themselves, so its line has
more fields than the message has tokens. The reader looks for the keys among
all fields behind the fourth.

## Main definitions

* `PlaneInfoRequest`, `PlaneInfoRequestFsinn`: Requests.
* `PlaneInformation`, `PlaneInformationFsinn`: Their answers.

Each has its `Message` instance with the round trip through the fields of its
line.
-/

namespace NeoSwift.Fsd

/-- `PlaneInfoRequest`. -/
structure PlaneInfoRequest extends MessageBase where
  deriving DecidableEq

namespace PlaneInfoRequest

def create (sender receiver : QString) : PlaneInfoRequest := { sender, receiver }

def toTokens (m : PlaneInfoRequest) : QStringList := [m.sender, m.receiver, "PIR"]

def fromTokens (tokens : QStringList) : Except Fault PlaneInfoRequest :=
  guarded 3 {} tokens do
    return create (← tokenAt tokens 0) (← tokenAt tokens 1)

end PlaneInfoRequest

instance : Message PlaneInfoRequest where
  pdu := "#SB"
  toTokens := PlaneInfoRequest.toTokens
  fromTokens := PlaneInfoRequest.fromTokens
  texts m := [m.sender, m.receiver]
  InRange _ := True
  colon_notMem m h := by
    simp [PlaneInfoRequest.toTokens, h]
  fromTokens_fields _ _ _ := rfl

/-- `PlaneInfoRequestFsinn`. -/
structure PlaneInfoRequestFsinn extends MessageBase where
  airlineIcao : QString := []
  aircraftIcao : QString := []
  aircraftIcaoCombinedType : QString := []
  sendMModelString : QString := []
  deriving DecidableEq

/-- The tokens of the two FSInn packets: four unused ones lie between the ICAO
    codes and the combined type. -/
def fsinnTokens (sender receiver kind airlineIcao aircraftIcao combinedType model : QString) :
    QStringList :=
  [sender, receiver, kind, "0", airlineIcao, aircraftIcao, [], [], [], [], combinedType, model]

theorem colon_notMem_fsinnTokens {sender receiver kind airlineIcao aircraftIcao combinedType
    model : QString} (hkind : ':' ∉ kind) (h : ∀ s ∈ [sender, receiver, airlineIcao, aircraftIcao,
      combinedType, model], ':' ∉ s) :
    ∀ t ∈ fsinnTokens sender receiver kind airlineIcao aircraftIcao combinedType model,
      ':' ∉ t := by
  simp [fsinnTokens, hkind, h]

namespace PlaneInfoRequestFsinn

def create (sender receiver airlineIcao aircraftIcao aircraftIcaoCombinedType
    sendMModelString : QString) : PlaneInfoRequestFsinn :=
  { sender, receiver, airlineIcao, aircraftIcao, aircraftIcaoCombinedType, sendMModelString }

def toTokens (m : PlaneInfoRequestFsinn) : QStringList :=
  fsinnTokens m.sender m.receiver "FSIPIR" m.airlineIcao m.aircraftIcao
    m.aircraftIcaoCombinedType m.sendMModelString

/-- The length check is an equation here. -/
def fromTokens (tokens : QStringList) : Except Fault PlaneInfoRequestFsinn :=
  if tokens.length ≠ 12 then .ok {}
  else do
    return create (← tokenAt tokens 0) (← tokenAt tokens 1) (← tokenAt tokens 4)
      (← tokenAt tokens 5) (← tokenAt tokens 10) (← tokenAt tokens 11)

end PlaneInfoRequestFsinn

instance : Message PlaneInfoRequestFsinn where
  pdu := "#SB"
  toTokens := PlaneInfoRequestFsinn.toTokens
  fromTokens := PlaneInfoRequestFsinn.fromTokens
  texts m := [m.sender, m.receiver, m.airlineIcao, m.aircraftIcao, m.aircraftIcaoCombinedType,
    m.sendMModelString]
  InRange _ := True
  colon_notMem _ h := colon_notMem_fsinnTokens (by decide) h
  fromTokens_fields _ _ _ := rfl

/-- `PlaneInformation`: the generic answer. -/
structure PlaneInformation extends MessageBase where
  aircraft : QString := []
  airline : QString := []
  livery : QString := []
  deriving DecidableEq

namespace PlaneInformation

def create (sender receiver aircraft airline livery : QString) : PlaneInformation :=
  { sender, receiver, aircraft, airline, livery }

/-- A pair `KEY=text` for a text that is not empty. -/
def pairOf (key text : QString) : QStringList := if text = [] then [] else [key ++ '=' :: text]

variable (m : PlaneInformation)

def pairs : QStringList :=
  pairOf "EQUIPMENT" m.aircraft ++ pairOf "AIRLINE" m.airline
    ++ pairOf "LIVERY" m.livery

def toTokens : QStringList :=
  [m.sender, m.receiver, "PI", "GEN", QString.join m.pairs ":"]

/-- The pairs are fields of their own; without any, the last field is empty. -/
def fields : QStringList :=
  [m.sender, m.receiver, "PI", "GEN"] ++ if m.pairs = [] then [[]] else m.pairs

/-- The text of a known key. -/
def setText (key text : QString) : PlaneInformation :=
  if key = "EQUIPMENT" then { m with aircraft := text }
  else if key = "AIRLINE" then { m with airline := text }
  else if key = "LIVERY" then { m with livery := text }
  else m

/-- One round of the loop over the fields. -/
def readPair (token : QString) : PlaneInformation :=
  match token.split '=' with
  | [key, text] => m.setText key text
  | _ => m

def fromTokens (tokens : QStringList) : Except Fault PlaneInformation :=
  guarded 5 {} tokens do
    let found := (tokens.drop 4).foldl readPair {}
    return create (← tokenAt tokens 0) (← tokenAt tokens 1) found.aircraft found.airline
      found.livery

/-- A key and a text without `=` are the two sides of their pair. -/
theorem split_pair {key text : QString} (hkey : '=' ∉ key) (htext : '=' ∉ text) :
    QString.split (key ++ '=' :: text) '=' = [key, text] := by
  have hjoin : key ++ '=' :: text = QString.join [key, text] ['='] := by
    simp [QString.join]
  rw [hjoin]
  refine QString.split_join (List.cons_ne_nil _ _) ?_
  intro f hf
  simp only [List.mem_cons, List.not_mem_nil, or_false] at hf
  rcases hf with rfl | rfl
  · exact hkey
  · exact htext

/-- A pair of the message sets the text of its key; a pair left out is the
    empty text. -/
theorem foldl_pairOf {key text : QString} (hkey : '=' ∉ key) (htext : '=' ∉ text) :
    (pairOf key text).foldl readPair m = if text = [] then m else m.setText key text := by
  unfold pairOf
  by_cases h : text = []
  · rw [if_pos h, if_pos h, List.foldl_nil]
  · rw [if_neg h, if_neg h, List.foldl_cons, List.foldl_nil, readPair, split_pair hkey htext]

/-- The loop over the pairs of a message collects its texts. -/
theorem foldl_pairs (haircraft : '=' ∉ m.aircraft) (hairline : '=' ∉ m.airline)
    (hlivery : '=' ∉ m.livery) :
    m.pairs.foldl readPair {}
      = { aircraft := m.aircraft, airline := m.airline, livery := m.livery } := by
  rw [pairs, List.foldl_append, List.foldl_append, foldl_pairOf _ (by decide) haircraft,
    foldl_pairOf _ (by decide) hairline, foldl_pairOf _ (by decide) hlivery]
  -- A text that is empty is the one the loop starts with.
  by_cases h1 : m.aircraft = [] <;> by_cases h2 : m.airline = [] <;>
    by_cases h3 : m.livery = [] <;> simp [h1, h2, h3, setText]

theorem five_le_length_fields : 5 ≤ m.fields.length := by
  unfold fields
  by_cases h : m.pairs = []
  · rw [if_pos h]
    exact le_refl 5
  · have hpos := List.length_pos_iff.mpr h
    rw [if_neg h, List.length_append]
    simp only [List.length_cons]
    omega

end PlaneInformation

instance : Message PlaneInformation where
  pdu := "#SB"
  toTokens := PlaneInformation.toTokens
  fromTokens := PlaneInformation.fromTokens
  texts m := [m.sender, m.receiver, m.aircraft, m.airline, m.livery]
  InRange m := '=' ∉ m.aircraft ∧ '=' ∉ m.airline ∧ '=' ∉ m.livery
  fields := PlaneInformation.fields
  join_fields m := by
    by_cases h : m.pairs = []
    · rw [PlaneInformation.fields, PlaneInformation.toTokens, h]
      rfl
    · rw [PlaneInformation.fields, PlaneInformation.toTokens, if_neg h]
      rcases List.exists_cons_of_ne_nil h with ⟨p, ps, hps⟩
      cases ps with
      | nil => simp [QString.join, List.intercalate, List.intersperse]
      | cons q ps => simp [QString.join, List.intercalate, List.intersperse]
  colon_notMem m h := by
    simp only [List.mem_cons, List.not_mem_nil, or_false, forall_eq_or_imp, forall_eq] at h
    rcases h with ⟨hsender, hreceiver, haircraft, hairline, hlivery⟩
    have hpair : ∀ key text : QString, ':' ∉ key → ':' ∉ text →
        ∀ t ∈ PlaneInformation.pairOf key text, ':' ∉ t := by
      intro key text hkey htext t ht
      unfold PlaneInformation.pairOf at ht
      split at ht
      · cases ht
      · rw [List.mem_singleton.mp ht, List.mem_append, List.mem_cons]
        exact not_or.mpr ⟨hkey, not_or.mpr ⟨by decide, htext⟩⟩
    have hpairs : ∀ t ∈ m.pairs, ':' ∉ t := by
      intro t ht
      simp only [PlaneInformation.pairs, List.mem_append] at ht
      rcases ht with (ht | ht) | ht
      · exact hpair _ _ (by decide) haircraft t ht
      · exact hpair _ _ (by decide) hairline t ht
      · exact hpair _ _ (by decide) hlivery t ht
    intro t ht
    simp only [PlaneInformation.fields, List.mem_append, List.mem_cons, List.not_mem_nil,
      or_false] at ht
    rcases ht with (rfl | rfl | rfl | rfl) | ht
    · exact hsender
    · exact hreceiver
    · decide
    · decide
    · split at ht
      · rw [List.mem_singleton.mp ht]
        exact List.not_mem_nil
      · exact hpairs t ht
  fromTokens_fields m hr _ := by
    rcases hr with ⟨haircraft, hairline, hlivery⟩
    have hfound : (m.fields.drop 4).foldl PlaneInformation.readPair {}
        = { aircraft := m.aircraft, airline := m.airline, livery := m.livery } := by
      rw [← PlaneInformation.foldl_pairs m haircraft hairline hlivery]
      unfold PlaneInformation.fields
      by_cases h : m.pairs = []
      · rw [h]
        rfl
      · rw [if_neg h]
        rfl
    rw [PlaneInformation.fromTokens, guarded_of_le m.five_le_length_fields, hfound]
    rfl

/-- `PlaneInformationFsinn`. -/
structure PlaneInformationFsinn extends MessageBase where
  airlineIcao : QString := []
  aircraftIcao : QString := []
  aircraftIcaoCombinedType : QString := []
  sendMModelString : QString := []
  deriving DecidableEq

namespace PlaneInformationFsinn

def create (sender receiver airlineIcao aircraftIcao aircraftIcaoCombinedType
    sendMModelString : QString) : PlaneInformationFsinn :=
  { sender, receiver, airlineIcao, aircraftIcao, aircraftIcaoCombinedType, sendMModelString }

def toTokens (m : PlaneInformationFsinn) : QStringList :=
  fsinnTokens m.sender m.receiver "FSIPI" m.airlineIcao m.aircraftIcao
    m.aircraftIcaoCombinedType m.sendMModelString

def fromTokens (tokens : QStringList) : Except Fault PlaneInformationFsinn :=
  guarded 12 {} tokens do
    return create (← tokenAt tokens 0) (← tokenAt tokens 1) (← tokenAt tokens 4)
      (← tokenAt tokens 5) (← tokenAt tokens 10) (← tokenAt tokens 11)

end PlaneInformationFsinn

instance : Message PlaneInformationFsinn where
  pdu := "#SB"
  toTokens := PlaneInformationFsinn.toTokens
  fromTokens := PlaneInformationFsinn.fromTokens
  texts m := [m.sender, m.receiver, m.airlineIcao, m.aircraftIcao, m.aircraftIcaoCombinedType,
    m.sendMModelString]
  InRange _ := True
  colon_notMem _ h := colon_notMem_fsinnTokens (by decide) h
  fromTokens_fields _ _ _ := rfl

end NeoSwift.Fsd
