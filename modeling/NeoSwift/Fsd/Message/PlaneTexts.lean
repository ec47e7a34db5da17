import NeoSwift.Fsd.Message.Plane

/-!
# Texts of an Aircraft

Which texts of a generic plane information come back. A text that is not empty is written
as a pair `KEY=text`, and a text with `=` in it makes more than two parts of its pair,
which the reader leaves out.

The pairs are joined to one token. On a line that does not matter, as the line is split at
the separator the pairs are joined with. Read without a line, the token is one pair, so
with more than one text nothing is read.

## Main definitions

* `readLine`: The message of the tokens of its line.
* `NoEquals`, `OneText`: What comes back, on a line and without.

## Theorems

* `readPair_of_mem`: A pair with more than one `=` is left out.
* `foldl_pairs_eq`: What is read of the pairs of any message.
* `plane_texts_iff`: When a message comes back.
* `livery_with_equals_is_lost`: Two that do not.
-/

namespace NeoSwift.Fsd

namespace PlaneInformation

variable (m : PlaneInformation)

/-- The line of a message, split and read. -/
def readLine : Except Fault PlaneInformation :=
  fromTokens ((QString.join m.toTokens ":").split ':')

/-- No text has the sign that ends a key. -/
def NoEquals : Prop := '=' ∉ m.aircraft ∧ '=' ∉ m.airline ∧ '=' ∉ m.livery

/-- At most one text is not empty. -/
def OneText : Prop :=
  m.aircraft = [] ∧ m.airline = [] ∨ m.aircraft = [] ∧ m.livery = [] ∨
    m.airline = [] ∧ m.livery = []

theorem two_le_length_split {text : QString} {sep : Char} (h : sep ∈ text) :
    2 ≤ (text.split sep).length := by
  rcases List.append_of_mem h with ⟨before, after, rfl⟩
  unfold QString.split
  rw [List.splitOn_append_cons_self, List.length_append]
  have hbefore := List.length_pos_iff.mpr (List.splitOn_ne_nil sep before)
  have hafter := List.length_pos_iff.mpr (List.splitOn_ne_nil sep after)
  omega

/-- A pair with more than one `=` is left out. -/
theorem readPair_of_mem {key text : QString} (hkey : '=' ∉ key) (htext : '=' ∈ text) :
    readPair m (key ++ '=' :: text) = m := by
  have hlen := two_le_length_split htext
  unfold readPair
  rw [QString.split_append_cons hkey]
  cases hsplit : text.split '=' with
  | nil => rfl
  | cons a parts =>
      cases parts with
      | nil =>
          rw [hsplit, List.length_cons, List.length_nil] at hlen
          omega
      | cons b parts => rfl

/-- What is read of a pair. -/
def kept (text : QString) : QString := if '=' ∈ text then [] else text

theorem kept_eq_iff (text : QString) : kept text = text ↔ '=' ∉ text := by
  unfold kept
  split
  case isTrue h =>
    refine ⟨fun hnil => ?_, fun hnot => absurd h hnot⟩
    rw [← hnil] at h
    cases h
  case isFalse h => exact iff_of_true rfl h

/-- A pair sets the text of its key to what is kept of it, where that is not the text it
    has already. -/
theorem foldl_pairOf_eq {key : QString} (text : QString) (hkey : '=' ∉ key) :
    (pairOf key text).foldl readPair m =
      if kept text = [] then m else m.setText key (kept text) := by
  by_cases htext : '=' ∈ text
  · have hnil : kept text = [] := if_pos htext
    have hne : text ≠ [] := List.ne_nil_of_mem htext
    rw [if_pos hnil]
    unfold pairOf
    rw [if_neg hne, List.foldl_cons, List.foldl_nil, readPair_of_mem m hkey htext]
  · have hkept : kept text = text := if_neg htext
    rw [hkept, foldl_pairOf m hkey htext]

/-- What is read of the pairs of a message. -/
theorem foldl_pairs_eq :
    m.pairs.foldl readPair {}
      = { aircraft := kept m.aircraft, airline := kept m.airline, livery := kept m.livery } := by
  rw [pairs, List.foldl_append, List.foldl_append, foldl_pairOf_eq _ _ (by decide),
    foldl_pairOf_eq _ _ (by decide), foldl_pairOf_eq _ _ (by decide)]
  generalize kept m.aircraft = aircraft
  generalize kept m.airline = airline
  generalize kept m.livery = livery
  -- What is empty is what the loop starts with.
  cases aircraft with
  | nil =>
      cases airline with
      | nil =>
          cases livery with
          | nil => rfl
          | cons c livery => rfl
      | cons c airline =>
          cases livery with
          | nil => rfl
          | cons c livery => rfl
  | cons c aircraft =>
      cases airline with
      | nil =>
          cases livery with
          | nil => rfl
          | cons c livery => rfl
      | cons c airline =>
          cases livery with
          | nil => rfl
          | cons c livery => rfl

/-- What the texts of a message are read as. -/
theorem create_kept_eq_iff :
    create m.sender m.receiver (kept m.aircraft) (kept m.airline) (kept m.livery) = m ↔
      NoEquals m := by
  unfold NoEquals
  rw [← kept_eq_iff m.aircraft, ← kept_eq_iff m.airline, ← kept_eq_iff m.livery]
  constructor
  · intro h
    exact ⟨congrArg aircraft h, congrArg airline h, congrArg livery h⟩
  · rintro ⟨haircraft, hairline, hlivery⟩
    rw [haircraft, hairline, hlivery]
    rfl

/-- The line splits into the fields of the message. -/
theorem readLine_eq (h : ∀ t ∈ Message.texts m, ':' ∉ t) :
    m.readLine
      = .ok (create m.sender m.receiver (kept m.aircraft) (kept m.airline) (kept m.livery)) := by
  have hcolon := Message.colon_notMem m h
  have hfound : (m.fields.drop 4).foldl readPair {} = m.pairs.foldl readPair {} := by
    unfold fields
    by_cases hnone : m.pairs = []
    · rw [hnone]
      rfl
    · rw [if_neg hnone]
      rfl
  have hsplit : (QString.join m.toTokens ":").split ':' = m.fields := by
    have hjoin : QString.join m.toTokens ":" = QString.join m.fields ":" :=
      (Message.join_fields m).symm
    rw [hjoin]
    exact QString.split_join (List.ne_nil_of_length_pos (by have := m.five_le_length_fields; omega))
      hcolon
  unfold readLine
  rw [hsplit, fromTokens, guarded_of_le m.five_le_length_fields, hfound, foldl_pairs_eq]
  rfl

/-- Without a line the joined pairs are one token. -/
theorem fromTokens_toTokens :
    fromTokens m.toTokens
      = .ok (create m.sender m.receiver (readPair {} (QString.join m.pairs ":")).aircraft
          (readPair {} (QString.join m.pairs ":")).airline
          (readPair {} (QString.join m.pairs ":")).livery) := rfl

/-- More than one pair in a token is left out. -/
theorem readPair_join_cons {key text pair : QString} (rest : QStringList) (hkey : '=' ∉ key)
    (hpair : '=' ∈ pair) :
    readPair {} (QString.join ((key ++ '=' :: text) :: pair :: rest) ":") = {} := by
  have hjoin : QString.join ((key ++ '=' :: text) :: pair :: rest) ":"
      = key ++ '=' :: (text ++ ':' :: QString.join (pair :: rest) ":") := by
    unfold QString.join
    rw [List.intercalate_cons_cons]
    simp only [List.append_assoc, List.cons_append, List.append_cancel_left_eq, List.cons.injEq,
      true_and]
    rfl
  rw [hjoin]
  refine readPair_of_mem {} hkey (List.mem_append_right _ (List.mem_cons_of_mem _ ?_))
  cases rest with
  | nil =>
      unfold QString.join
      rw [List.intercalate_singleton]
      exact hpair
  | cons next rest =>
      unfold QString.join
      rw [List.intercalate_cons_cons]
      exact List.mem_append_left _ (List.mem_append_left _ hpair)

theorem readPair_join_of_not_oneText (h : ¬m.OneText) :
    readPair {} (QString.join m.pairs ":") = {} := by
  unfold pairs pairOf
  by_cases haircraft : m.aircraft = []
  · have hairline : m.airline ≠ [] := fun hnil => h (Or.inl ⟨haircraft, hnil⟩)
    have hlivery : m.livery ≠ [] := fun hnil => h (Or.inr (Or.inl ⟨haircraft, hnil⟩))
    rw [if_pos haircraft, if_neg hairline, if_neg hlivery]
    exact readPair_join_cons [] (by decide) (by simp)
  · by_cases hairline : m.airline = []
    · have hlivery : m.livery ≠ [] := fun hnil => h (Or.inr (Or.inr ⟨hairline, hnil⟩))
      rw [if_neg haircraft, if_pos hairline, if_neg hlivery]
      exact readPair_join_cons [] (by decide) (by simp)
    · rw [if_neg haircraft, if_neg hairline]
      exact readPair_join_cons _ (by decide) (by simp)

/-- One pair in a token is read as it is on a line. -/
theorem readPair_join_of_oneText (h : m.OneText) :
    readPair {} (QString.join m.pairs ":") = m.pairs.foldl readPair {} := by
  -- With one text at most there is nothing to join.
  have hcases : m.pairs = [] ∨ ∃ pair, m.pairs = [pair] := by
    unfold pairs pairOf
    rcases h with ⟨haircraft, hairline⟩ | ⟨haircraft, hlivery⟩ | ⟨hairline, hlivery⟩
    · rw [if_pos haircraft, if_pos hairline]
      split
      · exact Or.inl rfl
      · exact Or.inr ⟨_, rfl⟩
    · rw [if_pos haircraft]
      split
      · exact Or.inl rfl
      · exact Or.inr ⟨_, rfl⟩
    · split
      · exact Or.inl rfl
      · exact Or.inr ⟨_, rfl⟩
  rcases hcases with hnone | ⟨pair, hone⟩
  · rw [hnone]
    rfl
  · rw [hone]
    unfold QString.join
    rw [List.intercalate_singleton]
    rfl

/-- A message comes back from its line exactly where no text has the sign that ends a key;
    and without a line exactly where in addition it has at most one text. -/
theorem plane_texts_iff (h : ∀ t ∈ Message.texts m, ':' ∉ t) :
    (m.readLine = .ok m ↔ m.NoEquals) ∧
      (fromTokens m.toTokens = .ok m ↔ m.NoEquals ∧ m.OneText) := by
  constructor
  · rw [readLine_eq m h, Except.ok.injEq, create_kept_eq_iff]
  · rw [fromTokens_toTokens, Except.ok.injEq]
    by_cases hone : m.OneText
    · rw [readPair_join_of_oneText m hone, foldl_pairs_eq]
      exact (create_kept_eq_iff m).trans (and_iff_left hone).symm
    · rw [readPair_join_of_not_oneText m hone]
      refine iff_of_false (fun heq => hone (Or.inl ⟨?_, ?_⟩)) (fun hboth => hone hboth.2)
      · exact (congrArg aircraft heq).symm
      · exact (congrArg airline heq).symm

/-- A message with an aircraft only. -/
def jumbo : PlaneInformation := create "ABCD" "XYZ" "B744" [] []

theorem plane_texts_jumbo : jumbo.readLine = .ok jumbo ∧ fromTokens jumbo.toTokens = .ok jumbo := by
  have hboth := plane_texts_iff jumbo (by decide)
  have hequals : jumbo.NoEquals := ⟨by decide, by decide, by decide⟩
  exact ⟨hboth.1.mpr hequals, hboth.2.mpr ⟨hequals, Or.inr (Or.inr ⟨rfl, rfl⟩)⟩⟩

/-- One with a livery that has `=` in it. -/
def equalsLivery : PlaneInformation := create "ABCD" "XYZ" [] [] "A=B"

/-- One with three texts. -/
def unionJumbo : PlaneInformation :=
  create "ABCD" "XYZ" "B744" "BAW" "UNION"

/-- A livery with `=` in it is lost, on the line and without. And the tokens of a message with
    three texts are read as a message without any. -/
theorem livery_with_equals_is_lost :
    (fromTokens equalsLivery.toTokens = .ok (create "ABCD" "XYZ" [] [] []) ∧
      ¬fromTokens equalsLivery.toTokens = .ok equalsLivery ∧
      ¬equalsLivery.readLine = .ok equalsLivery) ∧
    fromTokens unionJumbo.toTokens = .ok (create "ABCD" "XYZ" [] [] []) ∧
      ¬fromTokens unionJumbo.toTokens = .ok unionJumbo := by
  refine ⟨⟨?_, ?_, ?_⟩, ?_, ?_⟩
  all_goals decide +kernel

end PlaneInformation

end NeoSwift.Fsd
