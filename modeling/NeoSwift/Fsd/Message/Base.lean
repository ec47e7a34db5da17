import NeoSwift.Fsd.Enums

/-!
# Messages and Tokens

What all FSD messages share. A message travels as a list of tokens, and every
message type has its own way to and from them. Reading a token that is not
there is a fault of its own, so that a reader that checks its length too
loosely is visible: `guarded` is the shape almost all readers have, a default
message on a short list and the tokens by index otherwise.

## Main definitions

* `Fault`: What ends the processing of a line.
* `tokenAt`: A token by index.
* `guarded`: A reader behind a length check.
* `Message`: A message type with its round trip through tokens.

## Theorems

* `tokenAt_of_lt`: A token within the list is there.
* `guarded_of_short`, `guarded_of_le`: The two sides of the check.
-/

namespace NeoSwift.Fsd

/-- What ends the processing of a line: a token index past the end, or an
    assertion that does not hold. -/
inductive Fault where
  | outOfRange
  | assertion
  deriving DecidableEq

/-- The sender and the receiver of a message. -/
structure MessageBase where
  sender : QString := []
  receiver : QString := []
  deriving DecidableEq

/-- `QStringList::operator[]` and `at`. -/
def tokenAt (tokens : QStringList) (i : ℕ) : Except Fault QString :=
  match tokens[i]? with
  | some token => .ok token
  | none => .error .outOfRange

theorem tokenAt_of_lt {tokens : QStringList} {i : ℕ} (h : i < tokens.length) :
    tokenAt tokens i = .ok tokens[i] := by
  rw [tokenAt, List.getElem?_eq_getElem h]

theorem tokenAt_of_le {tokens : QStringList} {i : ℕ} (h : tokens.length ≤ i) :
    tokenAt tokens i = .error .outOfRange := by
  rw [tokenAt, List.getElem?_eq_none h]

/-- `QStringList::value`. -/
def tokenOr (tokens : QStringList) (i : ℕ) (dflt : QString) : QString :=
  tokens.getD i dflt

/-- A default message on a list of fewer than `n` tokens. -/
def guarded {M : Type} (n : ℕ) (dflt : M) (tokens : QStringList) (read : Except Fault M) :
    Except Fault M :=
  if tokens.length < n then .ok dflt else read

theorem guarded_of_short {M : Type} {n : ℕ} {dflt : M} {tokens : QStringList}
    {read : Except Fault M} (h : tokens.length < n) : guarded n dflt tokens read = .ok dflt :=
  if_pos h

theorem guarded_of_le {M : Type} {n : ℕ} {dflt : M} {tokens : QStringList}
    {read : Except Fault M} (h : n ≤ tokens.length) : guarded n dflt tokens read = read :=
  if_neg (Nat.not_lt.mpr h)

/-- A message type: its PDU prefix, its tokens, and the messages that come back
    from theirs. `texts` are the free text fields of a message. `fields` are the
    tokens of its line as the receiver splits them: its own tokens, unless one
    of these contains the separator. -/
class Message (M : Type) where
  pdu : QString
  toTokens : M → QStringList
  fromTokens : QStringList → Except Fault M
  texts : M → List QString
  InRange : M → Prop
  fields : M → QStringList := toTokens
  join_fields : ∀ m : M, QString.join (fields m) ":".toList
    = QString.join (toTokens m) ":".toList := by intro m; rfl
  colon_notMem : ∀ m : M, (∀ s ∈ texts m, ':' ∉ s) → ∀ t ∈ fields m, ':' ∉ t
  fromTokens_fields : ∀ m : M, InRange m → (∀ s ∈ texts m, ':' ∉ s) → fromTokens (fields m) = .ok m

export Message (pdu toTokens fromTokens)

/-- `messageToFSDString`. -/
def messageToFSDString {M : Type} [Message M] (m : M) : QString :=
  pdu M ++ QString.join (toTokens m) ":" ++ "\r\n"

end NeoSwift.Fsd
