import NeoSwift.Misc.Simulation.XPlane.QtFreeUtils
import NeoSwift.XSwiftBus.Messages

/-!
# Text messages in X-Plane

`CService::addTextMessage`, which wraps a text to the lines of the message box. All lines but the
last end with an ellipsis, for which one character of the line is kept free.

## Main definitions

* `wrapLines`: The loop that wraps a text.
* `CService.addTextMessage`: A text for the message box.
* `withEllipses`: Lines of characters as they are shown.

## Theorems

* `wrapLines_encode`: The lines of a text are parts of it.
* `wrappedLines_spec`: They are in order, complete and not too long.
-/

namespace NeoSwift.XSwiftBus

open Simulation.XPlane

/-- The character that continues a line. -/
def ellipsis : QByteArray := [0xe2, 0x80, 0xa6]

/-- `lineLength`, an `unsigned`. -/
def lineLength (maxLineLength : ℤ) : ℕ := ((maxLineLength - 1) % 2 ^ 32).toNat

/-- The bytes between two iterators. -/
def between (start stop : QByteArray) : QByteArray := start.take (start.length - stop.length)

/-- The loop, and none if it goes beyond the text or does not end within the fuel. -/
def wrapLines (lineLength : ℕ) : ℕ → ℕ → QByteArray → Option (List QByteArray)
  | 0, _, _ => none
  | fuel + 1, characters, start =>
    if lineLength < characters then do
      let stop ← Utf8Iterator.next lineLength start
      let lines ← wrapLines lineLength fuel (characters - lineLength) stop
      some ((between start stop ++ ellipsis) :: lines)
    else some (if 0 < characters then [start] else [])

/-- The lines of a text. -/
def wrappedLines (maxLineLength : ℤ) (text : QByteArray) : Option (List QByteArray) := do
  let characters ← Utf8Iterator.distance text
  wrapLines (lineLength maxLineLength) (characters + 1) characters text

/-- `CMessage`, with its color. -/
structure CMessage (C : Type) where
  m_text : QByteArray
  m_rgb : C × C × C
  deriving DecidableEq

/-- `CService`, as far as it shows messages. The time is in ms, and there is none as long as
    nothing was shown. -/
structure CService (C : Type) where
  m_messages : CMessageBoxControl (CMessage C) := {}
  m_maxLineLength : ℤ
  m_popupMessageWindow : Bool := true
  m_disappearMessageWindow : Bool := true
  m_disapperMessageWindowTimeMs : ℤ := 5000
  m_disappearMessageWindowTime : Option ℤ := none

namespace CService

variable {C : Type}

/-- Lines for the box, in this order. -/
def addLines (messages : CMessageBoxControl (CMessage C)) (rgb : C × C × C) :
    List QByteArray → CMessageBoxControl (CMessage C)
  | [] => messages
  | line :: lines => addLines (messages.addMessage ⟨line, rgb⟩).1 rgb lines

/-- `m_messages.toggle()`, where the box is to pop up. -/
def popup (service : CService C) (messages : CMessageBoxControl (CMessage C)) :
    CMessageBoxControl (CMessage C) :=
  if !messages.m_visible && service.m_popupMessageWindow then
    messages.setVisible !messages.m_visible
  else messages

/-- `addTextMessage`. -/
def addTextMessage (service : CService C) (text : QByteArray) (rgb : C × C × C) (now : ℤ) :
    Option (CService C) :=
  if text.isEmpty then some service
  else do
    let lines ← wrappedLines service.m_maxLineLength text
    some
      { service with
        m_messages := service.popup (addLines service.m_messages rgb lines)
        m_disappearMessageWindowTime :=
          if service.m_disappearMessageWindow then
            some (now + max service.m_disapperMessageWindowTimeMs 1500)
          else service.m_disappearMessageWindowTime }

end CService

/-- Lines of characters as they are shown: all but the last with an ellipsis. -/
def withEllipses : List (List Char) → List QByteArray
  | [] => []
  | [line] => [encode line]
  | line :: lines => (encode line ++ ellipsis) :: withEllipses lines

/-! ## Wrapping -/

theorem between_encode (line rest : List Char) :
    between (encode (line ++ rest)) (encode rest) = encode line := by
  rw [between, encode_append, List.length_append, Nat.add_sub_cancel, List.take_left']
  rfl

theorem withEllipses_cons (line : List Char) {lines : List (List Char)} (h : lines ≠ []) :
    withEllipses (line :: lines) = (encode line ++ ellipsis) :: withEllipses lines := by
  cases lines with
  | nil => exact absurd rfl h
  | cons _ _ => rfl

/-- From a position between two characters, the loop makes lines of all that are left. -/
theorem wrapLines_encode {n : ℕ} (hn : 0 < n) (fuel : ℕ) :
    ∀ text : List Char, text.length < fuel →
      ∃ lines, wrapLines n fuel text.length (encode text) = some (withEllipses lines) ∧
        lines.flatten = text ∧ ∀ line ∈ lines, line ≠ [] ∧ line.length ≤ n := by
  induction fuel with
  | zero =>
      intro text h
      omega
  | succ fuel ih =>
      intro text h
      rw [wrapLines]
      by_cases hlong : n < text.length
      · have hsplit : text.take n ++ text.drop n = text := List.take_append_drop n text
        have htake : (text.take n).length = n := List.length_take_of_le (Nat.le_of_lt hlong)
        have hdrop : (text.drop n).length = text.length - n := List.length_drop
        -- The next line ends behind n characters, wherever their bytes end.
        have hnext := next_encode (text.take n) (text.drop n)
        have hbetween := between_encode (text.take n) (text.drop n)
        rw [htake, hsplit] at hnext
        rw [hsplit] at hbetween
        rcases ih (text.drop n) (by omega) with ⟨lines, hlines, hflatten, hlength⟩
        have hne : lines ≠ [] := by
          rintro rfl
          rw [List.flatten_nil] at hflatten
          rw [← hflatten, List.length_nil] at hdrop
          omega
        rw [hdrop] at hlines
        refine ⟨text.take n :: lines, ?_, ?_, ?_⟩
        · simp [if_pos hlong, hnext, hlines, hbetween, withEllipses_cons _ hne]
        · rw [List.flatten_cons, hflatten, hsplit]
        · intro line hline
          rcases List.mem_cons.mp hline with rfl | hline
          · exact ⟨List.length_pos_iff.mp (by omega), Nat.le_of_eq htake⟩
          · exact hlength line hline
      · rw [if_neg hlong]
        by_cases hpos : 0 < text.length
        · refine ⟨[text], by rw [if_pos hpos]; rfl, by simp, ?_⟩
          intro line hline
          rw [List.mem_singleton.mp hline]
          exact ⟨List.length_pos_iff.mp hpos, by omega⟩
        · refine ⟨[], by rw [if_neg hpos]; rfl, ?_, by simp⟩
          exact (List.length_eq_zero_iff.mp (by omega)).symm

/-- The lines of a text are its characters in order, as many on each as there is room for besides
    the ellipsis, and without it they are the text. -/
theorem wrappedLines_spec (text : List Char) {maxLineLength : ℤ}
    (h : 0 < lineLength maxLineLength) :
    ∃ lines, wrappedLines maxLineLength (encode text) = some (withEllipses lines) ∧
      lines.flatten = text ∧
      ∀ line ∈ lines, line ≠ [] ∧ line.length ≤ lineLength maxLineLength := by
  rw [wrappedLines, distance_encode]
  exact wrapLines_encode h _ text (Nat.lt_succ_self _)

/-- Two characters of three bytes in a line of one. -/
theorem wrappedLines_ellipses :
    ∃ lines, wrappedLines 2 (encode ['€', '€']) = some (withEllipses lines) ∧
      lines.flatten = ['€', '€'] ∧ ∀ line ∈ lines, line ≠ [] ∧ line.length ≤ lineLength 2 :=
  wrappedLines_spec ['€', '€'] (by decide)

end NeoSwift.XSwiftBus
