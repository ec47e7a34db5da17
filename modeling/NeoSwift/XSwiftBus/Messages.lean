import Mathlib.Algebra.Ring.Int.Defs
import Mathlib.Algebra.Ring.Nat
import Mathlib.Data.PNat.Defs
import NeoSwift.Lib.Machine

/-!
# The message box in X-Plane

`CMessageBoxControl`, which keeps the last messages and passes a window of them to the box. The
window ends at a position, which is moved by commands and by messages that arrive.

The position is an unsigned number, and the start of the window is computed from it and the
number of visible lines. Without messages a step up goes below zero, which is above everything.
If the number of lines is raised while the position is near the top, the window starts in front of
the messages. Every other command keeps the window within them.

## Main definitions

* `CMessageBoxControl`: The box, with its commands.
* `messageBox`: Runs of them.
* `InRange`: Where the position is to be.
* `ShowsWindow`: What a window is to be.
* `KeepsRange`: Commands that keep the position in range.

## Theorems

* `showsWindow_of_inRange`: From a position in range, a window is one of the messages.
* `inRange_step_iff`: Which commands keep the position in range.
* `allSteps_keepsWindow_iff`: Which runs have windows of the messages only.
-/

namespace NeoSwift.XSwiftBus

/-- What is passed to the box: a pair of iterators, as distances from the first message, the
    messages between them, and the arrows. -/
structure MessageWindow (M : Type) where
  start : ℤ
  stop : ℤ
  messages : List M
  upArrow : Bool
  downArrow : Bool
  deriving DecidableEq

/-- `CMessageBoxControl`. -/
structure CMessageBoxControl (M : Type) where
  m_visible : Bool := true
  m_messages : List M := []
  m_position : ℕ := 0
  m_maxVisibleLines : ℕ+ := 5

/-- The commands, and what the service calls. -/
inductive MessageCommand (M : Type)
  | addMessage (message : M)
  | scrollUp
  | scrollDown
  | scrollToTop
  | scrollToBottom
  | show
  | hide
  | toggle
  | setMaxVisibleLines (lines : ℕ+)

/-- `c_maxTotalLines`. -/
def maxTotalLines : ℕ := 1024

/-- A `size_t`. -/
def sizeT (n : ℤ) : ℕ := (n % 2 ^ 64).toNat

/-- The distance to which an iterator is advanced, which is signed. -/
def distance (position : ℕ) : ℤ := Int.bmod position (2 ^ 64)

namespace CMessageBoxControl

variable {M : Type} (control : CMessageBoxControl M)

/-- The number of messages that are visible. -/
def lines : ℕ :=
  min control.m_messages.length control.m_maxVisibleLines

/-- The window that ends at a distance. -/
def windowTo (stop : ℤ) : MessageWindow M where
  start := stop - control.lines
  stop := stop
  messages := (control.m_messages.take stop.toNat).drop (stop - control.lines).toNat
  upArrow := control.lines < control.m_position
  downArrow := control.m_position < control.m_messages.length

/-- What `updateVisibleLines` passes to the box. -/
def window : MessageWindow M :=
  control.windowTo (distance control.m_position)

/-- Another position. -/
def moveTo (position : ℕ) : CMessageBoxControl M :=
  { control with m_position := position }

/-- `updateVisibleLines`. -/
def updateVisibleLines : CMessageBoxControl M × List (MessageWindow M) :=
  (control, [control.window])

/-- `scrollToBottom`. -/
def scrollToBottom : CMessageBoxControl M × List (MessageWindow M) :=
  (control.moveTo control.m_messages.length).updateVisibleLines

/-- `scrollToTop`. -/
def scrollToTop : CMessageBoxControl M × List (MessageWindow M) :=
  if !control.m_visible then (control, [])
  else (control.moveTo control.lines).updateVisibleLines

/-- `scrollUp`. -/
def scrollUp : CMessageBoxControl M × List (MessageWindow M) :=
  if !control.m_visible then (control, [])
  else if control.lines ≤ sizeT (control.m_position - 1) then
    (control.moveTo (sizeT (control.m_position - 1))).updateVisibleLines
  else control.updateVisibleLines

/-- `scrollDown`. -/
def scrollDown : CMessageBoxControl M × List (MessageWindow M) :=
  if !control.m_visible then (control, [])
  else if sizeT (control.m_position + 1) ≤ control.m_messages.length then
    (control.moveTo (sizeT (control.m_position + 1))).updateVisibleLines
  else control.updateVisibleLines

/-- The messages with a new one, and without the oldest if they are too many. -/
def push (message : M) : CMessageBoxControl M :=
  { control with
    m_messages :=
      (if maxTotalLines ≤ control.m_messages.length then control.m_messages.tail
        else control.m_messages) ++ [message] }

/-- `addMessage`. -/
def addMessage (message : M) : CMessageBoxControl M × List (MessageWindow M) :=
  let control := control.push message
  if control.m_messages.length ≤ sizeT (control.m_position + 1) ∨ !control.m_visible then
    control.scrollToBottom
  else (control, [])

/-- `show` and `hide`. -/
def setVisible (visible : Bool) : CMessageBoxControl M :=
  { control with m_visible := visible }

/-- `setMaxVisibleLines`. -/
def setMaxVisibleLines (lines : ℕ+) : CMessageBoxControl M :=
  { control with m_maxVisibleLines := lines }

end CMessageBoxControl

variable {M : Type}

/-- The box, which emits its windows. -/
def messageBox : Machine (CMessageBoxControl M) (MessageCommand M) (MessageWindow M) where
  step
    | control, .addMessage message => control.addMessage message
    | control, .scrollUp => control.scrollUp
    | control, .scrollDown => control.scrollDown
    | control, .scrollToTop => control.scrollToTop
    | control, .scrollToBottom => control.scrollToBottom
    | control, .show => (control.setVisible true, [])
    | control, .hide => (control.setVisible false, [])
    | control, .toggle => (control.setVisible !control.m_visible, [])
    | control, .setMaxVisibleLines lines => (control.setMaxVisibleLines lines, [])

/-- The position is not above what is visible from the top, and not below the last message. -/
def InRange (control : CMessageBoxControl M) : Prop :=
  min control.m_messages.length control.m_maxVisibleLines ≤ control.m_position ∧
    control.m_position ≤ control.m_messages.length

/-- A window of the messages, no longer than the visible lines, that ends at the position. -/
structure ShowsWindow (control : CMessageBoxControl M) (window : MessageWindow M) : Prop where
  start_nonneg : 0 ≤ window.start
  start_le_stop : window.start ≤ window.stop
  stop_eq : window.stop = control.m_position
  stop_le : window.stop ≤ control.m_messages.length
  length_le : window.stop - window.start ≤ control.m_maxVisibleLines
  messages_eq : window.messages
    = (control.m_messages.take window.stop.toNat).drop window.start.toNat

/-- The position is in range after a command, and so is every window that it passes. -/
def KeepsWindow (control : CMessageBoxControl M) (command : MessageCommand M) : Prop :=
  InRange (messageBox.step control command).1 ∧
    ∀ window ∈ (messageBox.step control command).2,
      ShowsWindow (messageBox.step control command).1 window

/-- There are messages for a visible box to scroll up, and the lines that are set are not more than
    there are above the position. -/
def KeepsRange (control : CMessageBoxControl M) : MessageCommand M → Prop
  | .scrollUp => control.m_visible = true → control.m_messages ≠ []
  | .setMaxVisibleLines lines => min control.m_messages.length lines ≤ control.m_position
  | _ => True

/-! ## Windows -/

theorem sizeT_of_lt {n : ℕ} (h : n < 2 ^ 64) : sizeT n = n := by
  unfold sizeT
  omega

theorem sizeT_succ {n : ℕ} (h : n ≤ maxTotalLines) : sizeT (n + 1) = n + 1 := by
  have hlt : n + 1 < 2 ^ 64 := by
    unfold maxTotalLines at h
    omega
  exact_mod_cast sizeT_of_lt hlt

theorem sizeT_pred {n : ℕ} (h : n ≤ maxTotalLines) (hpos : 0 < n) : sizeT (n - 1) = n - 1 := by
  unfold maxTotalLines at h
  unfold sizeT
  omega

theorem sizeT_neg_one : sizeT (-1) = 2 ^ 64 - 1 := by decide

/-- The invariant of all runs. -/
def WithinTotal (control : CMessageBoxControl M) : Prop :=
  control.m_messages.length ≤ maxTotalLines

theorem distance_of_le {n : ℕ} (h : n ≤ maxTotalLines) : distance n = n := by
  unfold maxTotalLines at h
  exact Int.bmod_eq_of_le (by omega) (by omega)

variable {control : CMessageBoxControl M}

theorem showsWindow_of_inRange (htotal : WithinTotal control)
    (h : InRange control) : ShowsWindow control control.window := by
  rcases h with ⟨hlines, hle⟩
  rw [CMessageBoxControl.window, distance_of_le (Nat.le_trans hle htotal)]
  have hlower : control.lines ≤ control.m_position := hlines
  have hupper : control.lines ≤ control.m_maxVisibleLines := Nat.min_le_right _ _
  exact
    { start_nonneg := by simp only [CMessageBoxControl.windowTo]; omega
      start_le_stop := by simp only [CMessageBoxControl.windowTo]; omega
      stop_eq := rfl
      stop_le := by simp only [CMessageBoxControl.windowTo]; omega
      length_le := by simp only [CMessageBoxControl.windowTo]; omega
      messages_eq := rfl }

/-! ## Commands -/

@[simp] theorem updateVisibleLines_fst (control : CMessageBoxControl M) :
    control.updateVisibleLines.1 = control := rfl

@[simp] theorem m_messages_push (control : CMessageBoxControl M) (message : M) :
    (control.push message).m_messages
      = (if maxTotalLines ≤ control.m_messages.length then control.m_messages.tail
        else control.m_messages) ++ [message] := rfl

theorem length_push (htotal : WithinTotal control) (message : M) :
    (control.push message).m_messages.length = min (control.m_messages.length + 1) maxTotalLines ∧
      0 < (control.push message).m_messages.length := by
  unfold WithinTotal at htotal
  rw [m_messages_push, List.length_append, List.length_singleton]
  split_ifs
  · rw [List.length_tail]
    unfold maxTotalLines at *
    omega
  · omega

theorem inRange_moveTo {position : ℕ} :
    InRange (control.moveTo position) ↔
      control.lines ≤ position ∧ position ≤ control.m_messages.length :=
  Iff.rfl

theorem inRange_scrollToBottom (control : CMessageBoxControl M) :
    InRange control.scrollToBottom.1 :=
  inRange_moveTo.mpr ⟨Nat.min_le_left _ _, Nat.le_refl _⟩

theorem inRange_scrollToTop (h : InRange control) : InRange control.scrollToTop.1 := by
  unfold CMessageBoxControl.scrollToTop
  split_ifs
  · exact h
  · exact inRange_moveTo.mpr ⟨Nat.le_refl _, Nat.min_le_left _ _⟩

theorem inRange_scrollDown (htotal : WithinTotal control)
    (h : InRange control) : InRange control.scrollDown.1 := by
  have hposition := sizeT_succ (Nat.le_trans h.2 htotal)
  unfold CMessageBoxControl.scrollDown
  rw [hposition]
  split_ifs with _ hle
  · exact h
  · exact inRange_moveTo.mpr ⟨Nat.le_succ_of_le h.1, hle⟩
  · exact h

/-- A step up from the end of no messages goes to the largest number there is. -/
theorem inRange_scrollUp_iff (htotal : WithinTotal control) (h : InRange control) :
    InRange control.scrollUp.1 ↔ (control.m_visible = true → control.m_messages ≠ []) := by
  unfold CMessageBoxControl.scrollUp
  by_cases hvisible : control.m_visible = true
  · simp only [hvisible, Bool.not_true, Bool.false_eq_true, if_false, forall_const]
    by_cases hnil : control.m_messages = []
    · -- The position is zero, and one less is not below the number of lines.
      have hzero : control.m_position = 0 := by
        have hle := h.2
        rw [hnil, List.length_nil] at hle
        omega
      have hlines : control.lines = 0 := by
        rw [CMessageBoxControl.lines, hnil, List.length_nil, Nat.zero_min]
      have hwrapped : sizeT (control.m_position - 1) = 2 ^ 64 - 1 := by
        rw [hzero]
        exact sizeT_neg_one
      rw [hwrapped, if_pos (by omega), updateVisibleLines_fst, inRange_moveTo, hnil]
      simp
    · -- There is a line in front of the position, so that nothing wraps.
      have hlength := List.length_pos_iff.mpr hnil
      have hlines : 0 < control.lines := by
        have hpos := control.m_maxVisibleLines.pos
        rw [CMessageBoxControl.lines]
        omega
      have hlower : control.lines ≤ control.m_position := h.1
      rw [sizeT_pred (Nat.le_trans h.2 htotal) (by omega)]
      refine iff_of_true ?_ hnil
      split_ifs with hle
      · exact inRange_moveTo.mpr ⟨hle, Nat.le_trans (Nat.sub_le _ _) h.2⟩
      · exact h
  · refine iff_of_true ?_ fun h => absurd h hvisible
    simpa [hvisible] using h

theorem inRange_addMessage (htotal : WithinTotal control)
    (h : InRange control) (message : M) : InRange (control.addMessage message).1 := by
  have hposition := sizeT_succ (Nat.le_trans h.2 htotal)
  have hlength := (length_push htotal message).1
  unfold CMessageBoxControl.addMessage
  dsimp only
  split_ifs with hbottom
  · exact inRange_scrollToBottom _
  · -- The position is above the last message, so there are more than are visible.
    rw [not_or] at hbottom
    have hshort := hbottom.1
    have hlower := h.1
    have hsame : (control.push message).m_position = control.m_position := rfl
    have hlines : (control.push message).m_maxVisibleLines = control.m_maxVisibleLines := rfl
    rw [hsame] at hshort
    have hrange : InRange (control.push message) := by
      rw [InRange, hlines]
      omega
    exact hrange

theorem withinTotal_step (htotal : WithinTotal control)
    (command : MessageCommand M) : WithinTotal (messageBox.step control command).1 := by
  cases command with
  -- Only a new message makes the list longer, and the total is kept there.
  | addMessage message =>
      have hlength := (length_push htotal message).1
      have hpushed : WithinTotal (control.push message) := by
        unfold WithinTotal
        omega
      simp only [messageBox, CMessageBoxControl.addMessage]
      split_ifs
      · exact hpushed
      · exact hpushed
  | scrollUp =>
      simp only [messageBox, CMessageBoxControl.scrollUp]
      split_ifs <;> exact htotal
  | scrollDown =>
      simp only [messageBox, CMessageBoxControl.scrollDown]
      split_ifs <;> exact htotal
  | scrollToTop =>
      simp only [messageBox, CMessageBoxControl.scrollToTop]
      split_ifs <;> exact htotal
  | scrollToBottom => exact htotal
  | «show» => exact htotal
  | hide => exact htotal
  | toggle => exact htotal
  | setMaxVisibleLines lines => exact htotal

/-- Every window is passed by the box as it is after the command. -/
theorem window_of_mem_step {command : MessageCommand M}
    {window : MessageWindow M} (h : window ∈ (messageBox.step control command).2) :
    window = (messageBox.step control command).1.window := by
  -- Windows are passed by the commands that move it, and only while the box is visible.
  cases command with
  | addMessage message =>
      simp only [messageBox, CMessageBoxControl.addMessage] at h ⊢
      split_ifs at h ⊢
      · exact List.mem_singleton.mp h
      · cases h
  | scrollUp =>
      simp only [messageBox, CMessageBoxControl.scrollUp] at h ⊢
      split_ifs at h ⊢
      · cases h
      · exact List.mem_singleton.mp h
      · exact List.mem_singleton.mp h
  | scrollDown =>
      simp only [messageBox, CMessageBoxControl.scrollDown] at h ⊢
      split_ifs at h ⊢
      · cases h
      · exact List.mem_singleton.mp h
      · exact List.mem_singleton.mp h
  | scrollToTop =>
      simp only [messageBox, CMessageBoxControl.scrollToTop] at h ⊢
      split_ifs at h ⊢
      · cases h
      · exact List.mem_singleton.mp h
  | scrollToBottom => exact List.mem_singleton.mp h
  | «show» => cases h
  | hide => cases h
  | toggle => cases h
  | setMaxVisibleLines lines => cases h

/-! ## Runs -/

theorem inRange_step_iff (htotal : WithinTotal control)
    (h : InRange control) (command : MessageCommand M) :
    InRange (messageBox.step control command).1 ↔ KeepsRange control command := by
  cases command with
  | addMessage message => exact iff_of_true (inRange_addMessage htotal h message) trivial
  | scrollUp => exact inRange_scrollUp_iff htotal h
  | scrollDown => exact iff_of_true (inRange_scrollDown htotal h) trivial
  | scrollToTop => exact iff_of_true (inRange_scrollToTop h) trivial
  | scrollToBottom => exact iff_of_true (inRange_scrollToBottom control) trivial
  | «show» => exact iff_of_true h trivial
  | hide => exact iff_of_true h trivial
  | toggle => exact iff_of_true h trivial
  | setMaxVisibleLines lines => exact and_iff_left h.2

/-- A command keeps its windows to the messages if and only if it keeps the position in range. -/
theorem keepsWindow_iff (htotal : WithinTotal control)
    (h : InRange control) (command : MessageCommand M) :
    KeepsWindow control command ↔ KeepsRange control command := by
  rw [KeepsWindow, inRange_step_iff htotal h, and_iff_left_iff_imp]
  intro hkeeps window hmem
  rw [window_of_mem_step hmem]
  exact showsWindow_of_inRange (withinTotal_step htotal command)
    ((inRange_step_iff htotal h command).mpr hkeeps)

/-- A run from a box without messages has windows of the messages only, and its position stays in
    range, if and only if it does not scroll up where there is nothing and does not raise the
    number of lines above the position. -/
theorem allSteps_keepsWindow_iff (commands : List (MessageCommand M)) :
    messageBox.AllSteps KeepsWindow {} commands ↔ messageBox.AllSteps KeepsRange {} commands := by
  have hstart : WithinTotal ({} : CMessageBoxControl M) ∧ InRange ({} : CMessageBoxControl M) :=
    ⟨Nat.zero_le _, Nat.le_of_eq (Nat.zero_min _), Nat.zero_le _⟩
  have hstep : ∀ (control : CMessageBoxControl M) (command : MessageCommand M),
      WithinTotal control ∧ InRange control → KeepsRange control command →
        WithinTotal (messageBox.step control command).1 ∧
          InRange (messageBox.step control command).1 := by
    intro control command h hkeeps
    exact ⟨withinTotal_step h.1 command, (inRange_step_iff h.1 h.2 command).mpr hkeeps⟩
  constructor
  · refine Machine.allSteps_of_invariant _ (P := fun control => WithinTotal control ∧
      InRange control)
      (fun control command h hkeeps => ?_) commands _ hstart
    have hrange := (keepsWindow_iff h.1 h.2 command).mp hkeeps
    exact ⟨hrange, hstep control command h hrange⟩
  · refine Machine.allSteps_of_invariant _ (P := fun control => WithinTotal control ∧
      InRange control)
      (fun control command h hkeeps => ?_) commands _ hstart
    exact ⟨(keepsWindow_iff h.1 h.2 command).mpr hkeeps, hstep control command h hkeeps⟩

/-- A step up in a box without messages, and a number of lines that is raised at the top. -/
theorem not_keepsWindow_up :
    ¬messageBox.AllSteps KeepsWindow ({} : CMessageBoxControl ℕ) [.scrollUp] ∧
      ¬messageBox.AllSteps KeepsWindow ({} : CMessageBoxControl ℕ)
        [.setMaxVisibleLines 1, .addMessage 1, .addMessage 2, .scrollToTop,
          .setMaxVisibleLines 2] := by
  constructor
  · intro h
    have hrange : InRange (messageBox.step ({} : CMessageBoxControl ℕ) .scrollUp).1 := h.1.1
    rw [InRange] at hrange
    exact nomatch hrange
  · intro h
    have hrange := h.2.2.2.2.1.1
    rw [InRange] at hrange
    exact nomatch hrange

end NeoSwift.XSwiftBus
