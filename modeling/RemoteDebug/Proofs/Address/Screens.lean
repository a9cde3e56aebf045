import RemoteDebug.Address.Navigation
import RemoteDebug.Proofs.Address.Clamping

/-!
# The window of a view

Each view but the registers asks for a screen of bytes at the place that the move leads to, and its
window is the one nearest to that range (`memoryWindow_spec`, `disassemblyWindow_spec`). Only a page
back in the disassembly may ask for less: it ends where the second line is shown now
(`View.EndsAtSecond`). `View.Fills` says all that a window has of this, and `View.window?_fills`
that every view finds such a window.
-/

namespace RemoteDebug

open Window

/-! ## Screens -/

/-- The bytes of a screen of a view. -/
def View.screen : View → Nat → Nat
  | .registers, _ => 0
  | .memory, lines => max lines 1 * memoryRowWidth
  | .disassembly, lines => max lines 1 * instructionWidth

/-- How far a move goes in a view, with its sign. -/
def View.offset (view : View) (lines : Nat) (move : Move) : Int :=
  let distance : Int := match move.magnitude with
    | .zero => 0
    | .small => 2
    | .medium => if view = .disassembly then 4 else 16
    | .large => view.screen lines
  match move.direction with
  | .forward => distance
  | .backward => -distance

/-- Whether a page back is cut short where the second line is shown now. -/
def View.EndsAtSecond (view : View) (cursor : Cursor) (move : Move) (lines second : Nat) : Prop :=
  view = .disassembly ∧ move = ⟨.large, .backward⟩ ∧ cursor.second = some second ∧
    cursor.first - view.screen lines < second

/-- In the memory view a move goes as far as its magnitude says there. -/
theorem View.offset_memory (lines : Nat) (magnitude : Magnitude) :
    View.memory.offset lines ⟨magnitude, .forward⟩ =
        magnitude.memoryOffset (View.memory.screen lines) ∧
      View.memory.offset lines ⟨magnitude, .backward⟩ =
        -magnitude.memoryOffset (View.memory.screen lines) := by
  cases magnitude <;> exact ⟨rfl, rfl⟩

/-- In the disassembly view a move goes as far as its magnitude says there. -/
theorem View.offset_disassembly (lines : Nat) (magnitude : Magnitude) :
    View.disassembly.offset lines ⟨magnitude, .forward⟩ =
        magnitude.disassemblyOffset (View.disassembly.screen lines) ∧
      View.disassembly.offset lines ⟨magnitude, .backward⟩ =
        -magnitude.disassemblyOffset (View.disassembly.screen lines) := by
  cases magnitude <;> exact ⟨rfl, rfl⟩

theorem View.screen_pos {view : View} (h : view ≠ .registers) (lines : Nat) :
    0 < view.screen lines := by
  cases view with
  | registers => exact absurd rfl h
  | memory => exact Nat.mul_pos (by omega) (by decide)
  | disassembly => exact Nat.mul_pos (by omega) (by decide)

/-! ## The two kinds of windows -/

/-- A window that tells where its second row of memory begins. -/
def Window.withSecondRow (window : Window) : Window :=
  { window with second := some (min (window.first + memoryRowWidth) window.last) }

section

variable (cursor : Cursor) (move : Move) (lines : Nat)

/-- The memory window is the one nearest to the screen that the move leads to, with its second
row. -/
theorem memoryWindow_eq :
    memoryWindow cursor move lines =
      (clamped (cursor.first + View.memory.offset lines move)
        (cursor.first + View.memory.offset lines move + View.memory.screen lines)).map
          withSecondRow := by
  rcases move with ⟨_ | _ | _ | _, _ | _⟩ <;> rfl

/-- The memory view shows the screen nearest to where the move leads, and knows where its second row
begins. -/
theorem memoryWindow_spec :
    ∃ window, memoryWindow cursor move lines = .ok window ∧
      (window.first : Int) =
        nearestStart (View.memory.screen lines) (cursor.first + View.memory.offset lines move) ∧
      window.width = min (View.memory.screen lines) maxAddress ∧
      window.second = some (min (window.first + memoryRowWidth) window.last) := by
  obtain ⟨window, hwindow, hfirst, hwidth, -⟩ := clamped_spec
    (cursor.first + View.memory.offset lines move)
    (Int.natCast_pos.mpr (View.memory.screen_pos (by decide) lines))
  refine ⟨window.withSecondRow, ?_, hfirst, ?_, rfl⟩
  · rw [memoryWindow_eq, hwindow]
    rfl
  · unfold width at hwidth ⊢
    simp only [withSecondRow]
    omega

/-- The disassembly view asks for some bytes, also where it goes back to the line shown first. -/
theorem disassemblyRange_pos {screen : Int} (h : 0 < screen) :
    0 < (disassemblyRange cursor move screen).2 := by
  unfold disassemblyRange
  split
  · split
    · dsimp only
      split
      · omega
      · exact h
    · exact h
  · split <;> exact h

/-- A disassembly window is the one nearest to the range that the view asks for. -/
theorem disassemblyWindow_spec :
    let range := disassemblyRange cursor move (View.disassembly.screen lines)
    ∃ window, disassemblyWindow cursor move lines = .ok window ∧
      (window.first : Int) = nearestStart range.2 range.1 ∧
      (window.width : Int) = min range.2 maxAddress ∧ window.second = none := by
  intro range
  exact clamped_spec range.1 (disassemblyRange_pos cursor move
    (Int.natCast_pos.mpr (View.disassembly.screen_pos (by decide) lines)))

end

/-! ## Which window it is -/

section

variable {cursor : Cursor} {move : Move} {lines second : Nat}

/-- A page back that is cut short goes from a screen before the first address to the second line. -/
theorem disassemblyRange_of_endsAtSecond
    (h : View.disassembly.EndsAtSecond cursor move lines second) :
    disassemblyRange cursor move (View.disassembly.screen lines) =
      (((cursor.first - View.disassembly.screen lines : Nat) : Int),
        ((second - (cursor.first - View.disassembly.screen lines) : Nat) : Int)) := by
  obtain ⟨-, rfl, hsecond, hlt⟩ := h
  have hstart : max ((cursor.first : Int) - View.disassembly.screen lines) 0 =
      (cursor.first - View.disassembly.screen lines : Nat) := by omega
  simp only [disassemblyRange, Magnitude.disassemblyOffset, hsecond, hstart]
  rw [if_pos (by omega)]
  simp only [Prod.mk.injEq, true_and]
  omega

/-- Every other move asks for a whole screen. -/
theorem disassemblyRange_size
    (h : ∀ second, ¬View.disassembly.EndsAtSecond cursor move lines second) :
    (disassemblyRange cursor move (View.disassembly.screen lines)).2 =
      View.disassembly.screen lines := by
  obtain ⟨magnitude, _ | _⟩ := move
  · unfold disassemblyRange
    simp only
    split <;> rfl
  · rcases hsecond : cursor.second with _ | second
    · cases magnitude <;> simp only [disassemblyRange, hsecond]
    · cases magnitude with
      | large =>
        simp only [disassemblyRange, hsecond]
        refine if_neg fun hlt => h second ⟨rfl, rfl, hsecond, ?_⟩
        simp only [Magnitude.disassemblyOffset] at hlt
        omega
      | _ => rfl

/-- What a window of a view is: a range of the address space as wide as the screen, as far as the
space is wide enough, or up to the second line where a page back is cut short. -/
structure View.Fills (view : View) (cursor : Cursor) (move : Move) (lines : Nat)
    (window : Window) : Prop where
  nonempty : window.first < window.last
  in_space : window.last ≤ maxAddress
  whole : (∀ second, ¬view.EndsAtSecond cursor move lines second) →
    window.width = min (view.screen lines) maxAddress
  cut : ∀ second, view.EndsAtSecond cursor move lines second →
    window.width = min (second - (cursor.first - view.screen lines)) maxAddress ∧
      (second ≤ maxAddress →
        window.first = cursor.first - view.screen lines ∧ window.last = second)
  second_row : view = .memory →
    window.second = some (min (window.first + memoryRowWidth) window.last)

theorem memoryWindow_fills (cursor : Cursor) (move : Move) (lines : Nat) :
    ∃ window, memoryWindow cursor move lines = .ok window ∧
      View.memory.Fills cursor move lines window := by
  obtain ⟨window, hwindow, -, hwidth, hsecond⟩ := memoryWindow_spec cursor move lines
  exact ⟨window, hwindow, {
    nonempty := window.first_lt_last
    in_space := window.last_le_max
    whole := fun _ => hwidth
    cut := fun _ h => absurd h.1 (by decide)
    second_row := fun _ => hsecond }⟩

theorem disassemblyWindow_fills (cursor : Cursor) (move : Move) (lines : Nat) :
    ∃ window, disassemblyWindow cursor move lines = .ok window ∧
      View.disassembly.Fills cursor move lines window := by
  obtain ⟨window, hwindow, hfirst, hwidth, -⟩ := disassemblyWindow_spec cursor move lines
  refine ⟨window, hwindow, {
    nonempty := window.first_lt_last
    in_space := window.last_le_max
    whole := fun h => ?_
    cut := fun second h => ?_
    second_row := fun h => absurd h (by decide) }⟩
  · rw [disassemblyRange_size h] at hwidth
    omega
  · rw [disassemblyRange_of_endsAtSecond h] at hfirst hwidth
    have hlt := h.2.2.2
    refine ⟨by omega, fun hmax => ?_⟩
    rw [nearestStart_eq_self (by omega) (by omega)] at hfirst
    unfold width at hwidth
    omega

/-- Every view finds what to ask for: a window that fills its screen, if it shows a range of
addresses. -/
theorem View.window?_fills (view : View) (cursor : Cursor) (move : Move) (lines : Nat) :
    ∃ found, view.window? cursor move lines = .ok found ∧ found.isSome = view.isAddressed ∧
      ∀ window ∈ found, view.Fills cursor move lines window := by
  cases view with
  | registers => exact ⟨none, rfl, rfl, by simp⟩
  | memory =>
    obtain ⟨window, hwindow, hfills⟩ := memoryWindow_fills cursor move lines
    exact ⟨some window, by rw [window?, hwindow]; rfl, rfl, by simpa using hfills⟩
  | disassembly =>
    obtain ⟨window, hwindow, hfills⟩ := disassemblyWindow_fills cursor move lines
    exact ⟨some window, by rw [window?, hwindow]; rfl, rfl, by simpa using hfills⟩

end

end RemoteDebug
