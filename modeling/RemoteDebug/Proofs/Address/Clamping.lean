import RemoteDebug.Address.Window

/-!
# The window nearest to a range

A range is clamped in three steps: it is shifted up to the start of the address space, then down
to its end, and what still sticks out is cut off. `clamped_spec` says what comes of them: the window
has the width of the range, or that of the space if the range is wider, and starts as near to the
start of the range as that width allows (`nearestStart`).
-/

namespace RemoteDebug.Window

theorem width_pos (window : Window) : 1 ≤ window.width :=
  Nat.sub_pos_of_lt window.first_lt_last

theorem first_add_width (window : Window) : window.first + window.width = window.last :=
  Nat.add_sub_cancel' (Nat.le_of_lt window.first_lt_last)

/-- The start nearest to a wanted one at which a range of some width stays in the address space;
zero for a range wider than the space. -/
def nearestStart (width start : Int) : Int :=
  max 0 (min start (maxAddress - width))

/-- A start from which the range stays in the space is its own nearest. -/
theorem nearestStart_eq_self {width start : Int} (hstart : 0 ≤ start)
    (hstop : start + width ≤ maxAddress) : nearestStart width start = start := by
  unfold nearestStart
  omega

/-- A range that holds an address is clamped to the window of its width, as far as the space is wide
enough, at the nearest start. -/
theorem clamped_spec (start : Int) {width : Int} (h : 0 < width) :
    ∃ window, clamped start (start + width) = .ok window ∧
      (window.first : Int) = nearestStart width start ∧
      (window.width : Int) = min width maxAddress ∧ window.second = none := by
  unfold clamped
  rw [dif_pos (Int.lt_add_of_pos_right start h)]
  refine ⟨_, rfl, ?_, ?_, rfl⟩
  · simp only [shiftUp, shiftDown, nearestStart, maxAddress]
    split <;> split <;> simp only at * <;> omega
  · simp only [Window.width, shiftUp, shiftDown, maxAddress]
    split <;> split <;> simp only at * <;> omega

end RemoteDebug.Window
