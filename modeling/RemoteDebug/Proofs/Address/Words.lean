import Mathlib.Algebra.Group.Int.Defs
import Mathlib.Algebra.Group.Nat.Defs
import RemoteDebug.Proofs.Address.Screens

/-!
# Windows in machine words

A machine computes a window in signed words of 64 bits, and addresses are unsigned words of 32 bits.
The versions of the functions here make each step only if its result fits its word. For a cursor and
a number of lines in words of 32 bits they never fail and give the same window
(`View.windowInWords?_eq`), of which `View.window?_fills` says what it is.
-/

namespace RemoteDebug

open Window

/-! ## Words -/

/-- A number as a signed word of 64 bits, or none if it does not fit. -/
def signedWord? (n : Int) : Option Int :=
  if -2 ^ 63 ≤ n ∧ n < 2 ^ 63 then some n else none

/-- A number as an unsigned word of 32 bits, or none if it does not fit. -/
def unsignedWord? (n : Int) : Option Nat :=
  if 0 ≤ n ∧ n < 2 ^ 32 then some n.toNat else none

theorem signedWord?_of_fits {n : Int} (hlow : -2 ^ 63 ≤ n) (hhigh : n < 2 ^ 63) :
    signedWord? n = some n :=
  if_pos ⟨hlow, hhigh⟩

theorem unsignedWord?_of_fits {n : Int} (hlow : 0 ≤ n) (hhigh : n < 2 ^ 32) :
    unsignedWord? n = some n.toNat :=
  if_pos ⟨hlow, hhigh⟩

/-! ## Clamping in words -/

namespace Window

/-- `shiftUp` in words. -/
def shiftUpInWords? (first last : Int) : Option (Int × Int) :=
  if first < 0 then (signedWord? (last - first)).map (0, ·) else some (first, last)

/-- `shiftDown` in words, for a range whose width is known. -/
def shiftDownInWords? (width first last : Int) : Option (Int × Int) :=
  if (maxAddress : Int) < last then (signedWord? (maxAddress - width)).map (·, (maxAddress : Int))
  else some (first, last)

/-- The window nearest to a range, with sums and differences in signed words of 64 bits and the two
ends in unsigned words of 32 bits. None if a word overflows, or if the ends are not those of a
window. -/
def clampedInWords? (first last : Int) : Option (Except Error Window) :=
  if first < last then do
    let width ← signedWord? (last - first)
    let raised ← shiftUpInWords? first last
    let lowered ← shiftDownInWords? width raised.1 raised.2
    let start ← unsignedWord? (max lowered.1 0)
    let stop ← unsignedWord? lowered.2
    if h : start < stop ∧ stop ≤ maxAddress then
      some (.ok { first := start, last := stop, first_lt_last := h.1, last_le_max := h.2 })
    else none
  else some (.error (.emptyWindow first last))

variable {first last : Int}

theorem shiftUpInWords?_eq (h : first < last) (hwidth : last - first < 2 ^ 63) :
    shiftUpInWords? first last = some (shiftUp first last) := by
  unfold shiftUpInWords? shiftUp
  rw [signedWord?_of_fits (by omega) hwidth]
  split <;> rfl

theorem shiftDownInWords?_eq (h : first < last) (hwidth : last - first < 2 ^ 63) :
    shiftDownInWords? (last - first) first last = some (shiftDown first last) := by
  unfold shiftDownInWords? shiftDown
  have hmax : (maxAddress : Int) < 2 ^ 24 := by decide
  rw [signedWord?_of_fits (by omega) (by omega)]
  split <;> rfl

/-- A range keeps its width when it is shifted up, and then starts in the space. -/
theorem shiftUp_bounds (first last : Int) :
    (shiftUp first last).2 - (shiftUp first last).1 = last - first ∧
      0 ≤ (shiftUp first last).1 := by
  unfold shiftUp
  split
  · exact ⟨Int.sub_zero _, Int.le_refl 0⟩
  · exact ⟨rfl, by omega⟩

/-- A range that starts in the space keeps its width when it is shifted down, and then ends
there. -/
theorem shiftDown_bounds (h : first < last) (hfirst : 0 ≤ first) :
    (shiftDown first last).2 - (shiftDown first last).1 = last - first ∧
      0 < (shiftDown first last).2 ∧ (shiftDown first last).2 ≤ maxAddress := by
  unfold shiftDown
  split
  · have hmax : 0 < (maxAddress : Int) := by decide
    exact ⟨by simp only; omega, hmax, Int.le_refl _⟩
  · exact ⟨rfl, by omega, by omega⟩

/-- No word overflows if the width of the range fits one, and the window is the same. -/
theorem clampedInWords?_eq (hwidth : last - first < 2 ^ 63) :
    clampedInWords? first last = some (clamped first last) := by
  unfold clampedInWords? clamped
  by_cases h : first < last
  · have hraised := shiftUp_bounds first last
    have hrange : (shiftUp first last).1 < (shiftUp first last).2 := by omega
    have hlowered := shiftDown_bounds hrange hraised.2
    have hdown := shiftDownInWords?_eq hrange (by omega)
    have hspace : (maxAddress : Int) < 2 ^ 32 := by decide
    rw [hraised.1] at hdown
    rw [if_pos h, dif_pos h]
    simp only [signedWord?_of_fits (by omega) hwidth, shiftUpInWords?_eq h hwidth, hdown,
      Option.bind_some, bind]
    rw [unsignedWord?_of_fits (by omega) (by omega), unsignedWord?_of_fits (by omega) (by omega)]
    simp only [Option.bind_some]
    rw [dif_pos (by omega)]
    simp only [Option.some.injEq, Except.ok.injEq, mk.injEq, and_true]
    omega
  · rw [if_neg h, dif_neg h]

end Window

/-! ## Windows in words -/

/-- Whether the addresses of a cursor are unsigned words of 32 bits. -/
structure Cursor.FitsWords (cursor : Cursor) : Prop where
  first : cursor.first < 2 ^ 32
  second : ∀ address ∈ cursor.second, address < 2 ^ 32
  last : ∀ address ∈ cursor.last, address < 2 ^ 32

section

variable (cursor : Cursor) (move : Move) (lines : Nat)

/-- `withSecondRow` in words. -/
def Window.withSecondRowInWords? (window : Window) : Option Window :=
  (unsignedWord? (window.first + memoryRowWidth : Nat)).map fun second =>
    { window with second := some (min second window.last) }

/-- The memory window nearest to a screen that starts at some number, in words. -/
def memoryScreenInWords? (start screen : Int) : Option (Except Error Window) := do
  let stop ← signedWord? (start + screen)
  match ← clampedInWords? start stop with
  | .error cause => some (.error cause)
  | .ok window => window.withSecondRowInWords?.map .ok

/-- `memoryWindow` with each number in a signed word of 64 bits and each address in an unsigned word
of 32 bits; none if one overflows. -/
def memoryWindowInWords? : Option (Except Error Window) := do
  let screen ← signedWord? (View.memory.screen lines)
  let offset := move.magnitude.memoryOffset screen
  let start ← match move.direction with
    | .forward => signedWord? (cursor.first + offset)
    | .backward => signedWord? (cursor.first - offset)
  memoryScreenInWords? start screen

/-- `disassemblyRange` with each number in a signed word of 64 bits. -/
def disassemblyRangeInWords? (screen : Int) : Option (Int × Int) :=
  let offset := move.magnitude.disassemblyOffset screen
  match move.direction with
  | .backward => do
    let start := max (← signedWord? (cursor.first - offset)) 0
    match move.magnitude, cursor.second with
    | .large, some second =>
      if start < second then (signedWord? (second - start)).map (start, ·) else some (start, screen)
    | _, _ => some (start, screen)
  | .forward =>
    match move.magnitude, cursor.second, cursor.last with
    | .medium, some second, _ => some (second, screen)
    | .large, _, some last => some (last, screen)
    | _, _, _ => (signedWord? (cursor.first + offset)).map (·, screen)

/-- `disassemblyWindow` with each number in a signed word of 64 bits and each address in an unsigned
word of 32 bits; none if one overflows. -/
def disassemblyWindowInWords? : Option (Except Error Window) := do
  let screen ← signedWord? (View.disassembly.screen lines)
  let range ← disassemblyRangeInWords? cursor move screen
  let stop ← signedWord? (range.1 + range.2)
  clampedInWords? range.1 stop

/-- The window that a view asks for, in the words of a machine; none if one overflows. -/
def View.windowInWords? (view : View) : Option (Except Error (Option Window)) :=
  match view with
  | .registers => some (.ok none)
  | .memory => (memoryWindowInWords? cursor move lines).map (·.map some)
  | .disassembly => (disassemblyWindowInWords? cursor move lines).map (·.map some)

variable {cursor lines}

theorem View.screen_le (view : View) (hlines : lines < 2 ^ 32) :
    (view.screen lines : Int) ≤ 2 ^ 36 := by
  cases view <;> simp only [screen, memoryRowWidth, instructionWidth] <;> omega

theorem Magnitude.memoryOffset_bounds (magnitude : Magnitude) {screen : Int} (hpos : 0 < screen)
    (hscreen : screen ≤ 2 ^ 36) :
    0 ≤ magnitude.memoryOffset screen ∧ magnitude.memoryOffset screen ≤ 2 ^ 36 := by
  cases magnitude <;> simp only [memoryOffset, memoryRowWidth] <;> omega

theorem Magnitude.disassemblyOffset_bounds (magnitude : Magnitude) {screen : Int}
    (hpos : 0 < screen) (hscreen : screen ≤ 2 ^ 36) :
    0 ≤ magnitude.disassemblyOffset screen ∧ magnitude.disassemblyOffset screen ≤ 2 ^ 36 := by
  cases magnitude <;> simp only [disassemblyOffset] <;> omega

theorem Window.withSecondRowInWords?_eq (window : Window) :
    window.withSecondRowInWords? = some window.withSecondRow := by
  have hfirst := window.first_lt_last
  have hlast := window.last_le_max
  unfold maxAddress at hlast
  unfold withSecondRowInWords?
  rw [unsignedWord?_of_fits (by omega) (by unfold memoryRowWidth; omega), Int.toNat_natCast]
  rfl

theorem memoryScreenInWords?_eq {start screen : Int} (hstart : -2 ^ 40 ≤ start ∧ start ≤ 2 ^ 40)
    (hscreen : 0 < screen ∧ screen ≤ 2 ^ 40) :
    memoryScreenInWords? start screen =
      some ((clamped start (start + screen)).map withSecondRow) := by
  have hstop : signedWord? (start + screen) = some (start + screen) :=
    signedWord?_of_fits (by omega) (by omega)
  have hclamped : clampedInWords? start (start + screen) = some (clamped start (start + screen)) :=
    clampedInWords?_eq (by omega)
  simp only [memoryScreenInWords?, hstop, hclamped, bind, Option.bind_some]
  rcases clamped start (start + screen) with cause | window
  · rfl
  · exact congrArg (Option.map Except.ok) window.withSecondRowInWords?_eq

theorem memoryWindowInWords?_eq (hcursor : cursor.FitsWords) (hlines : lines < 2 ^ 32) :
    memoryWindowInWords? cursor move lines = some (memoryWindow cursor move lines) := by
  have hfirst := hcursor.first
  have hpos : 0 < (View.memory.screen lines : Int) :=
    Int.natCast_pos.mpr (View.memory.screen_pos (by decide) lines)
  have hmax := View.memory.screen_le hlines
  have hscreen : signedWord? (View.memory.screen lines) = some (View.memory.screen lines : Int) :=
    signedWord?_of_fits (by omega) (by omega)
  have hoffset := move.magnitude.memoryOffset_bounds hpos hmax
  simp only [memoryWindowInWords?, memoryWindow_eq, hscreen, bind, Option.bind_some]
  obtain ⟨magnitude, _ | _⟩ := move
  · rw [(View.offset_memory lines magnitude).1]
    simp only at hoffset ⊢
    rw [signedWord?_of_fits (by omega) (by omega), Option.bind_some]
    exact memoryScreenInWords?_eq (by omega) (by omega)
  · rw [(View.offset_memory lines magnitude).2, ← Int.sub_eq_add_neg]
    simp only at hoffset ⊢
    rw [signedWord?_of_fits (by omega) (by omega), Option.bind_some]
    exact memoryScreenInWords?_eq (by omega) (by omega)

theorem disassemblyRange_bounds (hcursor : cursor.FitsWords) {screen : Int} (hpos : 0 < screen)
    (hscreen : screen ≤ 2 ^ 36) :
    0 ≤ (disassemblyRange cursor move screen).1 ∧ (disassemblyRange cursor move screen).1 ≤ 2 ^ 40 ∧
      (disassemblyRange cursor move screen).2 ≤ 2 ^ 40 := by
  have hfirst := hcursor.first
  have hoffset := move.magnitude.disassemblyOffset_bounds hpos hscreen
  unfold disassemblyRange
  split
  · split
    · have hsecond := hcursor.second _ ‹_›
      simp only
      split <;> omega
    · simp only
      omega
  · split
    · have hsecond := hcursor.second _ ‹_›
      simp only
      omega
    · have hlast := hcursor.last _ ‹_›
      simp only
      omega
    · simp only
      omega

theorem disassemblyRangeInWords?_eq (hcursor : cursor.FitsWords) {screen : Int} (hpos : 0 < screen)
    (hscreen : screen ≤ 2 ^ 36) :
    disassemblyRangeInWords? cursor move screen = some (disassemblyRange cursor move screen) := by
  have hfirst := hcursor.first
  have hsecond := hcursor.second
  have hoffset := move.magnitude.disassemblyOffset_bounds hpos hscreen
  obtain ⟨first, second, last⟩ := cursor
  obtain ⟨magnitude, _ | _⟩ := move
  · simp only at hfirst hoffset
    have hon : signedWord? (first + magnitude.disassemblyOffset screen) =
        some (first + magnitude.disassemblyOffset screen) :=
      signedWord?_of_fits (by omega) (by omega)
    simp only [disassemblyRangeInWords?, disassemblyRange, hon, Option.map_some]
    cases magnitude <;> cases second <;> cases last <;> rfl
  · simp only at hfirst hoffset
    have hback : signedWord? (first - magnitude.disassemblyOffset screen) =
        some (first - magnitude.disassemblyOffset screen) :=
      signedWord?_of_fits (by omega) (by omega)
    simp only [disassemblyRangeInWords?, disassemblyRange, hback, bind, Option.bind_some]
    rcases second with _ | second
    · cases magnitude <;> rfl
    · have haddress := hsecond second rfl
      cases magnitude with
      | large =>
        simp only
        split
        · rw [signedWord?_of_fits (by omega) (by omega), Option.map_some]
        · rfl
      | _ => rfl

theorem disassemblyWindowInWords?_eq (hcursor : cursor.FitsWords) (hlines : lines < 2 ^ 32) :
    disassemblyWindowInWords? cursor move lines = some (disassemblyWindow cursor move lines) := by
  have hpos : 0 < (View.disassembly.screen lines : Int) :=
    Int.natCast_pos.mpr (View.disassembly.screen_pos (by decide) lines)
  have hmax := View.disassembly.screen_le hlines
  have hscreen : signedWord? (View.disassembly.screen lines) =
      some (View.disassembly.screen lines : Int) :=
    signedWord?_of_fits (by omega) (by omega)
  have hbounds := disassemblyRange_bounds move hcursor hpos hmax
  have hsize := disassemblyRange_pos cursor move hpos
  simp only [disassemblyWindowInWords?, hscreen, disassemblyRangeInWords?_eq move hcursor hpos hmax,
    bind, Option.bind_some]
  rw [signedWord?_of_fits (by omega) (by omega), Option.bind_some]
  exact clampedInWords?_eq (by omega)

/-- No word overflows on the way to the window of a view. -/
theorem View.windowInWords?_eq (view : View) (hcursor : cursor.FitsWords)
    (hlines : lines < 2 ^ 32) :
    view.windowInWords? cursor move lines = some (view.window? cursor move lines) := by
  cases view with
  | registers => rfl
  | memory =>
    simp only [windowInWords?, memoryWindowInWords?_eq move hcursor hlines]
    rfl
  | disassembly =>
    simp only [windowInWords?, disassemblyWindowInWords?_eq move hcursor hlines]
    rfl

end

/-! ## Every view finds its window -/

/-- A view always finds what to ask for, and no word of the machine overflows on the way: nothing if
it is that of the registers, and a window of the address space that fills the screen if not. -/
theorem window_fills_screen (view : View) (cursor : Cursor) (move : Move) (lines : Nat)
    (hcursor : cursor.FitsWords) (hlines : lines < 2 ^ 32) :
    view.windowInWords? cursor move lines = some (view.window? cursor move lines) ∧
      ∃ found, view.window? cursor move lines = .ok found ∧ (found = none ↔ view = .registers) ∧
        ∀ window ∈ found, view.Fills cursor move lines window := by
  obtain ⟨found, hfound, haddressed, hfills⟩ := view.window?_fills cursor move lines
  refine ⟨view.windowInWords?_eq move hcursor hlines, found, hfound, ?_, hfills⟩
  rw [← Option.isNone_iff_eq_none, ← Option.not_isSome, haddressed]
  cases view <;> decide

/-- A page back that shows the second line last. -/
theorem page_back_ends_at_second_line :
    let cursor : Cursor := { first := 0x1000, second := some 0x1002 }
    ∃ window, View.disassembly.window? cursor ⟨.large, .backward⟩ 10 = .ok (some window) ∧
      window.first = 0xFC4 ∧ window.last = 0x1002 := by
  intro cursor
  have hcursor : cursor.FitsWords :=
    ⟨by decide, fun address h => by cases h; decide, fun address h => by cases h⟩
  obtain ⟨-, found, hfound, hnone, hfills⟩ :=
    window_fills_screen .disassembly cursor ⟨.large, .backward⟩ 10 hcursor (by decide)
  rcases found with _ | window
  · exact absurd (hnone.mp rfl) (by decide)
  · obtain ⟨-, hends⟩ := (hfills window rfl).cut 0x1002 ⟨rfl, rfl, rfl, by decide⟩
    exact ⟨window, hfound, hends (by decide)⟩

end RemoteDebug
